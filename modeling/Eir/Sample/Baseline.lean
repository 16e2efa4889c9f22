import Eir.Sample.Values

/-!
# Baselines

Values that are right, from which samples are made by overriding a few fields.
-/

namespace Eir

/-- Values that every rule accepts, under a name. -/
structure Baseline where
  name : String
  values : ValueSet
  deriving DecidableEq, Inhabited

namespace Baseline

/-- A baseline with these values, given in turn. -/
def ofFields (name : String) (fields : List (Field × String)) : Baseline :=
  ⟨name, fields.foldl (fun v (f, t) => v.set f t) .empty⟩

end Baseline

/-- A baseline, and the fields that have another value, or none, in the sample. -/
structure SampleBuilder where
  baseline : Baseline
  overrides : Std.ExtTreeMap Field (Option String) Field.compare

namespace SampleBuilder

/-- The baseline as it is. -/
def of (baseline : Baseline) : SampleBuilder := ⟨baseline, ∅⟩

/-- Gives a field a value. -/
def set (b : SampleBuilder) (f : Field) (value : String) : SampleBuilder :=
  { b with overrides := b.overrides.insert f (some value) }

/-- Takes the value of a field away. -/
def remove (b : SampleBuilder) (f : Field) : SampleBuilder :=
  { b with overrides := b.overrides.insert f none }

/-- The overridden fields, in their order. -/
def overridden (b : SampleBuilder) : List Field := b.overrides.keys

/-- The values with one override. -/
def override (v : ValueSet) (f : Field) : Option String → ValueSet
  | some value => v.set f value
  | none => v.remove f

/-- The values of the sample. -/
def build (b : SampleBuilder) : ValueSet :=
  b.overrides.toList.foldl (fun v (f, value) => override v f value) b.baseline.values

end SampleBuilder

end Eir
