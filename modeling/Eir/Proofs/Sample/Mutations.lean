import Eir.Proofs.Sample.Overrides
import Eir.Sample.Corruption

/-!
# What mutations report

A mutation reports a change when its field does not have the value yet that it is
given. That is so just when it changes something, with two exceptions
(`reports_right_iff`): a mutation can give another value to a membership, which
keeps the one that it has, and it can remove a property of a set without
properties, which goes.
-/

namespace Eir

namespace Mutation

variable {m : Mutation} {v : ValueSet}

theorem apply_eq (m : Mutation) (v : ValueSet) :
    m.apply v = SampleBuilder.override v m.field m.value? := by
  rw [apply]
  cases m.value? <;> rfl

theorem reports_iff : m.reports v = true ↔ v.get? m.field ≠ m.value? := by
  rw [reports, bne_iff_ne]

theorem not_reports_iff : m.reports v = false ↔ v.get? m.field = m.value? := by
  rw [← Bool.not_eq_true, reports_iff, Decidable.not_not]

theorem map_shown_of_not_reports (h : m.reports v = false) :
    m.value?.map m.field.shown = m.value? := by
  rw [not_reports_iff] at h
  cases hvalue : m.value? with
  | none => rfl
  | some value => exact congrArg some (ValueSet.shown_of_get? (h.trans hvalue))

/-- A mutation that reports nothing leaves every field as it is. -/
theorem get?_apply_of_not_reports (h : m.reports v = false) (f : Field) :
    (m.apply v).get? f = v.get? f := by
  rw [apply_eq, SampleBuilder.get?_override]
  split
  · rename_i hfield
    rw [map_shown_of_not_reports h, ← hfield, not_reports_iff.mp h]
  · rfl

/-! ## Reports that are wrong -/

/-- The mutation gives a membership that is there another value than the name of its group. -/
def Rejoins (m : Mutation) (v : ValueSet) : Prop :=
  ∃ group value, m.field = .membership group ∧ group ∈ v.memberships ∧
    m.value? = some value ∧ value ≠ group

/-- The mutation removes a property from a set that is there without properties. -/
def DropsEmptySet (m : Mutation) (v : ValueSet) : Prop :=
  m.value? = none ∧ v.InEmptySet m.field

theorem apply_eq_self_iff :
    m.apply v = v ↔ v.get? m.field = m.value?.map m.field.shown ∧ ¬ m.DropsEmptySet v := by
  rw [apply, DropsEmptySet]
  cases m.value? with
  | none => simp only [ValueSet.remove_eq_self, Option.map_none, true_and]
  | some value => simp only [ValueSet.set_eq_self, Option.map_some, reduceCtorEq, false_and,
      not_false_eq_true, and_true]

/-- What is reported without being changed is a membership that keeps its value. -/
theorem reports_and_keeps_iff : m.reports v = true ∧ m.apply v = v ↔ m.Rejoins v := by
  rw [reports_iff, apply_eq_self_iff]
  constructor
  · rintro ⟨hreports, hkeeps, -⟩
    cases hvalue : m.value? with
    | none =>
      rw [hvalue] at hreports hkeeps
      exact absurd hkeeps hreports
    | some value =>
      rw [hvalue] at hreports hkeeps
      cases hfield : m.field with
      | membership group =>
        rw [hfield, ValueSet.get?_membership] at hreports hkeeps
        split at hkeeps
        · rename_i hmem
          rw [if_pos hmem] at hreports
          exact ⟨group, value, hfield, hmem, hvalue, fun h => hreports (congrArg some h.symm)⟩
        · cases hkeeps
      | _ =>
        rw [hfield] at hreports hkeeps
        exact absurd hkeeps hreports
  · rintro ⟨group, value, hfield, hmem, hvalue, hne⟩
    rw [hfield, hvalue, ValueSet.get?_membership, if_pos hmem]
    refine ⟨fun h => hne (Option.some.inj h).symm, rfl, ?_⟩
    rintro ⟨hnone, -⟩
    rw [hvalue] at hnone
    cases hnone

/-- What is changed without being reported is a set of properties that was there without
properties. -/
theorem silent_and_changes_iff : m.reports v = false ∧ m.apply v ≠ v ↔ m.DropsEmptySet v := by
  rw [Ne, apply_eq_self_iff]
  constructor
  · rintro ⟨hsilent, hchanges⟩
    refine Classical.byContradiction fun hdrops => hchanges ⟨?_, hdrops⟩
    rw [map_shown_of_not_reports hsilent, not_reports_iff.mp hsilent]
  · rintro ⟨hnone, hset⟩
    have hsilent : m.reports v = false := by
      rw [not_reports_iff, hnone, ValueSet.get?_of_inEmptySet hset]
    exact ⟨hsilent, fun h => h.2 ⟨hnone, hset⟩⟩

end Mutation

/-! ## Samples -/

/-- A step mutates the values of a sample. If it reports a change, the sample is no longer meant to
pass, and about the rule of the step. -/
theorem CorruptionStep.strike_eq (s : CorruptionStep) (x : Sample) :
    s.strike x =
      { x with
        values := s.mutation.apply x.values
        conforming := x.conforming && !s.mutation.reports x.values
        tags := x.tags ++ if s.mutation.reports x.values then s.tag.toList else [] } := by
  rw [strike]
  cases s.mutation.reports x.values <;> simp [Sample.addTag]

namespace Mutation

/-- **When reports are right.** A mutation reports a change just when it makes one, unless it gives
a membership another value or removes a property of a set without properties. The same holds of
samples: one that is meant to pass keeps its label just when its values are left unchanged. -/
theorem reports_right_iff (m : Mutation) (v : ValueSet) :
    ((m.reports v = true ↔ m.apply v ≠ v) ↔ ¬ m.Rejoins v ∧ ¬ m.DropsEmptySet v) ∧
      ∀ (s : CorruptionStep) (x : Sample), s.mutation = m → x.values = v → x.conforming = true →
        (((s.strike x).conforming = true ↔ (s.strike x).values = v) ↔
          ¬ m.Rejoins v ∧ ¬ m.DropsEmptySet v) := by
  have hright : (m.reports v = true ↔ m.apply v ≠ v) ↔ ¬ m.Rejoins v ∧ ¬ m.DropsEmptySet v := by
    rw [← reports_and_keeps_iff, ← silent_and_changes_iff]
    cases m.reports v <;> by_cases hkeeps : m.apply v = v <;> simp [hkeeps]
  refine ⟨hright, ?_⟩
  rintro s x rfl rfl hpasses
  rw [← hright, CorruptionStep.strike_eq, hpasses]
  cases s.mutation.reports x.values <;> by_cases hkeeps : s.mutation.apply x.values = x.values <;>
    simp [hkeeps]

/-- A space with a name. -/
def namedSpace : Sample := .named "IfcSpace" "00-01" "00-01A"

/-- The name becomes another one. -/
def renumbering : CorruptionStep := ⟨"Unknown room", replace (.attr "Name") "99-99", none⟩

theorem renumbering_is_reported :
    namedSpace.conforming = true ∧
      ((renumbering.strike namedSpace).conforming = true ↔
        (renumbering.strike namedSpace).values = namedSpace.values) := by
  refine ⟨rfl, ((reports_right_iff renumbering.mutation namedSpace.values).2 renumbering namedSpace
    rfl rfl rfl).mpr ⟨?_, ?_⟩⟩
  · rintro ⟨group, value, hfield, -⟩
    cases hfield
  · rintro ⟨hvalue, -⟩
    cases hvalue

/-- The values of a sample in a zone. -/
def zoned : ValueSet := ValueSet.empty.set (.membership "Zone A") ""

/-- The values of a sample with a set of properties that has none. -/
def withEmptySet : ValueSet :=
  { ValueSet.empty with properties := .ofList [("Pset_SpaceCommon", ∅)] }

/-- A membership that is left blank is reported and stays; a set without properties goes, and is not
reported. Both can be read from documents. -/
theorem membership_left_blank_is_reported :
    ((Json.decode? (.obj [("memberships", .arr [.str "Zone A"])]) : Option ValueSet) = some zoned ∧
      (blank (.membership "Zone A")).reports zoned = true ∧
      (blank (.membership "Zone A")).apply zoned = zoned) ∧
    (Json.decode? (.obj [("properties", .obj [("Pset_SpaceCommon", .obj [])])]) : Option ValueSet) =
        some withEmptySet ∧
      (remove (.property "Pset_SpaceCommon" "Roomtag")).reports withEmptySet = false ∧
      (remove (.property "Pset_SpaceCommon" "Roomtag")).apply withEmptySet ≠ withEmptySet := by
  decide +kernel

end Mutation

end Eir
