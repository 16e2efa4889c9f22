import Eir.Fault
import Eir.Sample.Basic
import Eir.Sample.Values
import Eir.Text.Digits

/-!
# Corruption

A script breaks samples one value at a time, and takes its targets in turn.
-/

namespace Eir

/-! ## Breaking one value -/

/-- A change of one field. -/
inductive Mutation where
  /-- The value becomes the empty text. -/
  | blank (field : Field)
  | remove (field : Field)
  | replace (field : Field) (value : String)
  /-- A quantity becomes zero. -/
  | zero (field : Field)
  deriving DecidableEq, Repr, Inhabited

namespace Mutation

/-- The field that is changed. -/
def field : Mutation → Field
  | blank f | remove f | replace f _ | zero f => f

/-- The value that the field gets, or none if it loses its value. -/
def value? : Mutation → Option String
  | blank _ => some ""
  | remove _ => none
  | replace _ value => some value
  | zero _ => some "0"

/-- The values after the change. -/
def apply (m : Mutation) (v : ValueSet) : ValueSet :=
  match m.value? with
  | some value => v.set m.field value
  | none => v.remove m.field

/-- The change is reported as one: the field has not yet the value that it gets. -/
def reports (m : Mutation) (v : ValueSet) : Bool := v.get? m.field != m.value?

instance : Json.Encode Mutation where
  encode
    | blank f => .obj [("mutation", .str "blank"), ("field", Json.encode f)]
    | remove f => .obj [("mutation", .str "remove"), ("field", Json.encode f)]
    | replace f value =>
      .obj [("mutation", .str "replace"), ("field", Json.encode f), ("value", .str value)]
    | zero f => .obj [("mutation", .str "zero"), ("field", Json.encode f)]

/-- The fields of each kind of change. -/
def kinds : List (String × List String) :=
  [("blank", ["field"]), ("remove", ["field"]), ("replace", ["field", "value"]),
    ("zero", ["field"])]

instance : Json.Decode Mutation where
  decode? j := do
    let (kind, j) ← j.tagged? false "mutation" kinds
    let field ← Json.requiredBy (Field.read? true) j "field"
    match kind with
    | "blank" => return blank field
    | "remove" => return remove field
    | "replace" => return replace field (← Json.required j "value")
    | "zero" => return zero field
    | _ => none

end Mutation

/-! ## Scripts -/

/-- Goes through the positions below `size` in turn, and from the last to the first. -/
structure RoundRobin where
  size : Nat
  position : Nat
  /-- How often the last position was passed. -/
  wraps : Nat
  deriving DecidableEq, Repr

namespace RoundRobin

/-- Stands at the first of `size` positions. -/
def ofSize (size : Nat) : RoundRobin := ⟨size, 0, 0⟩

/-- The position that it stands at, unless there are none, and the step to the next. -/
def next? (r : RoundRobin) : Option (Nat × RoundRobin) :=
  if r.size = 0 then none
  else
    let following := (r.position + 1) % r.size
    some (r.position, ⟨r.size, following, if following = 0 then r.wraps + 1 else r.wraps⟩)

end RoundRobin

/-- One value that is broken. -/
structure CorruptionStep where
  description : String
  mutation : Mutation
  /-- The identifier of the rule that then fails. -/
  tag : Option String
  deriving DecidableEq, Repr, Inhabited

namespace CorruptionStep

instance : Json.Encode CorruptionStep where
  encode s := .obj ([("description", .str s.description), ("mutation", Json.encode s.mutation)] ++
    Json.ifSome "tag" s.tag)

instance : Json.Decode CorruptionStep where
  decode? j := do
    let j ← j.record? ["description", "mutation", "tag"]
    return {
      description := ← Json.required j "description"
      mutation := ← Json.required j "mutation"
      tag := ← Json.optional j "tag" }

end CorruptionStep

/-- What a step did. -/
structure CorruptionRecord where
  /-- The position of the sample. -/
  instance_ : Nat
  /-- The name of the sample before the step. -/
  name : String
  description : String
  tag : Option String
  changed : Bool
  deriving DecidableEq, Repr, Inhabited

namespace CorruptionRecord

instance : Json.Encode CorruptionRecord where
  encode r := .obj ([("instance", Json.encode r.instance_), ("name", .str r.name),
    ("description", .str r.description)] ++ Json.ifSome "tag" r.tag ++
    [("changed", .bool r.changed)])

instance : Json.Decode CorruptionRecord where
  decode? j := do
    let j ← j.record? ["instance", "name", "description", "tag", "changed"]
    return {
      instance_ := ← Json.required j "instance"
      name := ← Json.required j "name"
      description := ← Json.required j "description"
      tag := ← Json.optional j "tag"
      changed := ← Json.required j "changed" }

end CorruptionRecord

/-- What a script reports while it runs. -/
inductive CorruptionNotice where
  /-- A step found its value broken already. -/
  | unchanged (description name : String)
  /-- There are more steps than targets. -/
  | crowded (steps targets : Nat)
  deriving DecidableEq, Repr

/-- The text of a notice. -/
def CorruptionNotice.text : CorruptionNotice → String
  | unchanged description name =>
    "WARN corruption '" ++ description ++ "' left " ++ name ++ " unchanged"
  | crowded steps targets =>
    "WARN " ++ Text.decimal steps ++ " corruption steps over " ++ Text.decimal targets ++
      " targets, some instances carry several violations"

namespace CorruptionStep

/-- The sample after the step. It is no longer conforming, and about the rule of the step, if
the step reports a change. -/
def strike (s : CorruptionStep) (sample : Sample) : Sample :=
  let struck := { sample with values := s.mutation.apply sample.values }
  if s.mutation.reports sample.values then { struck.addTag s.tag with conforming := false }
  else struck

/-- What the step does to the sample at a position. -/
def recordAt (s : CorruptionStep) (index : Nat) (sample : Sample) : CorruptionRecord :=
  ⟨index, sample.name, s.description, s.tag, s.mutation.reports sample.values⟩

end CorruptionStep

/-- Samples under corruption, with what was done to them so far. -/
structure CorruptionRun where
  samples : List Sample
  records : List CorruptionRecord
  notices : List CorruptionNotice

namespace CorruptionRun

/-- Does one step to the sample at a position. -/
def strike (run : CorruptionRun) (s : CorruptionStep) (index : Nat) (sample : Sample) :
    CorruptionRun :=
  let record := s.recordAt index sample
  { samples := run.samples.set index (s.strike sample)
    records := run.records ++ [record]
    notices := run.notices ++
      if record.changed then [] else [.unchanged s.description sample.name] }

/-- Does the steps, each to the next target. What was done before a fault stays done. -/
def steps (targets : List Nat) (cursor : RoundRobin) (run : CorruptionRun) :
    List CorruptionStep → CorruptionRun × Option Fault
  | [] => (run, none)
  | s :: rest =>
    match cursor.next? with
    | none => (run, some (.fixture "corruption script has no targets"))
    | some (slot, cursor) =>
      let index := targets.getD slot 0
      match run.samples[index]? with
      | none =>
        (run, some (.fixture ("corruption target " ++ Text.decimal index ++ " out of range")))
      | some sample => steps targets cursor (run.strike s index sample) rest

end CorruptionRun

/-- Runs a script over the samples at the targets. -/
def corrupt (samples : List Sample) (targets : List Nat) (script : List CorruptionStep) :
    CorruptionRun × Option Fault :=
  match CorruptionRun.steps targets (.ofSize targets.length) ⟨samples, [], []⟩ script with
  | (run, none) =>
    if targets.length < script.length then
      ({ run with notices := run.notices ++ [.crowded script.length targets.length] }, none)
    else (run, none)
  | faulty => faulty

end Eir
