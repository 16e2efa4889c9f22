import Eir.Fault
import Eir.Specification

/-!
# Receivers of compiled rules

Specifications and groups leave the compiler through a sink: groups as their
scopes close, and single specifications as they are made, if each is to have a
file of its own.
-/

namespace Eir

/-- Where a specification was made. -/
structure SpecLocation where
  stage : Stage
  /-- The identifiers of the scopes around it, separated by slashes. -/
  fullPrefix : String
  deriving DecidableEq, Repr, Inhabited

/-- A receiver with a state `σ`. Each step gives the new state, and a fault if it failed. -/
structure Sink (σ : Type) where
  writeSpecification : SpecLocation → GroupMetadata → Specification → σ → σ × Option Fault
  writeGroup : Stage → SpecGroup → σ → σ × Option Fault

namespace Sink

/-- Receives everything and keeps nothing. -/
def null : Sink Unit where
  writeSpecification _ _ _ s := (s, none)
  writeGroup _ _ s := (s, none)

/-- The sink never fails. -/
structure Reliable {σ : Type} (s : Sink σ) : Prop where
  writeSpecification : ∀ l m x st, (s.writeSpecification l m x st).2 = none
  writeGroup : ∀ stage g st, (s.writeGroup stage g st).2 = none

theorem reliable_null : null.Reliable := ⟨fun _ _ _ _ => rfl, fun _ _ _ => rfl⟩

end Sink

/-- One step that a sink was asked for. -/
inductive SinkEvent where
  | specification (location : SpecLocation) (metadata : GroupMetadata) (spec : Specification)
  | group (stage : Stage) (group : SpecGroup)
  deriving DecidableEq, Repr

/-- A fault at one step: the number of the step among those of its kind, and the fault. -/
structure PlannedFault where
  step : Nat
  fault : Fault

instance : Json.Decode PlannedFault where
  decode? j := do
    let step ← Json.required j "at"
    let message ← Json.required j "message"
    return ⟨step, match ← Json.optional (α := String) j "kind" with
      | some "Fixture" => .fixture message
      | some "Catalog" => .catalog message
      | _ => .sink message⟩

/-- Records every step it is asked for, and fails where it is told to. -/
structure Recorder where
  /-- The steps, the last one first. -/
  reversed : List SinkEvent
  specifications : Nat
  groups : Nat

namespace Recorder

def empty : Recorder := ⟨[], 0, 0⟩

/-- The steps in order. -/
def events (r : Recorder) : List SinkEvent := r.reversed.reverse

/-- The fault planned for step `n`. -/
def faultAt (plan : Option PlannedFault) (n : Nat) : Option Fault :=
  (plan.filter (·.step = n)).map (·.fault)

/-- A recording sink. A step that fails is recorded too. -/
def sink (failSpecification failGroup : Option PlannedFault) : Sink Recorder where
  writeSpecification l m x r :=
    let n := r.specifications + 1
    ({ r with reversed := .specification l m x :: r.reversed, specifications := n },
      faultAt failSpecification n)
  writeGroup stage g r :=
    let n := r.groups + 1
    ({ r with reversed := .group stage g :: r.reversed, groups := n }, faultAt failGroup n)

end Recorder

end Eir
