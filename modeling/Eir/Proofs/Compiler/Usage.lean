import Eir.Proofs.Compiler.Calls
import Eir.Proofs.Compiler.Identifiers

/-!
# The slots that a run uses up

A rule that the sink refuses has used its slot all the same, and the sink has
seen its identifier. `usedSlots` reads off a run the identifiers of all slots
that were used, those of refused rules included. `Usage` is what happens between
two moments, with the slots used on the way: a result about them is an induction
over it, and a run of a program is one (`usage_takeSteps`).
-/

namespace Eir.Compiler

variable {σ : Type}

/-- The slot that a step uses which is no scope. After a failure to close a scope no rule is made,
and none is skipped. -/
def slotUsed (c : Compiler σ) : Step → Option String
  | .identifier | .skip _ _ => some c.generateIdentifier.1
  | .create _ _ _ | .createPresence _ =>
    if c.deferred.isNone then some c.generateIdentifier.1 else none
  | _ => none

mutual

/-- The identifiers of the slots that a step used in the compilation `c`, a scope before what is in
it. -/
def usedBy (c : Compiler σ) (step : Step) : Outcome σ → List String
  | .step _ _ => (c.slotUsed step).toList
  | .scope opened inner _ => opened.top.ident :: usedSlots opened step.body inner

/-- The identifiers of the slots that a program used in the compilation `c`, in order. -/
def usedSlots (c : Compiler σ) : List Step → List (Outcome σ) → List String
  | step :: steps, outcome :: outcomes =>
    usedBy c step outcome ++ usedSlots outcome.after steps outcomes
  | _, _ => []

end

theorem usedSlots_nil_left (c : Compiler σ) (outcomes : List (Outcome σ)) :
    usedSlots c [] outcomes = [] := by
  cases outcomes <;> rfl

theorem usedSlots_nil_right (c : Compiler σ) (steps : List Step) : usedSlots c steps [] = [] := by
  cases steps <;> rfl

theorem usedSlots_cons (c : Compiler σ) (step : Step) (steps : List Step) (outcome : Outcome σ)
    (outcomes : List (Outcome σ)) : usedSlots c (step :: steps) (outcome :: outcomes) =
      usedBy c step outcome ++ usedSlots outcome.after steps outcomes := rfl

theorem usedBy_scope (c : Compiler σ) (step : Step) (opened : Compiler σ)
    (inner : List (Outcome σ)) (after : Compiler σ) :
    usedBy c step (.scope opened inner after) = opened.top.ident :: usedSlots opened step.body inner :=
  rfl

theorem usedBy_step (c : Compiler σ) (step : Step) (result : StepResult) (after : Compiler σ) :
    usedBy c step (.step result after) = (c.slotUsed step).toList := rfl

/-- If the call makes a rule, the name of the rule begins with its identifier. -/
def Call.Prefixed (k : Call σ) : Prop :=
  ∀ (rule : Compiler σ → String → Specification) (record : RuleIndex → String → RuleIndex),
    k.step.Makes rule record → k.before.top.prefixNames = true

/-- What happens from one compilation to another, with the slots that are used: calls, with scopes
opened and closed. -/
inductive Usage : Compiler σ → List String → Compiler σ → Prop where
  | nil (c : Compiler σ) : Usage c [] c
  | call {c : Compiler σ} {us : List String} {k : Call σ} : Usage c us k.before → k.Taken →
      k.Prefixed → Usage c (us ++ (k.before.slotUsed k.step).toList) k.after
  | openKind {c d : Compiler σ} {us : List String} (kind : ScopeKind) (name : String) :
      Usage c us d → Usage c (us ++ [(d.openKind kind name).top.ident]) (d.openKind kind name)
  | closeScope {c d : Compiler σ} {us : List String} : Usage c us d → Usage c us d.closeScope

variable {c d e : Compiler σ} {us vs : List String} {strict : Bool} {step : Step}
  {steps : List Step}

theorem Usage.trans (h : Usage c us d) (h' : Usage d vs e) : Usage c (us ++ vs) e := by
  induction h' with
  | nil => rwa [List.append_nil]
  | call _ htaken hprefixed ih =>
    rw [← List.append_assoc]
    exact .call ih htaken hprefixed
  | openKind kind name _ ih =>
    rw [← List.append_assoc]
    exact .openKind kind name ih
  | closeScope _ ih => exact .closeScope ih

theorem identifier_ne_empty (c : Compiler σ) : c.generateIdentifier.1 ≠ "" :=
  slotIdent_ne_empty (nextPart_ne_empty c.top.section_ c.top.pendingName)

theorem eq_of_slotUsed {i : String} (h : c.slotUsed step = some i) :
    i = c.generateIdentifier.1 := by
  cases step <;> simp only [slotUsed, reduceCtorEq, Option.some.injEq, Option.ite_none_right_eq_some] at h
  · exact h.symm
  · exact h.symm
  · exact h.2.symm
  · exact h.2.symm

/-- No slot has an empty identifier. -/
theorem Usage.ne_empty (h : Usage c us d) : ∀ i ∈ us, i ≠ "" := by
  induction h with
  | nil => exact fun i hi => by cases hi
  | call _ _ _ ih =>
    intro i hi
    rcases List.mem_append.mp hi with hi | hi
    · exact ih i hi
    · rw [eq_of_slotUsed (Option.mem_toList.mp hi)]
      exact identifier_ne_empty _
  | openKind kind name _ ih =>
    intro i hi
    rcases List.mem_append.mp hi with hi | hi
    · exact ih i hi
    · rw [List.mem_singleton.mp hi, ident_openKind]
      exact slotIdent_ne_empty (nextPart_ne_empty _ name)
  | closeScope _ ih => exact ih

/-! ## Programs -/

/-- The slots that one step of a run uses, if the rules made in it have their identifiers in their
names. -/
def StepUsage (strict : Bool) (c : Compiler σ) (step : Step) : Prop :=
  (∀ k ∈ (takeStep strict c step).1.elim [] (callsOf c step), k.Prefixed) →
    Usage c ((takeStep strict c step).1.elim [] (usedBy c step)) (takeStep strict c step).2.1

/-- The slots that a run uses, if the rules made in it have their identifiers in their names. -/
def RunUsage (strict : Bool) (c : Compiler σ) (steps : List Step) : Prop :=
  (∀ k ∈ calls c steps (takeSteps strict c steps).1, k.Prefixed) →
    Usage c (usedSlots c steps (takeSteps strict c steps).1) (takeSteps strict c steps).2.1

theorem stepUsage_of_result {result : StepResult} {halt : Option Halt}
    (h : takeStep strict c step = (some (.step result d), d, halt)) : StepUsage strict c step := by
  rw [StepUsage, h, Option.elim_some, Option.elim_some, callsOf_step, usedBy_step]
  intro hprefixed
  exact .call (k := ⟨c, step, result, d⟩) (.nil c) ⟨strict, halt, h⟩
    (hprefixed _ (List.mem_singleton_self _))

theorem stepUsage_scope {kind : ScopeKind} {name : String}
    (hbody : RunUsage strict (c.openKind kind name) steps) :
    StepUsage strict c (.scope kind name steps) := by
  rw [StepUsage, takeStep_scope, Option.elim_some, Option.elim_some, callsOf_scope, usedBy_scope]
  intro hprefixed
  exact .closeScope ((Usage.openKind kind name (.nil c)).trans (hbody hprefixed))

theorem runUsage_cons (hstep : StepUsage strict c step)
    (hsteps : ∀ d : Compiler σ, RunUsage strict d steps) : RunUsage strict c (step :: steps) := by
  have hone := exists_outcome strict c step
  rw [StepUsage] at hstep
  rcases htake : takeStep strict c step with ⟨o, d, halt⟩
  rw [htake] at hstep hone
  cases halt with
  | some halt =>
    rw [RunUsage, takeSteps_cons_halted htake]
    cases o with
    | none => rwa [Option.toList_none, usedSlots_nil_right, calls_nil_right]
    | some o => simpa [usedSlots_cons, usedSlots_nil_right, calls_cons, calls_nil_right] using hstep
  | none =>
    obtain ⟨o, rfl⟩ := hone rfl
    rw [RunUsage, takeSteps_cons htake]
    simp only [Option.toList_some, List.singleton_append, usedSlots_cons, calls_cons,
      after_takeStep htake]
    intro hprefixed
    exact (hstep fun k hk => hprefixed k (List.mem_append_left _ hk)).trans
      (hsteps d fun k hk => hprefixed k (List.mem_append_right _ hk))

mutual

theorem usage_takeStep {σ : Type} (strict : Bool) (c : Compiler σ) :
    ∀ step, StepUsage strict c step
  | .pass => stepUsage_of_result rfl
  | .setTag _ => stepUsage_of_result rfl
  | .setName _ => stepUsage_of_result rfl
  | .setSection _ => stepUsage_of_result rfl
  | .setStages _ => stepUsage_of_result rfl
  | .setPasses _ => stepUsage_of_result rfl
  | .setApplicability _ => stepUsage_of_result rfl
  | .setRequirement _ => stepUsage_of_result rfl
  | .setPrefixNames _ => stepUsage_of_result rfl
  | .identifier => stepUsage_of_result rfl
  | .skip _ _ => stepUsage_of_result rfl
  | .create _ _ _ => stepUsage_of_result rfl
  | .createPresence _ => stepUsage_of_result rfl
  | .fail _ => stepUsage_of_result rfl
  | .stop => fun _ => .nil c
  | .scope kind name body => stepUsage_scope (usage_takeSteps strict (c.openKind kind name) body)

/-- A run of a program uses the slots that are read off it. -/
theorem usage_takeSteps {σ : Type} (strict : Bool) (c : Compiler σ) :
    ∀ steps, RunUsage strict c steps
  | [] => by
    rw [RunUsage, takeSteps, usedSlots_nil_left]
    exact fun _ => .nil c
  | step :: steps =>
    runUsage_cons (usage_takeStep strict c step) fun d => usage_takeSteps strict d steps

end

end Eir.Compiler
