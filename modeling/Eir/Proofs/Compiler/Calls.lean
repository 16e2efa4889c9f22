import Eir.Proofs.Compiler.Runs

/-!
# The calls of a run

A run calls the compiler, and opens and closes scopes in between. A `Trace` is a
run with the calls made in it; scopes that it opened may still be open at its end.
`calls` reads the calls off a run of a program, which is a trace
(`trace_takeSteps`).

`Call.cases` says all that a call can do, so that a result about runs is an
induction over the trace. Whatever `Tracks` a run of a program also holds of a
trace.
-/

namespace Eir

/-- The step makes a rule, with the parts that are its own. -/
inductive Step.Makes {σ : Type} : Step → (Compiler σ → String → Specification) →
    (RuleIndex → String → RuleIndex) → Prop where
  | create (applicability : FacetGroup) (requirement : Requirement) (title : Option String) :
      Makes (.create applicability requirement title)
        (Compiler.titledRule applicability requirement title)
        fun index => Compiler.recordRule index applicability requirement
  | createPresence (applicability : FacetGroup) :
      Makes (.createPresence applicability) (Compiler.presenceRule applicability)
        fun index _ => index

namespace Compiler

variable {σ : Type}

/-- A step that is no scope, as it was taken. -/
structure Call (σ : Type) where
  before : Compiler σ
  step : Step
  result : StepResult
  after : Compiler σ

mutual

/-- The calls that a step made in the compilation `c`, in order. -/
def callsOf (c : Compiler σ) (step : Step) : Outcome σ → List (Call σ)
  | .step result after => [⟨c, step, result, after⟩]
  | .scope opened inner _ => calls opened step.body inner

/-- The calls that a program made in the compilation `c`, in order. -/
def calls (c : Compiler σ) : List Step → List (Outcome σ) → List (Call σ)
  | step :: steps, outcome :: outcomes =>
    callsOf c step outcome ++ calls outcome.after steps outcomes
  | _, _ => []

end

theorem calls_nil_left (c : Compiler σ) (outcomes : List (Outcome σ)) :
    calls c [] outcomes = [] := by
  cases outcomes <;> rfl

theorem calls_nil_right (c : Compiler σ) (steps : List Step) : calls c steps [] = [] := by
  cases steps <;> rfl

theorem calls_cons (c : Compiler σ) (step : Step) (steps : List Step) (outcome : Outcome σ)
    (outcomes : List (Outcome σ)) : calls c (step :: steps) (outcome :: outcomes) =
      callsOf c step outcome ++ calls outcome.after steps outcomes := rfl

theorem callsOf_scope (c : Compiler σ) (step : Step) (opened : Compiler σ)
    (inner : List (Outcome σ)) (after : Compiler σ) :
    callsOf c step (.scope opened inner after) = calls opened step.body inner := rfl

theorem callsOf_step (c : Compiler σ) (step : Step) (result : StepResult) (after : Compiler σ) :
    callsOf c step (.step result after) = [⟨c, step, result, after⟩] := rfl

namespace Call

/-- The compiler answers the call in this way. -/
def Taken (k : Call σ) : Prop :=
  ∃ strict halt, takeStep strict k.before k.step = (some (.step k.result k.after), k.after, halt)

/-- The rule that was made by the call, if any was. -/
def emissions (k : Call σ) : List Emission := k.before.made k.step k.result

theorem eq_of_takeStep {k : Call σ} {strict : Bool} {result : StepResult} {d : Compiler σ}
    {halt halt' : Option Halt}
    (htake : takeStep strict k.before k.step = (some (.step k.result k.after), k.after, halt))
    (h : takeStep strict k.before k.step = (some (.step result d), d, halt')) :
    k.result = result ∧ k.after = d :=
  Outcome.step.inj (Option.some.inj (congrArg Prod.fst (htake.symm.trans h)))

/-- A call that makes a rule does what `make` does. -/
theorem of_makes {k : Call σ} (h : k.Taken) {rule : Compiler σ → String → Specification}
    {record : RuleIndex → String → RuleIndex} (hmakes : k.step.Makes rule record) :
    k.result = .rule (k.before.make rule record).1 ∧
      k.after = (k.before.make rule record).2 := by
  obtain ⟨strict, halt, htake⟩ := h
  generalize hstep : k.step = step at hmakes
  cases hmakes with
  | create applicability requirement title =>
    exact eq_of_takeStep htake (by rw [hstep, takesRule_create])
  | createPresence applicability =>
    exact eq_of_takeStep htake (by rw [hstep, takesRule_createPresence])

/-- All that a call can do: it sets a field, uses a slot, skips one, makes a rule, or fails
without a trace. -/
theorem cases {k : Call σ} (h : k.Taken) :
    (∃ f, k.step.setter? = some f ∧ k.result = .nothing ∧ k.after = k.before.mapTop f) ∨
      (k.step = .identifier ∧ k.result = .identifier k.before.generateIdentifier.1 ∧
        k.after = k.before.generateIdentifier.2) ∨
      (∃ reason quiet, k.step = .skip reason quiet ∧ k.result = .nothing ∧
        k.after = k.before.skip reason quiet) ∨
      (∃ rule record, k.step.Makes rule record ∧
        k.result = .rule (k.before.make rule record).1 ∧
        k.after = (k.before.make rule record).2) ∨
      ∃ fault, k.step = .fail fault ∧ k.result = .rule (.error fault) ∧ k.after = k.before := by
  obtain ⟨strict, halt, htake⟩ := id h
  cases hsetter : k.step.setter? with
  | some f => exact .inl ⟨f, rfl, eq_of_takeStep htake (takeStep_setter hsetter ..)⟩
  | none =>
    right
    cases hstep : k.step with
    | identifier =>
      left
      exact ⟨rfl, eq_of_takeStep htake (by rw [hstep, takeStep_identifier])⟩
    | skip reason quiet =>
      right; left
      exact ⟨reason, quiet, rfl, eq_of_takeStep htake (by rw [hstep, takeStep_skip])⟩
    | create applicability requirement title =>
      right; right; left
      have hmakes := Step.Makes.create (σ := σ) applicability requirement title
      exact ⟨_, _, hmakes, of_makes h (hstep ▸ hmakes)⟩
    | createPresence applicability =>
      right; right; left
      have hmakes := Step.Makes.createPresence (σ := σ) applicability
      exact ⟨_, _, hmakes, of_makes h (hstep ▸ hmakes)⟩
    | fail fault =>
      right; right; right
      exact ⟨fault, rfl, eq_of_takeStep htake (by rw [hstep, takeStep])⟩
    | scope kind name body =>
      rw [hstep, takeStep_scope] at htake
      cases congrArg Prod.fst htake
    | stop =>
      rw [hstep] at htake
      cases congrArg Prod.fst htake
    | _ =>
      rw [hstep] at hsetter
      cases hsetter

end Call

theorem Steady.of_makes {step : Step} {rule : Compiler σ → String → Specification}
    {record : RuleIndex → String → RuleIndex} (h : step.Makes rule record) : Steady rule := by
  cases h with
  | create applicability requirement title =>
    exact steady_titledRule applicability requirement title
  | createPresence applicability => exact steady_presenceRule applicability

theorem made_of_makes {step : Step} {rule : Compiler σ → String → Specification}
    {record : RuleIndex → String → RuleIndex} (h : step.Makes rule record) (c : Compiler σ)
    (result : Except Fault (Option String)) :
    c.made step (.rule result) = c.emission rule result := by
  cases h <;> rfl

/-! ## Traces -/

/-- What happens from one compilation to another: calls, with scopes opened and closed. -/
inductive Trace : Compiler σ → List (Call σ) → Compiler σ → Prop where
  | nil (c : Compiler σ) : Trace c [] c
  | call {c : Compiler σ} {ks : List (Call σ)} {k : Call σ} : Trace c ks k.before → k.Taken →
      Trace c (ks ++ [k]) k.after
  | openKind {c d : Compiler σ} {ks : List (Call σ)} (kind : ScopeKind) (name : String) :
      Trace c ks d → Trace c ks (d.openKind kind name)
  | closeScope {c d : Compiler σ} {ks : List (Call σ)} : Trace c ks d → Trace c ks d.closeScope

variable {c d e : Compiler σ} {ks ls : List (Call σ)} {k : Call σ} {strict : Bool} {step : Step}
  {steps : List Step}

theorem Trace.single (h : k.Taken) : Trace k.before [k] k.after := .call (.nil _) h

theorem Trace.trans (h : Trace c ks d) (h' : Trace d ls e) : Trace c (ks ++ ls) e := by
  induction h' with
  | nil => rwa [List.append_nil]
  | call _ hk ih =>
    rw [← List.append_assoc]
    exact .call ih hk
  | openKind kind name _ ih => exact .openKind kind name ih
  | closeScope _ ih => exact .closeScope ih

/-- A call of a trace was made after some of the calls, and before the others. -/
theorem Trace.of_mem (h : Trace c ks d) (hk : k ∈ ks) :
    k.Taken ∧ ∃ before later, ks = before ++ k :: later ∧ Trace c before k.before ∧
      Trace k.after later d := by
  induction h with
  | nil => cases hk
  | @call ks k' hbefore htaken ih =>
    rcases List.mem_append.mp hk with hk | hk
    · obtain ⟨htaken', before, later, rfl, hfirst, hlast⟩ := ih hk
      exact ⟨htaken', before, later ++ [k'], by simp, hfirst, .call hlast htaken⟩
    · obtain rfl := List.mem_singleton.mp hk
      exact ⟨htaken, ks, [], rfl, hbefore, .nil _⟩
  | openKind kind name _ ih =>
    obtain ⟨htaken, before, later, hks, hfirst, hlast⟩ := ih hk
    exact ⟨htaken, before, later, hks, hfirst, .openKind kind name hlast⟩
  | closeScope _ ih =>
    obtain ⟨htaken, before, later, hks, hfirst, hlast⟩ := ih hk
    exact ⟨htaken, before, later, hks, hfirst, .closeScope hlast⟩

/-- What holds of each operation holds of a trace. -/
theorem Trace.tracks {R : Compiler σ → List Emission → Compiler σ → Prop} (hR : Tracks R)
    (h : Trace c ks d) : R c (ks.flatMap Call.emissions) d := by
  induction h with
  | nil => exact hR.refl c
  | @call ks k _ htaken ih =>
    have hone : R k.before k.emissions k.after := by
      rcases Call.cases htaken with ⟨f, hf, hresult, hafter⟩ | ⟨hstep, hresult, hafter⟩ |
        ⟨reason, quiet, hstep, hresult, hafter⟩ | ⟨rule, record, hmakes, hresult, hafter⟩ |
        ⟨fault, hstep, hresult, hafter⟩
      · rw [Call.emissions, hresult, made_nothing, hafter]
        exact hR.mapTop _ hf
      · rw [Call.emissions, hstep, hresult, hafter]
        exact hR.generateIdentifier _
      · rw [Call.emissions, hresult, made_nothing, hafter]
        exact hR.skip _ reason quiet
      · rw [Call.emissions, hresult, made_of_makes hmakes, hafter]
        exact hR.make _ record (.of_makes hmakes)
      · rw [Call.emissions, hstep, hresult, hafter]
        exact hR.refl _
    rw [List.flatMap_append, List.flatMap_singleton]
    exact hR.trans ih hone
  | openKind kind name _ ih => simpa using hR.trans ih (hR.openKind _ kind name)
  | closeScope _ ih => simpa using hR.trans ih (hR.closeScope _)

/-! ## Programs -/

/-- The trace of one step of a run. -/
def StepTrace (strict : Bool) (c : Compiler σ) (step : Step) : Prop :=
  Trace c ((takeStep strict c step).1.elim [] (callsOf c step)) (takeStep strict c step).2.1

/-- The trace of a run. -/
def RunTrace (strict : Bool) (c : Compiler σ) (steps : List Step) : Prop :=
  Trace c (calls c steps (takeSteps strict c steps).1) (takeSteps strict c steps).2.1

theorem stepTrace_of_result {result : StepResult} {halt : Option Halt}
    (h : takeStep strict c step = (some (.step result d), d, halt)) : StepTrace strict c step := by
  rw [StepTrace, h, Option.elim_some, callsOf_step]
  exact .single (k := ⟨c, step, result, d⟩) ⟨strict, halt, h⟩

theorem stepTrace_scope {kind : ScopeKind} {name : String}
    (hbody : RunTrace strict (c.openKind kind name) steps) :
    StepTrace strict c (.scope kind name steps) := by
  rw [StepTrace, takeStep_scope, Option.elim_some, callsOf_scope]
  exact .closeScope ((Trace.openKind kind name (.nil c)).trans hbody)

theorem runTrace_cons (hstep : StepTrace strict c step)
    (hsteps : ∀ d : Compiler σ, RunTrace strict d steps) : RunTrace strict c (step :: steps) := by
  have hone := exists_outcome strict c step
  rw [StepTrace] at hstep
  rcases htake : takeStep strict c step with ⟨o, d, halt⟩
  rw [htake] at hstep hone
  cases halt with
  | some halt =>
    rw [RunTrace, takeSteps_cons_halted htake]
    cases o with
    | none => rwa [Option.toList_none, calls_nil_right]
    | some o => simpa [calls_cons, calls_nil_right] using hstep
  | none =>
    obtain ⟨o, rfl⟩ := hone rfl
    rw [RunTrace, takeSteps_cons htake]
    simp only [Option.toList_some, List.singleton_append, calls_cons, after_takeStep htake]
    exact hstep.trans (hsteps d)

mutual

theorem trace_takeStep {σ : Type} (strict : Bool) (c : Compiler σ) :
    ∀ step, StepTrace strict c step
  | .pass => stepTrace_of_result rfl
  | .setTag _ => stepTrace_of_result rfl
  | .setName _ => stepTrace_of_result rfl
  | .setSection _ => stepTrace_of_result rfl
  | .setStages _ => stepTrace_of_result rfl
  | .setPasses _ => stepTrace_of_result rfl
  | .setApplicability _ => stepTrace_of_result rfl
  | .setRequirement _ => stepTrace_of_result rfl
  | .setPrefixNames _ => stepTrace_of_result rfl
  | .identifier => stepTrace_of_result rfl
  | .skip _ _ => stepTrace_of_result rfl
  | .create _ _ _ => stepTrace_of_result rfl
  | .createPresence _ => stepTrace_of_result rfl
  | .fail _ => stepTrace_of_result rfl
  | .stop => .nil c
  | .scope kind name body => stepTrace_scope (trace_takeSteps strict (c.openKind kind name) body)

/-- A run of a program is a trace of its calls. -/
theorem trace_takeSteps {σ : Type} (strict : Bool) (c : Compiler σ) :
    ∀ steps, RunTrace strict c steps
  | [] => by
    rw [RunTrace, takeSteps, calls_nil_left]
    exact .nil c
  | step :: steps =>
    runTrace_cons (trace_takeStep strict c step) fun d => trace_takeSteps strict d steps

end

mutual

theorem emissions_callsOf (c : Compiler σ) (step : Step) :
    ∀ o : Outcome σ, (callsOf c step o).flatMap Call.emissions = emittedBy c step o
  | .step result after => by
    rw [callsOf_step, emittedBy_step, List.flatMap_singleton, Call.emissions]
  | .scope opened inner after => by
    rw [callsOf_scope, emittedBy_scope, emissions_calls]

/-- The rules of a run are those that its calls made. -/
theorem emissions_calls (c : Compiler σ) :
    ∀ (steps : List Step) (os : List (Outcome σ)),
      (calls c steps os).flatMap Call.emissions = emitted c steps os
  | [], os => by rw [calls_nil_left, emitted_nil_left, List.flatMap_nil]
  | step :: steps, [] => by rw [calls_nil_right, emitted_nil_right, List.flatMap_nil]
  | step :: steps, o :: os => by
    rw [calls_cons, emitted_cons, List.flatMap_append, emissions_callsOf, emissions_calls]

end

end Compiler

end Eir
