import Eir.Proofs.Compiler.Identifiers
import Eir.Proofs.Compiler.OneGroup
import Eir.Proofs.Compiler.Recording

/-!
# Reading the rules off a program

Which rules a program makes for requirements, and under which identifiers, can be
read off its steps: `creations` follows the innermost scope through the steps,
without a compilation. A run that takes all its steps offers and records just
these rules (`reads_takeSteps`). So the rules that apply are in the end in the
index and among the specifications (`CompiledRules.Holds`).
-/

namespace Eir

open Compiler

/-- The rule demands something of what it selects. -/
def Specification.demands (s : Specification) : Bool := !s.requirement.facets.isEmpty

/-- The making of a rule for a requirement, in a scope as it is just then. -/
structure Creation where
  scope : Scope
  applicability : FacetGroup
  requirement : Requirement

namespace Creation

/-- The identifier of the rule. -/
def identifier (x : Creation) : String := x.scope.advance.1

/-- A compilation with these settings makes the rule. -/
def applies (settings : CompilerSettings) (x : Creation) : Bool :=
  x.scope.stages.includes settings.stage && x.scope.passes.meets settings.pass

/-- The rule as it is recorded. -/
def indexed (x : Creation) : IndexedRule := ⟨x.applicability, x.requirement, x.identifier⟩

/-- The specification is the rule. -/
structure Gives (x : Creation) (spec : Specification) : Prop where
  identifier : spec.identifier = x.identifier
  applicability : spec.applicability = x.applicability
  requirement : spec.requirement = x.requirement.constraint.setCardinality x.scope.requirement

/-- The offer is that of the rule. -/
structure IsOffered (x : Creation) (o : Offer) : Prop extends x.Gives o.spec where
  stages : o.stages = x.scope.stages
  passes : o.passes = x.scope.passes

theorem Gives.demands {x : Creation} {spec : Specification} (h : x.Gives spec) :
    spec.demands = true := by
  rw [Specification.demands, h.requirement]
  rfl

theorem IsOffered.applies {x : Creation} {o : Offer} (h : x.IsOffered o)
    (settings : CompilerSettings) : o.applies settings = x.applies settings := by
  rw [Offer.applies, h.stages, h.passes, Creation.applies]

end Creation

/-! ## Programs without a compilation -/

namespace Step

/-- What becomes of the innermost scope with a step. -/
def next (s : Scope) : Step → Scope
  | pass => s
  | setTag tag => { s with tag }
  | setName name => { s with pendingName := name }
  | setSection n => { s with section_ := n }
  | setStages window => { s with stages := window }
  | setPasses passes => { s with passes }
  | setApplicability a => { s with applicability := a }
  | setRequirement r => { s with requirement := r }
  | setPrefixNames value => { s with prefixNames := value }
  | identifier | skip .. | create .. | createPresence _ => s.advance.2
  | scope _ name _ => (s.openChild name .around).2
  | fail _ | stop => s

theorem next_setter {step : Step} {f : Scope → Scope} (h : step.setter? = some f) (s : Scope) :
    step.next s = f s := by
  cases step <;> cases h <;> rfl

end Step

mutual

/-- The rules for requirements that a step makes in a scope. -/
def Step.creations (s : Scope) : Step → List Creation
  | .create applicability requirement _ => [⟨s, applicability, requirement⟩]
  | .scope _ name body => creations (s.openChild name .around).1 body
  | _ => []

/-- The rules for requirements that a program makes in a scope, in order. -/
def creations (s : Scope) : List Step → List Creation
  | [] => []
  | step :: steps => step.creations s ++ creations (step.next s) steps

end

variable {s : Scope} {step : Step} {steps : List Step} {x : Creation}

theorem creations_create (s : Scope) (applicability : FacetGroup) (requirement : Requirement)
    (title : Option String) :
    (Step.create applicability requirement title).creations s =
      [⟨s, applicability, requirement⟩] := rfl

theorem creations_scope (s : Scope) (kind : ScopeKind) (name : String) (body : List Step) :
    (Step.scope kind name body).creations s = creations (s.openChild name .around).1 body :=
  rfl

/-- Just those steps make rules for requirements that are one or have a body. -/
theorem creations_of_plain (hcreate : ∀ a r title, step ≠ .create a r title)
    (hscope : ∀ kind name body, step ≠ .scope kind name body) : step.creations s = [] := by
  cases step with
  | create a r title => exact absurd rfl (hcreate a r title)
  | scope kind name body => exact absurd rfl (hscope kind name body)
  | _ => rfl

theorem creations_setter {f : Scope → Scope} (h : step.setter? = some f) (s : Scope) :
    step.creations s = [] := by
  refine creations_of_plain (fun a r title hstep => ?_) (fun kind name body hstep => ?_) <;>
    rw [hstep] at h <;> cases h

theorem creations_nil (s : Scope) : creations s [] = [] := rfl

theorem creations_cons (s : Scope) (step : Step) (steps : List Step) :
    creations s (step :: steps) = step.creations s ++ creations (step.next s) steps :=
  rfl

theorem creations_append (s : Scope) (steps later : List Step) :
    creations s (steps ++ later) = creations s steps ++ creations (steps.foldl Step.next s) later := by
  induction steps generalizing s with
  | nil => rw [creations_nil]; rfl
  | cons step steps ih => simp only [List.cons_append, creations_cons, ih, List.append_assoc,
      List.foldl_cons]

/-- A program makes what one of its steps does, in some scope. -/
theorem exists_of_mem_creations (h : x ∈ creations s steps) :
    ∃ step ∈ steps, ∃ s, x ∈ step.creations s := by
  induction steps generalizing s with
  | nil => simp [creations_nil] at h
  | cons step steps ih =>
    rw [creations_cons] at h
    rcases List.mem_append.mp h with h | h
    · exact ⟨step, List.mem_cons_self, s, h⟩
    · obtain ⟨later, hlater, hmem⟩ := ih h
      exact ⟨later, List.mem_cons_of_mem step hlater, hmem⟩

/-! ## Steps that make only certain rules -/

/-- The step does not end the program, and makes only rules for requirements that satisfy `P`. -/
inductive Step.Only (P : FacetGroup → Requirement → Prop) : Step → Prop where
  | create {a : FacetGroup} {r : Requirement} {title : Option String} : P a r →
      Only P (.create a r title)
  | scope {kind : ScopeKind} {name : String} {body : List Step} :
      (∀ step ∈ body, Only P step) → Only P (.scope kind name body)
  | plain {step : Step} : step ≠ .stop → (∀ a r title, step ≠ .create a r title) →
      (∀ a, step ≠ .createPresence a) → (∀ kind name body, step ≠ .scope kind name body) →
      Only P step

theorem Step.only_create {P : FacetGroup → Requirement → Prop} {a : FacetGroup} {r : Requirement}
    {title : Option String} : (Step.create a r title).Only P ↔ P a r := by
  refine ⟨fun h => ?_, .create⟩
  cases h with
  | create hP => exact hP
  | plain _ hcreate _ _ => exact absurd rfl (hcreate a r title)

theorem Step.only_scope {P : FacetGroup → Requirement → Prop} {kind : ScopeKind} {name : String}
    {body : List Step} : (Step.scope kind name body).Only P ↔ ∀ step ∈ body, step.Only P := by
  refine ⟨fun h => ?_, .scope⟩
  cases h with
  | scope hbody => exact hbody
  | plain _ _ _ hscope => exact absurd rfl (hscope kind name body)

theorem Step.Only.mono {P Q : FacetGroup → Requirement → Prop} (h : step.Only P)
    (hle : ∀ a r, P a r → Q a r) : step.Only Q := by
  induction h with
  | create hP => exact .create (hle _ _ hP)
  | scope _ ih => exact .scope ih
  | plain hstop hcreate hpresence hscope => exact .plain hstop hcreate hpresence hscope

theorem Step.Only.forall_mem {P : FacetGroup → Requirement → Prop} (h : step.Only P) (s : Scope) :
    ∀ x ∈ step.creations s, P x.applicability x.requirement := by
  induction h generalizing s with
  | create hP =>
    rw [creations_create]
    simpa using hP
  | scope _ ih =>
    rw [creations_scope]
    intro x hx
    obtain ⟨inner, hinner, t, hmem⟩ := exists_of_mem_creations hx
    exact ih inner hinner t x hmem
  | plain _ hcreate _ hscope =>
    rw [creations_of_plain hcreate hscope]
    simp

theorem forall_mem_creations {P : FacetGroup → Requirement → Prop}
    (h : ∀ step ∈ steps, step.Only P) (s : Scope) :
    ∀ x ∈ creations s steps, P x.applicability x.requirement := by
  intro x hx
  obtain ⟨step, hstep, t, hmem⟩ := exists_of_mem_creations hx
  exact (h step hstep).forall_mem t x hmem

/-! ## Identifiers -/

theorem ident_next (s : Scope) (step : Step) : (step.next s).ident = s.ident := by
  cases step <;> rfl

theorem under_identifier (h : x.scope.ident ≠ "") :
    Under x.scope.ident x.identifier ∧ x.identifier ≠ x.scope.ident :=
  under_of_slotIdent h (under_refl _)

/-- The scope in a scope, and what is made in it, is under the identifier of the scope. -/
theorem under_of_openChild (h : s.ident ≠ "") (name : String) {text : String}
    (htext : Under (s.openChild name .around).1.ident text) :
    Under s.ident text ∧ text ≠ s.ident :=
  under_of_slotIdent h htext

theorem ident_openChild_ne_empty (s : Scope) (name : String) :
    (s.openChild name .around).1.ident ≠ "" :=
  slotIdent_ne_empty (nextPart_ne_empty s.section_ name)

mutual

theorem Step.under_creations {s : Scope} (h : s.ident ≠ "") : ∀ (step : Step) {x : Creation},
    x ∈ step.creations s → Under s.ident x.identifier ∧ x.identifier ≠ s.ident
  | .create applicability requirement title, x, hx => by
    rw [creations_create] at hx
    obtain rfl := List.mem_singleton.mp hx
    exact under_identifier h
  | .scope kind name body, x, hx => by
    rw [creations_scope] at hx
    exact under_of_openChild h name
      (Eir.under_creations (ident_openChild_ne_empty s name) body hx).1
  | .pass, _, hx | .identifier, _, hx | .skip .., _, hx | .setTag _, _, hx
  | .setName _, _, hx | .setSection _, _, hx | .setStages _, _, hx | .setPasses _, _, hx
  | .setApplicability _, _, hx | .setRequirement _, _, hx | .setPrefixNames _, _, hx
  | .createPresence _, _, hx | .fail _, _, hx | .stop, _, hx => by
    rw [creations_of_plain (by simp) (by simp)] at hx
    cases hx

/-- What is made in a scope is under its identifier. -/
theorem under_creations {s : Scope} (h : s.ident ≠ "") : ∀ (steps : List Step) {x : Creation},
    x ∈ creations s steps → Under s.ident x.identifier ∧ x.identifier ≠ s.ident
  | [], _, hx => by
    rw [creations_nil] at hx
    cases hx
  | step :: steps, x, hx => by
    rw [creations_cons] at hx
    rcases List.mem_append.mp hx with hx | hx
    · exact step.under_creations h hx
    · rw [← ident_next s step] at h ⊢
      exact under_creations h steps hx

end

/-! ## Runs -/

namespace Compiler

variable {σ : Type} {c d e : Compiler σ} {ks ls : List (Call σ)} {xs ys : List Creation}
  {t u : Scope} {strict : Bool}

/-- Between two moments the innermost scope has become `t`, and what was offered and recorded are
the rules `xs`, as far as they apply. Besides them, rules that demand nothing may be offered. -/
structure Reads (c : Compiler σ) (xs : List Creation) (t : Scope) (ks : List (Call σ))
    (d : Compiler σ) : Prop where
  stack : d.stack = t :: c.outer.map Scope.bare
  indexed : ks.filterMap Call.indexed = (xs.filter (·.applies c.settings)).map Creation.indexed
  offered : List.Forall₂ Creation.IsOffered xs ((offered ks).filter (·.spec.demands))

theorem offered_append : Compiler.offered (ks ++ ls) = Compiler.offered ks ++ Compiler.offered ls :=
  List.filterMap_append

theorem Reads.trans (h : Reads c xs t ks d) (h' : Reads d ys u ls e)
    (hsettings : d.settings = c.settings) : Reads c (xs ++ ys) u (ks ++ ls) e where
  stack := (List.cons.inj h.stack).2 ▸ h'.stack
  indexed := by
    rw [List.filterMap_append, h.indexed, h'.indexed, hsettings, List.filter_append,
      List.map_append]
  offered := by
    rw [offered_append, List.filter_append]
    exact List.rel_append h.offered h'.offered

theorem Reads.nil (c : Compiler σ) : Reads c [] c.top.bare [] c := ⟨rfl, rfl, .nil⟩

theorem offered_singleton (k : Call σ) :
    Compiler.offered [k] = (k.before.offerOf k.step).toList := by
  rw [Compiler.offered, List.filterMap_cons]
  cases k.before.offerOf k.step <;> rfl

/-- A call that makes no rule for a requirement. -/
theorem reads_quiet {k : Call σ} (hstack : k.after.stack = t :: k.before.outer.map Scope.bare)
    (hindexed : k.indexed = none)
    (hoffer : ∀ o, k.before.offerOf k.step = some o → o.spec.demands = false) :
    Reads k.before [] t [k] k.after := by
  have hnone : (Compiler.offered [k]).filter (·.spec.demands) = [] := by
    rw [offered_singleton, List.filter_eq_nil_iff]
    exact fun o ho => Bool.eq_false_iff.mp (hoffer o (Option.mem_toList.mp ho))
  exact ⟨hstack, by simp [hindexed], hnone ▸ .nil⟩

/-- What a call does can be read off its step. -/
theorem reads_call {k : Call σ} (htaken : k.Taken) (hsound : k.before.Sound) :
    Reads k.before (k.step.creations k.before.top.bare) (k.step.next k.before.top.bare) [k]
      k.after := by
  rcases Call.cases htaken with ⟨f, hf, hresult, hafter⟩ | ⟨hstep, hresult, hafter⟩ |
    ⟨reason, quiet, hstep, hresult, hafter⟩ | ⟨rule, record, hmakes, hresult, hafter⟩ |
    ⟨fault, hstep, hresult, hafter⟩
  · rw [creations_setter hf, Step.next_setter hf]
    exact reads_quiet (hafter ▸ stack_mapTop hf _) (by simp [Call.indexed, hresult])
      fun o ho => by rw [offerOf_setter hf] at ho; cases ho
  · rw [hstep, creations_of_plain (by simp) (by simp)]
    exact reads_quiet (hafter ▸ stack_generateIdentifier _) (by simp [Call.indexed, hresult])
      fun o ho => by rw [hstep] at ho; cases ho
  · rw [hstep, creations_of_plain (by simp) (by simp)]
    exact reads_quiet (hafter ▸ stack_skip _ reason quiet) (by simp [Call.indexed, hresult])
      fun o ho => by rw [hstep] at ho; cases ho
  · have hstack : k.after.stack =
        k.before.top.bare.advance.2 :: k.before.outer.map Scope.bare := by
      rw [hafter]
      exact hsound.stack_make
    have hmade := (hsound.make_eq rule record).1
    rw [hmade] at hresult
    have hoffer := offerOf_of_makes (c := k.before) hmakes
    generalize hstep : k.step = step at hmakes hoffer
    cases hmakes with
    | createPresence applicability =>
      rw [creations_of_plain (by simp) (by simp)]
      refine reads_quiet hstack (by simp [Call.indexed, hstep]) fun o ho => ?_
      rw [hstep, hoffer] at ho
      obtain rfl := Option.some.inj ho
      rfl
    | create applicability requirement title =>
      rw [creations_create]
      have hisOffered : Creation.IsOffered ⟨k.before.top.bare, applicability, requirement⟩
          (k.before.offer (titledRule applicability requirement title)) :=
        ⟨⟨rfl, rfl, rfl⟩, rfl, rfl⟩
      refine ⟨hstack, ?_, ?_⟩
      · have happlies : Creation.applies k.before.settings
            ⟨k.before.top.bare, applicability, requirement⟩ = k.before.isApplicable := rfl
        cases happ : k.before.isApplicable with
        | false =>
          rw [happ] at hresult
          rw [List.filter_cons_of_neg (by simp [happlies, happ])]
          simp [Call.indexed, hresult]
        | true =>
          rw [happ] at hresult
          rw [List.filter_cons_of_pos (by simp [happlies, happ])]
          simp only [Call.indexed, hstep, hresult, List.filterMap_cons, List.filterMap_nil]
          rfl
      · rw [offered_singleton, hstep, hoffer]
        exact .cons hisOffered .nil
  · rw [hstep, creations_of_plain (by simp) (by simp)]
    exact reads_quiet (by rw [hafter]; rfl) (by simp [Call.indexed, hresult])
      fun o ho => by rw [hstep] at ho; cases ho

/-- What a step does in a run that goes on behind it can be read off the step. -/
def StepReads (strict : Bool) (c : Compiler σ) (step : Step) : Prop :=
  (takeStep strict c step).2.2 = none → Reads c (step.creations c.top.bare) (step.next c.top.bare)
    ((takeStep strict c step).1.elim [] (callsOf c step)) (takeStep strict c step).2.1

/-- What a program does that is run to its end can be read off its steps. -/
def RunReads (strict : Bool) (c : Compiler σ) (steps : List Step) : Prop :=
  (takeSteps strict c steps).2.2 = none → Reads c (creations c.top.bare steps)
    (steps.foldl Step.next c.top.bare) (calls c steps (takeSteps strict c steps).1)
    (takeSteps strict c steps).2.1

theorem stepReads_of_result {step : Step} {result : StepResult} {halt : Option Halt}
    (hc : c.Sound) (h : takeStep strict c step = (some (.step result d), d, halt)) :
    StepReads strict c step := by
  intro _
  rw [h, Option.elim_some, callsOf_step]
  exact reads_call (k := ⟨c, step, result, d⟩) ⟨strict, halt, h⟩ hc

theorem stepReads_scope {kind : ScopeKind} {name : String} {body : List Step}
    (hbody : RunReads strict (c.openKind kind name) body) :
    StepReads strict c (.scope kind name body) := by
  intro hhalt
  rw [takeStep_scope] at hhalt
  obtain ⟨hstack, hindexed, hoffered⟩ := hbody hhalt
  rw [takeStep_scope, Option.elim_some, callsOf_scope, creations_scope]
  refine ⟨?_, hindexed, hoffered⟩
  have houter := (List.cons.inj hstack).2
  have hopened : (takeSteps strict (c.openKind kind name) body).2.1.outer ≠ [] := by
    intro h
    rw [h] at houter
    cases houter
  exact (stack_closeScope hopened).trans houter

theorem runReads_cons {step : Step} {steps : List Step} (hc : c.Sound)
    (hstep : StepReads strict c step)
    (hsteps : ∀ d : Compiler σ, d.Sound → RunReads strict d steps) :
    RunReads strict c (step :: steps) := by
  intro hhalt
  obtain ⟨hsound, _, _, _, hadvance, -⟩ := (trace_takeStep strict c step).tracks tracks_files hc
  have hone := exists_outcome strict c step
  rcases htake : takeStep strict c step with ⟨o, d, halt⟩
  rw [StepReads, htake] at hstep
  rw [htake] at hsound hadvance hone
  cases halt with
  | some halt =>
    rw [takeSteps_cons_halted htake] at hhalt
    cases hhalt
  | none =>
    obtain ⟨o, rfl⟩ := hone rfl
    rw [takeSteps_cons htake] at hhalt ⊢
    have hfirst := hstep rfl
    have hrest := hsteps d hsound hhalt
    have htop : d.top.bare = step.next c.top.bare := (List.cons.inj hfirst.stack).1
    rw [htop] at hrest
    simp only [creations_cons, List.foldl_cons, Option.toList_some, List.singleton_append,
      calls_cons, after_takeStep htake]
    exact hfirst.trans hrest (settings_of_setup hadvance.setup)

mutual

theorem reads_takeStep {σ : Type} (strict : Bool) {c : Compiler σ} (hc : c.Sound) :
    ∀ step, StepReads strict c step
  | .pass => stepReads_of_result hc rfl
  | .setTag _ => stepReads_of_result hc rfl
  | .setName _ => stepReads_of_result hc rfl
  | .setSection _ => stepReads_of_result hc rfl
  | .setStages _ => stepReads_of_result hc rfl
  | .setPasses _ => stepReads_of_result hc rfl
  | .setApplicability _ => stepReads_of_result hc rfl
  | .setRequirement _ => stepReads_of_result hc rfl
  | .setPrefixNames _ => stepReads_of_result hc rfl
  | .identifier => stepReads_of_result hc rfl
  | .skip _ _ => stepReads_of_result hc rfl
  | .create _ _ _ => stepReads_of_result hc rfl
  | .createPresence _ => stepReads_of_result hc rfl
  | .fail _ => stepReads_of_result hc rfl
  | .stop => fun h => by cases h
  | .scope kind name body => stepReads_scope (reads_takeSteps strict (hc.openKind kind name) body)

/-- **The rules of a program can be read off its steps.** A run that takes all of them offers and
records the rules that `creations` reads. -/
theorem reads_takeSteps {σ : Type} (strict : Bool) {c : Compiler σ} (hc : c.Sound) :
    ∀ steps, RunReads strict c steps
  | [] => fun _ => by
    rw [takeSteps, calls_nil_left, creations_nil]
    exact .nil c
  | step :: steps => runReads_cons hc (reads_takeStep strict hc step) fun _ hd =>
      reads_takeSteps strict hd steps

end

/-! ## Runs that end early -/

/-- The end of a program is the end of one of its steps. -/
theorem exists_of_halt {steps : List Step} {halt : Halt}
    (h : (takeSteps strict c steps).2.2 = some halt) :
    ∃ step ∈ steps, ∃ d : Compiler σ, (takeStep strict d step).2.2 = some halt := by
  induction steps generalizing c with
  | nil => cases h
  | cons step steps ih =>
    have hone := exists_outcome strict c step
    rcases htake : takeStep strict c step with ⟨o, d, halt'⟩
    rw [htake] at hone
    cases halt' with
    | some halt' =>
      rw [takeSteps_cons_halted htake] at h
      exact ⟨step, List.mem_cons_self, c, by rw [htake]; exact h⟩
    | none =>
      obtain ⟨o, rfl⟩ := hone rfl
      rw [takeSteps_cons htake] at h
      obtain ⟨later, hlater, hend⟩ := ih h
      exact ⟨later, List.mem_cons_of_mem step hlater, hend⟩

theorem haltAt_ne_stopped (strict : Bool) (result : Except Fault (Option String)) :
    haltAt strict result ≠ some .stopped := by
  cases result <;> cases strict <;> simp [haltAt]

theorem halt_step_ne_stopped {P : FacetGroup → Requirement → Prop} {step : Step}
    (h : step.Only P) (strict : Bool) (c : Compiler σ) :
    (takeStep strict c step).2.2 ≠ some .stopped := by
  induction h generalizing c with
  | create hP =>
    rw [takesRule_create]
    exact haltAt_ne_stopped strict _
  | @scope kind name body _ ih =>
    intro hend
    rw [takeStep_scope] at hend
    obtain ⟨inner, hinner, d, hstopped⟩ := exists_of_halt hend
    exact ih inner hinner d hstopped
  | @plain step hstop hcreate hpresence hscope =>
    cases step with
    | stop => exact absurd rfl hstop
    | create a r title => exact absurd rfl (hcreate a r title)
    | createPresence a => exact absurd rfl (hpresence a)
    | scope kind name body => exact absurd rfl (hscope kind name body)
    | fail fault => exact haltAt_ne_stopped strict (.error fault)
    | _ => exact fun hend => by cases hend

/-- A program without a step that ends it takes all of its steps, or some rule cannot be made. -/
theorem halt_ne_stopped {P : FacetGroup → Requirement → Prop} {steps : List Step}
    (h : ∀ step ∈ steps, step.Only P) (strict : Bool) (c : Compiler σ) :
    (takeSteps strict c steps).2.2 ≠ some .stopped := by
  intro hend
  obtain ⟨step, hstep, d, hstopped⟩ := exists_of_halt hend
  exact halt_step_ne_stopped (h step hstep) strict d hstopped

theorem stepHolds_demands {P : FacetGroup → Requirement → Prop} {step : Step} (h : step.Only P) :
    StepHolds σ strict (fun _ => True) (·.spec.demands = true) step := by
  induction h with
  | create _ =>
    refine stepHolds_of_ne_scope (by simp) (fun _ _ _ _ => trivial) (fun _ _ => trivial)
      fun c _ o ho => ?_
    cases ho
    rfl
  | scope _ ih =>
    exact stepHolds_scope (R := fun _ => True) (fun _ _ => trivial) (fun _ _ => trivial)
      (runHolds_of_forall ih)
  | @plain step _ hcreate hpresence hscope =>
    refine stepHolds_of_ne_scope hscope (fun _ _ _ _ => trivial) (fun _ _ => trivial)
      fun c _ o ho => ?_
    cases step with
    | create a r title => exact absurd rfl (hcreate a r title)
    | createPresence a => exact absurd rfl (hpresence a)
    | _ => cases ho

/-- All rules that a program with rules for requirements alone offers demand something. -/
theorem demands_offers {P : FacetGroup → Requirement → Prop} {steps : List Step}
    (h : ∀ step ∈ steps, step.Only P) (hc : c.Sound) :
    ∀ o ∈ offers strict c steps, o.spec.demands = true :=
  (runHolds_of_forall (fun step hstep => stepHolds_demands (h step hstep)) c hc trivial).1

end Compiler

/-! ## Rules that cannot be made -/

mutual

/-- The rules among a step that cannot be made. -/
def Step.failures : Step → List Fault
  | .fail fault => [fault]
  | .scope _ _ body => failures body
  | _ => []

/-- The rules of a program that cannot be made. -/
def failures : List Step → List Fault
  | [] => []
  | step :: steps => step.failures ++ failures steps

end

theorem failures_cons (step : Step) (steps : List Step) :
    failures (step :: steps) = step.failures ++ failures steps := rfl

theorem failures_fail (fault : Fault) : (Step.fail fault).failures = [fault] := rfl

theorem failures_scope (kind : ScopeKind) (name : String) (body : List Step) :
    (Step.scope kind name body).failures = failures body := rfl

theorem failures_eq_nil_of_mem (h : failures steps = []) (hstep : step ∈ steps) :
    step.failures = [] := by
  induction steps with
  | nil => cases hstep
  | cons first steps ih =>
    rw [failures_cons, List.append_eq_nil_iff] at h
    rcases List.mem_cons.mp hstep with rfl | hstep
    · exact h.1
    · exact ih h.2 hstep

/-- In a program without failures every selection can be made. -/
theorem exists_of_failures_about {selection : Except Fault FacetGroup}
    {steps : FacetGroup → List Step} (h : failures (Step.about selection steps) = []) :
    ∃ a, selection = .ok a := by
  cases selection with
  | ok a => exact ⟨a, rfl⟩
  | error fault =>
    rw [Step.about, failures_cons, failures_fail] at h
    cases h

namespace Compiler

variable {σ : Type}

mutual

theorem failures_eq_nil_of_takeStep {σ : Type} (c : Compiler σ) :
    ∀ step : Step, (takeStep true c step).2.2 = none → step.failures = []
  | .fail _, h => by cases h
  | .scope kind name body, h => by
    rw [failures_scope]
    rw [takeStep_scope] at h
    exact failures_eq_nil (c.openKind kind name) body h
  | .pass, _ | .identifier, _ | .skip .., _ | .setTag _, _ | .setName _, _ | .setSection _, _
  | .setStages _, _ | .setPasses _, _ | .setApplicability _, _ | .setRequirement _, _
  | .setPrefixNames _, _ | .create .., _ | .createPresence _, _ | .stop, _ => by
    rw [Step.failures] <;> simp

/-- A strict run that takes all steps comes to no rule that cannot be made. -/
theorem failures_eq_nil {σ : Type} (c : Compiler σ) :
    ∀ steps : List Step, (takeSteps true c steps).2.2 = none → failures steps = []
  | [], _ => by rw [failures]
  | step :: steps, h => by
    have hone := exists_outcome true c step
    have hstep := failures_eq_nil_of_takeStep c step
    rcases htake : takeStep true c step with ⟨o, d, halt⟩
    rw [htake] at hone hstep
    cases halt with
    | some halt =>
      rw [takeSteps_cons_halted htake] at h
      cases h
    | none =>
      obtain ⟨o, rfl⟩ := hone rfl
      rw [takeSteps_cons htake] at h
      rw [failures_cons, hstep rfl, failures_eq_nil d steps h, List.append_nil]

end

mutual

theorem halt_takeStep_ne_failed {σ : Type} {c : Compiler σ} (hc : c.Sound) (fault : Fault) :
    ∀ step : Step, step.failures = [] → (takeStep true c step).2.2 ≠ some (.failed fault)
  | .create applicability requirement title, _ => by
    rw [takesRule_create, (hc.make_eq _ _).1]
    exact nofun
  | .createPresence applicability, _ => by
    rw [takesRule_createPresence, (hc.make_eq _ _).1]
    exact nofun
  | .scope kind name body, h => by
    rw [failures_scope] at h
    rw [takeStep_scope]
    exact halt_ne_failed (hc.openKind kind name) fault body h
  | .fail other, h => by
    rw [failures_fail] at h
    cases h
  | .pass, _ | .identifier, _ | .skip .., _ | .setTag _, _ | .setName _, _ | .setSection _, _
  | .setStages _, _ | .setPasses _, _ | .setApplicability _, _ | .setRequirement _, _
  | .setPrefixNames _, _ | .stop, _ => nofun

/-- A run of a program whose rules can all be made never fails. -/
theorem halt_ne_failed {σ : Type} {c : Compiler σ} (hc : c.Sound) (fault : Fault) :
    ∀ steps : List Step, failures steps = [] →
      (takeSteps true c steps).2.2 ≠ some (.failed fault)
  | [], _ => nofun
  | step :: steps, h => by
    rw [failures_cons, List.append_eq_nil_iff] at h
    have hone := exists_outcome true c step
    have hstep := halt_takeStep_ne_failed hc fault step h.1
    obtain ⟨hsound, -⟩ := (trace_takeStep true c step).tracks tracks_files hc
    rcases htake : takeStep true c step with ⟨o, d, halt⟩
    rw [htake] at hone hstep hsound
    cases halt with
    | some halt =>
      rw [takeSteps_cons_halted htake]
      exact hstep
    | none =>
      obtain ⟨o, rfl⟩ := hone rfl
      rw [takeSteps_cons htake]
      exact halt_ne_failed hsound fault steps h.2

end

/-! ## What is compiled in the end -/

end Compiler

/-- The rules that were made for requirements are the given ones: they are recorded, and they are
those of the specifications that demand something, in order. -/
structure CompiledRules.Holds (rules : CompiledRules) (xs : List Creation) : Prop where
  index : rules.index.Records (xs.map Creation.indexed)
  made : List.Forall₂ Creation.Gives xs (rules.specifications.filter (·.demands))

theorem CompiledRules.Holds.specifications {rules : CompiledRules} {xs : List Creation}
    (h : rules.Holds xs) : ∀ x ∈ xs, ∃ spec ∈ rules.specifications, x.Gives spec := by
  intro x hx
  obtain ⟨spec, hspec, hgives⟩ := exists_of_mem_left h.made hx
  exact ⟨spec, List.mem_of_mem_filter hspec, hgives⟩

namespace Compiler

variable {σ : Type} {c : Compiler σ} {settings : CompilerSettings} {catalog : Catalog}
  {template : GroupMetadata} {sink : Sink σ} {st : σ}

/-- What a run to the end of a program gives, if all rules are in one group and stay as they
are, are the rules that apply of those that can be read off the program. -/
theorem holds_finish (h : start settings catalog template sink st = .ok c) (hsink : sink.Reliable)
    (hscope : settings.oneFilePerScope = false) (hgroup : settings.groupByApplicability = false)
    {strict : Bool} {steps : List Step} (hall : (takeSteps strict c steps).2.2 = none)
    {rules : CompiledRules} (hfinish : (takeSteps strict c steps).2.1.finish.1 = .ok rules) :
    rules.Holds ((creations Scope.root.bare steps).filter (·.applies settings)) := by
  have hreads := reads_takeSteps strict (sound_start h hsink) steps hall
  have htop : c.top.bare = Scope.root.bare := by rw [eq_of_start h]
  rw [htop] at hreads
  obtain ⟨rules', hfinish', -, hindex, -⟩ := finish_takeSteps h hsink strict steps
  obtain ⟨rules'', hfinish'', hspecifications⟩ :=
    finish_offers h hsink hscope hgroup strict steps
  obtain rfl := Except.ok.inj (hfinish.symm.trans hfinish')
  obtain rfl := Except.ok.inj (hfinish.symm.trans hfinish'')
  refine ⟨?_, ?_⟩
  · have hrecords := records_trace (trace_takeSteps strict c steps) (sound_start h hsink)
      (index_start h ▸ RuleIndex.records_empty)
    rwa [hreads.indexed, (fresh_start h).1, ← hindex] at hrecords
  · have happlies := forall₂_filter hreads.offered (p := (·.applies settings))
      (q := (·.applies settings)) fun x o hoffered => (hoffered.applies settings).symm
    rw [List.filter_comm] at happlies
    rw [hspecifications, List.filter_map, List.forall₂_map_right_iff]
    exact happlies.imp fun _ _ => Creation.IsOffered.toGives

/-- If all rules of the program are for requirements, nothing else is compiled. -/
theorem demands_finish (h : start settings catalog template sink st = .ok c) (hsink : sink.Reliable)
    (hscope : settings.oneFilePerScope = false) (hgroup : settings.groupByApplicability = false)
    {strict : Bool} {P : FacetGroup → Requirement → Prop} {steps : List Step}
    (honly : ∀ step ∈ steps, step.Only P) {rules : CompiledRules}
    (hfinish : (takeSteps strict c steps).2.1.finish.1 = .ok rules) :
    ∀ spec ∈ rules.specifications, spec.demands = true := by
  obtain ⟨rules', hfinish', hspecifications⟩ := finish_offers h hsink hscope hgroup strict steps
  obtain rfl := Except.ok.inj (hfinish.symm.trans hfinish')
  rw [hspecifications, List.forall_mem_map]
  exact fun o ho => demands_offers honly (sound_start h hsink) o (List.mem_of_mem_filter ho)

end Compiler

end Eir
