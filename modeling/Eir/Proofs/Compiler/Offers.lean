import Eir.Proofs.Compiler.Calls
import Eir.Proofs.Compiler.Partition

/-!
# What a program offers

A step that makes a rule offers it: the rule as it stands, with the stages and the
passes of its scope. A run makes those of its offers that apply
(`spec_emissions_trace`). What is offered depends on neither the stage nor the
pass, since slots are used all the same (`offers_eq`). So two passes that have
nothing in common make rules that are an `Interleaving` of those of both passes
together.

`StepHolds` and `RunHolds` carry a property of the innermost scope, and of the
offers made in it, over steps and programs.
-/

namespace Eir

/-! ## Interleavings -/

/-- The last list has the elements of the two others, those of each in order. -/
inductive Interleaving {α : Type} : List α → List α → List α → Prop where
  | nil : Interleaving [] [] []
  | left {x : α} {xs ys zs : List α} : Interleaving xs ys zs → Interleaving (x :: xs) ys (x :: zs)
  | right {y : α} {xs ys zs : List α} : Interleaving xs ys zs → Interleaving xs (y :: ys) (y :: zs)

namespace Interleaving

variable {α β : Type} {xs ys zs : List α}

theorem map (f : α → β) (h : Interleaving xs ys zs) :
    Interleaving (xs.map f) (ys.map f) (zs.map f) := by
  induction h with
  | nil => exact .nil
  | left _ ih => exact .left ih
  | right _ ih => exact .right ih

/-- Two tests that no element passes both of part what passes either. -/
theorem filter {p q r : α → Bool} (h : ∀ x ∈ zs, r x = (p x || q x) ∧ (p x && q x) = false) :
    Interleaving (zs.filter p) (zs.filter q) (zs.filter r) := by
  induction zs with
  | nil => exact .nil
  | cons z zs ih =>
    obtain ⟨heither, hboth⟩ := h z List.mem_cons_self
    have hrest := ih fun x hx => h x (List.mem_cons_of_mem z hx)
    cases hp : p z <;> cases hq : q z <;> rw [hp, hq] at heither hboth <;>
      simp only [List.filter_cons, hp, hq, heither]
    · exact hrest
    · exact .right hrest
    · exact .left hrest
    · cases hboth

end Interleaving

/-! ## Offers -/

/-- A rule as it is offered to a compilation. -/
structure Offer where
  spec : Specification
  stages : StageWindow
  passes : PassSet

/-- A compilation with these settings makes the rule. -/
def Offer.applies (settings : CompilerSettings) (o : Offer) : Bool :=
  o.stages.includes settings.stage && o.passes.meets settings.pass

namespace Compiler

variable {σ τ : Type} {c d : Compiler σ} {step : Step} {steps : List Step} {strict : Bool}

/-- The offer of a rule in the innermost scope. -/
def offer (c : Compiler σ) (rule : Compiler σ → String → Specification) : Offer :=
  ⟨rule c c.generateIdentifier.1, c.top.stages, c.top.passes⟩

/-- What a step that is no scope offers. -/
def offerOf (c : Compiler σ) : Step → Option Offer
  | .create applicability requirement title =>
    some (c.offer (titledRule applicability requirement title))
  | .createPresence applicability => some (c.offer (presenceRule applicability))
  | _ => none

theorem offerOf_of_makes {rule : Compiler σ → String → Specification}
    {record : RuleIndex → String → RuleIndex} (h : step.Makes rule record) :
    c.offerOf step = some (c.offer rule) := by
  cases h <;> rfl

theorem offerOf_setter {f : Scope → Scope} (h : step.setter? = some f) : c.offerOf step = none := by
  cases step <;> cases h <;> rfl

/-- A call makes the rule that it offers if the rule applies. -/
theorem spec_emissions {k : Call σ} (htaken : k.Taken) (hsound : k.before.Sound) :
    k.emissions.map (·.spec) =
      ((k.before.offerOf k.step).toList.filter (·.applies k.before.settings)).map (·.spec) := by
  rw [Call.emissions]
  rcases Call.cases htaken with ⟨f, hf, hresult, -⟩ | ⟨hstep, hresult, -⟩ |
    ⟨reason, quiet, hstep, hresult, -⟩ | ⟨rule, record, hmakes, hresult, -⟩ |
    ⟨fault, hstep, hresult, -⟩
  · rw [hresult, made_nothing, offerOf_setter hf]
    rfl
  · rw [hstep]
    rfl
  · rw [hstep]
    rfl
  · rw [hresult, made_of_makes hmakes, offerOf_of_makes hmakes, (hsound.make_eq rule record).1]
    have happ : (k.before.offer rule).applies k.before.settings = k.before.isApplicable := rfl
    cases hcase : k.before.isApplicable with
    | true =>
      rw [Option.toList_some, List.filter_cons_of_pos (happ.trans hcase)]
      rfl
    | false =>
      rw [Option.toList_some, List.filter_cons_of_neg (by simp [happ, hcase])]
      rfl
  · rw [hstep]
    rfl

/-- What calls offered. -/
def offered (ks : List (Call σ)) : List Offer := ks.filterMap fun k => k.before.offerOf k.step

/-- A run makes those of the rules that it offers which apply. -/
theorem spec_emissions_trace {ks : List (Call σ)} (h : Trace c ks d) (hc : c.Sound) :
    (ks.flatMap Call.emissions).map (·.spec) =
      ((offered ks).filter (·.applies c.settings)).map (·.spec) := by
  induction h with
  | nil => rfl
  | @call ks k hbefore htaken ih =>
    obtain ⟨hsound, _, _, _, hadvance, -⟩ := hbefore.tracks tracks_files hc
    have hcall := spec_emissions htaken hsound
    rw [settings_of_setup hadvance.setup] at hcall
    have hone : offered [k] = (k.before.offerOf k.step).toList := by
      rw [offered]
      cases hoffer : k.before.offerOf k.step <;> simp [hoffer]
    have hsplit : offered (ks ++ [k]) = offered ks ++ offered [k] := List.filterMap_append
    rw [hsplit, hone, List.flatMap_append, List.flatMap_singleton, List.map_append, ih, hcall,
      List.filter_append, List.map_append]
  | openKind kind name _ ih => exact ih
  | closeScope _ ih => exact ih

/-- What a step of a run offers. -/
def stepOffers (strict : Bool) (c : Compiler σ) (step : Step) : List Offer :=
  offered ((takeStep strict c step).1.elim [] (callsOf c step))

/-- What a run offers. -/
def offers (strict : Bool) (c : Compiler σ) (steps : List Step) : List Offer :=
  offered (calls c steps (takeSteps strict c steps).1)

theorem stepOffers_scope (strict : Bool) (c : Compiler σ) (kind : ScopeKind) (name : String)
    (body : List Step) :
    stepOffers strict c (.scope kind name body) = offers strict (c.openKind kind name) body := by
  rw [stepOffers, takeStep_scope, Option.elim_some, callsOf_scope]
  rfl

theorem stepOffers_of_result {result : StepResult} {halt : Option Halt}
    (h : takeStep strict c step = (some (.step result d), d, halt)) :
    stepOffers strict c step = (c.offerOf step).toList := by
  rw [stepOffers, h, Option.elim_some, callsOf_step, offered]
  cases hoffer : c.offerOf step <;> simp [hoffer]

theorem offers_nil (strict : Bool) (c : Compiler σ) : offers strict c [] = [] := by
  rw [offers, calls_nil_left]
  rfl

/-- A program offers what its first step does, and what the rest does unless it ends there. -/
theorem offers_cons (strict : Bool) (c : Compiler σ) (step : Step) (steps : List Step) :
    offers strict c (step :: steps) = stepOffers strict c step ++
      if (takeStep strict c step).2.2 = none then offers strict (takeStep strict c step).2.1 steps
      else [] := by
  have hone := exists_outcome strict c step
  rw [stepOffers, offers]
  rcases htake : takeStep strict c step with ⟨o, d, halt⟩
  rw [htake] at hone
  cases halt with
  | some halt =>
    rw [takeSteps_cons_halted htake, if_neg (by simp), List.append_nil]
    cases o with
    | none => rw [Option.toList_none, calls_nil_right]; rfl
    | some o => simp [calls_cons, calls_nil_right]
  | none =>
    obtain ⟨o, rfl⟩ := hone rfl
    rw [takeSteps_cons htake, if_pos rfl, Option.toList_some, List.singleton_append, calls_cons,
      after_takeStep htake, offered, List.filterMap_append]
    rfl

/-! ## Similar runs -/

theorem offer_eq {d : Compiler τ} (h : Similar c d) {rule : Compiler σ → String → Specification}
    {rule' : Compiler τ → String → Specification}
    (hrule : ∀ identifier, rule c identifier = rule' d identifier) :
    c.offer rule = d.offer rule' := by
  have hstages := congrArg Scope.stages h.top
  have hpasses := congrArg Scope.passes h.top
  simp only [Scope.bare] at hstages hpasses
  rw [offer, offer, hrule, h.identifier, hstages, hpasses]

theorem offerOf_eq {d : Compiler τ} (h : Similar c d) (step : Step) :
    c.offerOf step = d.offerOf step := by
  cases step with
  | create applicability requirement title =>
    exact congrArg some (offer_eq h fun _ => titledRule_eq h applicability requirement title _)
  | createPresence applicability =>
    exact congrArg some (offer_eq h fun _ => presenceRule_eq h applicability _)
  | _ => rfl

/-- Only a scope offers more than one rule. -/
theorem stepOffers_of_ne_scope (hne : ∀ kind name body, step ≠ .scope kind name body) :
    stepOffers strict c step = (c.offerOf step).toList := by
  cases step with
  | scope kind name body => exact absurd rfl (hne kind name body)
  | create => exact stepOffers_of_result (takesRule_create ..)
  | createPresence => exact stepOffers_of_result (takesRule_createPresence ..)
  | _ => rfl

theorem similar_refl (h : c.Sound) : Similar c c := ⟨h, h, rfl, rfl, rfl, rfl⟩

mutual

theorem stepOffers_eq {σ τ : Type} (strict : Bool) {c : Compiler σ} {d : Compiler τ}
    (h : Similar c d) : ∀ step, stepOffers strict c step = stepOffers strict d step
  | .scope kind name body => by
    rw [stepOffers_scope, stepOffers_scope]
    exact offers_eq strict (h.openKind kind name) body
  | .create applicability requirement title => by
    rw [stepOffers_of_ne_scope (by simp), stepOffers_of_ne_scope (by simp), offerOf_eq h]
  | .createPresence applicability => by
    rw [stepOffers_of_ne_scope (by simp), stepOffers_of_ne_scope (by simp), offerOf_eq h]
  | .pass | .identifier | .skip .. | .setTag _ | .setName _ | .setSection _ | .setStages _
  | .setPasses _ | .setApplicability _ | .setRequirement _ | .setPrefixNames _ | .fail _
  | .stop => rfl

/-- Similar runs of a program offer the same, whatever stage and pass they are for. -/
theorem offers_eq {σ τ : Type} (strict : Bool) {c : Compiler σ} {d : Compiler τ}
    (h : Similar c d) : ∀ steps, offers strict c steps = offers strict d steps
  | [] => by rw [offers_nil, offers_nil]
  | step :: steps => by
    have hstep := takeStep_parallel strict h step
    rw [offers_cons, offers_cons, stepOffers_eq strict h step, hstep.halt,
      offers_eq strict hstep.similar steps]

end

/-! ## Properties of the innermost scope -/

/-- A step keeps a property of the innermost scope, and what it offers has another. It leaves
the scopes around alone. -/
def StepHolds (σ : Type) (strict : Bool) (P : Scope → Prop) (Q : Offer → Prop) (step : Step) :
    Prop :=
  ∀ c : Compiler σ, c.Sound → P c.top.bare → (∀ o ∈ stepOffers strict c step, Q o) ∧
    ∃ s, P s ∧ (takeStep strict c step).2.1.stack = s :: c.outer.map Scope.bare

/-- So does a program. -/
def RunHolds (σ : Type) (strict : Bool) (P : Scope → Prop) (Q : Offer → Prop)
    (steps : List Step) : Prop :=
  ∀ c : Compiler σ, c.Sound → P c.top.bare → (∀ o ∈ offers strict c steps, Q o) ∧
    ∃ s, P s ∧ (takeSteps strict c steps).2.1.stack = s :: c.outer.map Scope.bare

variable {P R : Scope → Prop} {Q : Offer → Prop}

/-- A program does what all its steps do. -/
theorem runHolds_of_forall (h : ∀ step ∈ steps, StepHolds σ strict P Q step) :
    RunHolds σ strict P Q steps := by
  induction steps with
  | nil =>
    intro c _ hP
    rw [offers_nil]
    exact ⟨fun o ho => (by cases ho), c.top.bare, hP, rfl⟩
  | cons step steps ih =>
    intro c hc hP
    obtain ⟨hfirst, s, hs, hstack⟩ := h step List.mem_cons_self c hc hP
    have hsound := (takeStep_parallel strict (similar_refl hc) step).similar.left
    rw [offers_cons]
    rcases htake : takeStep strict c step with ⟨o, d, halt⟩
    rw [htake] at hstack hsound
    obtain ⟨htop, houter⟩ := List.cons.inj hstack
    cases halt with
    | some halt =>
      rw [takeSteps_cons_halted htake, if_neg (by simp), List.append_nil]
      exact ⟨hfirst, s, hs, hstack⟩
    | none =>
      obtain ⟨hrest, t, ht, hstack'⟩ :=
        ih (fun x hx => h x (List.mem_cons_of_mem step hx)) d hsound (htop ▸ hs)
      rw [takeSteps_cons htake, if_pos rfl]
      refine ⟨fun x hx => ?_, t, ht, houter ▸ hstack'⟩
      exact (List.mem_append.mp hx).elim (hfirst x) (hrest x)

/-- A step that is no scope sets a field of the innermost one, or uses its next slot. -/
theorem stepHolds_of_ne_scope (hne : ∀ kind name body, step ≠ .scope kind name body)
    (hset : ∀ f, step.setter? = some f → ∀ s, P s → P (f s)) (hadvance : ∀ s, P s → P s.advance.2)
    (hQ : ∀ c : Compiler σ, P c.top.bare → ∀ o ∈ c.offerOf step, Q o) :
    StepHolds σ strict P Q step := by
  intro c hc htop
  refine ⟨fun o ho => ?_, ?_⟩
  · rw [stepOffers_of_ne_scope hne, Option.mem_toList] at ho
    exact hQ c htop o ho
  cases hsetter : step.setter? with
  | some f =>
    rw [takeStep_setter hsetter]
    exact ⟨_, hset f hsetter _ htop, stack_mapTop hsetter c⟩
  | none =>
    have hused := hadvance _ htop
    cases step with
    | identifier => exact ⟨_, hused, stack_generateIdentifier c⟩
    | skip reason quiet => exact ⟨_, hused, c.stack_skip reason quiet⟩
    | create applicability requirement title =>
      rw [takesRule_create strict c applicability requirement title]
      exact ⟨_, hused, hc.stack_make⟩
    | createPresence applicability =>
      rw [takesRule_createPresence strict c applicability]
      exact ⟨_, hused, hc.stack_make⟩
    | fail fault => exact ⟨_, htop, rfl⟩
    | stop => exact ⟨_, htop, rfl⟩
    | scope kind name body => exact absurd rfl (hne kind name body)
    | _ => cases hsetter

/-- A scope, if all goes well in it. -/
theorem stepHolds_scope {kind : ScopeKind} {name : String} {body : List Step}
    (hopen : ∀ s, P s → R (s.openChild name .around).1)
    (haround : ∀ s, P s → P (s.openChild name .around).2)
    (hbody : RunHolds σ strict R Q body) : StepHolds σ strict P Q (.scope kind name body) := by
  intro c hc hP
  have hchild : R (c.openKind kind name).top.bare := hopen c.top.bare hP
  obtain ⟨hinside, s, -, hstack⟩ := hbody (c.openKind kind name) (hc.openKind kind name) hchild
  have houter := (List.cons.inj hstack).2
  rw [stepOffers_scope, takeStep_scope]
  refine ⟨hinside, _, haround _ hP, ?_⟩
  have hopened : (takeSteps strict (c.openKind kind name) body).2.1.outer ≠ [] := by
    intro h
    rw [h] at houter
    cases houter
  exact (stack_closeScope hopened).trans houter

end Compiler

end Eir
