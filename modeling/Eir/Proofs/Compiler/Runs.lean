import Eir.Proofs.Compiler.Steps
import Mathlib.Data.List.Forall2

/-!
# From operations to runs

`emitted` reads off a run which rules were made, each with the scope that made
it. Two principles carry what the operations of a compiler keep over to whole
runs, so that no result about runs has to go through the steps again. `Tracks` is
for one run: a relation of an earlier compilation, the rules made since, and a
later compilation. `Lockstep` is for two runs of one program.
-/

namespace Eir

/-- A rule that was made, and where. -/
structure Emission where
  location : SpecLocation
  spec : Specification

/-- The steps in a scope. -/
def Step.body : Step → List Step
  | scope _ _ body => body
  | _ => []

namespace Outcome

variable {σ : Type}

/-- The compilation after a step. -/
def after : Outcome σ → Compiler σ
  | step _ after | scope _ _ after => after

mutual

/-- The compilations that a step goes through, in order. -/
def moments : Outcome σ → List (Compiler σ)
  | step _ after => [after]
  | scope opened inner after => opened :: momentsOf inner ++ [after]

/-- The compilations that a program goes through, in order. -/
def momentsOf : List (Outcome σ) → List (Compiler σ)
  | [] => []
  | o :: os => o.moments ++ momentsOf os

end

end Outcome

namespace Compiler

variable {σ τ : Type}

/-- Where the innermost scope makes rules. -/
def location (c : Compiler σ) : SpecLocation := ⟨c.settings.stage, c.top.fullPrefix⟩

/-- What was made of a rule, by the result of making it. -/
def emission (c : Compiler σ) (rule : Compiler σ → String → Specification) :
    Except Fault (Option String) → List Emission
  | .ok (some identifier) => [⟨c.location, rule c identifier⟩]
  | _ => []

/-- What a step that is no scope made in the compilation `c`. -/
def made (c : Compiler σ) : Step → StepResult → List Emission
  | .create applicability requirement title, .rule result =>
    c.emission (titledRule applicability requirement title) result
  | .createPresence applicability, .rule result => c.emission (presenceRule applicability) result
  | _, _ => []

mutual

/-- The rules that a step made in the compilation `c`, in order. -/
def emittedBy (c : Compiler σ) (step : Step) : Outcome σ → List Emission
  | .step result _ => c.made step result
  | .scope opened inner _ => emitted opened step.body inner

/-- The rules that a program made in the compilation `c`, in order. -/
def emitted (c : Compiler σ) : List Step → List (Outcome σ) → List Emission
  | step :: steps, outcome :: outcomes =>
    emittedBy c step outcome ++ emitted outcome.after steps outcomes
  | _, _ => []

end

theorem emitted_nil_left (c : Compiler σ) (outcomes : List (Outcome σ)) :
    emitted c [] outcomes = [] := by
  cases outcomes <;> rfl

theorem emitted_nil_right (c : Compiler σ) (steps : List Step) : emitted c steps [] = [] := by
  cases steps <;> rfl

theorem emitted_cons (c : Compiler σ) (step : Step) (steps : List Step) (outcome : Outcome σ)
    (outcomes : List (Outcome σ)) : emitted c (step :: steps) (outcome :: outcomes) =
      emittedBy c step outcome ++ emitted outcome.after steps outcomes := rfl

theorem emittedBy_scope (c : Compiler σ) (step : Step) (opened : Compiler σ)
    (inner : List (Outcome σ)) (after : Compiler σ) :
    emittedBy c step (.scope opened inner after) = emitted opened step.body inner := rfl

theorem emittedBy_step (c : Compiler σ) (step : Step) (result : StepResult) (after : Compiler σ) :
    emittedBy c step (.step result after) = c.made step result := rfl

theorem made_nothing (c : Compiler σ) (step : Step) : c.made step .nothing = [] := by
  cases step <;> rfl

/-- The outcome of a step ends with the compilation after it. -/
theorem after_takeStep {strict : Bool} {c d : Compiler σ} {step : Step} {o : Outcome σ}
    {halt : Option Halt} (h : takeStep strict c step = (some o, d, halt)) : o.after = d := by
  cases step <;> cases h <;> rfl

/-- A rule that does not change while it is made. -/
def Steady (rule : Compiler σ → String → Specification) : Prop :=
  ∀ c record identifier, rule (prepared c record) identifier = rule c identifier

theorem steady_titledRule (applicability : FacetGroup) (requirement : Requirement)
    (title : Option String) : Steady (σ := σ) (titledRule applicability requirement title) :=
  fun _ _ _ => rfl

theorem steady_presenceRule (applicability : FacetGroup) :
    Steady (σ := σ) (presenceRule applicability) :=
  fun _ _ _ => rfl

/-! ## One run -/

/-- The relation holds from before to after each operation, with the rules that the operation
makes, and can be put together. -/
structure Tracks (R : Compiler σ → List Emission → Compiler σ → Prop) : Prop where
  refl (c) : R c [] c
  trans {c d e es fs} : R c es d → R d fs e → R c (es ++ fs) e
  mapTop (c) {step : Step} {f} : step.setter? = some f → R c [] (c.mapTop f)
  generateIdentifier (c) : R c [] c.generateIdentifier.2
  skip (c reason quiet) : R c [] (c.skip reason quiet)
  make (c) {rule} (record) : Steady rule →
    R c (c.emission rule (c.make rule record).1) (c.make rule record).2
  openKind (c kind name) : R c [] (c.openKind kind name)
  closeScope (c) : R c [] c.closeScope

/-- `m` lies between `c` and `d`: some of the rules were made before it and the others after it. -/
def Between (R : Compiler σ → List Emission → Compiler σ → Prop) (c : Compiler σ)
    (es : List Emission) (d m : Compiler σ) : Prop :=
  ∃ fs gs, es = fs ++ gs ∧ R c fs m ∧ R m gs d

/-- What happens from `c` to `d`, and at each of the moments on the way. -/
structure Path (R : Compiler σ → List Emission → Compiler σ → Prop) (c : Compiler σ)
    (es : List Emission) (moments : List (Compiler σ)) (d : Compiler σ) : Prop where
  whole : R c es d
  between : ∀ m ∈ moments, Between R c es d m
  ordered : moments.Pairwise fun m m' => ∃ fs, R m fs m'

section Tracks

variable {R : Compiler σ → List Emission → Compiler σ → Prop} {c d e : Compiler σ}
  {es fs : List Emission} {ms ns : List (Compiler σ)} {strict : Bool} {step : Step}
  {steps : List Step}

theorem Tracks.nil (hR : Tracks R) (c : Compiler σ) : Path R c [] [] c :=
  ⟨hR.refl c, (fun _ hm => by cases hm), .nil⟩

/-- A path of one operation. -/
theorem Tracks.single (hR : Tracks R) (h : R c es d) : Path R c es [d] d := by
  refine ⟨h, fun m hm => ?_, List.pairwise_singleton ..⟩
  rw [List.mem_singleton.mp hm]
  exact ⟨es, [], (List.append_nil es).symm, h, hR.refl d⟩

theorem Tracks.append (hR : Tracks R) (h : Path R c es ms d) (h' : Path R d fs ns e) :
    Path R c (es ++ fs) (ms ++ ns) e := by
  refine ⟨hR.trans h.whole h'.whole, fun m hm => ?_, ?_⟩
  · rcases List.mem_append.mp hm with hm | hm
    · obtain ⟨xs, ys, rfl, hx, hy⟩ := h.between m hm
      exact ⟨xs, ys ++ fs, List.append_assoc .., hx, hR.trans hy h'.whole⟩
    · obtain ⟨xs, ys, rfl, hx, hy⟩ := h'.between m hm
      exact ⟨es ++ xs, ys, (List.append_assoc ..).symm, hR.trans h.whole hx, hy⟩
  · refine List.pairwise_append.mpr ⟨h.ordered, h'.ordered, fun m hm n hn => ?_⟩
    obtain ⟨-, ys, -, -, hy⟩ := h.between m hm
    obtain ⟨xs, -, -, hx, -⟩ := h'.between n hn
    exact ⟨ys ++ xs, hR.trans hy hx⟩

/-- The path of one step of a run. -/
def StepPath (R : Compiler σ → List Emission → Compiler σ → Prop) (strict : Bool)
    (c : Compiler σ) (step : Step) : Prop :=
  Path R c ((takeStep strict c step).1.elim [] (emittedBy c step))
    ((takeStep strict c step).1.elim [] Outcome.moments) (takeStep strict c step).2.1

/-- The path of a run. -/
def RunPath (R : Compiler σ → List Emission → Compiler σ → Prop) (strict : Bool)
    (c : Compiler σ) (steps : List Step) : Prop :=
  Path R c (emitted c steps (takeSteps strict c steps).1)
    (Outcome.momentsOf (takeSteps strict c steps).1) (takeSteps strict c steps).2.1

theorem Tracks.result (hR : Tracks R) {result : StepResult} {halt : Option Halt}
    (htake : takeStep strict c step = (some (.step result d), d, halt))
    (h : R c (c.made step result) d) : StepPath R strict c step := by
  have hmoments : (Outcome.step result d).moments = [d] := by simp [Outcome.moments]
  rw [StepPath, htake, Option.elim_some, Option.elim_some, emittedBy_step, hmoments]
  exact hR.single h

theorem Tracks.setter (hR : Tracks R) {f : Scope → Scope} (hf : step.setter? = some f) :
    StepPath R strict c step :=
  hR.result (takeStep_setter hf strict c) (by rw [made_nothing]; exact hR.mapTop c hf)

theorem Tracks.rule (hR : Tracks R) {rule : Compiler σ → String → Specification}
    {record : RuleIndex → String → RuleIndex} (hrule : Steady rule)
    (htake : TakesRule strict c step rule record)
    (hmade : ∀ result, c.made step (.rule result) = c.emission rule result) :
    StepPath R strict c step :=
  hR.result htake (by rw [hmade]; exact hR.make c record hrule)

theorem Tracks.scope (hR : Tracks R) {kind : ScopeKind} {name : String}
    (hbody : RunPath R strict (c.openKind kind name) steps) :
    StepPath R strict c (.scope kind name steps) := by
  have hopen := hR.single (hR.openKind c kind name)
  have hclose := hR.single (hR.closeScope (takeSteps strict (c.openKind kind name) steps).2.1)
  have hpath := hR.append (hR.append hopen hbody) hclose
  rw [List.nil_append, List.append_nil] at hpath
  rw [StepPath, takeStep_scope, Option.elim_some, Option.elim_some, emittedBy_scope]
  simpa [Outcome.moments, Step.body] using hpath

theorem Tracks.cons (hR : Tracks R) (hstep : StepPath R strict c step)
    (hsteps : ∀ d, RunPath R strict d steps) : RunPath R strict c (step :: steps) := by
  have hone := exists_outcome strict c step
  rw [StepPath] at hstep
  rcases htake : takeStep strict c step with ⟨o, d, halt⟩
  rw [htake] at hstep hone
  cases halt with
  | some halt =>
    rw [RunPath, takeSteps_cons_halted htake]
    cases o with
    | none => rwa [Option.toList_none, emitted_nil_right]
    | some o => simpa [emitted_cons, emitted_nil_right, Outcome.momentsOf] using hstep
  | none =>
    obtain ⟨o, rfl⟩ := hone rfl
    rw [RunPath, takeSteps_cons htake]
    simp only [Option.toList_some, List.singleton_append, emitted_cons, after_takeStep htake,
      Outcome.momentsOf]
    exact hR.append hstep (hsteps d)

mutual

theorem Tracks.takeStep {σ : Type} {R : Compiler σ → List Emission → Compiler σ → Prop}
    (hR : Tracks R) (strict : Bool) (c : Compiler σ) : ∀ step, StepPath R strict c step
  | .pass => hR.setter rfl
  | .setTag _ => hR.setter rfl
  | .setName _ => hR.setter rfl
  | .setSection _ => hR.setter rfl
  | .setStages _ => hR.setter rfl
  | .setPasses _ => hR.setter rfl
  | .setApplicability _ => hR.setter rfl
  | .setRequirement _ => hR.setter rfl
  | .setPrefixNames _ => hR.setter rfl
  | .identifier => hR.result (takeStep_identifier strict c) (hR.generateIdentifier c)
  | .skip reason quiet => hR.result (takeStep_skip strict c reason quiet) (hR.skip c reason quiet)
  | .create applicability requirement title =>
    hR.rule (steady_titledRule applicability requirement title) (takesRule_create ..)
      fun _ => rfl
  | .createPresence applicability =>
    hR.rule (steady_presenceRule applicability) (takesRule_createPresence ..) fun _ => rfl
  | .fail _ => hR.result rfl (hR.refl c)
  | .stop => hR.nil c
  | .scope kind name body => hR.scope (hR.takeSteps strict (c.openKind kind name) body)

/-- What holds of each operation holds of a whole run, and between its moments. -/
theorem Tracks.takeSteps {σ : Type} {R : Compiler σ → List Emission → Compiler σ → Prop}
    (hR : Tracks R) (strict : Bool) (c : Compiler σ) : ∀ steps, RunPath R strict c steps
  | [] => by
    rw [RunPath, Compiler.takeSteps, emitted_nil_right, Outcome.momentsOf]
    exact hR.nil c
  | step :: steps =>
    hR.cons (hR.takeStep strict c step) fun d => hR.takeSteps strict d steps

end

end Tracks

/-! ## Two runs -/

end Compiler

/-- Two runs of a step give the same, and are related at each moment. -/
inductive Outcome.Match {σ τ : Type} (S : Compiler σ → Compiler τ → Prop) :
    Outcome σ → Outcome τ → Prop where
  | step {c : Compiler σ} {d : Compiler τ} {result : StepResult} (after : S c d) :
      Match S (.step result c) (.step result d)
  | scope {opened c : Compiler σ} {opened' d : Compiler τ} {inner : List (Outcome σ)}
      {inner' : List (Outcome τ)} (opening : S opened opened')
      (inside : List.Forall₂ (Match S) inner inner') (after : S c d) :
      Match S (.scope opened inner c) (.scope opened' inner' d)

section Mono

variable {σ τ : Type} {S T : Compiler σ → Compiler τ → Prop}

mutual

theorem Outcome.Match.mono (hle : ∀ {c d}, S c d → T c d) :
    ∀ (o : Outcome σ) {o' : Outcome τ}, Outcome.Match S o o' → Outcome.Match T o o'
  | .step _ _, _, .step hafter => .step (hle hafter)
  | .scope _ inner _, _, .scope hopen hinner hafter =>
    .scope (hle hopen) (Outcome.forall₂_mono hle inner hinner) (hle hafter)

theorem Outcome.forall₂_mono (hle : ∀ {c d}, S c d → T c d) :
    ∀ (os : List (Outcome σ)) {os' : List (Outcome τ)},
      List.Forall₂ (Outcome.Match S) os os' → List.Forall₂ (Outcome.Match T) os os'
  | [], _, .nil => .nil
  | o :: os, _, .cons h hs =>
    .cons (Outcome.Match.mono hle o h) (Outcome.forall₂_mono hle os hs)

end

end Mono

namespace Compiler

variable {σ τ : Type}

/-- Each operation gives the same in both compilations, and keeps them related. -/
structure Lockstep (S : Compiler σ → Compiler τ → Prop) : Prop where
  mapTop {c d} {step : Step} {f} : step.setter? = some f → S c d → S (c.mapTop f) (d.mapTop f)
  generateIdentifier {c d} : S c d → c.generateIdentifier.1 = d.generateIdentifier.1 ∧
    S c.generateIdentifier.2 d.generateIdentifier.2
  skip {c d} (reason quiet) : S c d → S (c.skip reason quiet) (d.skip reason quiet)
  createTitled {c d} (applicability requirement title) : S c d →
    (c.createTitled applicability requirement title).1 =
        (d.createTitled applicability requirement title).1 ∧
      S (c.createTitled applicability requirement title).2
        (d.createTitled applicability requirement title).2
  createPresence {c d} (applicability) : S c d →
    (c.createPresence applicability).1 = (d.createPresence applicability).1 ∧
      S (c.createPresence applicability).2 (d.createPresence applicability).2
  openKind {c d} (kind name) : S c d → S (c.openKind kind name) (d.openKind kind name)
  closeScope {c d} : S c d → S c.closeScope d.closeScope

/-- A step in two runs. -/
structure StepMatch (S : Compiler σ → Compiler τ → Prop) (strict : Bool) (step : Step)
    (c : Compiler σ) (d : Compiler τ) : Prop where
  outcome : Option.Rel (Outcome.Match S) (takeStep strict c step).1 (takeStep strict d step).1
  after : S (takeStep strict c step).2.1 (takeStep strict d step).2.1
  halt : (takeStep strict c step).2.2 = (takeStep strict d step).2.2

/-- A program in two runs. -/
structure RunMatch (S : Compiler σ → Compiler τ → Prop) (strict : Bool) (steps : List Step)
    (c : Compiler σ) (d : Compiler τ) : Prop where
  outcomes : List.Forall₂ (Outcome.Match S) (takeSteps strict c steps).1 (takeSteps strict d steps).1
  after : S (takeSteps strict c steps).2.1 (takeSteps strict d steps).2.1
  halt : (takeSteps strict c steps).2.2 = (takeSteps strict d steps).2.2

section Lockstep

variable {S : Compiler σ → Compiler τ → Prop} {c c' : Compiler σ} {d d' : Compiler τ}
  {strict : Bool} {step : Step} {steps : List Step}

theorem stepMatch_of_result {result : StepResult} {halt : Option Halt}
    (hc : takeStep strict c step = (some (.step result c'), c', halt))
    (hd : takeStep strict d step = (some (.step result d'), d', halt)) (h : S c' d') :
    StepMatch S strict step c d := by
  refine ⟨?_, ?_, ?_⟩
  · rw [hc, hd]
    exact .some (.step h)
  · rwa [hc, hd]
  · rw [hc, hd]

theorem Lockstep.setter (hS : Lockstep S) {f : Scope → Scope} (hf : step.setter? = some f)
    (h : S c d) : StepMatch S strict step c d :=
  stepMatch_of_result (takeStep_setter hf strict c) (takeStep_setter hf strict d) (hS.mapTop hf h)

theorem Lockstep.identifier (hS : Lockstep S) (strict : Bool) (h : S c d) :
    StepMatch S strict .identifier c d := by
  obtain ⟨htext, hafter⟩ := hS.generateIdentifier h
  refine stepMatch_of_result (takeStep_identifier strict c) ?_ hafter
  rw [takeStep_identifier, htext]

/-- A step that makes a rule, with the same result in both runs. -/
theorem stepMatch_of_rule {x : Except Fault (Option String) × Compiler σ}
    {x' : Except Fault (Option String) × Compiler τ}
    (hc : takeStep strict c step = (some (.step (.rule x.1) x.2), x.2, haltAt strict x.1))
    (hd : takeStep strict d step = (some (.step (.rule x'.1) x'.2), x'.2, haltAt strict x'.1))
    (h : x.1 = x'.1 ∧ S x.2 x'.2) : StepMatch S strict step c d := by
  rw [← h.1] at hd
  exact stepMatch_of_result hc hd h.2

theorem Lockstep.scope (hS : Lockstep S) {kind : ScopeKind} {name : String} (h : S c d)
    (hbody : RunMatch S strict steps (c.openKind kind name) (d.openKind kind name)) :
    StepMatch S strict (.scope kind name steps) c d := by
  have hafter := hS.closeScope hbody.after
  exact ⟨.some (.scope (hS.openKind kind name h) hbody.outcomes hafter), hafter, hbody.halt⟩

theorem Lockstep.cons (hstep : StepMatch S strict step c d)
    (hsteps : ∀ {c' d'}, S c' d' → RunMatch S strict steps c' d') :
    RunMatch S strict (step :: steps) c d := by
  obtain ⟨houtcome, hafter, hhalt⟩ := hstep
  have hone := exists_outcome strict c step
  rcases hc : takeStep strict c step with ⟨o, c', halt⟩
  rcases hd : takeStep strict d step with ⟨o', d', halt'⟩
  rw [hc, hd] at houtcome hafter hhalt
  rw [hc] at hone
  obtain rfl : halt = halt' := hhalt
  cases halt with
  | some halt =>
    refine ⟨?_, ?_, ?_⟩ <;> rw [takeSteps_cons_halted hc, takeSteps_cons_halted hd]
    · cases houtcome with
      | none => exact .nil
      | some hmatch => exact .cons hmatch .nil
    · exact hafter
  | none =>
    obtain ⟨x, rfl⟩ := hone rfl
    cases houtcome with
    | some hmatch =>
      have hrest := hsteps hafter
      refine ⟨?_, ?_, ?_⟩ <;> rw [takeSteps_cons hc, takeSteps_cons hd]
      · exact .cons hmatch hrest.outcomes
      · exact hrest.after
      · exact hrest.halt

mutual

theorem Lockstep.takeStep {σ τ : Type} {S : Compiler σ → Compiler τ → Prop} (hS : Lockstep S)
    (strict : Bool) {c : Compiler σ} {d : Compiler τ} (h : S c d) :
    ∀ step, StepMatch S strict step c d
  | .pass => hS.setter rfl h
  | .setTag _ => hS.setter rfl h
  | .setName _ => hS.setter rfl h
  | .setSection _ => hS.setter rfl h
  | .setStages _ => hS.setter rfl h
  | .setPasses _ => hS.setter rfl h
  | .setApplicability _ => hS.setter rfl h
  | .setRequirement _ => hS.setter rfl h
  | .setPrefixNames _ => hS.setter rfl h
  | .identifier => hS.identifier strict h
  | .skip reason quiet => stepMatch_of_result (takeStep_skip strict c reason quiet)
      (takeStep_skip strict d reason quiet) (hS.skip reason quiet h)
  | .create applicability requirement title =>
    stepMatch_of_rule rfl rfl (hS.createTitled applicability requirement title h)
  | .createPresence applicability =>
    stepMatch_of_rule rfl rfl (hS.createPresence applicability h)
  | .fail _ => stepMatch_of_result rfl rfl h
  | .stop => ⟨.none, h, rfl⟩
  | .scope kind name body =>
    hS.scope h (hS.takeSteps strict (hS.openKind kind name h) body)

/-- What each operation keeps of two compilations is kept by a program in two runs, which give
the same at each step. -/
theorem Lockstep.takeSteps {σ τ : Type} {S : Compiler σ → Compiler τ → Prop} (hS : Lockstep S)
    (strict : Bool) {c : Compiler σ} {d : Compiler τ} (h : S c d) :
    ∀ steps, RunMatch S strict steps c d
  | [] => ⟨.nil, h, rfl⟩
  | step :: steps =>
    Lockstep.cons (hS.takeStep strict h step) fun h' => hS.takeSteps strict h' steps

end

end Lockstep

end Compiler

end Eir
