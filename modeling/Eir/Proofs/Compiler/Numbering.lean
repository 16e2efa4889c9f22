import Eir.Proofs.Compiler.Sound
import Eir.Proofs.Compiler.Steps

/-!
# Numbering does not depend on the target

The published numbers of rules are the same for all stages and passes, since a
rule that does not apply uses its slot all the same. Two runs of a program with
different targets are `Similar` after every step: their open scopes differ only in
where they collect rules. So slots get the same identifiers, and a rule that is
made in both runs is the same rule.
-/

namespace Eir

/-- What an open scope says about the numbering in it. -/
structure Place where
  ident : String
  fullPrefix : String
  section_ : Nat
  pendingName : String

def Scope.place (s : Scope) : Place := ⟨s.ident, s.fullPrefix, s.section_, s.pendingName⟩

namespace Compiler

variable {σ τ : Type}

/-- The places of the open scopes, the inner ones first. -/
def places (c : Compiler σ) : List Place := (c.top :: c.outer).map Scope.place

theorem places_eq (c : Compiler σ) : c.places = c.stack.map Scope.place := by
  rw [stack, List.map_map]
  rfl

/-- The results of a step in two runs. Rules that were made in both of them are the same, and
each is the last one of its group. -/
def SameResult (c : Compiler σ) (d : Compiler τ) : StepResult → StepResult → Prop
  | .nothing, .nothing => True
  | .identifier i, .identifier j => i = j
  | .rule (.error f), .rule (.error g) => f = g
  | .rule (.ok a), .rule (.ok b) => ∀ i ∈ a, ∀ j ∈ b, i = j ∧
      ∃ spec, spec.identifier = i ∧ c.lastCollected = some spec ∧ d.lastCollected = some spec
  | _, _ => False

end Compiler

/-- Two runs of a step have the same places at each moment, and the same results. -/
inductive Outcome.Agree {σ τ : Type} : Outcome σ → Outcome τ → Prop where
  | step {c : Compiler σ} {d : Compiler τ} {r s : StepResult} (places : c.places = d.places)
      (result : c.SameResult d r s) : Agree (.step r c) (.step s d)
  | scope {opened c : Compiler σ} {opened' d : Compiler τ} {inner : List (Outcome σ)}
      {inner' : List (Outcome τ)} (opening : opened.places = opened'.places)
      (inside : List.Forall₂ Agree inner inner') (places : c.places = d.places) :
      Agree (.scope opened inner c) (.scope opened' inner' d)

namespace Compiler

variable {σ τ : Type} {c c' : Compiler σ} {d d' : Compiler τ}

/-- Two sound compilations that differ at most in their targets, in where rules are collected
and in what was collected. -/
structure Similar (c : Compiler σ) (d : Compiler τ) : Prop where
  left : c.Sound
  right : d.Sound
  stack : c.stack = d.stack
  catalog : c.catalog = d.catalog
  target : c.settings.target = d.settings.target
  supported : c.settings.supported = d.settings.supported

theorem Similar.places (h : Similar c d) : c.places = d.places := by
  rw [places_eq, places_eq, h.stack]

theorem Similar.top (h : Similar c d) : c.top.bare = d.top.bare := (List.cons.inj h.stack).1

theorem Similar.outer (h : Similar c d) : c.outer.map Scope.bare = d.outer.map Scope.bare :=
  (List.cons.inj h.stack).2

/-- What an operation has to keep for the compilations to stay similar. -/
theorem Similar.of_eq (h : Similar c d) (hc : c'.Sound) (hd : d'.Sound)
    (hsetup : c'.setup = c.setup) (hsetup' : d'.setup = d.setup) (hstack : c'.stack = d'.stack) :
    Similar c' d' := by
  simp only [setup, Prod.mk.injEq] at hsetup hsetup'
  obtain ⟨hs, hcat, -, -⟩ := hsetup
  obtain ⟨hs', hcat', -, -⟩ := hsetup'
  exact ⟨hc, hd, hstack, by rw [hcat, hcat', h.catalog], by rw [hs, hs', h.target],
    by rw [hs, hs', h.supported]⟩

theorem Similar.mapTop {step : Step} {f : Scope → Scope} (hf : step.setter? = some f)
    (h : Similar c d) : Similar (c.mapTop f) (d.mapTop f) :=
  h.of_eq (h.left.mapTop hf) (h.right.mapTop hf) rfl rfl
    (by rw [stack_mapTop hf, stack_mapTop hf, h.top, h.outer])

/-- The identifier of the next slot. -/
theorem Similar.identifier (h : Similar c d) :
    c.generateIdentifier.1 = d.generateIdentifier.1 := by
  have htext := congrArg (fun s => (Scope.advance s).1) h.top
  exact htext

theorem Similar.advanced (h : Similar c d) :
    c.generateIdentifier.2.stack = d.generateIdentifier.2.stack := by
  rw [stack_generateIdentifier, stack_generateIdentifier, h.top, h.outer]

theorem Similar.generateIdentifier (h : Similar c d) :
    Similar c.generateIdentifier.2 d.generateIdentifier.2 :=
  h.of_eq h.left.generateIdentifier h.right.generateIdentifier rfl rfl h.advanced

theorem Similar.skip (h : Similar c d) (reason reason' : String) (quiet quiet' : Bool) :
    Similar (c.skip reason quiet) (d.skip reason' quiet') :=
  h.of_eq (h.left.skip reason quiet) (h.right.skip reason' quiet') rfl rfl h.advanced

theorem Similar.openKind (h : Similar c d) (kind : ScopeKind) (name : String) :
    Similar (c.openKind kind name) (d.openKind kind name) :=
  h.of_eq (h.left.openKind kind name) (h.right.openKind kind name) rfl rfl
    (by rw [Compiler.openKind, Compiler.openKind, stack_openScope, stack_openScope, h.top,
      h.outer])

theorem Similar.closeScope (h : Similar c d) : Similar c.closeScope d.closeScope := by
  refine h.of_eq h.left.closeScope h.right.closeScope c.setup_closeScope d.setup_closeScope ?_
  have houter := congrArg List.length h.outer
  rw [List.length_map, List.length_map] at houter
  by_cases hc : c.outer = []
  · have hd : d.outer = [] := by
      rw [hc, List.length_nil] at houter
      exact List.length_eq_zero_iff.mp houter.symm
    rw [Compiler.closeScope, Compiler.closeScope, hc, hd]
    exact h.stack
  · have hd : d.outer ≠ [] := by
      intro hd
      rw [hd, List.length_nil] at houter
      exact hc (List.length_eq_zero_iff.mp houter)
    rw [stack_closeScope hc, stack_closeScope hd, h.outer]

/-! ## Rules -/

theorem inferDialects_eq (h : Similar c d) (applicability : FacetGroup) :
    c.inferDialects applicability = d.inferDialects applicability := by
  rw [inferDialects, inferDialects, h.catalog, h.target, h.supported]

theorem ruleName_eq (h : c.top.bare = d.top.bare) (identifier title : String) :
    c.ruleName identifier title = d.ruleName identifier title := by
  have hprefix := congrArg Scope.prefixNames h
  exact congrArg (fun b : Bool => if b then identifier ++ " : " ++ title else title) hprefix

theorem titledRule_eq (h : Similar c d) (applicability : FacetGroup) (requirement : Requirement)
    (title : Option String) (identifier : String) :
    titledRule applicability requirement title c identifier =
      titledRule applicability requirement title d identifier := by
  have hrequirement := congrArg Scope.requirement h.top
  have hcardinality := congrArg Scope.applicability h.top
  simp only [Scope.bare] at hrequirement hcardinality
  simp only [titledRule, hrequirement, hcardinality, ruleName_eq h.top, inferDialects_eq h]

theorem presenceRule_eq (h : Similar c d) (applicability : FacetGroup) (identifier : String) :
    presenceRule applicability c identifier = presenceRule applicability d identifier := by
  simp only [presenceRule, ruleName_eq h.top, inferDialects_eq h]

section Make

variable {rule : Compiler σ → String → Specification} {record : RuleIndex → String → RuleIndex}

/-- Whether a rule is made or skipped, it uses the next slot. -/
theorem Sound.slotGiven_make (h : c.Sound) :
    slotGiven (c.make rule record).2 (.rule (c.make rule record).1) =
      some c.generateIdentifier.1 := by
  rcases h.make_cases rule record with ⟨-, heq⟩ | ⟨-, d, heq, -, -⟩
  · rw [heq]
    exact lastSkipped_skipped c
  · rw [heq]
    rfl

theorem Sound.stack_make (h : c.Sound) : (c.make rule record).2.stack = c.skipped.stack := by
  rcases h.make_cases rule record with ⟨-, heq⟩ | ⟨-, d, heq, hstack, -⟩
  · rw [heq]
  · rw [heq, hstack]

theorem Sound.haltAt_make (h : c.Sound) (strict : Bool) :
    haltAt strict (c.make rule record).1 = none := by
  rcases h.make_cases rule record with ⟨-, heq⟩ | ⟨-, d, heq, -, -⟩ <;> rw [heq] <;> rfl

variable {rule' : Compiler τ → String → Specification} {record' : RuleIndex → String → RuleIndex}

theorem Similar.make (h : Similar c d) :
    Similar (c.make rule record).2 (d.make rule' record').2 :=
  h.of_eq (h.left.make rule record) (h.right.make rule' record') (c.setup_make rule record).1
    (d.setup_make rule' record').1 (by rw [h.left.stack_make, h.right.stack_make]; exact h.advanced)

theorem Similar.sameResult_make (h : Similar c d)
    (hrule : rule (c.prepared record) c.generateIdentifier.1 =
      rule' (d.prepared record') c.generateIdentifier.1)
    (hid : (rule (c.prepared record) c.generateIdentifier.1).identifier =
      c.generateIdentifier.1) :
    SameResult (c.make rule record).2 (d.make rule' record').2 (.rule (c.make rule record).1)
      (.rule (d.make rule' record').1) := by
  rcases h.left.make_cases rule record with ⟨-, hc⟩ | ⟨-, e, hc, -, hlast⟩
  · rcases h.right.make_cases rule' record' with ⟨-, hd⟩ | ⟨-, e', hd, -, -⟩ <;> rw [hc, hd] <;>
      exact fun i hi => by cases hi
  · rcases h.right.make_cases rule' record' with ⟨-, hd⟩ | ⟨-, e', hd, -, hlast'⟩
    · rw [hc, hd]
      exact fun i _ j hj => by cases hj
    · rw [hc, hd]
      intro i hi j hj
      cases hi
      cases hj
      refine ⟨h.identifier, _, hid, hlast, ?_⟩
      rw [hlast', ← h.identifier, hrule]

end Make

/-! ## Steps in two runs -/

/-- A step in two runs. -/
structure Parallel (strict : Bool) (step : Step) (c : Compiler σ) (d : Compiler τ) : Prop where
  outcome : Option.Rel Outcome.Agree (takeStep strict c step).1 (takeStep strict d step).1
  slots : ∀ o ∈ (takeStep strict c step).1, ∀ o' ∈ (takeStep strict d step).1,
    slotsOf step o = slotsOf step o'
  similar : Similar (takeStep strict c step).2.1 (takeStep strict d step).2.1
  halt : (takeStep strict c step).2.2 = (takeStep strict d step).2.2

/-- A program in two runs. -/
structure ParallelAll (strict : Bool) (steps : List Step) (c : Compiler σ) (d : Compiler τ) :
    Prop where
  outcomes : List.Forall₂ Outcome.Agree (takeSteps strict c steps).1 (takeSteps strict d steps).1
  slots : slots steps (takeSteps strict c steps).1 = slots steps (takeSteps strict d steps).1
  similar : Similar (takeSteps strict c steps).2.1 (takeSteps strict d steps).2.1
  halt : (takeSteps strict c steps).2.2 = (takeSteps strict d steps).2.2

variable {strict : Bool} {step : Step} {steps : List Step} {r s : StepResult} {halt : Option Halt}

theorem parallel_of_result (hc : takeStep strict c step = (some (.step r c'), c', halt))
    (hd : takeStep strict d step = (some (.step s d'), d', halt)) (h : Similar c' d')
    (hresult : SameResult c' d' r s)
    (hslots : slotsOf step (.step r c') = slotsOf step (.step s d')) :
    Parallel strict step c d := by
  refine ⟨?_, ?_, ?_, ?_⟩
  · rw [hc, hd]
    exact .some (.step h.places hresult)
  · rw [hc, hd]
    intro o ho o' ho'
    cases ho
    cases ho'
    exact hslots
  · rwa [hc, hd]
  · rw [hc, hd]

theorem parallel_setter {f : Scope → Scope} (hf : step.setter? = some f) (h : Similar c d) :
    Parallel strict step c d :=
  parallel_of_result (takeStep_setter hf strict c) (takeStep_setter hf strict d) (h.mapTop hf)
    trivial (by rw [slotsOf_setter hf, slotsOf_setter hf])

theorem parallel_identifier (strict : Bool) (h : Similar c d) :
    Parallel strict .identifier c d :=
  parallel_of_result (takeStep_identifier strict c) (takeStep_identifier strict d)
    h.generateIdentifier h.identifier
    (by rw [slotsOf_identifier, slotsOf_identifier, h.identifier])

theorem parallel_skip (strict : Bool) (h : Similar c d) (reason : String) (quiet : Bool) :
    Parallel strict (.skip reason quiet) c d :=
  parallel_of_result (takeStep_skip strict c reason quiet) (takeStep_skip strict d reason quiet)
    (h.skip reason reason quiet quiet) trivial
    (by rw [slotsOf_skip, slotsOf_skip, lastSkipped_skip, lastSkipped_skip, h.identifier])

theorem parallel_fail (strict : Bool) (h : Similar c d) (fault : Fault) :
    Parallel strict (.fail fault) c d :=
  parallel_of_result rfl rfl h rfl (by rw [slotsOf_fail, slotsOf_fail])

theorem parallel_stop (strict : Bool) (h : Similar c d) : Parallel strict .stop c d :=
  ⟨.none, (fun _ ho => by cases ho), h, rfl⟩

theorem parallel_make {rule : Compiler σ → String → Specification}
    {rule' : Compiler τ → String → Specification} {record record' : RuleIndex → String → RuleIndex}
    (hc : TakesRule strict c step rule record) (hd : TakesRule strict d step rule' record')
    (h : Similar c d)
    (hrule : rule (c.prepared record) c.generateIdentifier.1 =
      rule' (d.prepared record') c.generateIdentifier.1)
    (hid : (rule (c.prepared record) c.generateIdentifier.1).identifier =
      c.generateIdentifier.1)
    (hslots : slotsOf step (.step (.rule (c.make rule record).1) (c.make rule record).2) =
      (slotGiven (c.make rule record).2 (.rule (c.make rule record).1)).toList)
    (hslots' : slotsOf step (.step (.rule (d.make rule' record').1) (d.make rule' record').2) =
      (slotGiven (d.make rule' record').2 (.rule (d.make rule' record').1)).toList) :
    Parallel strict step c d := by
  rw [TakesRule, h.left.haltAt_make] at hc
  rw [TakesRule, h.right.haltAt_make] at hd
  refine parallel_of_result hc hd h.make (h.sameResult_make hrule hid) ?_
  rw [hslots, hslots', h.left.slotGiven_make, h.right.slotGiven_make, h.identifier]

theorem parallel_create (strict : Bool) (h : Similar c d) (applicability : FacetGroup)
    (requirement : Requirement) (title : Option String) :
    Parallel strict (.create applicability requirement title) c d :=
  parallel_make (takesRule_create ..) (takesRule_create ..) h
    (titledRule_eq h applicability requirement title _) rfl (slotsOf_create ..) (slotsOf_create ..)

theorem parallel_createPresence (strict : Bool) (h : Similar c d) (applicability : FacetGroup) :
    Parallel strict (.createPresence applicability) c d :=
  parallel_make (takesRule_createPresence ..) (takesRule_createPresence ..) h
    (presenceRule_eq h applicability _) rfl (slotsOf_createPresence ..)
    (slotsOf_createPresence ..)

theorem parallel_scope {kind : ScopeKind} {name : String} (h : Similar c d)
    (hbody : ParallelAll strict steps (c.openKind kind name) (d.openKind kind name)) :
    Parallel strict (.scope kind name steps) c d := by
  have hopen := h.openKind kind name
  refine ⟨?_, ?_, hbody.similar.closeScope, hbody.halt⟩
  · exact .some (.scope hopen.places hbody.outcomes hbody.similar.closeScope.places)
  · intro o ho o' ho'
    obtain rfl := Option.some.inj ho
    obtain rfl := Option.some.inj ho'
    have hident := congrArg Scope.ident hopen.top
    simp only [Scope.bare] at hident
    rw [slotsOf_scope, slotsOf_scope, hbody.slots, hident]

theorem parallelAll_cons (hstep : Parallel strict step c d)
    (hsteps : ∀ {c' : Compiler σ} {d' : Compiler τ}, Similar c' d' →
      ParallelAll strict steps c' d') :
    ParallelAll strict (step :: steps) c d := by
  obtain ⟨houtcome, hslots, hsimilar, hhalt⟩ := hstep
  have hone := exists_outcome strict c step
  rcases hc : takeStep strict c step with ⟨o, c', halt⟩
  rcases hd : takeStep strict d step with ⟨o', d', halt'⟩
  rw [hc, hd] at houtcome hslots hsimilar hhalt
  rw [hc] at hone
  obtain rfl : halt = halt' := hhalt
  cases halt with
  | some halt =>
    refine ⟨?_, ?_, ?_, ?_⟩ <;> rw [takeSteps_cons_halted hc, takeSteps_cons_halted hd]
    · cases houtcome with
      | none => exact .nil
      | some hagree => exact .cons hagree .nil
    · cases houtcome with
      | none => exact (slots_nil_right _).trans (slots_nil_right _).symm
      | some hagree =>
        rw [Option.toList_some, Option.toList_some, slots_cons, slots_cons, slots_nil_right,
          slots_nil_right, hslots _ rfl _ rfl]
    · exact hsimilar
  | none =>
    obtain ⟨x, rfl⟩ := hone rfl
    cases houtcome with
    | some hagree =>
      obtain ⟨houtcomes, hslots', hsimilar', hhalt'⟩ := hsteps hsimilar
      refine ⟨?_, ?_, ?_, ?_⟩ <;> rw [takeSteps_cons hc, takeSteps_cons hd]
      · exact .cons hagree houtcomes
      · rw [Option.toList_some, Option.toList_some, List.singleton_append, List.singleton_append,
          slots_cons, slots_cons, hslots _ rfl _ rfl, hslots']
      · exact hsimilar'
      · exact hhalt'

mutual

/-- The two runs stay similar with every step. -/
theorem takeStep_parallel {σ τ : Type} (strict : Bool) {c : Compiler σ} {d : Compiler τ}
    (h : Similar c d) : ∀ step, Parallel strict step c d
  | .pass => parallel_setter rfl h
  | .setTag _ => parallel_setter rfl h
  | .setName _ => parallel_setter rfl h
  | .setSection _ => parallel_setter rfl h
  | .setStages _ => parallel_setter rfl h
  | .setPasses _ => parallel_setter rfl h
  | .setApplicability _ => parallel_setter rfl h
  | .setRequirement _ => parallel_setter rfl h
  | .setPrefixNames _ => parallel_setter rfl h
  | .identifier => parallel_identifier strict h
  | .skip reason quiet => parallel_skip strict h reason quiet
  | .create applicability requirement title =>
    parallel_create strict h applicability requirement title
  | .createPresence applicability => parallel_createPresence strict h applicability
  | .fail fault => parallel_fail strict h fault
  | .stop => parallel_stop strict h
  | .scope kind name body =>
    parallel_scope h (takeSteps_parallel strict (h.openKind kind name) body)

/-- The two runs stay similar over a whole program. -/
theorem takeSteps_parallel {σ τ : Type} (strict : Bool) {c : Compiler σ} {d : Compiler τ}
    (h : Similar c d) : ∀ steps, ParallelAll strict steps c d
  | [] => ⟨.nil, rfl, h, rfl⟩
  | step :: steps =>
    parallelAll_cons (takeStep_parallel strict h step) fun h' => takeSteps_parallel strict h' steps

end

/-! ## Fresh compilations -/

theorem similar_start {settings : CompilerSettings} {stage stage' : Stage} {pass pass' : PassSet}
    {catalog : Catalog} {template template' : GroupMetadata} {sink : Sink σ} {sink' : Sink τ}
    {st : σ} {st' : τ} (hsink : sink.Reliable) (hsink' : sink'.Reliable)
    (hc : start { settings with stage, pass } catalog template sink st = .ok c)
    (hd : start { settings with stage := stage', pass := pass' } catalog template' sink' st' =
      .ok d) : Similar c d := by
  have hleft := sound_start hc hsink
  have hright := sound_start hd hsink'
  obtain rfl := eq_of_start hc
  obtain rfl := eq_of_start hd
  exact ⟨hleft, hright, rfl, rfl, rfl, rfl⟩

/-- **Numbering does not depend on the target.** A program run for any two stages and passes has
the same places at each step, gives the same identifiers to slots, and makes the same rules where
it makes them in both runs. -/
theorem numbering_independent_of_target {σ τ : Type} (settings : CompilerSettings)
    (stage stage' : Stage) (pass pass' : PassSet) (catalog : Catalog) (template : GroupMetadata)
    (sink : Sink σ) (sink' : Sink τ) (st : σ) (st' : τ) (hsink : sink.Reliable)
    (hsink' : sink'.Reliable) (c : Compiler σ) (d : Compiler τ)
    (hc : start { settings with stage, pass } catalog template sink st = .ok c)
    (hd : start { settings with stage := stage', pass := pass' } catalog template sink' st' = .ok d)
    (strict : Bool) (steps : List Step) :
    List.Forall₂ Outcome.Agree (takeSteps strict c steps).1 (takeSteps strict d steps).1 ∧
      slots steps (takeSteps strict c steps).1 = slots steps (takeSteps strict d steps).1 ∧
      (takeSteps strict c steps).2.1.places = (takeSteps strict d steps).2.1.places ∧
      (takeSteps strict c steps).2.2 = (takeSteps strict d steps).2.2 := by
  have hsteps := takeSteps_parallel strict (similar_start hsink hsink' hc hd) steps
  exact ⟨hsteps.outcomes, hsteps.slots, hsteps.similar.places, hsteps.halt⟩

/-- A rule that applies from the fourth stage on, and one that always applies. -/
def sampleSteps : List Step :=
  let doors : FacetGroup := ⟨"Door", "", [.entity (.exact "IFCDOOR") none], []⟩
  [.scope .sectional "" [.setStages (.starting .stage4), .create doors (.attributeDefined "Name") none,
    .setStages .all, .create doors (.attributeDefined "Name") none]]

theorem numbering_of_third_and_fourth_stage :
    ∃ c d : Compiler Unit,
      start (.of .stage3 .coreOnly) default (.named "Bundle") .null () = .ok c ∧
        start (.of .stage4 .all) default (.named "Bundle") .null () = .ok d ∧
        List.Forall₂ Outcome.Agree (takeSteps false c sampleSteps).1
          (takeSteps false d sampleSteps).1 ∧
        slots sampleSteps (takeSteps false c sampleSteps).1 =
          slots sampleSteps (takeSteps false d sampleSteps).1 ∧
        slots sampleSteps (takeSteps false c sampleSteps).1 = ["01", "01_01", "01_02"] := by
  have hnull : Sink.null.Reliable := ⟨fun _ _ _ _ => rfl, fun _ _ _ => rfl⟩
  obtain ⟨hagree, hslots, -⟩ := numbering_independent_of_target (.of .stage3 .coreOnly) .stage3
    .stage4 .coreOnly .all default (.named "Bundle") .null .null () () hnull hnull _ _ rfl rfl false
    sampleSteps
  exact ⟨_, _, rfl, rfl, hagree, hslots, by decide +kernel⟩

end Compiler

end Eir
