import Eir.Compiler.Program

/-!
# What one step does

Most steps only set a field of the innermost scope (`Step.setter?`). The steps
that make a rule are one operation, `make`, with different rules; `make_cases`
says all that it can do.

`stack` shows the open scopes apart from where their rules are collected. It is
all that the numbering of rules goes by, and the lemmas on it say how each
operation of the compiler changes it.

A slot is used by a step that asks for an identifier, by a rule, whether it is
made or skipped, and by a scope. `slots` reads off a run which identifiers were
given to slots, scopes before what is in them.
-/

namespace Eir

/-- The scope apart from where its rules are collected. -/
def Scope.bare (s : Scope) : Scope := { s with collection := .around }

/-- The slot of the group of its own that a scope has, if the group is there. -/
def Collection.slot? : Collection → Option Nat
  | around => none
  | own slot => slot

/-- What a step does to the innermost scope, if that is all it does. -/
def Step.setter? : Step → Option (Scope → Scope)
  | pass => some id
  | setTag tag => some fun s => { s with tag }
  | setName name => some fun s => { s with pendingName := name }
  | setSection n => some fun s => { s with section_ := n }
  | setStages window => some fun s => { s with stages := window }
  | setPasses passes => some fun s => { s with passes }
  | setApplicability a => some fun s => { s with applicability := a }
  | setRequirement r => some fun s => { s with requirement := r }
  | setPrefixNames value => some fun s => { s with prefixNames := value }
  | _ => none

/-- No setter touches where rules are collected. -/
theorem Step.collection_setter {step : Step} {f : Scope → Scope} (h : step.setter? = some f)
    (s : Scope) : (f s).collection = s.collection := by
  cases step <;> cases h <;> rfl

theorem Step.bare_setter {step : Step} {f : Scope → Scope} (h : step.setter? = some f)
    (s : Scope) : (f s).bare = f s.bare := by
  cases step <;> cases h <;> rfl

namespace Compiler

variable {σ : Type}

/-- A compilation that starts has one open scope and its group, which is empty. -/
theorem eq_of_start {settings : CompilerSettings} {catalog : Catalog} {template : GroupMetadata}
    {sink : Sink σ} {st : σ} {c : Compiler σ}
    (h : start settings catalog template sink st = .ok c) :
    c = {
      settings, catalog, template, sink
      sinkState := st
      top := .root
      outer := []
      groups := [(0, ⟨template, []⟩)]
      nextGroup := 1
      index := .empty
      deferred := none
      notices := [] } := by
  rw [start] at h
  split at h
  · exact (Except.ok.inj h).symm
  · cases h

/-- What a compilation gives in the end is what it then knows. -/
theorem eq_of_finish {c : Compiler σ} {rules : CompiledRules} (h : c.finish.1 = .ok rules) :
    rules = ⟨c.finish.2.groups.map Prod.snd, c.finish.2.index, c.finish.2.template⟩ := by
  have hresult : c.finish.1 = c.finish.2.checkDeferred.map fun _ =>
    ⟨c.finish.2.groups.map Prod.snd, c.finish.2.index, c.finish.2.template⟩ := rfl
  rw [hresult] at h
  cases hdeferred : c.finish.2.checkDeferred with
  | error f =>
    rw [hdeferred] at h
    cases h
  | ok u =>
    rw [hdeferred] at h
    exact (Except.ok.inj h).symm

theorem takeStep_setter {step : Step} {f : Scope → Scope} (h : step.setter? = some f)
    (strict : Bool) (c : Compiler σ) :
    takeStep strict c step = (some (.step .nothing (c.mapTop f)), c.mapTop f, none) := by
  cases step <;> cases h <;> rfl

/-! ## Rules -/

/-- The rule that the selected objects meet a requirement. -/
def titledRule (applicability : FacetGroup) (requirement : Requirement) (title : Option String)
    (c : Compiler σ) (identifier : String) : Specification :=
  let title := title.getD (synthesizedTitle applicability.name c.top.requirement requirement)
  { identifier
    name := c.ruleName identifier title
    description := title
    instructions := none
    applicability
    cardinality := c.top.applicability
    requirement := requirement.constraint.setCardinality c.top.requirement
    dialects := c.inferDialects applicability }

/-- The rule that there are such objects at all. -/
def presenceRule (applicability : FacetGroup) (c : Compiler σ) (identifier : String) :
    Specification :=
  let title := "Must have " ++ applicability.name ++ "s"
  { identifier
    name := c.ruleName identifier title
    description := title
    instructions := none
    applicability
    cardinality := .required
    requirement := .empty applicability.name title
    dialects := c.inferDialects applicability }

/-- The compilation when a rule is about to join its group: the slot is used, and the rule is
in the index. -/
def prepared (c : Compiler σ) (record : RuleIndex → String → RuleIndex) : Compiler σ :=
  { c.generateIdentifier.2 with index := record c.index c.generateIdentifier.1 }

/-- Makes a rule in the next slot, or uses the slot if no rule applies here. -/
def make (c : Compiler σ) (rule : Compiler σ → String → Specification)
    (record : RuleIndex → String → RuleIndex) : Except Fault (Option String) × Compiler σ :=
  match c.checkDeferred with
  | .error f => (.error f, c)
  | .ok () =>
    match c.skipIfInapplicable with
    | (true, c) => (.ok none, c)
    | (false, c) =>
      match (c.prepared record).append (rule (c.prepared record) c.generateIdentifier.1) with
      | (some f, c) => (.error f, c)
      | (none, d) => (.ok (some c.generateIdentifier.1), d)

theorem createTitled_eq_make (c : Compiler σ) (applicability : FacetGroup)
    (requirement : Requirement) (title : Option String) :
    c.createTitled applicability requirement title =
      c.make (titledRule applicability requirement title)
        (fun index => recordRule index applicability requirement) := rfl

theorem createPresence_eq_make (c : Compiler σ) (applicability : FacetGroup) :
    c.createPresence applicability =
      c.make (presenceRule applicability) (fun index _ => index) := rfl

/-- The skipping of a slot where no rule applies. -/
def skipped (c : Compiler σ) : Compiler σ :=
  c.skip ("Not applicable for " ++ c.settings.stage.name) true

/-- All that the making of a rule can do. -/
theorem make_cases (c : Compiler σ) (rule : Compiler σ → String → Specification)
    (record : RuleIndex → String → RuleIndex) :
    (∃ reason, c.deferred = some reason ∧ c.make rule record = (.error (.sink reason), c)) ∨
      (c.deferred = none ∧ c.isApplicable = false ∧ c.make rule record = (.ok none, c.skipped)) ∨
      (c.deferred = none ∧ c.isApplicable = true ∧
        ∃ fault d, (c.prepared record).append
            (rule (c.prepared record) c.generateIdentifier.1) = (fault, d) ∧
          c.make rule record =
            (fault.elim (.ok (some c.generateIdentifier.1)) Except.error, d)) := by
  cases hdeferred : c.deferred with
  | some reason =>
    left
    exact ⟨reason, rfl, by simp only [make, checkDeferred, hdeferred]⟩
  | none =>
    right
    cases happ : c.isApplicable with
    | false =>
      left
      refine ⟨rfl, rfl, ?_⟩
      simp only [make, checkDeferred, hdeferred, skipIfInapplicable, happ, skipped]
      rfl
    | true =>
      right
      rcases h : (c.prepared record).append
        (rule (c.prepared record) c.generateIdentifier.1) with ⟨fault, d⟩
      refine ⟨rfl, rfl, fault, d, rfl, ?_⟩
      simp only [make, checkDeferred, hdeferred, skipIfInapplicable, happ, if_true, h]
      cases fault with
      | none => rfl
      | some f => rfl

/-! ## The open scopes -/

/-- The open scopes, the inner ones first, apart from where their rules are collected. -/
def stack (c : Compiler σ) : List Scope := (c.top :: c.outer).map Scope.bare

theorem stack_eq (c : Compiler σ) : c.stack = c.top.bare :: c.outer.map Scope.bare := rfl

theorem stack_mapTop {step : Step} {f : Scope → Scope} (h : step.setter? = some f)
    (c : Compiler σ) : (c.mapTop f).stack = f c.top.bare :: c.outer.map Scope.bare := by
  rw [stack_eq, mapTop, Step.bare_setter h]

theorem stack_generateIdentifier (c : Compiler σ) :
    c.generateIdentifier.2.stack = c.top.bare.advance.2 :: c.outer.map Scope.bare := rfl

theorem stack_skip (c : Compiler σ) (reason : String) (quiet : Bool) :
    (c.skip reason quiet).stack = c.top.bare.advance.2 :: c.outer.map Scope.bare := rfl

theorem stack_openScope (c : Compiler σ) (name : String) (collection : Collection) :
    (c.openScope name collection).stack = (c.top.bare.openChild name .around).1 ::
      (c.top.bare.openChild name .around).2 :: c.outer.map Scope.bare := rfl

theorem bare_assignSlot (slot : Nat) (ss : List Scope) :
    (assignSlot slot ss).map Scope.bare = ss.map Scope.bare := by
  induction ss with
  | nil => rfl
  | cons s ss ih =>
    rw [assignSlot]
    split
    · rfl
    · rw [List.map_cons, List.map_cons, ih]

theorem assignSlot_eq_cons (slot : Nat) (s : Scope) (ss : List Scope) :
    ∃ t ts, assignSlot slot (s :: ss) = t :: ts := by
  rw [assignSlot]
  split
  · exact ⟨_, _, rfl⟩
  · exact ⟨_, _, rfl⟩

/-- The group that is made for the rules of the innermost scope. -/
def newGroup (c : Compiler σ) : SpecGroup :=
  ⟨{ c.template with name := c.groupName c.groupOwner }, []⟩

/-- The group of the innermost scope is there, or it is made. -/
theorem activeSlot_cases (c : Compiler σ) :
    (∃ slot, c.groupOwner.collection = .own (some slot) ∧ c.activeSlot = (slot, c)) ∨
      ((∀ slot, c.groupOwner.collection ≠ .own (some slot)) ∧
        ∃ top outer, assignSlot c.nextGroup (c.top :: c.outer) = top :: outer ∧
          c.activeSlot = (c.nextGroup, { c with
            groups := c.groups ++ [(c.nextGroup, c.newGroup)]
            nextGroup := c.nextGroup + 1, top, outer })) := by
  obtain ⟨top, outer, hassign⟩ := assignSlot_eq_cons c.nextGroup c.top c.outer
  cases howner : c.groupOwner.collection with
  | around =>
    right
    exact ⟨by simp, top, outer, hassign, by simp only [activeSlot, howner, hassign]; rfl⟩
  | own slot =>
    cases slot with
    | none =>
      right
      exact ⟨by simp, top, outer, hassign, by simp only [activeSlot, howner, hassign]; rfl⟩
    | some slot =>
      left
      exact ⟨slot, rfl, by simp only [activeSlot, howner]⟩

theorem stack_activeSlot (c : Compiler σ) : c.activeSlot.2.stack = c.stack := by
  rcases c.activeSlot_cases with ⟨slot, -, h⟩ | ⟨-, top, outer, hassign, h⟩
  · rw [h]
  · have hbare := bare_assignSlot c.nextGroup (c.top :: c.outer)
    rw [hassign] at hbare
    rw [h]
    exact hbare

theorem stack_collect (c : Compiler σ) (spec : Specification) :
    (c.collect spec).stack = c.stack := c.stack_activeSlot

/-- All that the adding of a rule can do. -/
theorem append_cases (c : Compiler σ) (spec : Specification) :
    (c.settings.oneFilePerSpecification = false ∧ c.append spec = (none, c.collect spec)) ∨
      (c.settings.oneFilePerSpecification = true ∧
        ∃ st fault, c.sink.writeSpecification ⟨c.settings.stage, c.top.fullPrefix⟩
            (c.singleMetadata spec) spec c.sinkState = (st, fault) ∧
          c.append spec =
            (fault, if fault.isSome then { c with sinkState := st }
              else { c with sinkState := st }.collect spec)) := by
  cases hfile : c.settings.oneFilePerSpecification with
  | false => exact .inl ⟨rfl, by simp [append, hfile]⟩
  | true =>
    right
    rcases h : c.sink.writeSpecification ⟨c.settings.stage, c.top.fullPrefix⟩
      (c.singleMetadata spec) spec c.sinkState with ⟨st, fault⟩
    refine ⟨rfl, st, fault, rfl, ?_⟩
    simp only [append, hfile, if_true, h]
    cases fault with
    | none => rfl
    | some f => rfl

theorem stack_append (c : Compiler σ) (spec : Specification) :
    (c.append spec).2.stack = c.stack := by
  rcases c.append_cases spec with ⟨-, h⟩ | ⟨-, st, fault, -, h⟩
  · rw [h]
    exact stack_collect c spec
  · rw [h]
    cases fault with
    | none => exact stack_collect _ spec
    | some f => rfl

/-- The compilation without the group under a slot. -/
def discarded (c : Compiler σ) (slot : Nat) : Compiler σ :=
  { c with groups := c.groups.filter fun (n, _) => n != slot }

/-- What becomes of a group that has rules when its scope closes. -/
def settledGroup (c : Compiler σ) (g : SpecGroup) : SpecGroup :=
  if c.settings.groupByApplicability then g.consolidated.2 else g

/-- All that the closing of a group can do: there is none, it is discarded, or it is kept and
goes to the sink if scopes have files of their own. -/
theorem closeGroup_cases (c : Compiler σ) (s : Scope) :
    (s.collection.slot?.bind c.group? = none ∧ ∃ notices, c.closeGroup s = (none, { c with notices })) ∨
      (∃ slot g, s.collection.slot? = some slot ∧ c.group? slot = some g ∧ g.specifications = [] ∧
        c.closeGroup s = (none, (c.notify (.emptyGroup (label s) s.tag)).discarded slot)) ∨
      ∃ slot g d, s.collection.slot? = some slot ∧ c.group? slot = some g ∧ g.specifications ≠ [] ∧
        d = (c.notify (.closed (label s) s.tag g.specifications.length)).mapGroup slot
          (fun _ => c.settledGroup g) ∧
        ((c.settings.oneFilePerScope = false ∧ c.closeGroup s = (none, d)) ∨
          (c.settings.oneFilePerScope = true ∧
            ∃ st fault, c.sink.writeGroup c.settings.stage (c.settledGroup g) c.sinkState =
                (st, fault) ∧
              c.closeGroup s = (fault, { d with sinkState := st }))) := by
  cases hcoll : s.collection with
  | around => exact .inl ⟨by simp [Collection.slot?], c.notices, by simp [closeGroup, hcoll]⟩
  | own slot =>
    cases slot with
    | none => exact .inl ⟨by simp [Collection.slot?], _, by simp only [closeGroup, hcoll]; rfl⟩
    | some slot =>
      cases hgroup : c.group? slot with
      | none =>
        exact .inl ⟨by simp [Collection.slot?, hgroup], c.notices, by simp only [closeGroup, hcoll, hgroup]⟩
      | some g =>
        cases hempty : g.specifications.isEmpty with
        | true =>
          right; left
          refine ⟨slot, g, rfl, hgroup, List.isEmpty_iff.mp hempty, ?_⟩
          simp only [closeGroup, hcoll, hgroup, hempty, if_true]
          rfl
        | false =>
          right; right
          refine ⟨slot, g, _, rfl, hgroup, by simpa using hempty, rfl, ?_⟩
          cases hfile : c.settings.oneFilePerScope with
          | false =>
            left
            refine ⟨rfl, ?_⟩
            simp only [closeGroup, hcoll, hgroup, hempty, Bool.false_eq_true, if_false]
            exact if_neg (by simp [notify, mapGroup, hfile])
          | true =>
            right
            refine ⟨rfl, _, _, rfl, ?_⟩
            simp only [closeGroup, hcoll, hgroup, hempty, Bool.false_eq_true, if_false]
            exact if_pos hfile

theorem stack_closeGroup (c : Compiler σ) (s : Scope) : (c.closeGroup s).2.stack = c.stack := by
  rcases c.closeGroup_cases s with ⟨-, notices, h⟩ | ⟨slot, g, -, -, -, h⟩ |
    ⟨slot, g, d, -, -, -, rfl, ⟨-, h⟩ | ⟨-, st, fault, -, h⟩⟩ <;>
    rw [h] <;> rfl

theorem stack_settle (c : Compiler σ) (s : Scope) : (c.settle s).stack = c.stack := by
  rw [← c.stack_closeGroup s, settle]
  rcases c.closeGroup s with ⟨_ | f, d⟩
  · rfl
  · rfl

/-- A scope that closes leaves those around it open. -/
theorem stack_closeScope {c : Compiler σ} (h : c.outer ≠ []) :
    c.closeScope.stack = c.outer.map Scope.bare := by
  rw [closeScope]
  cases houter : c.outer with
  | nil => exact absurd houter h
  | cons parent outer => exact stack_settle _ _

/-! ## What stays the same -/

/-- What a compilation is set up with. -/
def setup (c : Compiler σ) : CompilerSettings × Catalog × GroupMetadata × Sink σ :=
  (c.settings, c.catalog, c.template, c.sink)

theorem setup_activeSlot (c : Compiler σ) :
    c.activeSlot.2.setup = c.setup ∧ c.activeSlot.2.deferred = c.deferred := by
  rcases c.activeSlot_cases with ⟨slot, -, h⟩ | ⟨-, top, outer, -, h⟩ <;> rw [h] <;>
    exact ⟨rfl, rfl⟩

theorem setup_collect (c : Compiler σ) (spec : Specification) :
    (c.collect spec).setup = c.setup ∧ (c.collect spec).deferred = c.deferred :=
  c.setup_activeSlot

theorem setup_append (c : Compiler σ) (spec : Specification) :
    (c.append spec).2.setup = c.setup ∧ (c.append spec).2.deferred = c.deferred := by
  rcases c.append_cases spec with ⟨-, h⟩ | ⟨-, st, fault, -, h⟩
  · rw [h]
    exact c.setup_collect spec
  · rw [h]
    cases fault with
    | none => exact setup_collect { c with sinkState := st } spec
    | some f => exact ⟨rfl, rfl⟩

/-- No rule that fails is kept for later. -/
theorem setup_make (c : Compiler σ) (rule : Compiler σ → String → Specification)
    (record : RuleIndex → String → RuleIndex) :
    (c.make rule record).2.setup = c.setup ∧ (c.make rule record).2.deferred = c.deferred := by
  rcases c.make_cases rule record with ⟨reason, -, h⟩ | ⟨-, -, h⟩ | ⟨-, -, fault, d, happend, h⟩
  · rw [h]
    exact ⟨rfl, rfl⟩
  · rw [h]
    exact ⟨rfl, rfl⟩
  · rw [h]
    have happended := (c.prepared record).setup_append
      (rule (c.prepared record) c.generateIdentifier.1)
    rw [happend] at happended
    exact happended

theorem setup_closeGroup (c : Compiler σ) (s : Scope) :
    (c.closeGroup s).2.setup = c.setup ∧ (c.closeGroup s).2.deferred = c.deferred := by
  rcases c.closeGroup_cases s with ⟨-, notices, h⟩ | ⟨slot, g, -, -, -, h⟩ |
    ⟨slot, g, d, -, -, -, rfl, ⟨-, h⟩ | ⟨-, st, fault, -, h⟩⟩ <;>
    rw [h] <;> exact ⟨rfl, rfl⟩

theorem settle_cases (c : Compiler σ) (s : Scope) :
    ((c.closeGroup s).1 = none ∧ c.settle s = (c.closeGroup s).2) ∨
      ∃ f, (c.closeGroup s).1 = some f ∧ c.settle s = (c.closeGroup s).2.recordDeferred f := by
  rw [settle]
  rcases c.closeGroup s with ⟨_ | f, d⟩
  · exact .inl ⟨rfl, rfl⟩
  · exact .inr ⟨f, rfl, rfl⟩

/-- The compilation when its innermost scope has left the stack, before its group is closed. -/
def popped (c : Compiler σ) (parent : Scope) (outer : List Scope) : Compiler σ :=
  { c with top := parent, outer }

theorem closeScope_cases (c : Compiler σ) :
    (c.outer = [] ∧ c.closeScope = c) ∨
      ∃ parent outer, c.outer = parent :: outer ∧
        c.closeScope = (c.popped parent outer).settle c.top := by
  rw [closeScope]
  cases c.outer with
  | nil => exact .inl ⟨rfl, rfl⟩
  | cons parent outer => exact .inr ⟨parent, outer, rfl, rfl⟩

theorem setup_closeScope (c : Compiler σ) : c.closeScope.setup = c.setup := by
  rcases c.closeScope_cases with ⟨-, h⟩ | ⟨parent, outer, -, h⟩
  · rw [h]
  · have hgroup := ((c.popped parent outer).setup_closeGroup c.top).1
    rw [h]
    rcases (c.popped parent outer).settle_cases c.top with ⟨-, hs⟩ | ⟨f, -, hs⟩
    · rw [hs]
      exact hgroup
    · rw [hs]
      exact hgroup

/-! ## Steps and programs -/

variable {strict : Bool} {c d : Compiler σ} {step : Step} {steps : List Step}
  {o : Option (Outcome σ)}

theorem takeStep_identifier (strict : Bool) (c : Compiler σ) :
    takeStep strict c .identifier =
      (some (.step (.identifier c.generateIdentifier.1) c.generateIdentifier.2),
        c.generateIdentifier.2, none) := rfl

theorem takeStep_skip (strict : Bool) (c : Compiler σ) (reason : String) (quiet : Bool) :
    takeStep strict c (.skip reason quiet) =
      (some (.step .nothing (c.skip reason quiet)), c.skip reason quiet, none) := rfl

/-- The step is one that makes a rule. -/
def TakesRule (strict : Bool) (c : Compiler σ) (step : Step)
    (rule : Compiler σ → String → Specification) (record : RuleIndex → String → RuleIndex) : Prop :=
  takeStep strict c step = (some (.step (.rule (c.make rule record).1) (c.make rule record).2),
    (c.make rule record).2, haltAt strict (c.make rule record).1)

theorem takesRule_create (strict : Bool) (c : Compiler σ) (applicability : FacetGroup)
    (requirement : Requirement) (title : Option String) :
    TakesRule strict c (.create applicability requirement title)
      (titledRule applicability requirement title)
      (fun index => recordRule index applicability requirement) := by
  rw [TakesRule, takeStep, createTitled_eq_make]

theorem takesRule_createPresence (strict : Bool) (c : Compiler σ) (applicability : FacetGroup) :
    TakesRule strict c (.createPresence applicability) (presenceRule applicability)
      (fun index _ => index) := by
  rw [TakesRule, takeStep, createPresence_eq_make]

theorem takeStep_scope (strict : Bool) (c : Compiler σ) (kind : ScopeKind) (name : String)
    (body : List Step) :
    takeStep strict c (.scope kind name body) =
      (some (.scope (c.openKind kind name) (takeSteps strict (c.openKind kind name) body).1
          (takeSteps strict (c.openKind kind name) body).2.1.closeScope),
        (takeSteps strict (c.openKind kind name) body).2.1.closeScope,
        (takeSteps strict (c.openKind kind name) body).2.2) := rfl

theorem takeSteps_cons_halted {halt : Halt} (h : takeStep strict c step = (o, d, some halt)) :
    takeSteps strict c (step :: steps) = (o.toList, d, some halt) := by
  rw [takeSteps, h]

theorem takeSteps_cons (h : takeStep strict c step = (o, d, none)) :
    takeSteps strict c (step :: steps) =
      (o.toList ++ (takeSteps strict d steps).1, (takeSteps strict d steps).2) := by
  rw [takeSteps, h]

/-! ## Slots -/

/-- The identifier of the slot that was skipped, if that happened last. -/
def lastSkipped (c : Compiler σ) : Option String :=
  match c.notices with
  | .skipped _ identifier _ _ :: _ => some identifier
  | _ => none

/-- The identifier that was given to a slot, by the result and the compilation after it. -/
def slotGiven (c : Compiler σ) : StepResult → Option String
  | .nothing => none
  | .identifier text => some text
  | .rule (.ok (some text)) => some text
  | .rule (.ok none) => c.lastSkipped
  | .rule (.error _) => none

mutual

/-- The identifiers that a step gave to slots. -/
def slotsOf : Step → Outcome σ → List String
  | .scope _ _ body, .scope opened inner _ => opened.top.ident :: slots body inner
  | .skip _ _, .step _ after => after.lastSkipped.toList
  | _, .step result after => (slotGiven after result).toList
  | _, _ => []

/-- The identifiers that were given to slots, in order. -/
def slots : List Step → List (Outcome σ) → List String
  | step :: steps, outcome :: outcomes => slotsOf step outcome ++ slots steps outcomes
  | _, _ => []

end

theorem slots_nil_left (outcomes : List (Outcome σ)) : slots [] outcomes = [] := rfl

theorem slots_nil_right (steps : List Step) : slots steps ([] : List (Outcome σ)) = [] := by
  cases steps <;> rfl

theorem slots_cons (step : Step) (steps : List Step) (outcome : Outcome σ)
    (outcomes : List (Outcome σ)) :
    slots (step :: steps) (outcome :: outcomes) = slotsOf step outcome ++ slots steps outcomes :=
  rfl

theorem slotsOf_scope (kind : ScopeKind) (name : String) (body : List Step) (opened : Compiler σ)
    (inner : List (Outcome σ)) (after : Compiler σ) :
    slotsOf (.scope kind name body) (.scope opened inner after) =
      opened.top.ident :: slots body inner :=
  rfl

theorem slotsOf_skip (reason : String) (quiet : Bool) (result : StepResult) (after : Compiler σ) :
    slotsOf (.skip reason quiet) (.step result after) = after.lastSkipped.toList :=
  rfl

/-- A step that only sets a field gives no slot. -/
theorem slotsOf_setter {step : Step} {f : Scope → Scope} (h : step.setter? = some f)
    (after : Compiler σ) : slotsOf step (.step .nothing after) = [] := by
  cases step <;> cases h <;> rfl

theorem slotsOf_identifier (text : String) (after : Compiler σ) :
    slotsOf .identifier (.step (.identifier text) after) = [text] :=
  rfl

theorem slotsOf_create (applicability : FacetGroup) (requirement : Requirement)
    (title : Option String) (result : StepResult) (after : Compiler σ) :
    slotsOf (.create applicability requirement title) (.step result after) =
      (slotGiven after result).toList :=
  rfl

theorem slotsOf_createPresence (applicability : FacetGroup) (result : StepResult)
    (after : Compiler σ) :
    slotsOf (.createPresence applicability) (.step result after) =
      (slotGiven after result).toList :=
  rfl

theorem slotsOf_fail (fault f : Fault) (after : Compiler σ) :
    slotsOf (.fail fault) (.step (.rule (.error f)) after) = [] :=
  rfl

theorem lastSkipped_skip (c : Compiler σ) (reason : String) (quiet : Bool) :
    (c.skip reason quiet).lastSkipped = some c.generateIdentifier.1 := rfl

theorem lastSkipped_skipped (c : Compiler σ) : c.skipped.lastSkipped = some c.generateIdentifier.1 :=
  rfl

/-- Only a program that ends has a step without an outcome. -/
theorem exists_outcome (strict : Bool) (c : Compiler σ) (step : Step)
    (h : (takeStep strict c step).2.2 = none) : ∃ o, (takeStep strict c step).1 = some o := by
  cases step <;> first | exact ⟨_, rfl⟩ | cases h

end Compiler

end Eir
