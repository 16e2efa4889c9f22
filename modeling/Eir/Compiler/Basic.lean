import Eir.Compiler.Scope
import Eir.Compiler.Sink
import Eir.Consolidation
import Eir.RuleIndex
import Eir.Schema.Selection

/-!
# The compiler

What a compilation knows at any time: the open scopes, the groups that rules are
collected in, the index of the rules, and the state of the sink. Scopes open and
close here. A scope that closes without any rule in its group discards the
group; with a file for each scope, any other group goes to the sink.

A failure while a scope closes is kept, and stops all rules after it.
-/

namespace Eir

/-- The settings of a compilation. -/
structure CompilerSettings where
  stage : Stage
  pass : PassSet
  oneFilePerSpecification : Bool
  /-- Scopes have groups of their own, which go to the sink when the scope closes. -/
  oneFilePerScope : Bool
  /-- Alike rules are merged before their group goes to the sink. -/
  groupByApplicability : Bool
  /-- The dialect of rules about unknown types. -/
  target : Dialect
  supported : DialectSet
  /-- Types of occurrences may be later ones, if an IFC2X3 type can stand in for them. -/
  useInferredTypes : Bool
  deriving DecidableEq, Repr

namespace CompilerSettings

/-- Plain settings for a stage and a pass. -/
def of (stage : Stage) (pass : PassSet) : CompilerSettings :=
  ⟨stage, pass, false, false, false, .ifc2x3, .ofList [.ifc2x3], true⟩

end CompilerSettings

/-- What a compilation reports while it goes on. -/
inductive ScopeNotice where
  | skipped (loud : Bool) (identifier tag reason : String)
  | emptyGroup (label tag : String)
  | closed (label tag : String) (count : Nat)
  | closeFailed (reason : String)
  deriving DecidableEq, Repr

/-- The text of a notice. -/
def ScopeNotice.text : ScopeNotice → String
  | skipped loud identifier tag reason =>
    (if loud then "WARN" else "TRACE") ++ " -Skipping " ++ identifier ++ " " ++ tag ++ ": " ++ reason
  | emptyGroup label tag => "TRACE Deleting empty group: " ++ label ++ " " ++ tag
  | closed label tag count =>
    "INFO " ++ label ++ " " ++ tag ++ " contains " ++ Text.decimal count ++ " specs"
  | closeFailed reason => "WARN scope close failed, aborting pass: " ++ reason

/-- A compilation under way. The innermost scope is `top`. -/
structure Compiler (σ : Type) where
  settings : CompilerSettings
  catalog : Catalog
  /-- The header that every group gets. -/
  template : GroupMetadata
  sink : Sink σ
  top : Scope
  /-- The scopes around, the inner ones first. -/
  outer : List Scope
  /-- The groups under their slots, in the order in which they were made. -/
  groups : List (Nat × SpecGroup)
  nextGroup : Nat
  index : RuleIndex
  sinkState : σ
  /-- What the first scope that failed to close failed with. -/
  deferred : Option String
  /-- The notices, the last one first. -/
  notices : List ScopeNotice

/-- What a compilation gives. -/
structure CompiledRules where
  /-- The groups that have rules, in the order in which they were made. -/
  groups : List SpecGroup
  index : RuleIndex
  root : GroupMetadata

namespace Compiler

variable {σ : Type}

/-- A compilation with nothing but the scope around all others. -/
def start (settings : CompilerSettings) (catalog : Catalog) (template : GroupMetadata)
    (sink : Sink σ) (sinkState : σ) : Except Fault (Compiler σ) :=
  if settings.stage.isTarget then
    .ok {
      settings, catalog, template, sink, sinkState
      top := .root
      outer := []
      groups := [(0, ⟨template, []⟩)]
      nextGroup := 1
      index := .empty
      deferred := none
      notices := [] }
  else .error (.invalidTarget settings.stage)

/-- The view in which the types of rules are found. -/
def schema (c : Compiler σ) : SchemaView := c.catalog.view c.settings.target

/-- The view in which the types of occurrences are found. -/
def occurrenceSchema (c : Compiler σ) : SchemaView :=
  if c.settings.useInferredTypes && c.settings.target == .ifc2x3 then c.catalog.hybridView
  else c.schema

/-- The number of open scopes. -/
def depth (c : Compiler σ) : Nat := c.outer.length + 1

/-- Rules of the innermost scope apply in the stage and the pass that are compiled for. -/
def isApplicable (c : Compiler σ) : Bool :=
  c.top.stages.includes c.settings.stage && c.top.passes.meets c.settings.pass

def notify (c : Compiler σ) (n : ScopeNotice) : Compiler σ := { c with notices := n :: c.notices }

/-- Changes the innermost scope. -/
def mapTop (c : Compiler σ) (f : Scope → Scope) : Compiler σ := { c with top := f c.top }

/-- Uses the next slot of the innermost scope. -/
def generateIdentifier (c : Compiler σ) : String × Compiler σ :=
  let (identifier, top) := c.top.advance
  (identifier, { c with top })

/-- Uses the next slot for a rule that is not made. -/
def skip (c : Compiler σ) (reason : String) (quiet : Bool) : Compiler σ :=
  let (identifier, c) := c.generateIdentifier
  c.notify (.skipped (c.isApplicable && !quiet) identifier c.top.tag reason)

/-- Opens a scope in the innermost one. -/
def openScope (c : Compiler σ) (name : String) (collection : Collection) : Compiler σ :=
  let (child, parent) := c.top.openChild name collection
  { c with top := child, outer := parent :: c.outer }

/-- The group under a slot. -/
def group? (c : Compiler σ) (slot : Nat) : Option SpecGroup := c.groups.lookup slot

/-- Changes the group under a slot. -/
def mapGroup (c : Compiler σ) (slot : Nat) (f : SpecGroup → SpecGroup) : Compiler σ :=
  { c with groups := c.groups.map fun (s, g) => (s, if s = slot then f g else g) }

/-- The nearest scope with a group of its own, outwards. -/
def groupOwner (c : Compiler σ) : Scope := ((c.top :: c.outer).find? Scope.ownsGroup).getD c.top

/-- How many rules were collected so far where those of the innermost scope are. -/
def activeCount (c : Compiler σ) : Nat :=
  match c.groupOwner.collection with
  | .own (some slot) => ((c.group? slot).map (·.specifications.length)).getD 0
  | _ => 0

/-- Gives the first scope that owns a group the slot of it. -/
def assignSlot (slot : Nat) : List Scope → List Scope
  | [] => []
  | s :: ss =>
    if s.ownsGroup then { s with collection := .own (some slot) } :: ss
    else s :: assignSlot slot ss

/-- The name of the group of a scope. -/
def groupName (c : Compiler σ) (owner : Scope) : String :=
  Text.decimal c.settings.stage.number ++ "_" ++ owner.ident ++ " " ++ owner.tag ++ " - " ++
    c.template.name

/-- The slot of the group that collects the rules of the innermost scope. The group is made if
it is not there yet. -/
def activeSlot (c : Compiler σ) : Nat × Compiler σ :=
  match c.groupOwner.collection with
  | .own (some slot) => (slot, c)
  | _ =>
    let slot := c.nextGroup
    let group : SpecGroup := ⟨{ c.template with name := c.groupName c.groupOwner }, []⟩
    let c := { c with groups := c.groups ++ [(slot, group)], nextGroup := slot + 1 }
    match assignSlot slot (c.top :: c.outer) with
    | top :: outer => (slot, { c with top, outer })
    | [] => (slot, c)

/-- Adds a rule to the group of the innermost scope. -/
def collect (c : Compiler σ) (spec : Specification) : Compiler σ :=
  let (slot, c) := c.activeSlot
  c.mapGroup slot fun g => { g with specifications := g.specifications ++ [spec] }

/-- The header of the file of one specification. -/
def singleMetadata (c : Compiler σ) (spec : Specification) : GroupMetadata :=
  { c.template with
    name := "Single IDS File: " ++ spec.name ++ " at " ++ c.settings.stage.name }

/-- Hands a rule to the sink, if each has a file of its own, and adds it to its group. A rule
that the sink refuses is not added. -/
def append (c : Compiler σ) (spec : Specification) : Option Fault × Compiler σ :=
  if c.settings.oneFilePerSpecification then
    let location : SpecLocation := ⟨c.settings.stage, c.top.fullPrefix⟩
    let (sinkState, fault) :=
      c.sink.writeSpecification location (c.singleMetadata spec) spec c.sinkState
    let c := { c with sinkState }
    match fault with
    | some f => (some f, c)
    | none => (none, c.collect spec)
  else (none, c.collect spec)

/-- The scope as it is called in notices. -/
def label (s : Scope) : String := if s.fullPrefix = "" then "Root" else s.fullPrefix

/-- Closes the group of a scope: an empty one is discarded; of another the alike rules are
merged and it goes to the sink, as the settings say. -/
def closeGroup (c : Compiler σ) (s : Scope) : Option Fault × Compiler σ :=
  match s.collection with
  | .around => (none, c)
  | .own none => (none, c.notify (.emptyGroup (label s) s.tag))
  | .own (some slot) =>
    match c.group? slot with
    | none => (none, c)
    | some group =>
      if group.specifications.isEmpty then
        (none, { c.notify (.emptyGroup (label s) s.tag) with
          groups := c.groups.filter fun (n, _) => n != slot })
      else
        let c := c.notify (.closed (label s) s.tag group.specifications.length)
        let group := if c.settings.groupByApplicability then group.consolidated.2 else group
        let c := c.mapGroup slot fun _ => group
        if c.settings.oneFilePerScope then
          let (sinkState, fault) := c.sink.writeGroup c.settings.stage group c.sinkState
          (fault, { c with sinkState })
        else (none, c)

/-- What is kept of a fault while a scope closed. -/
def deferredReason : Fault → String
  | .sink reason => reason
  | f => f.message

/-- Keeps a fault, if it is the first one. -/
def recordDeferred (c : Compiler σ) (f : Fault) : Compiler σ :=
  { c.notify (.closeFailed (deferredReason f)) with
    deferred := c.deferred.or (some (deferredReason f)) }

/-- Closes the group of a scope that is no longer open. -/
def settle (c : Compiler σ) (s : Scope) : Compiler σ :=
  match c.closeGroup s with
  | (some f, c) => c.recordDeferred f
  | (none, c) => c

/-- Closes the innermost scope. The scope around all others stays. -/
def closeScope (c : Compiler σ) : Compiler σ :=
  match c.outer with
  | [] => c
  | parent :: outer => { c with top := parent, outer }.settle c.top

/-- Closes the scopes given, the inner ones first. -/
def closeAll (c : Compiler σ) (scopes : List Scope) : Compiler σ := scopes.foldl settle c

/-- Fails if some scope failed to close. -/
def checkDeferred (c : Compiler σ) : Except Fault Unit :=
  match c.deferred with
  | some reason => .error (.sink reason)
  | none => .ok ()

/-- Closes every scope and gives the rules. -/
def finish (c : Compiler σ) : Except Fault CompiledRules × Compiler σ :=
  let c := c.closeAll (c.top :: c.outer)
  (c.checkDeferred.map fun _ => ⟨c.groups.map (·.2), c.index, c.template⟩, c)

end Compiler

end Eir
