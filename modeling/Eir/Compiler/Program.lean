import Eir.Compiler.Rules

/-!
# Programs

A program is a list of steps whose arguments do not depend on what earlier steps
gave. A run gives what each step gave and the compilation after it. Scopes close
on every way out, also when a program ends early. A strict run ends at the first
rule that cannot be made; any other goes on behind it.
-/

namespace Eir

/-- How a scope in a program collects its rules. -/
inductive ScopeKind where
  /-- In a group of its own, if there is a file for each scope. -/
  | sectional
  /-- Always with those of the scope around it. -/
  | numbering
  deriving DecidableEq, Repr

/-- One step of a program. -/
inductive Step where
  /-- Does nothing. -/
  | pass
  | identifier
  | skip (reason : String) (quiet : Bool)
  | setTag (tag : String)
  | setName (name : String)
  | setSection (n : Nat)
  | setStages (window : StageWindow)
  | setPasses (passes : PassSet)
  | setApplicability (c : ApplicabilityCardinality)
  | setRequirement (c : RequirementCardinality)
  | setPrefixNames (value : Bool)
  | create (applicability : FacetGroup) (requirement : Requirement) (title : Option String)
  | createPresence (applicability : FacetGroup)
  /-- A rule that cannot be made, since its objects cannot be selected. -/
  | fail (fault : Fault)
  /-- Opens a scope, takes the steps in it and closes it. -/
  | scope (kind : ScopeKind) (name : String) (body : List Step)
  /-- Leaves every scope and ends the program. -/
  | stop
  deriving Inhabited

/-- What a step gave. -/
inductive StepResult where
  | nothing
  | identifier (text : String)
  | rule (result : Except Fault (Option String))

/-- What a step gave, and the compilation after it. For a scope, also the compilation right
after it was opened and what happened in it. -/
inductive Outcome (σ : Type) where
  | step (result : StepResult) (after : Compiler σ)
  | scope (opened : Compiler σ) (inner : List (Outcome σ)) (after : Compiler σ)

/-- Why a program ended before its last step. -/
inductive Halt where
  | stopped
  | failed (fault : Fault)
  deriving DecidableEq, Repr

namespace Step

/-- The rules that the selected objects meet the requirements. -/
def rules (applicability : FacetGroup) (requirements : List Requirement) : List Step :=
  requirements.map fun r => create applicability r none

/-- The steps about the objects of a selection, if it can be made. -/
def about (selection : Except Fault FacetGroup) (steps : FacetGroup → List Step) : List Step :=
  match selection with
  | .ok applicability => steps applicability
  | .error fault => [fail fault]

/-- The steps, with the window of the scope narrowed to `inside` and then set back to
`around`. -/
def within (inside around : StageWindow) (steps : List Step) : List Step :=
  setStages inside :: steps ++ [setStages around]

end Step

namespace Compiler

variable {σ : Type}

/-- How the rules of a scope of this kind are collected. -/
def collectionOf (c : Compiler σ) : ScopeKind → Collection
  | .sectional => if c.settings.oneFilePerScope then .own none else .around
  | .numbering => .around

/-- Opens a scope of a kind. -/
def openKind (c : Compiler σ) (kind : ScopeKind) (name : String) : Compiler σ :=
  c.openScope name (c.collectionOf kind)

/-- What a strict run does about the result of a rule. -/
def haltAt (strict : Bool) : Except Fault (Option String) → Option Halt
  | .error f => if strict then some (.failed f) else none
  | .ok _ => none

mutual

/-- Takes one step; tells if the program ends with it. -/
def takeStep (strict : Bool) (c : Compiler σ) :
    Step → Option (Outcome σ) × Compiler σ × Option Halt
  | .pass => (some (.step .nothing c), c, none)
  | .identifier =>
    let (text, c) := c.generateIdentifier
    (some (.step (.identifier text) c), c, none)
  | .skip reason quiet => let c := c.skip reason quiet; (some (.step .nothing c), c, none)
  | .setTag tag =>
    let c := c.mapTop fun s => { s with tag }; (some (.step .nothing c), c, none)
  | .setName name =>
    let c := c.mapTop fun s => { s with pendingName := name }; (some (.step .nothing c), c, none)
  | .setSection n =>
    let c := c.mapTop fun s => { s with section_ := n }; (some (.step .nothing c), c, none)
  | .setStages window =>
    let c := c.mapTop fun s => { s with stages := window }; (some (.step .nothing c), c, none)
  | .setPasses passes =>
    let c := c.mapTop fun s => { s with passes }; (some (.step .nothing c), c, none)
  | .setApplicability a =>
    let c := c.mapTop fun s => { s with applicability := a }; (some (.step .nothing c), c, none)
  | .setRequirement r =>
    let c := c.mapTop fun s => { s with requirement := r }; (some (.step .nothing c), c, none)
  | .setPrefixNames value =>
    let c := c.mapTop fun s => { s with prefixNames := value }
    (some (.step .nothing c), c, none)
  | .create applicability requirement title =>
    let (result, c) := c.createTitled applicability requirement title
    (some (.step (.rule result) c), c, haltAt strict result)
  | .createPresence applicability =>
    let (result, c) := c.createPresence applicability
    (some (.step (.rule result) c), c, haltAt strict result)
  | .fail fault => (some (.step (.rule (.error fault)) c), c, haltAt strict (.error fault))
  | .scope kind name body =>
    let opened := c.openKind kind name
    let (inner, c, halt) := takeSteps strict opened body
    let c := c.closeScope
    (some (.scope opened inner c), c, halt)
  | .stop => (none, c, some .stopped)

/-- Takes the steps in order until the program ends. -/
def takeSteps (strict : Bool) (c : Compiler σ) :
    List Step → List (Outcome σ) × Compiler σ × Option Halt
  | [] => ([], c, none)
  | step :: steps =>
    let (outcome, c, halt) := takeStep strict c step
    match halt with
    | some halt => (outcome.toList, c, some halt)
    | none =>
      let (outcomes, c, halt) := takeSteps strict c steps
      (outcome.toList ++ outcomes, c, halt)

end

/-- Takes all steps, unless some rule cannot be made. -/
def run (c : Compiler σ) (steps : List Step) : Except Fault Unit × Compiler σ :=
  match takeSteps true c steps with
  | (_, c, some (.failed fault)) => (.error fault, c)
  | (_, c, _) => (.ok (), c)

end Compiler

end Eir
