import Eir.Compiler.Basic

/-!
# Making rules

Rules are made in the innermost scope: a rule takes the next slot, is recorded
in the index under every type it selects, and joins the group of its scope.
Where the scope does not apply, the slot is used and no rule is made.
-/

namespace Eir.Compiler

variable {σ : Type}

/-- The facet group of a selection. -/
def select (c : Compiler σ) (s : Selection) : Except Fault FacetGroup :=
  s.resolve c.schema c.occurrenceSchema

/-- The name of a rule. -/
def ruleName (c : Compiler σ) (identifier title : String) : String :=
  if c.top.prefixNames then identifier ++ " : " ++ title else title

/-- The dialects of a rule. -/
def inferDialects (c : Compiler σ) (applicability : FacetGroup) : List Dialect :=
  c.catalog.inferDialects c.settings.supported c.settings.target applicability

/-- Uses a slot quietly if rules do not apply here, and tells so. -/
def skipIfInapplicable (c : Compiler σ) : Bool × Compiler σ :=
  if c.isApplicable then (false, c)
  else (true, c.skip ("Not applicable for " ++ c.settings.stage.name) true)

/-- The title of a rule, unless it is given one. -/
def synthesizedTitle (label : String) (c : RequirementCardinality) (r : Requirement) : String :=
  label ++ " " ++ c.modal ++ " " ++ r.phrase

/-- Records an identifier under each type of a selection. -/
def recordRule (index : RuleIndex) (applicability : FacetGroup) (r : Requirement)
    (identifier : String) : RuleIndex :=
  applicability.entityNames.foldl (fun index entity =>
    index.record (.of entity applicability.predefinedType? r.kind r.subject) identifier) index

/-- Makes the rule that the selected objects meet the requirement. Gives its identifier, or
nothing if it does not apply. -/
def createTitled (c : Compiler σ) (applicability : FacetGroup) (requirement : Requirement)
    (title : Option String) : Except Fault (Option String) × Compiler σ :=
  match c.checkDeferred with
  | .error f => (.error f, c)
  | .ok () =>
    match c.skipIfInapplicable with
    | (true, c) => (.ok none, c)
    | (false, c) =>
      let cardinality := c.top.requirement
      let title := title.getD (synthesizedTitle applicability.name cardinality requirement)
      let (identifier, c) := c.generateIdentifier
      let spec : Specification := {
        identifier
        name := c.ruleName identifier title
        description := title
        instructions := none
        applicability
        cardinality := c.top.applicability
        requirement := requirement.constraint.setCardinality cardinality
        dialects := c.inferDialects applicability }
      let c := { c with index := recordRule c.index applicability requirement identifier }
      match c.append spec with
      | (some f, c) => (.error f, c)
      | (none, c) => (.ok (some identifier), c)

/-- Makes a rule with the title that its parts give. -/
def create (c : Compiler σ) (applicability : FacetGroup) (requirement : Requirement) :
    Except Fault (Option String) × Compiler σ :=
  c.createTitled applicability requirement none

/-- Makes the rule that there are such objects at all. -/
def createPresence (c : Compiler σ) (applicability : FacetGroup) :
    Except Fault (Option String) × Compiler σ :=
  match c.checkDeferred with
  | .error f => (.error f, c)
  | .ok () =>
    match c.skipIfInapplicable with
    | (true, c) => (.ok none, c)
    | (false, c) =>
      let title := "Must have " ++ applicability.name ++ "s"
      let (identifier, c) := c.generateIdentifier
      let spec : Specification := {
        identifier
        name := c.ruleName identifier title
        description := title
        instructions := none
        applicability
        cardinality := .required
        requirement := .empty applicability.name title
        dialects := c.inferDialects applicability }
      match c.append spec with
      | (some f, c) => (.error f, c)
      | (none, c) => (.ok (some identifier), c)

end Eir.Compiler
