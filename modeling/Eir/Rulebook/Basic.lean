import Eir.Compiler.Program
import Eir.Content
import Eir.Naming.Resolver
import Eir.Settings

/-!
# The rulebook

What the sections of the rulebook draw upon, and the rules that several sections
begin with.
-/

namespace Eir

/-- What the rules are written from. -/
structure Rulebook where
  project : ProjectSettings
  content : Content
  namer : Namer
  policy : UndefinedPolicy
  /-- The stage that the rules are compiled for. -/
  stage : Stage
  /-- The view in which the types of rules are found. -/
  schema : SchemaView
  /-- The view in which the types of occurrences are found. -/
  occurrenceSchema : SchemaView

namespace Rulebook

/-- The names of `candidates` that the view has. -/
def present (v : SchemaView) (candidates : List String) : List String :=
  candidates.filter fun name => (v.find? name).isSome

/-- The rules about the identity, the name and the description of spatial objects. -/
def identityRules (applicability : FacetGroup) (label name description : String) : List Step :=
  let matching (subject : String) : Option String :=
    some (label ++ " Should Have " ++ subject ++ " Matching The Projects Information Standard")
  [.create applicability (.attributeDefined "GlobalId") none,
    .create applicability (.attributeDefined "Name") none,
    .create applicability (.attributeHasValue "Name" name) (matching "Name"),
    .create applicability (.attributeDefined "Description") none,
    .create applicability (.attributeHasValue "Description" description)
      (matching "Description")]

end Rulebook

end Eir
