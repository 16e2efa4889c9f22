import Eir.Dialect
import Eir.FacetGroup

/-!
# Specifications

A specification is one machine-checkable rule. Specifications are collected in
groups under a header, and the groups compiled for one stage and pass form a
bundle.
-/

namespace Eir

/-- One machine-checkable rule. -/
structure Specification where
  /-- The number given by the scopes around the rule; several, comma-joined, once merged. -/
  identifier : String
  name : String
  description : String
  instructions : Option String
  applicability : FacetGroup
  cardinality : ApplicabilityCardinality
  requirement : FacetGroup
  dialects : List Dialect
  deriving DecidableEq, Repr, Inhabited

namespace Specification

instance : Json.Encode Specification where
  encode s := .obj ([("identifier", .str s.identifier), ("name", .str s.name),
    ("description", .str s.description)] ++ Json.ifSome "instructions" s.instructions ++
    [("applicability", Json.encode s.applicability),
      ("applicability_cardinality", Json.encode s.cardinality),
      ("requirement", Json.encode s.requirement), ("dialects", Json.encode s.dialects)])

instance : Json.Decode Specification where
  decode? j := do
    let j ← j.record? ["identifier", "name", "description", "instructions", "applicability",
      "applicability_cardinality", "requirement", "dialects"]
    return {
      identifier := ← Json.required j "identifier"
      name := ← Json.required j "name"
      description := ← Json.required j "description"
      instructions := ← Json.optional j "instructions"
      applicability := ← Json.required j "applicability"
      cardinality := ← Json.orElse j "applicability_cardinality" .optional
      requirement := ← Json.required j "requirement"
      dialects := ← Json.required j "dialects" }

end Specification

/-- The header of a group. -/
structure GroupMetadata where
  name : String
  description : String
  author : String
  version : String
  /-- The description of the stage that the rules belong to. -/
  milestone : String
  purpose : String
  copyright : String
  /-- The date of issue, `2026-02-03`. -/
  date : Option String
  deriving DecidableEq, Repr, Inhabited

namespace GroupMetadata

/-- A header with a name and nothing else. -/
def named (name : String) : GroupMetadata := { (default : GroupMetadata) with name }

instance : Json.Encode GroupMetadata where
  encode m := .obj ([("name", .str m.name), ("description", .str m.description),
    ("author", .str m.author), ("version", .str m.version), ("milestone", .str m.milestone),
    ("purpose", .str m.purpose), ("copyright", .str m.copyright)] ++ Json.ifSome "date" m.date)

instance : Json.Decode GroupMetadata where
  decode? j := do
    let j ← j.record? ["name", "description", "author", "version", "milestone", "purpose",
      "copyright", "date"]
    return {
      name := ← Json.required j "name"
      description := ← Json.required j "description"
      author := ← Json.required j "author"
      version := ← Json.required j "version"
      milestone := ← Json.required j "milestone"
      purpose := ← Json.required j "purpose"
      copyright := ← Json.required j "copyright"
      date := ← Json.optional j "date" }

end GroupMetadata

/-- Specifications under a header. -/
structure SpecGroup where
  metadata : GroupMetadata
  specifications : List Specification
  deriving DecidableEq, Repr, Inhabited

namespace SpecGroup

def name (g : SpecGroup) : String := g.metadata.name

instance : Json.Encode SpecGroup where
  encode g := .obj [("metadata", Json.encode g.metadata),
    ("specifications", Json.encode g.specifications)]

instance : Json.Decode SpecGroup where
  decode? j := do
    let j ← j.record? ["metadata", "specifications"]
    return {
      metadata := ← Json.required j "metadata"
      specifications := ← Json.required j "specifications" }

end SpecGroup

/-- The project that a bundle is made for. -/
structure ProjectInfo where
  name : String
  description : String
  deriving DecidableEq, Repr, Inhabited

namespace ProjectInfo

instance : Json.Encode ProjectInfo where
  encode p := .obj [("name", .str p.name), ("description", .str p.description)]

instance : Json.Decode ProjectInfo where
  decode? j := do
    let j ← j.record? ["name", "description"]
    return {
      name := ← Json.required j "name"
      description := ← Json.required j "description" }

end ProjectInfo

/-- Everything compiled for one stage and pass. -/
structure Bundle where
  name : String
  project : ProjectInfo
  stages : List String
  groups : List SpecGroup
  deriving DecidableEq, Repr, Inhabited

namespace Bundle

/-- The specifications of all groups. -/
def specifications (b : Bundle) : List Specification := b.groups.flatMap (·.specifications)

/-- Puts all specifications into one group, in the order of their identifiers. -/
def flatten (b : Bundle) (metadata : GroupMetadata) : Bundle :=
  { b with
    groups := [⟨metadata,
      b.specifications.mergeSort fun s t => decide (s.identifier ≤ t.identifier)⟩] }

instance : Json.Encode Bundle where
  encode b := .obj [("name", .str b.name), ("project", Json.encode b.project),
    ("stages", Json.encode b.stages), ("groups", Json.encode b.groups)]

instance : Json.Decode Bundle where
  decode? j := do
    let j ← j.record? ["name", "project", "stages", "groups"]
    return {
      name := ← Json.required j "name"
      project := ← Json.required j "project"
      stages := ← Json.required j "stages"
      groups := ← Json.required j "groups" }

end Bundle

end Eir
