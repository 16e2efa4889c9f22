import Eir.FacetGroup
import Eir.Schema.View

/-!
# Selecting objects by type

The facet groups that select the objects of some entity types, and the dialects
in which the rules about them are valid.
-/

namespace Eir

/-- The facet group that selects objects of the types of these names. Names are put in order
and stand once. -/
def entitySelector (label : String) (names : List String) : FacetGroup :=
  let names := (names.mergeSort fun a b => decide (a ≤ b)).eraseReps
  let types : Constraint := match names with
    | [name] => .exact name
    | names => .list names
  (FacetGroup.empty label (label ++ " entity selector")).addFacet (.entity types none)

namespace SchemaView

/-- Selects the objects of these types and of all concrete types below them. -/
def select (v : SchemaView) (label : String) (entities : List String) :
    Except Fault FacetGroup := do
  let found ← entities.mapM v.concreteSubtypes
  match found.flatten with
  | [] => .error (.unsupportedType (",".intercalate entities) v.dialect)
  | types => .ok (entitySelector label (types.map EntityType.upperName))

/-- Selects the objects of just one type. -/
def selectExact (v : SchemaView) (label entity : String) : Except Fault FacetGroup := do
  let t ← v.require entity
  return entitySelector label [t.upperName]

end SchemaView

namespace FacetGroup

/-- Narrows a selection to the objects classified in the system under one of the codes. -/
def classified (g : FacetGroup) (system : Constraint) (codes : List String) : FacetGroup :=
  g.addFacet (.classification (some system) (some (.list codes)))

end FacetGroup

/-- How the objects that a rule is about are described. -/
inductive Selection where
  /-- Those of these types and of all concrete types below them. -/
  | types (label : String) (names : List String)
  /-- The same for types of occurrences. -/
  | occurrences (label : String) (names : List String)
  /-- The occurrences of just one type. -/
  | exact (label name : String)
  /-- Those of these types that are classified under one of the codes. -/
  | classified (label : String) (names : List String) (system : Constraint) (codes : List String)
  /-- Those that the facets select. -/
  | facets (group : FacetGroup)
  /-- Those of the selection that are of a sub-kind. -/
  | ofSubKind (selection : Selection) (subKind : String)
  deriving Repr

namespace Selection

/-- The facet group of a selection, with types found in one view and types of occurrences in
another. -/
def resolve (schema occurrenceSchema : SchemaView) : Selection → Except Fault FacetGroup
  | types label names => schema.select label names
  | occurrences label names => occurrenceSchema.select label names
  | exact label name => occurrenceSchema.selectExact label name
  | classified label names system codes => do
    return (← schema.select label names).classified system codes
  | facets group => .ok group
  | ofSubKind selection subKind => do
    return (← resolve schema occurrenceSchema selection).withPredefinedType subKind

/-- Reads a selection, of all sub-kinds. -/
def ofMembers? (j : Json) : Option Selection := do
  match ← Json.required (α := String) j "by" with
  | "entities" => return types (← Json.required j "label") (← Json.required j "entities")
  | "occurrence" => return occurrences (← Json.required j "label") (← Json.required j "entities")
  | "exact" => return exact (← Json.required j "label") (← Json.required j "entity")
  | "classified" =>
    return classified (← Json.required j "label") (← Json.required j "entities")
      (← Json.required j "system") (← Json.required j "values")
  | "group" => return facets (← Json.required j "group")
  | _ => none

instance : Json.Decode Selection where
  decode? j := do
    let selection ← ofMembers? j
    return match j.get? "predefined_type" with
      | some (.str subKind) => selection.ofSubKind subKind
      | _ => selection

end Selection

namespace Catalog

/-- Objects of the type can occur in the dialect: as such, or because their type object can. -/
def isUsableIn (c : Catalog) (t : EntityType) (d : Dialect) : Bool :=
  t.dialects.supports d || ((c.view d).find? (t.upperName ++ "TYPE")).isSome

/-- The supported dialects in which objects of the type can occur. -/
def usableDialects (c : Catalog) (supported : DialectSet) (t : EntityType) : DialectSet :=
  .ofPred fun d => supported.supports d && c.isUsableIn t d

/-- The dialects in which objects of all selected types can occur, and the target where there
are none or no type is known. -/
def inferDialects (c : Catalog) (supported : DialectSet) (target : Dialect)
    (applicability : FacetGroup) : List Dialect :=
  let sets := (applicability.entityNames.filterMap c.find?).map (c.usableDialects supported)
  let common := match sets with
    | [] => DialectSet.none
    | s :: ss => ss.foldl .inter s
  match common.toList with
  | [] => [target]
  | ds => ds

end Catalog

end Eir
