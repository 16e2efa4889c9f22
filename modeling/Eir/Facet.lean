import Eir.Constraint

/-!
# Facets

A facet is one test of an object of a building model: its entity type, an
attribute, a property, a classification, or the whole that it is part of.
-/

namespace Eir

/-- The relations by which an object can be part of another. -/
inductive Relation where
  | aggregates | assignsToGroup | containedInSpatialStructure | nests
  deriving DecidableEq, Repr, Inhabited

namespace Relation

def all : List Relation := [aggregates, assignsToGroup, containedInSpatialStructure, nests]

def name : Relation → String
  | aggregates => "IFCRELAGGREGATES"
  | assignsToGroup => "IFCRELASSIGNSTOGROUP"
  | containedInSpatialStructure => "IFCRELCONTAINEDINSPATIALSTRUCTURE"
  | nests => "IFCRELNESTS"

/-- The relation of that name. -/
def ofName? (text : String) : Option Relation := all.find? fun r => r.name == text

instance : Json.Encode Relation := ⟨fun r => .str r.name⟩
instance : Json.Decode Relation := ⟨Json.constant? false ofName?⟩

end Relation

/-- One test of an object. -/
inductive Facet where
  /-- The object is of one of these types; names of types are in upper case. -/
  | entity (types : Constraint) (predefinedType : Option Constraint)
  /-- The object has the attribute, with an accepted value. -/
  | attr (name : String) (value : Option Constraint)
  /-- The object has the property, with an accepted value of the measure type. -/
  | property (propertySet name : Constraint) (value : Option Constraint)
      (dataType : Option String)
  /-- The object is classified in the system, under an accepted code. -/
  | classification (system value : Option Constraint)
  /-- The object is part of one of the type, through the relation. -/
  | partOf (relation : Option Relation) (whole : String)
  deriving DecidableEq, Repr, Inhabited

namespace Facet

/-- A property facet. A measure type is written in upper case, and an empty one is none. -/
def ofProperty (propertySet name : Constraint) (value : Option Constraint)
    (dataType : Option String) : Facet :=
  property propertySet name value ((dataType.filter (· ≠ "")).map String.toUpper)

/-- A description of the structure of the facet: equal facets have equal descriptions. -/
def describe : Facet → String
  | entity types predefinedType =>
    "of entity " ++ types.short ++
      match predefinedType with
      | some p => " and predefined type " ++ p.short
      | none => ""
  | attr name value =>
    "with attribute " ++ name ++
      match value with
      | some v => " = " ++ v.short
      | none => ""
  | property propertySet name value dataType =>
    "with property " ++ propertySet.short ++ "." ++ name.short ++
      (match value with
      | some v => " = " ++ v.short
      | none => "") ++
      match dataType with
      | some t => " (" ++ t ++ ")"
      | none => ""
  | classification system value =>
    "classified by " ++ (system.map Constraint.short).getD "any system" ++
      match value with
      | some v => " as " ++ v.short
      | none => ""
  | partOf relation whole =>
    "part of " ++ whole ++
      match relation with
      | some r => " through " ++ r.name
      | none => ""

instance : Json.Encode Facet where
  encode
    | entity types predefinedType =>
      .obj ([("facet", .str "entity"), ("entity", Json.encode types)] ++
        Json.ifSome "predefined_type" predefinedType)
    | attr name value =>
      .obj ([("facet", .str "attribute"), ("name", .str name)] ++ Json.ifSome "value" value)
    | property propertySet name value dataType =>
      .obj ([("facet", .str "property"), ("property_set", Json.encode propertySet),
        ("name", Json.encode name)] ++ Json.ifSome "value" value ++
        Json.ifSome "data_type" dataType)
    | classification system value =>
      .obj ([("facet", .str "classification")] ++ Json.ifSome "system" system ++
        Json.ifSome "value" value)
    | partOf relation whole =>
      .obj [("facet", .str "part_of"), ("relation", Json.encode relation), ("entity", .str whole)]

/-- The fields of each kind of facet. -/
def kinds : List (String × List String) :=
  [("entity", ["entity", "predefined_type"]), ("attribute", ["name", "value"]),
    ("property", ["property_set", "name", "value", "data_type"]),
    ("classification", ["system", "value"]), ("part_of", ["relation", "entity"])]

/-- Reads the fields of a kind of facet. -/
def ofFields? (kind : String) (j : Json) : Option Facet :=
  let constraint (key : String) : Option Constraint :=
    Json.requiredBy (Constraint.read? true) j key
  let constraintOrNone (key : String) : Option (Option Constraint) :=
    Json.optionalBy (Constraint.read? true) j key
  match kind with
  | "entity" => do
    let types ← constraint "entity"
    let predefinedType ← constraintOrNone "predefined_type"
    return entity types predefinedType
  | "attribute" => do
    let name ← Json.required j "name"
    let value ← constraintOrNone "value"
    return attr name value
  | "property" => do
    let propertySet ← constraint "property_set"
    let name ← constraint "name"
    let value ← constraintOrNone "value"
    let dataType ← Json.optional j "data_type"
    return property propertySet name value dataType
  | "classification" => do
    let system ← constraintOrNone "system"
    let value ← constraintOrNone "value"
    return classification system value
  | "part_of" => do
    let relation ← Json.optionalBy (Json.constant? true Relation.ofName?) j "relation"
    let whole ← Json.required j "entity"
    return partOf relation whole
  | _ => none

instance : Json.Decode Facet where
  decode? j := do
    let (kind, fields) ← j.tagged? false "facet" kinds
    ofFields? kind fields

end Facet

end Eir
