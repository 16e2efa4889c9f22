import Eir.Dialect

/-!
# Entity types

One node of the hierarchy of entity types, and the row of a table that describes
one.
-/

namespace Eir

/-- A row of the table of entity types. -/
structure CatalogRow where
  name : String
  parent : Option String
  isAbstract : Bool
  domain : Option String
  dialects : List Dialect
  subKinds : List String
  /-- The older type that stands in for occurrences of this one. -/
  host : Option String
  deriving DecidableEq, Repr, Inhabited

instance : Json.Decode CatalogRow where
  decode? j := do
    let j ← j.record? ["name", "parent", "abstract", "domain", "dialects", "sub_kinds",
      "ifc2x3_host"]
    return {
      name := ← Json.required j "name"
      parent := ← Json.optional j "parent"
      isAbstract := ← Json.orElse j "abstract" false
      domain := ← Json.optional j "domain"
      dialects := ← Json.orElse j "dialects" Dialect.all
      subKinds := ← Json.orElse j "sub_kinds" []
      host := ← Json.optional j "ifc2x3_host" }

/-- A node of the hierarchy. -/
structure EntityType where
  name : String
  parent : Option String
  /-- The names of the types right below, in order. -/
  children : List String
  /-- The predefined types, in the order of the schema. -/
  subKinds : List String
  isAbstract : Bool
  /-- Orders samples. -/
  domain : String
  dialects : DialectSet
  /-- The IFC2X3 type that stands in for occurrences of a later type. -/
  host : Option String
  deriving DecidableEq, Repr, Inhabited

namespace EntityType

def upperName (t : EntityType) : String := t.name.toUpper

def isConcrete (t : EntityType) : Bool := !t.isAbstract

/-- The node of a row, without its children. -/
def ofRow (row : CatalogRow) : EntityType where
  name := row.name
  parent := row.parent
  children := []
  subKinds := row.subKinds
  isAbstract := row.isAbstract
  domain := row.domain.getD "Kernel"
  dialects := .ofList row.dialects
  host := row.host

instance : Json.Encode EntityType where
  encode t := .obj [("name", .str t.name), ("upper", .str t.upperName),
    ("parent", Json.encode t.parent), ("children", Json.encode t.children),
    ("sub_kinds", Json.encode t.subKinds), ("has_sub_kinds", .bool (!t.subKinds.isEmpty)),
    ("concrete", .bool t.isConcrete), ("domain", .str t.domain),
    ("dialects", Json.encode t.dialects.toList), ("ifc2x3_host", Json.encode t.host)]

end EntityType

end Eir
