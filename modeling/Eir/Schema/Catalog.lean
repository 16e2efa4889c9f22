import Eir.Fault
import Eir.Schema.EntityType
import Std.Data.TreeMap

/-!
# The catalog of entity types

The types of all dialects, found by name in any case. A table makes a catalog if
its names differ, its parents are in it, and the types that stand in for others
are IFC2X3 types of it.
-/

namespace Eir

/-- The entity types under their names in upper case. -/
structure Catalog where
  entries : Std.TreeMap String EntityType

namespace Catalog

instance : Inhabited Catalog := ⟨⟨{}⟩⟩

/-- Adds the node of a row. -/
def insertRow (entries : Std.TreeMap String EntityType) (row : CatalogRow) :
    Except Fault (Std.TreeMap String EntityType) :=
  if entries.contains row.name.toUpper then
    .error (.catalog ("duplicate entity type " ++ row.name))
  else .ok (entries.insert row.name.toUpper (.ofRow row))

/-- The parent in upper case and the name of each type that has a parent. -/
def links (types : List EntityType) : List (String × String) :=
  types.filterMap fun t => t.parent.map fun p => (p.toUpper, t.name)

/-- The names of the types whose parent is `key`, in order. -/
def childrenOf (links : List (String × String)) (key : String) : List String :=
  ((links.filter fun (p, _) => p == key).map (·.2)).mergeSort fun a b => decide (a ≤ b)

/-- Fails at the first type whose parent is missing. -/
def checkParents (entries : Std.TreeMap String EntityType) (links : List (String × String)) :
    Except Fault Unit :=
  links.forM fun (parent, child) =>
    if entries.contains parent then .ok ()
    else .error (.catalog (child ++ " names unknown parent " ++ parent))

/-- The host of a type is a type of IFC2X3. -/
def hostIsValid (entries : Std.TreeMap String EntityType) (host : String) : Bool :=
  (entries[host.toUpper]?).any fun h => h.dialects.supports .ifc2x3

/-- Fails at the first type whose host is not valid. -/
def checkHosts (entries : Std.TreeMap String EntityType) (types : List EntityType) :
    Except Fault Unit :=
  types.forM fun t =>
    match t.host with
    | some host =>
      if hostIsValid entries host then .ok ()
      else
        .error (.catalog
          (t.name ++ " names " ++ host ++ " as IFC2X3 host but it is not an IFC2X3 type"))
    | none => .ok ()

/-- Makes a catalog of a table. -/
def ofRows (rows : List CatalogRow) : Except Fault Catalog := do
  let entries ← rows.foldlM insertRow {}
  let types := entries.values
  let links := links types
  checkParents entries links
  checkHosts entries types
  return ⟨entries.map fun key t => { t with children := childrenOf links key }⟩

/-- The type of that name, in any dialect. -/
def find? (c : Catalog) (name : String) : Option EntityType := c.entries[name.toUpper]?

def size (c : Catalog) : Nat := c.entries.size

/-- Every type, by upper-case name. -/
def types (c : Catalog) : List EntityType := c.entries.values

end Catalog

end Eir
