import Eir.Schema.Catalog

/-!
# Views of the catalog

The entity types that are valid in one dialect. The hybrid view of IFC2X3 has
besides the later types that an IFC2X3 type can stand in for.
-/

namespace Eir

/-- A part of a catalog. -/
structure SchemaView where
  catalog : Catalog
  dialect : Dialect
  isHybrid : Bool

namespace Catalog

/-- The types of one dialect. -/
def view (c : Catalog) (d : Dialect) : SchemaView := ⟨c, d, false⟩

/-- The types of IFC2X3 and those that it has a host for. -/
def hybridView (c : Catalog) : SchemaView := ⟨c, .ifc2x3, true⟩

end Catalog

namespace SchemaView

/-- The view has the type. -/
def includes (v : SchemaView) (t : EntityType) : Bool :=
  t.dialects.supports v.dialect || (v.isHybrid && t.host.isSome)

/-- The types of the view, by name. -/
def types (v : SchemaView) : List EntityType :=
  (v.catalog.types.filter v.includes).mergeSort fun a b => decide (a.name ≤ b.name)

/-- The type of that name in any case. -/
def find? (v : SchemaView) (name : String) : Option EntityType :=
  (v.catalog.find? name).filter v.includes

/-- The type of that name, which has to be in the view. -/
def require (v : SchemaView) (name : String) : Except Fault EntityType :=
  match v.find? name with
  | some t => .ok t
  | none => .error (.unsupportedType name v.dialect)

/-- The concrete types at and below `t` that are reached through types of the view, at most
`depth` links down. -/
def concreteBelow (v : SchemaView) (depth : Nat) (t : EntityType) : List EntityType :=
  let here := if t.isConcrete then [t] else []
  match depth with
  | 0 => here
  | depth + 1 =>
    here ++ (t.children.filterMap v.find?).flatMap (v.concreteBelow depth)

/-- Keeps the first of neighbours with one name. -/
def dedupNames : List EntityType → List EntityType
  | [] => []
  | t :: ts =>
    match dedupNames ts with
    | [] => [t]
    | u :: us => if t.name = u.name then t :: us else t :: u :: us

/-- The concrete types at and below the type of that name, by name. No chain of links is
longer than the catalog is large. -/
def concreteSubtypes (v : SchemaView) (name : String) : Except Fault (List EntityType) := do
  let root ← v.require name
  let found := v.concreteBelow v.catalog.size root
  return dedupNames (found.mergeSort fun a b => decide (a.name ≤ b.name))

end SchemaView

end Eir
