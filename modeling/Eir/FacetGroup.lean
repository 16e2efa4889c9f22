import Eir.Facet

/-!
# Facet groups

A named list of facets: either the objects that a rule selects, or what each of
them has to satisfy. In a requirement every facet has its own cardinality.
-/

namespace Eir

/-- How a selected object relates to a facet of a requirement. -/
inductive RequirementCardinality where
  | expected | prohibited | optional
  deriving DecidableEq, Repr

namespace RequirementCardinality

instance : Inhabited RequirementCardinality := ⟨expected⟩

def all : List RequirementCardinality := [expected, prohibited, optional]

def name : RequirementCardinality → String
  | expected => "Expected"
  | prohibited => "Prohibited"
  | optional => "Optional"

/-- The modal verb in the title of a rule. -/
def modal : RequirementCardinality → String
  | expected => "Should"
  | prohibited => "Should not"
  | optional => "Can"

/-- The word in an exchanged document. -/
def documentWord : RequirementCardinality → String
  | expected => "required"
  | prohibited => "prohibited"
  | optional => "optional"

/-- The cardinality of that name. -/
def ofName? (text : String) : Option RequirementCardinality := all.find? fun c => c.name == text

instance : Json.Encode RequirementCardinality := ⟨fun c => .str c.name⟩
instance : Json.Decode RequirementCardinality := ⟨Json.constant? false ofName?⟩

end RequirementCardinality

/-- Whether selected objects must, may or must not occur in a model. -/
inductive ApplicabilityCardinality where
  | required | optional | prohibited
  deriving DecidableEq, Repr

namespace ApplicabilityCardinality

instance : Inhabited ApplicabilityCardinality := ⟨optional⟩

def all : List ApplicabilityCardinality := [required, optional, prohibited]

def name : ApplicabilityCardinality → String
  | required => "Required"
  | optional => "Optional"
  | prohibited => "Prohibited"

/-- The least and the greatest number of selected objects. -/
def occurs : ApplicabilityCardinality → String × String
  | required => ("1", "unbounded")
  | optional => ("0", "unbounded")
  | prohibited => ("0", "0")

/-- The cardinality of that name. -/
def ofName? (text : String) : Option ApplicabilityCardinality := all.find? fun c => c.name == text

instance : Json.Encode ApplicabilityCardinality := ⟨fun c => .str c.name⟩
instance : Json.Decode ApplicabilityCardinality := ⟨Json.constant? false ofName?⟩

end ApplicabilityCardinality

/-- A named list of facets. `options` holds the cardinalities of a requirement, in the order
of its facets. -/
structure FacetGroup where
  name : String
  description : String
  facets : List Facet
  options : List RequirementCardinality
  deriving DecidableEq, Repr, Inhabited

namespace FacetGroup

def empty (name description : String) : FacetGroup := ⟨name, description, [], []⟩

/-- Appends a facet. -/
def addFacet (g : FacetGroup) (f : Facet) : FacetGroup := { g with facets := g.facets ++ [f] }

/-- Narrows the first entity facet of the list to one predefined type. -/
def narrowFirst (predefinedType : String) : List Facet → List Facet
  | [] => []
  | .entity types _ :: fs => .entity types (some (.exact predefinedType)) :: fs
  | f :: fs => f :: narrowFirst predefinedType fs

/-- Narrows the first entity facet to one predefined type. -/
def withPredefinedType (g : FacetGroup) (predefinedType : String) : FacetGroup :=
  { g with facets := narrowFirst predefinedType g.facets }

def isEmpty (g : FacetGroup) : Bool := g.facets.isEmpty

/-- Gives every facet the same cardinality. -/
def setCardinality (g : FacetGroup) (c : RequirementCardinality) : FacetGroup :=
  { g with options := List.replicate g.facets.length c }

/-- The cardinality of the facet at `index`; expected where none was given. -/
def optionAt (g : FacetGroup) (index : Nat) : RequirementCardinality :=
  (g.options[index]?).getD .expected

/-- Pairs facets with cardinalities; expected where none was given. -/
def pairUp : List Facet → List RequirementCardinality → List (Facet × RequirementCardinality)
  | [], _ => []
  | f :: fs, [] => (f, .expected) :: pairUp fs []
  | f :: fs, c :: cs => (f, c) :: pairUp fs cs

/-- The facets with their cardinalities. -/
def entries (g : FacetGroup) : List (Facet × RequirementCardinality) := pairUp g.facets g.options

/-- Appends a facet with its cardinality. The options are first filled up to the facets. -/
def push (g : FacetGroup) (f : Facet) (c : RequirementCardinality) : FacetGroup :=
  let missing := g.facets.length - g.options.length
  { g with
    facets := g.facets ++ [f]
    options := g.options ++ List.replicate missing .expected ++ [c] }

/-- Appends a facet unless the group has it with the same cardinality. -/
def pushUnique (g : FacetGroup) (f : Facet) (c : RequirementCardinality) : FacetGroup :=
  if (f, c) ∈ g.entries then g else g.push f c

/-- The text that tells groups apart by their facets and options; names and descriptions do
not enter it, unless there is no facet. -/
def decode (g : FacetGroup) : String :=
  if g.facets.isEmpty then g.name
  else
    "All elements " ++ " AND ".intercalate (g.facets.map Facet.describe) ++
      ", ".intercalate (g.options.map RequirementCardinality.name)

/-- The types that a constraint lists. -/
def listedTypes : Constraint → List String
  | .exact v => [v]
  | .list vs => vs
  | _ => []

/-- The types that the first entity facet selects. -/
def entityNames (g : FacetGroup) : List String :=
  (g.facets.findSome? fun
    | .entity types _ => some (listedTypes types)
    | _ => none).getD []

/-- The first exact predefined type that an entity facet asks for. -/
def predefinedType? (g : FacetGroup) : Option String :=
  g.facets.findSome? fun
    | .entity _ (some p) => p.single?
    | _ => none

theorem length_entries (g : FacetGroup) : g.entries.length = g.facets.length := by
  have (fs : List Facet) : ∀ cs, (pairUp fs cs).length = fs.length := by
    induction fs with
    | nil => intro cs; rfl
    | cons f fs ih => intro cs; cases cs <;> simp [pairUp, ih]
  exact this _ _

instance : Json.Encode FacetGroup where
  encode g := .obj ([("name", .str g.name), ("description", .str g.description),
    ("facets", Json.encode g.facets)] ++ Json.ifAny "options" g.options)

instance : Json.Decode FacetGroup where
  decode? j := do
    let j ← j.record? ["name", "description", "facets", "options"]
    return {
      name := ← Json.required j "name"
      description := ← Json.required j "description"
      facets := ← Json.required j "facets"
      options := ← Json.orElse j "options" [] }

end FacetGroup

end Eir
