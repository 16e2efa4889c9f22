import Eir.Json.Codec
import Std.Data.ExtTreeMap
import Std.Data.ExtTreeSet

/-!
# Values of a sample

The attributes, properties, classifications and groups of a sample, and the
fields that address one of them.
-/

namespace Eir

/-- The address of a value. -/
inductive Field where
  | attr (name : String)
  | property (set name : String)
  /-- The code under which a system classifies the sample. -/
  | classification (system : String)
  /-- Being in a group. -/
  | membership (group : String)
  deriving DecidableEq, Repr, Inhabited

namespace Field

/-- The kinds of fields in their order. -/
def rank : Field → Nat
  | attr _ => 0
  | property .. => 1
  | classification _ => 2
  | membership _ => 3

/-- The first text of a field. -/
def owner : Field → String
  | attr name => name
  | property set _ => set
  | classification system => system
  | membership group => group

/-- The second text of a field that has two. -/
def member : Field → String
  | property _ name => name
  | _ => ""

/-- Fields are ordered by kind, and those of one kind by their texts. -/
def compare : Field → Field → Ordering :=
  compareLex (compareOn rank) (compareLex (compareOn owner) (compareOn member))

instance : Std.TransCmp compare :=
  inferInstanceAs (Std.TransCmp
    (compareLex (compareOn rank) (compareLex (compareOn owner) (compareOn member))))

theorem eq_of_compare {f g : Field} (h : compare f g = .eq) : f = g := by
  simp only [compare, compareLex_eq_eq, compareOn, Std.LawfulEqCmp.compare_eq_iff_eq] at h
  obtain ⟨hr, ho, hm⟩ := h
  cases f <;> cases g <;> simp_all [rank, owner, member]

instance : Std.LawfulEqCmp compare := ⟨eq_of_compare⟩

instance : Json.Encode Field where
  encode
    | attr name => .obj [("field", .str "attribute"), ("name", .str name)]
    | property set name => .obj [("field", .str "property"), ("set", .str set), ("name", .str name)]
    | classification system => .obj [("field", .str "classification"), ("system", .str system)]
    | membership group => .obj [("field", .str "membership"), ("group", .str group)]

/-- The texts of each kind of field. -/
def kinds : List (String × List String) :=
  [("attribute", ["name"]), ("property", ["set", "name"]), ("classification", ["system"]),
    ("membership", ["group"])]

/-- Reads a field. -/
def read? (withinTagged : Bool) (j : Json) : Option Field := do
  let (kind, j) ← j.tagged? withinTagged "field" kinds
  match kind with
  | "attribute" => return attr (← Json.required j "name")
  | "property" => return property (← Json.required j "set") (← Json.required j "name")
  | "classification" => return classification (← Json.required j "system")
  | "membership" => return membership (← Json.required j "group")
  | _ => none

instance : Json.Decode Field := ⟨read? false⟩

end Field

/-- A map of texts. -/
abbrev Texts := Std.ExtTreeMap String String

/-- The values of a sample. -/
structure ValueSet where
  attributes : Texts
  /-- The properties under the names of their sets. -/
  properties : Std.ExtTreeMap String Texts
  /-- The codes under the names of their systems. -/
  classifications : Texts
  memberships : Std.ExtTreeSet String
  deriving DecidableEq

namespace ValueSet

/-- No values. -/
def empty : ValueSet := ⟨∅, ∅, ∅, ∅⟩

instance : Inhabited ValueSet := ⟨empty⟩

/-- The value of a field. The value of a membership is the name of the group. -/
def get? (v : ValueSet) : Field → Option String
  | .attr name => v.attributes[name]?
  | .property set name => v.properties[set]?.bind fun ps => ps[name]?
  | .classification system => v.classifications[system]?
  | .membership group => if group ∈ v.memberships then some group else none

/-- The field has a value. -/
def contains (v : ValueSet) (f : Field) : Bool := (v.get? f).isSome

/-- Gives a field a value. A membership has just one, which it gets. -/
def set (v : ValueSet) (f : Field) (value : String) : ValueSet :=
  match f with
  | .attr name => { v with attributes := v.attributes.insert name value }
  | .property set name =>
    { v with properties := v.properties.insert set ((v.properties.getD set ∅).insert name value) }
  | .classification system =>
    { v with classifications := v.classifications.insert system value }
  | .membership group => { v with memberships := v.memberships.insert group }

/-- Takes the value of a field away. A set of properties that is then empty goes too. -/
def remove (v : ValueSet) : Field → ValueSet
  | .attr name => { v with attributes := v.attributes.erase name }
  | .property set name =>
    match v.properties[set]? with
    | none => v
    | some ps =>
      let ps := ps.erase name
      { v with properties :=
          if ps.isEmpty then v.properties.erase set else v.properties.insert set ps }
  | .classification system => { v with classifications := v.classifications.erase system }
  | .membership group => { v with memberships := v.memberships.erase group }

/-- A member for the entries of a map, if there are any. -/
def entries (key : String) (ms : List (String × Json)) : List (String × Json) :=
  if ms.isEmpty then [] else [(key, .obj ms)]

instance : Json.Encode ValueSet where
  encode v :=
    let ofTexts (m : Texts) := m.toList.map fun (k, t) => (k, Json.str t)
    .obj (entries "attributes" (ofTexts v.attributes) ++
      entries "properties" (v.properties.toList.map fun (set, ps) => (set, .obj (ofTexts ps))) ++
      entries "classifications" (ofTexts v.classifications) ++
      Json.ifAny "memberships" v.memberships.toList)

/-- A member that is a map of texts; none are an empty map. -/
def texts? (j : Json) : Option Texts := j.stringMembers?.map fun ms => .ofList ms

instance : Json.Decode ValueSet where
  decode? j := do
    let j ← j.record? ["attributes", "properties", "classifications", "memberships"]
    let part (key : String) : Json := (j.get? key).getD (.obj [])
    let properties ← (← (part "properties").members?).mapM fun (set, ps) =>
      (texts? ps).map (set, ·)
    let memberships : List String ← Json.orElse j "memberships" []
    return {
      attributes := ← texts? (part "attributes")
      properties := .ofList properties
      classifications := ← texts? (part "classifications")
      memberships := .ofList memberships }

end ValueSet

end Eir
