import Eir.Requirement
import Std.Data.HashMap

/-!
# Rule index

The identifiers of the rules that check a subject of an entity type, in the
order in which the rules were made.
-/

namespace Eir

/-- What rules are looked up by. The entity type is in upper case. -/
structure RuleKey where
  entity : String
  subKind : Option String
  kind : RequirementKind
  subject : String
  deriving DecidableEq, Repr, Hashable

namespace RuleKey

/-- The key of an entity type in any case. -/
def of (entity : String) (subKind : Option String) (kind : RequirementKind)
    (subject : String) : RuleKey := ⟨entity.toUpper, subKind, kind, subject⟩

instance : Json.Decode RuleKey where
  decode? j := do
    return of (← Json.required j "entity") (← Json.optional j "sub_kind")
      (← Json.required j "kind") (← Json.required j "subject")

end RuleKey

/-- The identifiers under each key. -/
structure RuleIndex where
  entries : Std.HashMap RuleKey (List String)

namespace RuleIndex

def empty : RuleIndex := ⟨{}⟩

instance : Inhabited RuleIndex := ⟨empty⟩

/-- Puts an identifier behind those of its key, unless it is among them. -/
def record (index : RuleIndex) (key : RuleKey) (identifier : String) : RuleIndex :=
  let found := index.entries.getD key []
  ⟨index.entries.insert key (if identifier ∈ found then found else found ++ [identifier])⟩

/-- Every identifier under the key, or if there is none under the key without sub-kind. -/
def lookupAll (index : RuleIndex) (key : RuleKey) : List String :=
  match index.entries[key]? with
  | some found => found
  | none => index.entries.getD { key with subKind := none } []

/-- The first identifier under the key. -/
def lookup? (index : RuleIndex) (key : RuleKey) : Option String := (index.lookupAll key).head?

/-- Some rule has the identifier. -/
def containsIdentifier (index : RuleIndex) (identifier : String) : Bool :=
  index.entries.toList.any fun (_, ids) => ids.contains identifier

/-- The number of keys. -/
def size (index : RuleIndex) : Nat := index.entries.size

end RuleIndex

end Eir
