import Eir.Naming.Codes
import Eir.Naming.Decision
import Eir.Naming.SubKindNames
import Eir.Naming.TypeName
import Eir.Schema.Conventions
import Std.Data.HashMap

/-!
# Naming

Leads from a kind of component, its sub-kind and the space around it to a name
and to the pattern of such names. Both come from one decision, so that a name
matches its own pattern. Numbers in names are counted under keys.
-/

namespace Eir

/-! ## Counters -/

/-- The last number given out under each key. -/
structure Counters where
  issued : Std.HashMap String Nat

namespace Counters

/-- No number was given out. -/
def fresh : Counters := ⟨{}⟩

instance : Inhabited Counters := ⟨fresh⟩

/-- The last number under the key; zero if there was none. -/
def current (c : Counters) (key : String) : Nat := c.issued.getD key 0

/-- Gives out the next number under the key. -/
def next (c : Counters) (key : String) : Nat × Counters :=
  let n := c.current key + 1
  (n, ⟨c.issued.insert key n⟩)

end Counters

/-! ## Names -/

/-- How components of an undefined kind are treated. Rules forbid them. -/
structure UndefinedPolicy where
  /-- There are naming rules for them, which nothing can pass. -/
  namingRules : Bool
  /-- There is a failing sample of each type. -/
  fixtureOccurrences : Bool
  deriving DecidableEq, Repr

namespace UndefinedPolicy

instance : Inhabited UndefinedPolicy := ⟨⟨false, true⟩⟩

instance : Json.Encode UndefinedPolicy where
  encode p := .obj [("naming_rules", .bool p.namingRules),
    ("fixture_occurrences", .bool p.fixtureOccurrences)]

instance : Json.Decode UndefinedPolicy where
  decode? j := do
    let j ← j.record? ["naming_rules", "fixture_occurrences"]
    return {
      namingRules := ← Json.orElse j "naming_rules" false
      fixtureOccurrences := ← Json.orElse j "fixture_occurrences" true }

end UndefinedPolicy

/-- What naming reports while it goes on. -/
inductive NamingNotice where
  /-- No words are known for a sub-kind. -/
  | missingDisplay (entity subKind : String)
  /-- The letters of a stem are used up. -/
  | letterReused (stem : String) (letter : Char)
  deriving DecidableEq, Repr

/-- The text of a notice. -/
def NamingNotice.text : NamingNotice → String
  | missingDisplay entity subKind =>
    "WARN missing sub-kind display name, using raw code entity=" ++ entity ++ " sub_kind=" ++ subKind
  | letterReused stem letter =>
    "WARN More than " ++ Text.decimal spaceLetters.toList.length ++ " spaces share stem '" ++ stem ++
      "'; letter " ++ String.singleton letter ++ " reused"

/-- The tables that names are made from. -/
structure Namer where
  codes : CodeTable
  conventions : TypeConventions
  subKindNames : SubKindNames

instance : Inhabited Namer := ⟨⟨default, default, default⟩⟩

/-- A name, the pattern of such names, and the decision that both come from. -/
structure ResolvedName where
  name : String
  pattern : String
  decision : NamingDecision
  deriving DecidableEq, Repr, Inhabited

namespace Namer

/-- The code of a kind, found by its label. -/
def code? (n : Namer) (kind : String) : Option TypeCode :=
  n.codes.get? (n.conventions.entityLabel kind)

/-- Decides the shape of names; `label` stands in the names of kinds without a code. -/
def decide (n : Namer) (kind : String) (subKind label : Option String) : NamingDecision :=
  let entity := n.conventions.entityLabel kind
  let subKind := subKind.filter (· ≠ "")
  match n.codes.get? entity with
  | some t =>
    if t.hasOverrides then .sequence (t.codeFor subKind)
    else
      match t.strategy with
      | .spatial => .spatial t.code
      | .sequence => .sequence t.code
  | none =>
    if entity = "Space" then .spaceLetter
    else
      let base := label.getD entity
      .fallback (match subKind with
        | some s => base ++ "-" ++ s
        | none => base)

/-- Gives out the next name of a kind in a container. -/
def resolve (n : Namer) (counters : Counters) (kind : String) (subKind : Option String)
    (container : String) (label : Option String) :
    ResolvedName × Option NamingNotice × Counters :=
  let decision := n.decide kind subKind label
  let key := decision.counterKey container
  let (number, counters) := counters.next key
  let notice := if decision.reusesLetter number then
      some (.letterReused key (spaceLetter number))
    else none
  (⟨decision.render key number, decision.pattern (.literal container), decision⟩, notice, counters)

/-- The pattern of the project's rule for the names of a kind, if there is one. -/
def rulePattern? (n : Namer) (kind : String) (subKind : Option String) : Option String :=
  let decision := n.decide kind subKind none
  if decision.hasConvention then some (decision.pattern .convention) else none

/-- The words for a sub-kind of an entity, and a notice if there are none. -/
def display (n : Namer) (entity subKind : String) : String × Option NamingNotice :=
  match n.subKindNames.get? subKind with
  | some words => (words, none)
  | none => (subKind, some (.missingDisplay entity subKind))

/-- The shape of the names of a type object's types of a sub-kind. -/
def typeConvention (n : Namer) (typeName : String) (subKind : Option String) :
    TypeNameConvention × Option NamingNotice :=
  let entity := n.conventions.entityLabel typeName
  match subKind with
  | none => (.unenumerated entity, none)
  | some s =>
    if !n.conventions.enumeratesSubKinds typeName then (.unenumerated entity, none)
    else if s = "USERDEFINED" then (.userDefined entity, none)
    else
      let (words, notice) := n.display entity s
      (.enumerated entity words, notice)

end Namer

end Eir
