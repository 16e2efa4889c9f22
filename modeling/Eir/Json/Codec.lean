import Eir.Json.Basic

/-!
# Reading and writing values as JSON

`Encode` gives the JSON form of a type and `Decode` reads it back, with nothing
for a value that is no such form. The combinators below read the members of an
object: `required`, `optional` (absent or null is none) and `orElse` (a default
when absent, while null is no value).
-/

namespace Eir.Json

/-- Types with a JSON form. -/
class Encode (α : Type) where
  encode : α → Json

/-- Types that can be read from a JSON value. -/
class Decode (α : Type) where
  decode? : Json → Option α

export Encode (encode)
export Decode (decode?)

instance : Encode Json := ⟨id⟩
instance : Decode Json := ⟨some⟩

instance : Encode Bool := ⟨.bool⟩
instance : Decode Bool where
  decode?
    | .bool b => some b
    | _ => none

instance : Encode String := ⟨.str⟩
instance : Decode String where
  decode?
    | .str s => some s
    | _ => none

instance : Encode Nat := ⟨fun n => .num n⟩

/-- A natural number below `bound`. -/
def natBelow? (bound : Nat) : Json → Option Nat
  | .num (.ofNat n) => if n < bound then some n else none
  | _ => none

/-- A natural number of 64 bits. -/
instance : Decode Nat := ⟨natBelow? (1 <<< 64)⟩

instance {α : Type} [Encode α] : Encode (List α) := ⟨fun xs => .arr (xs.map encode)⟩
instance {α : Type} [Decode α] : Decode (List α) where
  decode? j := j.items?.bind (·.mapM decode?)

instance {α : Type} [Encode α] : Encode (Option α) where
  encode
    | some x => encode x
    | none => .null
instance {α : Type} [Decode α] : Decode (Option α) where
  decode?
    | .null => some none
    | j => (decode? j).map some

/-- Null if there is none. -/
instance {α β : Type} [Encode α] [Encode β] : Encode (α × β) where
  encode p := .arr [encode p.1, encode p.2]
instance {α β : Type} [Decode α] [Decode β] : Decode (α × β) where
  decode? j := do
    let [x, y] ← j.items? | none
    return (← decode? x, ← decode? y)

/-- The member under `key`, which must be there, as `read` reads it. -/
def requiredBy {α : Type} (read : Json → Option α) (j : Json) (key : String) : Option α :=
  (j.get? key).bind read

/-- The member under `key`, as `read` reads it; none when it is absent or null. -/
def optionalBy {α : Type} (read : Json → Option α) (j : Json) (key : String) :
    Option (Option α) :=
  match j.get? key with
  | none => some none
  | some .null => some none
  | some v => (read v).map some

/-- The member under `key`, which must be there. -/
def required {α : Type} [Decode α] (j : Json) (key : String) : Option α :=
  (j.get? key).bind decode?

/-- The member under `key`; none when it is absent or null. -/
def optional {α : Type} [Decode α] (j : Json) (key : String) : Option (Option α) :=
  match j.get? key with
  | none => some none
  | some v => decode? v

/-- The member under `key`, or `default` when it is absent. -/
def orElse {α : Type} [Decode α] (j : Json) (key : String) (default : α) : Option α :=
  match j.get? key with
  | none => some default
  | some v => decode? v

/-- A record with these fields as an object. It may also be written as an array of the values of
its first fields. -/
def record? (fields : List String) : Json → Option Json
  | .obj ms => some (.obj ms)
  | .arr xs => if xs.length ≤ fields.length then some (.obj (fields.zip xs)) else none
  | _ => none

/-! ### Variants

Values within a tagged record are read more freely than others: an empty object
is then as good as null, and the position of a variant as good as its name.
-/

/-- Nothing is said. -/
def isNothing (withinTagged : Bool) : Json → Bool
  | .null => true
  | .obj [] => withinTagged
  | _ => false

/-- A constant of an enumeration: its name, or an object with nothing under its name. -/
def constant? {α : Type} (withinTagged : Bool) (read : String → Option α) : Json → Option α
  | .str s => read s
  | .obj [(s, v)] => if isNothing withinTagged v then read s else none
  | _ => none

/-- The name of a variant. -/
def variant? (withinTagged : Bool) (names : List String) : Json → Option String
  | .str s => some s
  | .num (.ofNat n) => if withinTagged then names[n]? else none
  | _ => none

/-- A tagged record: the name of its variant, which stands under `tag`, and its fields. Written as
an array, it begins with the name. -/
def tagged? (withinTagged : Bool) (tag : String) (variants : List (String × List String)) :
    Json → Option (String × Json)
  | .obj ms => do
    return (← variant? withinTagged (variants.map (·.1)) (← ms.lookup tag), .obj ms)
  | .arr (t :: xs) => do
    let name ← variant? withinTagged (variants.map (·.1)) t
    return (name, ← record? (← variants.lookup name) (.arr xs))
  | _ => none

/-- A member that is written only when there is a value. -/
def ifSome {α : Type} [Encode α] (key : String) : Option α → List (String × Json)
  | some x => [(key, encode x)]
  | none => []

/-- A member that is written only when the list is not empty. -/
def ifAny {α : Type} [Encode α] (key : String) : List α → List (String × Json)
  | [] => []
  | xs => [(key, encode xs)]

/-- An object of texts read as a map, in the order of its members. -/
def stringMembers? (j : Json) : Option (List (String × String)) :=
  j.members?.bind fun ms => ms.mapM fun (k, v) => (decode? v).map (k, ·)

/-- A map of texts as an object. -/
def ofStringMembers (ms : List (String × String)) : Json :=
  .obj (ms.map fun (k, v) => (k, .str v))

end Eir.Json
