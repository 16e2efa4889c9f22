/-!
# JSON values

The values of a JSON document whose numbers are integers. An object keeps its
members in the order in which they are written.
-/

namespace Eir

/-- A JSON value. -/
inductive Json where
  | null
  | bool (b : Bool)
  | num (n : Int)
  | str (s : String)
  | arr (items : List Json)
  | obj (members : List (String × Json))
  deriving Inhabited, Repr, BEq

namespace Json

/-- The members of an object. -/
def members? : Json → Option (List (String × Json))
  | obj ms => some ms
  | _ => none

/-- The items of an array. -/
def items? : Json → Option (List Json)
  | arr xs => some xs
  | _ => none

/-- The member of an object under `key`; nothing on other values. -/
def get? (j : Json) (key : String) : Option Json :=
  match j with
  | obj ms => ms.lookup key
  | _ => none

/-- Puts `value` under `key`: in the place of the member of that name, or behind the others. -/
def put (key : String) (value : Json) : List (String × Json) → List (String × Json)
  | [] => [(key, value)]
  | (k, v) :: ms => if k = key then (key, value) :: ms else (k, v) :: put key value ms

mutual

/-- Lays `over` over `base`: two objects member by member, anything else replaced. -/
def overlay (base : Json) : Json → Json
  | obj ms =>
    match base with
    | obj bs => obj (overlayMembers bs ms)
    | _ => obj ms
  | above => above

/-- Lays the members one after the other over those of `bs`. -/
def overlayMembers (bs : List (String × Json)) : List (String × Json) → List (String × Json)
  | [] => bs
  | (k, v) :: ms =>
    let merged := match bs.lookup k with
      | some old => overlay old v
      | none => v
    overlayMembers (put k merged bs) ms

end

mutual

/-- The same value with the members of every object in the order of their names. -/
def sorted : Json → Json
  | arr xs => arr (sortedItems xs)
  | obj ms => obj ((sortedMembers ms).mergeSort fun a b => decide (a.1 ≤ b.1))
  | j => j

/-- `sorted` on each item. -/
def sortedItems : List Json → List Json
  | [] => []
  | x :: xs => sorted x :: sortedItems xs

/-- `sorted` on the value of each member. -/
def sortedMembers : List (String × Json) → List (String × Json)
  | [] => []
  | (k, v) :: ms => (k, sorted v) :: sortedMembers ms

end

end Json

end Eir
