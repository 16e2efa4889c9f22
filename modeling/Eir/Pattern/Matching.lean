import Eir.Pattern.Basic

/-!
# Matching

A place in a text is a cursor. A pattern leads from a set of places to the set
of the places behind a match that begins at one of them; a text is matched when
that set is not empty.
-/

namespace Eir.Pattern

/-- A place in a text: how many characters stand before it, the last of them, and the text
behind it. -/
structure Cursor where
  index : Nat
  before : Option Char
  rest : List Char
  deriving Repr, DecidableEq, Inhabited

namespace Cursor

/-- The start of a text. -/
def start (text : List Char) : Cursor := ⟨0, none, text⟩

/-- The place behind the next character, when it is one of the set. -/
def step? (s : CharSet) (c : Cursor) : Option Cursor :=
  match c.rest with
  | [] => none
  | x :: xs => if s.contains x then some ⟨c.index + 1, some x, xs⟩ else none

/-- Every place from the cursor on. -/
def onward (index : Nat) (before : Option Char) : List Char → List Cursor
  | [] => [⟨index, before, []⟩]
  | x :: xs => ⟨index, before, x :: xs⟩ :: onward (index + 1) (some x) xs

end Cursor

/-- The test holds between `before` and `after`. -/
def Look.holds (l : Look) (before after : Option Char) : Bool :=
  let isIn (w : CharSet) (c : Option Char) : Bool := c.any w.contains
  match l with
  | textStart => before.isNone
  | textEnd => after.isNone
  | lineStart => before.isNone || before == some '\n'
  | lineEnd => after.isNone || after == some '\n'
  | anyLineStart =>
    before.isNone || before == some '\n' || (before == some '\r' && after != some '\n')
  | anyLineEnd =>
    after.isNone || after == some '\r' || (after == some '\n' && before != some '\r')
  | boundary w => isIn w before != isIn w after
  | noBoundary w => isIn w before == isIn w after
  | wordStart w => !isIn w before && isIn w after
  | wordEnd w => isIn w before && !isIn w after
  | wordStartHalf w => !isIn w before
  | wordEndHalf w => !isIn w after

/-- Puts two ordered sets of places of one text together. -/
def merge : List Cursor → List Cursor → List Cursor
  | [], ys => ys
  | xs, [] => xs
  | x :: xs, y :: ys =>
    if x.index < y.index then x :: merge xs (y :: ys)
    else if y.index < x.index then y :: merge (x :: xs) ys
    else x :: merge xs ys
termination_by xs ys => xs.length + ys.length

/-- The places of `xs` that are not among `seen`. -/
def unseen (seen xs : List Cursor) : List Cursor :=
  xs.filter fun x => !seen.any fun y => y.index == x.index

/-- The places that `f` leads to in any number of steps from `frontier`, and those of `seen`. -/
def closure (f : List Cursor → List Cursor) : Nat → List Cursor → List Cursor → List Cursor
  | 0, seen, _ => seen
  | fuel + 1, seen, frontier =>
    match unseen seen (f frontier) with
    | [] => seen
    | new => closure f fuel (merge seen new) new

/-- The places that `f` leads to in at most `n` steps. -/
def atMost (f : List Cursor → List Cursor) : Nat → List Cursor → List Cursor
  | 0, xs => xs
  | n + 1, xs => match xs with
    | [] => []
    | xs => merge xs (atMost f n (f xs))

/-- The places that `f` leads to in exactly `n` steps. -/
def exactly (f : List Cursor → List Cursor) : Nat → List Cursor → List Cursor
  | 0, xs => xs
  | n + 1, xs => match xs with
    | [] => []
    | xs => exactly f n (f xs)

/-- How many places there are at most from the first one on. -/
def room (xs : List Cursor) : Nat :=
  xs.foldl (fun n c => max n (c.rest.length + 1)) 0

/-- The places behind a match that begins at one of the places. -/
def Node.ends : Node → List Cursor → List Cursor
  | empty, xs => xs
  | chars s, xs => xs.filterMap (Cursor.step? s)
  | look l, xs => xs.filter fun c => l.holds c.before c.rest.head?
  | seq a b, xs => b.ends (a.ends xs)
  | alt a b, xs => merge (a.ends xs) (b.ends xs)
  | times a lo hi, xs =>
    let ys := exactly a.ends lo xs
    match hi with
    | none => closure a.ends (room ys) ys ys
    | some hi => atMost a.ends (min (hi - lo) (room ys)) ys
  | group a, xs => a.ends xs

/-- The pattern matches somewhere in the text. -/
def Node.occursIn (node : Node) (text : String) : Bool :=
  !(node.ends (Cursor.onward 0 none text.toList)).isEmpty

/-- The pattern matches from the start of the text. -/
def Node.matchesAtStart (node : Node) (text : String) : Bool :=
  !(node.ends [Cursor.start text.toList]).isEmpty

end Eir.Pattern
