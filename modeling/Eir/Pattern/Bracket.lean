import Eir.Pattern.Escape

/-!
# Classes in brackets

A class lists characters, ranges, escapes, named classes and classes inside it,
and combines such lists with the operations of sets. With each class goes how
deep it nests, as patterns may nest only so deep.
-/

namespace Eir.Pattern

/-- How deep the parts of a pattern may stand inside each other. -/
def nestLimit : Nat := 250

/-- How deep a list of parts nests: a list of several is a part of its own. -/
def depthOf (depths : List Nat) : Nat :=
  match depths with
  | [] => 0
  | [d] => d
  | ds => ds.foldl max 0 + 1

/-- The class of a name between `[:` and `:]`. -/
def namedClass? (name : String) : Option CharSet :=
  let ranges (rs : List (Char × Char)) : CharSet := .unionAll (rs.map fun (a, b) => .range a b)
  match name with
  | "alnum" => some (ranges [('0', '9'), ('A', 'Z'), ('a', 'z')])
  | "alpha" => some (ranges [('A', 'Z'), ('a', 'z')])
  | "ascii" => some (.range (Char.ofNat 0) (Char.ofNat 0x7F))
  | "blank" => some (ranges [('\t', '\t'), (' ', ' ')])
  | "cntrl" => some (.union (.range (Char.ofNat 0) (Char.ofNat 0x1F)) (.single (Char.ofNat 0x7F)))
  | "digit" => some (.range '0' '9')
  | "graph" => some (.range '!' '~')
  | "lower" => some (.range 'a' 'z')
  | "print" => some (.range ' ' '~')
  | "punct" => some (ranges [('!', '/'), (':', '@'), ('[', Char.ofNat 0x60), ('\x7b', '~')])
  | "space" => some (ranges [('\t', '\r'), (' ', ' ')])
  | "upper" => some (.range 'A' 'Z')
  | "word" => some (ranges [('0', '9'), ('A', 'Z'), ('a', 'z'), ('_', '_')])
  | "xdigit" => some (ranges [('0', '9'), ('A', 'F'), ('a', 'f')])
  | _ => none

/-- Reads a class name behind `[`, if there is one: the class, whether its complement is meant, and
the rest of the text. -/
def namedClassAt? : List Char → Option (CharSet × Bool × List Char)
  | ':' :: cs =>
    let (negated, cs) := match cs with
      | '^' :: rest => (true, rest)
      | _ => (false, cs)
    match splitAtFirst [':'] cs with
    | (name, some _, ']' :: rest) =>
      (namedClass? (String.ofList name)).map fun s => (s, negated, rest)
    | _ => none
  | _ => none

/-- A part of a class, and how deep it nests. -/
structure ClassPart where
  set : CharSet
  depth : Nat

namespace ClassPart

/-- A part that is no class of its own. -/
def plain (s : CharSet) : ClassPart := ⟨s, 0⟩

/-- All that one of the parts contains. -/
def union (parts : List ClassPart) : ClassPart :=
  ⟨.unionAll (parts.map set), depthOf (parts.map depth)⟩

end ClassPart

/-- Operations of sets in a class. -/
inductive SetOp where
  | inter | diff | symmDiff

/-- Applies the operation. If case does not count, it does not count on either side. -/
def SetOp.apply (flags : Flags) (op : SetOp) (left right : ClassPart) : ClassPart :=
  let f := match op with
    | inter => CharSet.inter
    | diff => CharSet.diff
    | symmDiff => CharSet.symmDiff
  ⟨f (flags.cased left.set) (flags.cased right.set), max left.depth right.depth + 1⟩

/-- Applies the operation that waits for its right side. -/
def applyPending (flags : Flags) (pending : Option (SetOp × ClassPart)) (right : ClassPart) :
    ClassPart :=
  match pending with
  | some (op, left) => op.apply flags left right
  | none => right

/-- One item of a class: a character or a set. -/
def classItem? (flags : Flags) : List Char → Option (Escaped × List Char)
  | [] => none
  | '\\' :: cs => escape? flags cs
  | c :: cs => some (.char c, cs)

/-- The character that an item stands for; outside Unicode it has to be an ASCII one. -/
def itemChar? (flags : Flags) (item : Escaped) : Option Char :=
  match item with
  | .char c | .byte c => if flags.unicode || c.toNat < 0x80 then some c else none
  | _ => none

/-- The set that an item stands for. -/
def itemSet? (flags : Flags) (item : Escaped) : Option CharSet :=
  match item with
  | .set s => some s
  | item => (itemChar? flags item).map .single

/-- What comes next behind a hyphen, as far as it decides whether the hyphen makes a range. Of a
comment only its mark is passed over. -/
def afterHyphen (flags : Flags) (cs : List Char) : Option Char :=
  if flags.verbose then
    match cs.dropWhile Text.isBlank with
    | '#' :: rest => (rest.dropWhile Text.isBlank).head?
    | rest => rest.head?
  else cs.head?

/-- Reads one item or one range of a class. -/
def classRange? (flags : Flags) (cs : List Char) : Option (CharSet × List Char) := do
  let (first, rest) ← classItem? flags cs
  match skip flags rest with
  | [] => none
  | '-' :: after =>
    let next := afterHyphen flags after
    if next == some ']' || next == some '-' then
      return (← itemSet? flags first, '-' :: after)
    else
      let (last, rest) ← classItem? flags (skip flags after)
      let a ← itemChar? flags first
      let b ← itemChar? flags last
      if a ≤ b then return (.range a b, rest) else none
  | rest => return (← itemSet? flags first, rest)

/-- Reads the hyphens at the start of a class. -/
def leadingHyphens (flags : Flags) : Nat → List Char → List ClassPart × List Char
  | 0, cs => ([], cs)
  | fuel + 1, '-' :: cs =>
    let (hs, rest) := leadingHyphens flags fuel (skip flags cs)
    (.plain (.single '-') :: hs, rest)
  | _ + 1, cs => ([], cs)

mutual

/-- Reads a class behind its opening bracket, where `outer` classes are open. -/
def bracketClass? (flags : Flags) (outer : Nat) : Nat → List Char → Option (ClassPart × List Char)
  | 0, _ => none
  | fuel + 1, cs =>
    if outer ≥ nestLimit then none
    else
      let (negated, cs) := match skip flags cs with
        | '^' :: rest => (true, skip flags rest)
        | cs => (false, cs)
      let (items, cs) := leadingHyphens flags cs.length cs
      let (items, cs) := match items, cs with
        | [], ']' :: rest => ([.plain (.single ']')], skip flags rest)
        | items, cs => (items, cs)
      match classItems? flags outer fuel items none cs with
      | some (inside, rest) =>
        (flags.negatedIf? negated (flags.cased inside.set)).map fun s =>
          (⟨s, inside.depth + 1⟩, rest)
      | none => none

/-- Reads the items of a class up to its closing bracket. -/
def classItems? (flags : Flags) (outer : Nat) : Nat → List ClassPart →
    Option (SetOp × ClassPart) → List Char → Option (ClassPart × List Char)
  | 0, _, _, _ => none
  | fuel + 1, items, pending, cs =>
    let operate (op : SetOp) (rest : List Char) : Option (ClassPart × List Char) :=
      let left := applyPending flags pending (.union items)
      if left.depth > nestLimit then none
      else classItems? flags outer fuel [] (some (op, left)) rest
    match skip flags cs with
    | [] => none
    | ']' :: rest => some (applyPending flags pending (.union items), rest)
    | '[' :: rest =>
      match namedClassAt? rest with
      | some (s, negated, rest) =>
        match flags.negatedIf? negated (flags.cased s) with
        | some s => classItems? flags outer fuel (.plain s :: items) pending rest
        | none => none
      | none =>
        match bracketClass? flags (outer + 1) fuel rest with
        | some (part, rest) => classItems? flags outer fuel (part :: items) pending rest
        | none => none
    | '&' :: '&' :: rest => operate .inter rest
    | '-' :: '-' :: rest => operate .diff rest
    | '~' :: '~' :: rest => operate .symmDiff rest
    | rest =>
      match classRange? flags rest with
      | some (s, rest) => classItems? flags outer fuel (.plain s :: items) pending rest
      | none => none

end

end Eir.Pattern
