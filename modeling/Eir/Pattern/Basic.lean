import Eir.Pattern.Folding
import Eir.Pattern.Property.Derived
import Eir.Text.Blank

/-!
# Patterns

The classes `\d` (the decimal digits of all scripts) and `\w` (letters, marks,
decimal digits, connector punctuation and join controls). The structure of a
pattern: sets of characters, tests of a place in the text, and the ways to put
patterns together.
-/

namespace Eir.Pattern

/-! ## Decimal digits and word characters -/

/-- The decimal digits. -/
def digitRanges : Ranges := Property.category "nd"

/-- The word characters. -/
def wordRanges : Ranges :=
  .unionAll [Property.alphabetic, Property.categoriesOf ["mn", "mc", "me", "nd", "pc"],
    Property.binary "joinc"]

/-- A decimal digit of any script. -/
def isDigit (c : Char) : Bool := c.isDigit || (0x80 ≤ c.toNat && digitRanges.contains c.toNat)

/-- A character of a word in any script. -/
def isWord (c : Char) : Bool :=
  c.isAlphanum || c == '_' || (0x80 ≤ c.toNat && wordRanges.contains c.toNat)

theorem isDigit_of_isDigit {c : Char} (h : c.isDigit = true) : isDigit c = true := by
  simp [isDigit, h]

theorem isWord_of_isAlphanum {c : Char} (h : c.isAlphanum = true) : isWord c = true := by
  simp [isWord, h]

/-- A number of any kind. -/
def numberRanges : Ranges := Property.categoriesOf ["nd", "nl", "no"]

/-! ## Structure -/

/-- A set of characters. -/
inductive CharSet where
  | range (first last : Char)
  | digit | word | blank
  /-- The characters of a table. -/
  | table (r : Ranges)
  | compl (s : CharSet)
  | union (s t : CharSet)
  | inter (s t : CharSet)
  /-- The characters that differ only in case from one of `s`. -/
  | caseless (s : CharSet)
  /-- The same for a set of ASCII characters that stays one. -/
  | asciiCaseless (s : CharSet)
  | empty
  deriving Repr, DecidableEq, Inhabited

namespace CharSet

/-- The set contains the character. -/
def contains : CharSet → Char → Bool
  | range a b, c => a ≤ c && c ≤ b
  | digit, c => isDigit c
  | word, c => isWord c
  | blank, c => Text.isBlank c
  | table r, c => r.contains c.toNat
  | compl s, c => !s.contains c
  | union s t, c => s.contains c || t.contains c
  | inter s t, c => s.contains c && t.contains c
  | caseless s, c => (caseVariants c).any s.contains
  | asciiCaseless s, c =>
    s.contains c || (c.isUpper && s.contains c.toLower) || (c.isLower && s.contains c.toUpper)
  | empty, _ => false

/-- The characters of the set, as ranges. -/
def extent : CharSet → Ranges
  | range a b => .between a.toNat b.toNat
  | digit => digitRanges
  | word => wordRanges
  | blank => Property.binary "wspace"
  | table r => r
  | compl s => s.extent.compl
  | union s t => s.extent.union t.extent
  | inter s t => s.extent.inter t.extent
  | caseless s => s.extent.caseless
  | asciiCaseless s =>
    let r := s.extent
    let shifted (a b : Nat) (f : Nat → Nat) : Ranges :=
      .ofList ((r.inter (.between a b)).toList.map fun (x, y) => (f x, f y))
    .unionAll [r, shifted 0x41 0x5A (· + 0x20), shifted 0x61 0x7A (· - 0x20)]
  | empty => .empty

/-- The set of one character. -/
def single (c : Char) : CharSet := range c c

def unionAll (sets : List CharSet) : CharSet := sets.foldr union empty

def diff (s t : CharSet) : CharSet := inter s (compl t)

/-- The characters in just one of the sets. -/
def symmDiff (s t : CharSet) : CharSet := union (diff s t) (diff t s)

end CharSet

/-- Tests of a place in the text, between two of its characters. -/
inductive Look where
  | textStart | textEnd | lineStart | lineEnd
  /-- Like the two before, where a carriage return ends a line too. -/
  | anyLineStart | anyLineEnd
  /-- Tests of where a word made of the characters of `w` begins or ends. -/
  | boundary (w : CharSet) | noBoundary (w : CharSet)
  | wordStart (w : CharSet) | wordEnd (w : CharSet)
  | wordStartHalf (w : CharSet) | wordEndHalf (w : CharSet)
  deriving Repr, DecidableEq, Inhabited

/-- A pattern. -/
inductive Node where
  | empty
  | chars (s : CharSet)
  | look (l : Look)
  | seq (a b : Node)
  | alt (a b : Node)
  /-- `a` at least `min` times and, if there is a `max`, at most that often. -/
  | times (a : Node) (min : Nat) (max : Option Nat)
  /-- `a` where a match of it is remembered. -/
  | group (a : Node)
  deriving Repr, DecidableEq, Inhabited

namespace Node

/-- No match of the pattern takes a character. -/
def takesNothing : Node → Bool
  | empty | look _ => true
  | chars _ => false
  | seq a b | alt a b => a.takesNothing && b.takesNothing
  | times a _ max => a.takesNothing || max == some 0
  | group a => a.takesNothing

/-- The pattern at least `min` times and at most `max` times. What takes no character is not worth
repeating. -/
def repeated (a : Node) (min : Nat) (max : Option Nat) : Node :=
  if a.takesNothing then times a (Nat.min min 1) (some (Nat.min (max.getD 1) 1))
  else times a min max

end Node

end Eir.Pattern
