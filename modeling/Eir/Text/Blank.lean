/-!
# Blank space

The characters that count as blank (the Unicode property `White_Space`) or as
control characters (the category `Cc`), the trimming of blanks off the ends of a
text, and its words: the parts between blanks.
-/

namespace Eir.Text

/-- A character with the Unicode property `White_Space`. -/
def isBlank (c : Char) : Bool :=
  let n := c.toNat
  (9 ≤ n && n ≤ 13) || n == 0x20 || n == 0x85 || n == 0xA0 || n == 0x1680 ||
    (0x2000 ≤ n && n ≤ 0x200A) || n == 0x2028 || n == 0x2029 || n == 0x202F ||
    n == 0x205F || n == 0x3000

/-- A control character: category `Cc`. -/
def isControl (c : Char) : Bool :=
  let n := c.toNat
  n ≤ 0x1F || (0x7F ≤ n && n ≤ 0x9F)

/-- Drops the characters at the end that satisfy `p`. -/
def dropEndWhile (p : Char → Bool) (cs : List Char) : List Char :=
  (cs.reverse.dropWhile p).reverse

/-- The text without the blanks at its start and at its end. -/
def trim (s : String) : String :=
  String.ofList (dropEndWhile isBlank (s.toList.dropWhile isBlank))

theorem isBlank_of_isWhitespace {c : Char} (h : c.isWhitespace = true) : isBlank c = true := by
  simp only [Char.isWhitespace, Bool.or_eq_true, decide_eq_true_eq] at h
  rcases h with ((rfl | rfl) | rfl) | rfl <;> decide

/-! ## Words -/

/-- The parts of `cs` between characters that satisfy `p`, where `part` has been read of the
first one, the last character first. Empty parts do not count. -/
def partsFrom (p : Char → Bool) (part : List Char) : List Char → List (List Char)
  | [] => if part.isEmpty then [] else [part.reverse]
  | c :: cs =>
    if p c then (if part.isEmpty then [] else [part.reverse]) ++ partsFrom p [] cs
    else partsFrom p (c :: part) cs

/-- The parts of a text between characters that satisfy `p`, without empty ones. -/
def parts (p : Char → Bool) (s : String) : List String :=
  (partsFrom p [] s.toList).map String.ofList

/-- The words of a text. -/
def words (s : String) : List String := parts isBlank s

end Eir.Text
