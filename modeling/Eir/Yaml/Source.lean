import Eir.Text.Digits

/-!
# The text of a table document

Indentation has a meaning in a table document, so every character is kept with
the line and the column that it stands in. Three characters break a line: the
line feed, to which the other spellings of a line end are brought, and the line
and the paragraph separator, which stay what they are.
-/

namespace Eir.Yaml

/-- A character and its place. -/
structure Mark where
  char : Char
  line : Nat
  column : Nat
  deriving Repr, DecidableEq, Inhabited

/-- What is left of a document. -/
abbrev Source := List Mark

/-- A character that may stand in a document. -/
def isPrintable (c : Char) : Bool :=
  let n := c.toNat
  n == 9 || n == 10 || n == 13 || (0x20 ≤ n && n ≤ 0x7E) || n == 0x85 ||
    (0xA0 ≤ n && n ≤ 0xFFFD) || 0x10000 ≤ n

/-- A blank within a line. -/
def isGap (c : Char) : Bool := c = ' ' || c = '\t'

/-- A character that ends a line. -/
def isBreak (c : Char) : Bool := c = '\n' || c = '\u2028' || c = '\u2029'

/-- A blank or the end of a line. -/
def isSpace (c : Char) : Bool := isGap c || isBreak c

/-- A letter, a digit, a hyphen or an underscore, all of them ASCII. -/
def isNameChar (c : Char) : Bool := c.isAlphanum || c = '-' || c = '_'

/-- A character with a meaning within brackets. -/
def isFlowMark (c : Char) : Bool := [',', '[', ']', '{', '}'].contains c

namespace Source

/-- The characters of a text in their places, with one spelling of the line feed. -/
def ofChars (line column : Nat) : List Char → Source
  | [] => []
  | '\r' :: '\n' :: cs => ⟨'\n', line, column⟩ :: ofChars (line + 1) 0 cs
  | c :: cs =>
    let c := if c = '\r' || c = '\u0085' then '\n' else c
    ⟨c, line, column⟩ ::
      if isBreak c then ofChars (line + 1) 0 cs else ofChars line (column + 1) cs

/-- A text, if it has only characters that may stand in a document. -/
def ofText? (text : String) : Option Source :=
  let cs := text.toList
  if cs.all isPrintable then some (ofChars 0 0 cs) else none

end Source

/-- The characters without their places. -/
def charsOf (s : Source) : List Char := s.map Mark.char

/-- The next character is `c`. -/
def nextIs (c : Char) (s : Source) : Bool := s.head?.any (·.char == c)

/-- Nothing follows, or a blank, or the end of a line. -/
def atSpace (s : Source) : Bool := s.head?.all (isSpace ·.char)

/-- Nothing follows on the line. -/
def atLineEnd (s : Source) : Bool := s.head?.all (isBreak ·.char)

/-- What follows the blanks. -/
def skipGap (s : Source) : Source := s.dropWhile (isGap ·.char)

/-- The rest of the line, and what follows its end. -/
def cutLine (s : Source) : Source × Source := s.span (!isBreak ·.char)

/-- Goes on behind the blanks, the remark and the end of the line; nothing else may stand there. -/
def finishLine? (s : Source) : Option Source :=
  let s := skipGap s
  let s := if nextIs '#' s then (cutLine s).2 else s
  if atLineEnd s then some (s.drop 1) else none

/-- A line begins here with three times the character `c`, and nothing more than that is in the
word. -/
def atTriple (c : Char) : Source → Bool
  | a :: b :: d :: rest =>
    a.column == 0 && a.char == c && b.char == c && d.char == c && atSpace rest
  | _ => false

/-- A line begins here that parts documents. -/
def atDocumentMark (s : Source) : Bool := atTriple '-' s || atTriple '.' s

/-- The longest word of name characters. -/
def cutName (s : Source) : String × Source :=
  (String.ofList (charsOf (s.takeWhile (isNameChar ·.char))), s.dropWhile (isNameChar ·.char))

/-- The longest run of digits. -/
def cutDigits (s : Source) : List Char × Source :=
  (charsOf (s.takeWhile (·.char.isDigit)), s.dropWhile (·.char.isDigit))

end Eir.Yaml
