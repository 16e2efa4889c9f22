import Eir.Pattern.Flags
import Eir.Pattern.Property

/-!
# Escapes

What a backslash and the characters behind it stand for: a character, a class or
a test of a place in the text. With escapes any text is the pattern that matches
this text only.
-/

namespace Eir.Pattern

/-- Characters with a meaning of their own. -/
def isMeta (c : Char) : Bool := "\\.+*?()|[]\x7b\x7d^$#&-~".toList.contains c

/-- Characters that may follow a backslash and then stand for themselves. -/
def isEscapable (c : Char) : Bool :=
  isMeta c || (c.toNat < 0x80 && !c.isAlphanum && c != '<' && c != '>')

/-- What an escape stands for. -/
inductive Escaped where
  | char (c : Char)
  /-- A character that is written as the value of a byte. -/
  | byte (c : Char)
  | set (s : CharSet)
  | look (l : Look)

def isHexDigit (c : Char) : Bool :=
  c.isDigit || ('a' ≤ c && c ≤ 'f') || ('A' ≤ c && c ≤ 'F')

/-- The character of a code point. -/
def charOf? (n : Nat) : Option Char := if n.isValidChar then some (Char.ofNat n) else none

/-- Reads a fixed number of hexadecimal digits. -/
def hexDigits? (flags : Flags) : Nat → List Char → Option (List Char × List Char)
  | 0, cs => some ([], cs)
  | n + 1, cs =>
    match skip flags cs with
    | [] => none
    | c :: cs =>
      if isHexDigit c then (hexDigits? flags n cs).map fun (ds, rest) => (c :: ds, rest)
      else none

/-- The character that hexadecimal digits write. -/
def hexChar? (digits : List Char) : Option Char :=
  if digits.isEmpty || !digits.all isHexDigit then none
  else charOf? (ofHex (digits.map Char.toLower))

/-- Reads what follows `\x`, `\u` or `\U`. -/
def hexEscape? (flags : Flags) (width : Nat) (cs : List Char) : Option (Escaped × List Char) :=
  match skip flags cs with
  | '\x7b' :: cs => do
    let (digits, rest) ← braced? flags cs
    return (.char (← hexChar? digits), rest)
  | cs => do
    let (digits, rest) ← hexDigits? flags width cs
    let c ← hexChar? digits
    return (if width == 2 then .byte c else .char c, rest)

/-- Splits a text around a character, the first of those in `marks`. -/
def splitAtFirst (marks : List Char) : List Char → List Char × Option Char × List Char
  | [] => ([], none, [])
  | c :: cs =>
    if marks.contains c then ([], some c, cs)
    else
      let (l, m, r) := splitAtFirst marks cs
      (c :: l, m, r)

/-- The parts of a text around its first `!=`. -/
def splitAtUnequal? : List Char → Option (List Char × List Char)
  | '!' :: '=' :: rest => some ([], rest)
  | c :: rest => (splitAtUnequal? rest).map fun (l, r) => (c :: l, r)
  | [] => none

/-- The characters of the property that a pattern asks for, such as `Greek` or `sc=Greek`, and
whether it asks for the others. -/
def propertyOf? (text : List Char) : Option (Ranges × Bool) :=
  match splitAtUnequal? text with
  | some (name, value) => (Property.ofValue? name value).map fun r => (r, true)
  | none =>
    let mark := if text.contains ':' then ':' else '='
    match splitAtFirst [mark] text with
    | (name, none, _) => (Property.ofName? name).map fun r => (r, false)
    | (name, some _, value) => (Property.ofValue? name value).map fun r => (r, false)

/-- Reads what follows `\p`. -/
def propertyEscape? (flags : Flags) (negated : Bool) (cs : List Char) :
    Option (Escaped × List Char) := do
  let ((extent, unequal), rest) ← match skip flags cs with
    | [] => none
    | '\\' :: _ => none
    | '\x7b' :: cs => do
      let (text, rest) ← braced? flags cs
      some (← propertyOf? text, rest)
    | c :: cs => do
      let extent ← Property.ofName? [c]
      some ((extent, false), cs)
  if !flags.unicode then none
  else
    return (.set (← flags.negatedIf? (negated != unequal) (flags.cased (.table extent))), rest)

/-- Reads the braces that may follow `\b`. -/
def boundaryEscape? (flags : Flags) (cs : List Char) : Option (Escaped × List Char) :=
  let plain := (Escaped.look (.boundary flags.word), cs)
  match cs with
  | '\x7b' :: inner =>
    match skip flags inner with
    | [] => none
    | c :: _ =>
      if c.isAlpha || c == '-' then do
        let (name, rest) ← braced? flags inner
        match String.ofList name with
        | "start" => some (.look (.wordStart flags.word), rest)
        | "end" => some (.look (.wordEnd flags.word), rest)
        | "start-half" => some (.look (.wordStartHalf flags.word), rest)
        | "end-half" => some (.look (.wordEndHalf flags.word), rest)
        | _ => none
      else some plain
  | _ => some plain

/-- Reads what follows a backslash. -/
def escape? (flags : Flags) : List Char → Option (Escaped × List Char)
  | [] => none
  | c :: cs =>
    let negated (s : CharSet) : Option (Escaped × List Char) :=
      (flags.negate? s).map fun s => (.set s, cs)
    match c with
    | 'x' => hexEscape? flags 2 cs
    | 'u' => hexEscape? flags 4 cs
    | 'U' => hexEscape? flags 8 cs
    | 'p' => propertyEscape? flags false cs
    | 'P' => propertyEscape? flags true cs
    | 'd' => some (.set flags.digit, cs)
    | 's' => some (.set flags.blank, cs)
    | 'w' => some (.set flags.word, cs)
    | 'D' => negated flags.digit
    | 'S' => negated flags.blank
    | 'W' => negated flags.word
    | 'a' => some (.char (Char.ofNat 7), cs)
    | 'f' => some (.char (Char.ofNat 12), cs)
    | 't' => some (.char '\t', cs)
    | 'n' => some (.char '\n', cs)
    | 'r' => some (.char '\r', cs)
    | 'v' => some (.char (Char.ofNat 11), cs)
    | 'A' => some (.look .textStart, cs)
    | 'z' => some (.look .textEnd, cs)
    | 'b' => boundaryEscape? flags cs
    | 'B' => some (.look (.noBoundary flags.word), cs)
    | '<' => some (.look (.wordStart flags.word), cs)
    | '>' => some (.look (.wordEnd flags.word), cs)
    | c => if isEscapable c then some (.char c, cs) else none

/-! ## Literal patterns -/

/-- A character as it is written in a pattern that means just this character. -/
def escapeChar (c : Char) : List Char := if isMeta c then ['\\', c] else [c]

/-- The pattern that matches `s` and nothing else. -/
def escape (s : String) : String := String.ofList (s.toList.flatMap escapeChar)

end Eir.Pattern
