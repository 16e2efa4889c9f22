import Eir.Text.Digits
import Eir.Yaml.Source

/-!
# Scalars over several lines

The texts of scalars without quotes and of those between quotes. Both fold: a
line break within them stands for a blank, and of several of them the first one
does not count.
-/

namespace Eir.Yaml

/-- What line breaks stand for: a blank for one line feed, and otherwise what they are, without
a line feed at the start. -/
def foldBreaks : List Char → List Char
  | '\n' :: [] => [' ']
  | '\n' :: more => more
  | breaks => breaks

/-- Blanks and line breaks between two words, and what stands for them. -/
structure Gap where
  text : List Char
  breaksLine : Bool

namespace Gap

/-- Cuts the blanks and line breaks off. -/
def cut (s : Source) : Source × Source := s.span (isSpace ·.char)

/-- Blanks stand for themselves where no line ends. -/
def ofSource (s : Source) : Gap :=
  let breaks := charsOf (s.filter (isBreak ·.char))
  if breaks.isEmpty then ⟨charsOf s, false⟩ else ⟨foldBreaks breaks, true⟩

end Gap

/-! ### Without quotes -/

/-- The next word of a scalar without quotes. Within brackets a colon in it must not stand before
a character with a meaning there. -/
def plainWord? (inFlow : Bool) : Source → Option (List Char × Source)
  | [] => some ([], [])
  | m :: rest =>
    let c := m.char
    if isSpace c then some ([], m :: rest)
    else if inFlow && c = ':' && rest.head?.any (fun n => isFlowMark n.char || n.char = '?') then
      none
    else if (c = ':' && atSpace rest) || (inFlow && isFlowMark c) then some ([], m :: rest)
    else (plainWord? inFlow rest).map fun (word, rest) => (c :: word, rest)

/-- A tab stands in the indentation of a line, in front of the column `least`. -/
def tabInIndentation (least : Nat) (gap : Source) : Bool :=
  (gap.dropWhile (!isBreak ·.char)).any fun m => m.char = '\t' && m.column < least

/-- The rest of a scalar without quotes behind a gap: its text, and whether a line has ended
behind the last of it. Lines begin in the column `least` or behind it. -/
def plainRest? (inFlow : Bool) (least : Nat) :
    Nat → Gap → Source → Option (List Char × Bool × Source)
  | 0, gap, s => some ([], gap.breaksLine, s)
  | fuel + 1, gap, s => do
    if atDocumentMark s || nextIs '#' s then return ([], gap.breaksLine, s)
    let (word, rest) ← plainWord? inFlow s
    if word.isEmpty then return ([], gap.breaksLine, s)
    let (blanks, rest) := Gap.cut rest
    if tabInIndentation least blanks then none
    let next := Gap.ofSource blanks
    let (more, broken, rest) ←
      if blanks.isEmpty || (!inFlow && rest.head?.any (·.column < least)) then
        some ([], next.breaksLine, rest)
      else plainRest? inFlow least fuel next rest
    return (gap.text ++ word ++ more, broken, rest)

/-- Reads a scalar without quotes. -/
def plain? (inFlow : Bool) (least : Nat) (s : Source) : Option (List Char × Bool × Source) :=
  plainRest? inFlow least (s.length + 1) ⟨[], false⟩ s

/-! ### Between quotes -/

/-- The character that a letter behind a backslash stands for. -/
def escape? : Char → Option Char
  | '0' => some '\x00'
  | 'a' => some '\x07'
  | 'b' => some '\x08'
  | 't' => some '\t'
  | '\t' => some '\t'
  | 'n' => some '\n'
  | 'v' => some '\x0b'
  | 'f' => some '\x0c'
  | 'r' => some '\r'
  | 'e' => some '\x1b'
  | ' ' => some ' '
  | '"' => some '"'
  | '/' => some '/'
  | '\\' => some '\\'
  | 'N' => some '\u0085'
  | '_' => some '\u00a0'
  | 'L' => some '\u2028'
  | 'P' => some '\u2029'
  | _ => none

/-- How many digits follow a letter behind a backslash. -/
def codeLength? : Char → Option Nat
  | 'x' => some 2
  | 'u' => some 4
  | 'U' => some 8
  | _ => none

/-- The character that the digits of a number stand for. -/
def codeCharacter? (digits : List Char) : Option Char :=
  (Text.number? 16 digits).bind fun n =>
    if n.isValidChar then some (Char.ofNat n) else none

/-- Reads what stands behind a backslash. -/
def escaped? : Source → Option (Char × Source)
  | [] => none
  | m :: rest =>
    match escape? m.char, codeLength? m.char with
    | some c, _ => some (c, rest)
    | none, some n => do
      if rest.length < n then none
      let c ← codeCharacter? (charsOf (rest.take n))
      return (c, rest.drop n)
    | none, none => none

/-- The rest of a scalar between quotes, up to the mark that ends it. A backslash takes the
meaning of a line break away, and of the blanks around it. -/
def quotedRest? (mark : Char) : Nat → Source → Option (List Char × Source)
  | 0, _ => none
  | _ + 1, [] => none
  | fuel + 1, m :: rest =>
    let go (text : List Char) (rest : Source) : Option (List Char × Source) :=
      (quotedRest? mark fuel rest).map fun (more, rest) => (text ++ more, rest)
    let c := m.char
    if atDocumentMark (m :: rest) then none
    else if isSpace c then
      let (blanks, rest) := Gap.cut (m :: rest)
      go (Gap.ofSource blanks).text rest
    else if c = mark then
      if mark = '\x27' && nextIs mark rest then go [mark] (rest.drop 1) else some ([], rest)
    else if c = '\\' && mark = '"' then
      if rest.head?.any (isBreak ·.char) then
        let (blanks, rest) := Gap.cut (rest.drop 1)
        go (charsOf (blanks.filter (isBreak ·.char))) rest
      else
        match escaped? rest with
        | some (x, rest) => go [x] rest
        | none => none
    else go [c] rest

/-- Reads a scalar between quotes, from the mark that begins it on. -/
def quoted? : Source → Option (List Char × Source)
  | [] => none
  | m :: rest => quotedRest? m.char (rest.length + 1) rest

end Eir.Yaml
