import Eir.Yaml.Source

/-!
# Scalars of lines

Scalars whose lines stand below a bar or an angle, in columns of their own: line
by line, or with the lines of a paragraph joined.
-/

namespace Eir.Yaml

/-- What becomes of the line breaks at the end. -/
inductive Chomping where
  | clip | strip | keep
  deriving DecidableEq, Repr

/-- What stands behind the bar or the angle. -/
structure LiteralHeader where
  /-- The lines of a paragraph are joined. -/
  joins : Bool
  chomping : Chomping
  /-- How far the lines are indented, if that is said. -/
  indent : Option Nat

namespace LiteralHeader

/-- Reads the mark for the line breaks at the end. -/
def chomping? : Source → Option (Chomping × Source)
  | [] => none
  | m :: rest =>
    if m.char = '+' then some (.keep, rest)
    else if m.char = '-' then some (.strip, rest)
    else none

/-- Reads the digit for the indentation; nothing if there is none. A zero is refused. -/
def indent? : Source → Option (Option Nat × Source)
  | [] => some (none, [])
  | m :: rest =>
    if m.char = '0' then none
    else if m.char.isDigit then some (some (m.char.toNat - 48), rest)
    else some (none, m :: rest)

/-- Reads the marks behind the bar or the angle, in either order. -/
def read? (joins : Bool) (s : Source) : Option (LiteralHeader × Source) := do
  match chomping? s with
  | some (chomping, rest) =>
    let (indent, rest) ← indent? rest
    return (⟨joins, chomping, indent⟩, rest)
  | none =>
    let (indent, rest) ← indent? s
    match indent, chomping? rest with
    | some _, some (chomping, rest) => return (⟨joins, chomping, indent⟩, rest)
    | _, _ => return (⟨joins, .clip, indent⟩, rest)

end LiteralHeader

/-- Empty lines, with blanks in them up to the column `indent` if there is such a column. -/
structure EmptyLines where
  breaks : List Char
  /-- The column behind the blanks, where it is greatest. -/
  column : Nat

/-- Cuts off empty lines and the indentation of the next line. A tab is no indentation. -/
def emptyLines? (indent : Option Nat) (lines : EmptyLines) :
    Source → Option (EmptyLines × Source)
  | [] => some (lines, [])
  | m :: rest =>
    let inIndentation := indent.all (m.column < ·)
    if inIndentation && m.char = ' ' then
      emptyLines? indent { lines with column := max lines.column (m.column + 1) } rest
    else if inIndentation && m.char = '\t' then none
    else if isBreak m.char then
      emptyLines? indent { lines with breaks := lines.breaks ++ [m.char] } rest
    else some (lines, m :: rest)

/-- The first line begins with a blank. -/
def beginsWithGap (s : Source) : Bool := s.head?.any (isGap ·.char)

/-- What stands between two lines: the line break of the first one and the empty lines. Where
lines are joined, neither of which begins with a blank, one line feed does not count. -/
def betweenLines (joined : Bool) (lineBreak : Option Char) (breaks : List Char) : List Char :=
  if joined && lineBreak = some '\n' then if breaks.isEmpty then [' '] else breaks
  else lineBreak.toList ++ breaks

/-- The text of the lines that begin in the column `indent`. Of the line before, `lineBreak` is
the break and `indented` tells whether it begins with a blank; `breaks` are the empty lines since
then. -/
def literalText? (h : LiteralHeader) (indent : Nat) :
    Nat → (lineBreak : Option Char) → (indented : Bool) → (breaks : List Char) → Source →
    Option (List Char × Source)
  | 0, _, _, _, _ => none
  | fuel + 1, lineBreak, indented, breaks, s => do
    if s.head?.any (·.column == indent) then
      let begins := beginsWithGap s
      let between := betweenLines (h.joins && !indented && !begins) lineBreak breaks
      let (line, rest) := cutLine s
      let (empty, next) ← emptyLines? (some indent) ⟨[], 0⟩ (rest.drop 1)
      let (more, next) ←
        literalText? h indent fuel (rest.head?.map Mark.char) begins empty.breaks next
      return (between ++ charsOf line ++ more, next)
    else
      let last := match h.chomping with
        | .strip => []
        | .clip => lineBreak.toList
        | .keep => lineBreak.toList ++ breaks
      return (last, s)

/-- Reads such a scalar in a collection whose column is `parent`. `s` is what follows the bar or
the angle. Where it is not said how far the lines are indented, the first of them says it. -/
def literal? (joins : Bool) (parent : Option Nat) (s : Source) :
    Option (List Char × Source) := do
  let (h, rest) ← LiteralHeader.read? joins s
  let rest ← finishLine? rest
  let said := h.indent.map (parent.getD 0 + ·)
  let (empty, rest) ← emptyLines? said ⟨[], 0⟩ rest
  let least := match parent with
    | some k => k + 1
    | none => 1
  let indent := said.getD (max empty.column least)
  literalText? h indent (rest.length + 1) none false empty.breaks rest

end Eir.Yaml
