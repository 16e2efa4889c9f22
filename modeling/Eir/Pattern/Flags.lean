import Eir.Pattern.Basic

/-!
# Flags of patterns

Flags say how the parts of a pattern are read: whether case counts, what ends a
line, whether classes know all scripts, and whether blanks between the parts
count.
-/

namespace Eir.Pattern

/-- The flags in force at a place of a pattern. -/
structure Flags where
  caseless : Bool
  multiLine : Bool
  dotMatchesAll : Bool
  /-- A carriage return ends a line too. -/
  crlf : Bool
  /-- Classes and boundaries know all scripts. -/
  unicode : Bool
  /-- Blanks and comments between the parts of a pattern do not count. -/
  verbose : Bool
  deriving Repr, DecidableEq, Inhabited

namespace Flags

/-- The flags at the start of a pattern. -/
def initial : Flags := ⟨false, false, false, false, true, false⟩

/-- Sets the flag of a letter. How greedy a repetition is has no bearing on what matches. -/
def set? (flags : Flags) (letter : Char) (value : Bool) : Option Flags :=
  match letter with
  | 'i' => some { flags with caseless := value }
  | 'm' => some { flags with multiLine := value }
  | 's' => some { flags with dotMatchesAll := value }
  | 'R' => some { flags with crlf := value }
  | 'u' => some { flags with unicode := value }
  | 'x' => some { flags with verbose := value }
  | 'U' => some flags
  | _ => none

/-- The class of word characters. -/
def word (flags : Flags) : CharSet :=
  if flags.unicode then .word
  else .unionAll [.range '0' '9', .range 'A' 'Z', .range 'a' 'z', .single '_']

/-- The class of decimal digits. -/
def digit (flags : Flags) : CharSet := if flags.unicode then .digit else .range '0' '9'

/-- The class of blanks. -/
def blank (flags : Flags) : CharSet :=
  if flags.unicode then .blank else .union (.range '\t' '\r') (.single ' ')

/-- What a dot stands for. -/
def dot (flags : Flags) : CharSet :=
  if flags.dotMatchesAll then .compl .empty
  else if flags.crlf then .compl (.union (.single '\n') (.single '\r'))
  else .compl (.single '\n')

/-- What a caret stands for. -/
def lineStart (flags : Flags) : Look :=
  if !flags.multiLine then .textStart else if flags.crlf then .anyLineStart else .lineStart

/-- What a dollar sign stands for. -/
def lineEnd (flags : Flags) : Look :=
  if !flags.multiLine then .textEnd else if flags.crlf then .anyLineEnd else .lineEnd

/-- A set of characters, widened to both cases if case does not count. -/
def cased (flags : Flags) (s : CharSet) : CharSet :=
  if !flags.caseless then s else if flags.unicode then .caseless s else .asciiCaseless s

/-- The complement of a set. Outside Unicode it would reach beyond the characters. -/
def negate? (flags : Flags) (s : CharSet) : Option CharSet :=
  if flags.unicode then some (.compl s) else none

/-- The set, or its complement. -/
def negatedIf? (flags : Flags) (negated : Bool) (s : CharSet) : Option CharSet :=
  if negated then flags.negate? s else some s

end Flags

/-- Skips blanks and comments; `comment` tells that a comment has begun. -/
def skipBlanks (comment : Bool) : List Char → List Char
  | [] => []
  | c :: cs =>
    if comment then skipBlanks (c != '\n') cs
    else if Text.isBlank c then skipBlanks false cs
    else if c == '#' then skipBlanks true cs
    else c :: cs

/-- Skips what does not count at this place. -/
def skip (flags : Flags) (cs : List Char) : List Char :=
  if flags.verbose then skipBlanks false cs else cs

/-- Reads up to a closing brace, without what does not count; `comment` tells that a comment has
begun. -/
def bracedFrom? (verbose comment : Bool) : List Char → Option (List Char × List Char)
  | [] => none
  | c :: cs =>
    if comment then bracedFrom? verbose (c != '\n') cs
    else if verbose && Text.isBlank c then bracedFrom? verbose false cs
    else if verbose && c == '#' then bracedFrom? verbose true cs
    else if c == '\x7d' then some ([], cs)
    else (bracedFrom? verbose false cs).map fun (ds, rest) => (c :: ds, rest)

/-- Reads what stands in braces, behind the opening one. -/
def braced? (flags : Flags) (cs : List Char) : Option (List Char × List Char) :=
  bracedFrom? flags.verbose false cs

end Eir.Pattern
