import Eir.Yaml.Literal
import Eir.Yaml.Scalar
import Eir.Yaml.Tag

/-!
# Tokens of table documents

A document as a list of tokens, in which brackets of their own stand around the
collections that are written by indentation. Whether a scalar or a collection is
the key of an entry shows only when a colon follows it. So the scanner leaves a
slot in front of everything that can become a key, and the colon says which of
the slots are filled.
-/

namespace Eir.Yaml

/-- How a scalar is written. -/
inductive Style where
  | plain
  /-- Between quotes. -/
  | quoted
  /-- Line by line. -/
  | lines
  /-- By lines that are joined. -/
  | joined
  deriving DecidableEq, Repr, Inhabited

/-- A token. -/
inductive Token where
  | version (major minor : Nat)
  /-- What a handle of tags stands for. -/
  | handle (name stem : String)
  | documentStart | documentEnd
  | blockSeq | blockMap | blockEnd
  | flowSeq | flowSeqEnd | flowMap | flowMapEnd
  /-- The hyphen in front of an item. -/
  | item
  | comma
  /-- What follows is a key. -/
  | key
  /-- What follows is a value. -/
  | value
  | repeated (name : String)
  | anchor (name : String)
  | tag (name : TagName)
  | scalar (text : String) (style : Style)
  deriving DecidableEq, Repr, Inhabited

/-- A token, or a slot in front of what can become a key. -/
inductive Entry where
  | token (t : Token)
  | slot (n : Nat)
  deriving Repr, Inhabited

/-- What can become a key. -/
structure Candidate where
  slot : Nat
  line : Nat
  column : Nat
  /-- Nothing but a key can stand there. -/
  required : Bool
  deriving Repr, Inhabited

namespace Candidate

/-- A key stands on one line, and has at most 1024 characters. -/
def reaches (k : Candidate) (m : Mark) : Bool := k.line == m.line && m.column ≤ k.column + 1024

/-- Gives up a candidate, unless it has to be a key. -/
def giveUp? : Option Candidate → Option (Option Candidate)
  | some k => if k.required then none else some none
  | none => some none

/-- Gives up a candidate that is too far from the place. -/
def expire? (m : Mark) (k : Option Candidate) : Option (Option Candidate) :=
  if k.all (·.reaches m) then some k else giveUp? k

end Candidate

/-- A document read up to a place. -/
structure Scanner where
  source : Source
  /-- The columns of the collections that are written by indentation, the innermost first. -/
  columns : List Nat := []
  /-- A key can begin here. -/
  keyAllowed : Bool := true
  /-- The last thing that can become a key. -/
  candidate : Option Candidate := none
  /-- The same for what is around each of the brackets, the innermost first. -/
  outer : List (Option Candidate) := []
  /-- What has been read, the last of it first. -/
  entries : List Entry := []
  /-- The slots of keys, and whether a mapping begins in front of the key. -/
  keys : List (Nat × Bool) := []
  slots : Nat := 0

namespace Scanner

/-- The place is within brackets. -/
def inFlow (s : Scanner) : Bool := !s.outer.isEmpty

def emit (s : Scanner) (t : Token) : Scanner := { s with entries := .token t :: s.entries }

/-- The tokens that have been read. -/
def tokens (s : Scanner) : List Token :=
  s.entries.reverse.flatMap fun
    | .token t => [t]
    | .slot n =>
      match s.keys.lookup n with
      | some true => [.blockMap, .key]
      | some false => [.key]
      | none => []

/-- Ends the collections by indentation that are behind the column, or all of them. -/
def closeTo (s : Scanner) (column : Option Nat) : Scanner :=
  if s.inFlow then s
  else
    let isBehind (k : Nat) : Bool := column.all (· < k)
    (s.columns.takeWhile isBehind).foldl (fun s _ => s.emit .blockEnd)
      { s with columns := s.columns.dropWhile isBehind }

/-- A collection by indentation can begin in the column. -/
def opensAt (s : Scanner) (column : Nat) : Bool := !s.inFlow && s.columns.head?.all (· < column)

/-- Begins a collection by indentation in the column, if there is none yet. -/
def openAt (s : Scanner) (t : Token) (column : Nat) : Scanner :=
  if s.opensAt column then { s with columns := column :: s.columns }.emit t else s

/-- Gives the candidate up. -/
def giveUp? (s : Scanner) : Option Scanner :=
  (Candidate.giveUp? s.candidate).map fun candidate => { s with candidate }

/-- Gives those candidates up that are too far from the place. -/
def expire? (s : Scanner) (m : Mark) : Option Scanner := do
  let candidate ← Candidate.expire? m s.candidate
  let outer ← s.outer.mapM (Candidate.expire? m)
  return { s with candidate, outer }

/-- What comes next can become a key. -/
def mark? (s : Scanner) (m : Mark) : Option Scanner := do
  if !s.keyAllowed then return s
  let s ← s.giveUp?
  let required := !s.inFlow && s.columns.head? == some m.column
  return { s with
    candidate := some ⟨s.slots, m.line, m.column, required⟩
    entries := .slot s.slots :: s.entries
    slots := s.slots + 1 }

/-- Goes on behind a token. -/
def next (s : Scanner) (keyAllowed : Bool) (t : Token) (source : Source) : Scanner :=
  { s with keyAllowed, source }.emit t

/-- Skips blanks, remarks and line ends. In front of what can be a key, a tab is no blank, unless
within brackets; in a new line everything can be a key. -/
def skip (inFlow : Bool) : (keyAllowed inRemark : Bool) → Source → Source × Bool
  | keyAllowed, _, [] => ([], keyAllowed)
  | keyAllowed, inRemark, m :: rest =>
    if isBreak m.char then skip inFlow (keyAllowed || !inFlow) false rest
    else if inRemark || m.char = '#' then skip inFlow keyAllowed true rest
    else if m.char = ' ' || (m.char = '\t' && (inFlow || !keyAllowed)) ||
        (m.char = '\uFEFF' && m.column = 0) then skip inFlow keyAllowed false rest
    else (m :: rest, keyAllowed)

/-- Reads a directive behind its percent sign. -/
def directive? (s : Scanner) (rest : Source) : Option Scanner := do
  let s ← (s.closeTo none).giveUp?
  let (name, rest) := cutName rest
  if !atSpace rest then none
  let (t, rest) ← match name with
    | "YAML" => (version? rest).map fun (v, rest) => (Token.version v.1 v.2, rest)
    | "TAG" => (handleMeaning? rest).map fun (h, rest) => (Token.handle h.1 h.2, rest)
    | _ => none
  return s.next false t (← finishLine? rest)

/-- Reads the mark at the start or at the end of a document. -/
def documentMark? (s : Scanner) (t : Token) : Option Scanner := do
  let s ← (s.closeTo none).giveUp?
  return s.next false t (s.source.drop 3)

/-- Reads an opening bracket. -/
def opening? (s : Scanner) (t : Token) (m : Mark) (rest : Source) : Option Scanner := do
  let s ← s.mark? m
  return { s with candidate := none, outer := s.candidate :: s.outer }.next true t rest

/-- Reads a closing bracket. -/
def closing? (s : Scanner) (t : Token) (rest : Source) : Option Scanner := do
  let s ← s.giveUp?
  let s := match s.outer with
    | candidate :: outer => { s with candidate, outer }
    | [] => s
  return s.next false t rest

/-- Reads the hyphen of an item. -/
def item? (s : Scanner) (m : Mark) (rest : Source) : Option Scanner := do
  if !s.inFlow && !s.keyAllowed then none
  let s ← (s.openAt .blockSeq m.column).giveUp?
  return s.next true .item rest

/-- Reads the question mark of a key. -/
def key? (s : Scanner) (m : Mark) (rest : Source) : Option Scanner := do
  if !s.inFlow && !s.keyAllowed then none
  let s ← (s.openAt .blockMap m.column).giveUp?
  return s.next (!s.inFlow) .key rest

/-- Reads the colon in front of a value. -/
def value? (s : Scanner) (m : Mark) (rest : Source) : Option Scanner :=
  match s.candidate with
  | some k =>
    let opens := s.opensAt k.column
    some ({ s with
      candidate := none
      keys := (k.slot, opens) :: s.keys
      columns := if opens then k.column :: s.columns else s.columns }.next false .value rest)
  | none =>
    if !s.inFlow && !s.keyAllowed then none
    else some ((s.openAt .blockMap m.column).next (!s.inFlow) .value rest)

/-- Reads the name of an anchor, where it is set or repeated. -/
def name? (s : Scanner) (t : String → Token) (m : Mark) (rest : Source) : Option Scanner := do
  let s ← s.mark? m
  let (name, rest) := cutName rest
  if name.isEmpty then none
  if atSpace rest || rest.head?.any fun m => ['?', ':', ',', ']', '}', '%', '@', '\x60'].contains
      m.char then
    return s.next false (t name) rest
  else none

/-- Reads a scalar by lines, behind its bar or angle. -/
def literal? (s : Scanner) (joins : Bool) (rest : Source) : Option Scanner := do
  let s ← s.giveUp?
  let (text, rest) ← Yaml.literal? joins s.columns.head? rest
  return s.next true (.scalar (String.ofList text) (if joins then .joined else .lines)) rest

/-- Reads a scalar between quotes. -/
def quoted? (s : Scanner) (m : Mark) : Option Scanner := do
  let s ← s.mark? m
  let (text, rest) ← Yaml.quoted? s.source
  return s.next false (.scalar (String.ofList text) .quoted) rest

/-- Reads a scalar without quotes. -/
def plain? (s : Scanner) (m : Mark) : Option Scanner := do
  let s ← s.mark? m
  let least := match s.columns with
    | k :: _ => k + 1
    | [] => 0
  let (text, broken, rest) ← Yaml.plain? s.inFlow least s.source
  return s.next broken (.scalar (String.ofList text) .plain) rest

/-- A character with which no scalar without quotes begins. -/
def isIndicator (c : Char) : Bool := ",[]\x7b\x7d#&*!|>'\"%@?:\x60".toList.contains c

/-- Reads the next token. -/
def token? (s : Scanner) (m : Mark) (rest : Source) : Option Scanner :=
  let c := m.char
  if c = '%' && m.column = 0 then s.directive? rest
  else if atTriple '-' s.source then s.documentMark? .documentStart
  else if atTriple '.' s.source then s.documentMark? .documentEnd
  else if c = '[' then s.opening? .flowSeq m rest
  else if c = '{' then s.opening? .flowMap m rest
  else if c = ']' then s.closing? .flowSeqEnd rest
  else if c = '}' then s.closing? .flowMapEnd rest
  else if c = ',' then s.giveUp?.map (·.next true .comma rest)
  else if c = '-' && atSpace rest then s.item? m rest
  else if c = '?' && (s.inFlow || atSpace rest) then s.key? m rest
  else if c = ':' && (s.inFlow || atSpace rest) then s.value? m rest
  else if c = '*' then s.name? .repeated m rest
  else if c = '&' then s.name? .anchor m rest
  else if c = '!' then do
    let s ← s.mark? m
    let (t, rest) ← tag? s.inFlow s.source
    return s.next false (.tag t) rest
  else if c = '|' && !s.inFlow then s.literal? false rest
  else if c = '>' && !s.inFlow then s.literal? true rest
  else if c = '\x27' || c = '"' then s.quoted? m
  else if !isIndicator c || (!s.inFlow && (c = '?' || c = ':')) then
    if isGap c then none else s.plain? m
  else none

/-- Reads all tokens. -/
def run? : Nat → Scanner → Option Scanner
  | 0, _ => none
  | fuel + 1, s => do
    let (source, keyAllowed) := skip s.inFlow s.keyAllowed false s.source
    let s := { s with source, keyAllowed }
    match source with
    | [] => (s.closeTo none).giveUp?
    | m :: rest =>
      let s ← s.expire? m
      let s ← (s.closeTo (some m.column)).token? m rest
      run? fuel s

end Scanner

/-- The tokens of a document. -/
def Source.tokens? (source : Source) : Option (List Token) :=
  (Scanner.run? (source.length + 1) { source }).map Scanner.tokens

end Eir.Yaml
