import Eir.Pattern.Bracket

/-!
# Reading patterns

The written form of patterns: alternatives with `|`, groups, repetitions with
`?`, `*`, `+` and counts in braces, classes in brackets, escapes, and flags that
hold to the end of their group. A text that is no pattern reads as nothing.
-/

namespace Eir.Pattern

/-- Reads the digits of a number, and what does not count between and behind them. -/
def countDigits (flags : Flags) : Nat → List Char → List Char × List Char
  | 0, cs => ([], cs)
  | fuel + 1, c :: cs =>
    if c.isDigit then
      let (ds, rest) := countDigits flags fuel (skip flags cs)
      (c :: ds, rest)
    else ([], c :: cs)
  | _ + 1, [] => ([], [])

/-- Skips blanks, and behind each of them what does not count. -/
def skipAfterCount (flags : Flags) : Nat → List Char → List Char
  | 0, cs => cs
  | fuel + 1, c :: cs =>
    if Text.isBlank c then skipAfterCount flags fuel (skip flags cs) else c :: cs
  | _ + 1, [] => []

/-- Reads a number of a count, less than 2 to the 32nd. -/
def count? (flags : Flags) (cs : List Char) : Option (Nat × List Char) :=
  let (ds, rest) := countDigits flags cs.length (cs.dropWhile Text.isBlank)
  let n := ds.foldl (fun n c => 10 * n + (c.toNat - 48)) 0
  if ds.isEmpty || n ≥ 1 <<< 32 then none else some (n, skipAfterCount flags rest.length rest)

/-- Reads a count behind its opening brace. -/
def braces? (flags : Flags) (cs : List Char) : Option (Nat × Option Nat × List Char) := do
  let (lo, rest) ← count? flags (skip flags cs)
  match rest with
  | ',' :: rest =>
    match skip flags rest with
    | '\x7d' :: rest => return (lo, none, rest)
    | rest =>
      let (hi, rest) ← count? flags rest
      let '\x7d' :: rest := rest | none
      if lo ≤ hi then return (lo, some hi, rest) else none
  | '\x7d' :: rest => return (lo, some lo, rest)
  | _ => none

/-- Skips the mark of a repetition that prefers few. -/
def skipLazy : List Char → List Char
  | '?' :: cs => cs
  | cs => cs

/-- A character that may stand in the name of a group. -/
def isNameChar (first : Bool) (c : Char) : Bool :=
  c == '_' || c.isAlpha || Property.alphabetic.contains c.toNat ||
    (!first && (c == '.' || c == '[' || c == ']' || numberRanges.contains c.toNat))

/-- Reads the name of a group up to its closing bracket. -/
def groupName? (cs : List Char) : Option (List Char × List Char) :=
  match splitAtFirst ['>'] cs with
  | (c :: name, some _, rest) =>
    if isNameChar true c && name.all (isNameChar false) then some (c :: name, rest) else none
  | _ => none

/-- What stands at the end of the flags of a group. -/
inductive FlagsEnd where
  | group | setting

/-- Reads flags: letters, each at most once, and a hyphen before those that are taken back. -/
def flags? (seen : List Char) (value : Bool) (flags : Flags) :
    List Char → Option (Flags × FlagsEnd × List Char)
  | [] => none
  | c :: cs =>
    if c == ':' then
      if seen.head? == some '-' then none else some (flags, .group, cs)
    else if c == ')' then
      if seen.isEmpty || seen.head? == some '-' then none else some (flags, .setting, cs)
    else if seen.contains c then none
    else if c == '-' then flags? ('-' :: seen) false flags cs
    else
      match flags.set? c value with
      | some flags => flags? (c :: seen) value flags cs
      | none => none

/-- What begins a group. -/
inductive GroupStart where
  /-- A group whose match is remembered, and its name if it has one. -/
  | remembered (name : Option (List Char))
  /-- A group whose inside is read with these flags. -/
  | plain (flags : Flags)
  /-- Flags for the rest of the group around it. -/
  | setting (flags : Flags)

/-- Reads the start of a group behind its opening parenthesis. -/
def groupStart? (flags : Flags) (cs : List Char) : Option (GroupStart × List Char) :=
  match skip flags cs with
  | '?' :: '=' :: _ | '?' :: '!' :: _ | '?' :: '<' :: '=' :: _ | '?' :: '<' :: '!' :: _ => none
  | '?' :: 'P' :: '<' :: rest | '?' :: '<' :: rest =>
    (groupName? rest).map fun (name, rest) => (.remembered (some name), rest)
  | '?' :: rest =>
    (flags? [] true flags rest).map fun
      | (flags, .group, rest) => (.plain flags, rest)
      | (flags, .setting, rest) => (.setting flags, rest)
  | rest => some (.remembered none, rest)

/-- A part of a pattern, and how deep it nests. A part that only sets flags has no node. -/
structure Part where
  node : Option Node
  depth : Nat

namespace Part

/-- A part with nothing inside it. -/
def plain (node : Node) : Part := ⟨some node, 0⟩

/-- The parts one after the other; the last one stands first. -/
def seq (parts : List Part) : Part :=
  let node := match parts.reverse.filterMap Part.node with
    | [] => Node.empty
    | p :: ps => ps.foldl .seq p
  ⟨some node, depthOf (parts.map Part.depth)⟩

/-- One of the alternatives; the last one stands first. -/
def alternatives (parts : List Part) : Part :=
  let node := match parts.filterMap Part.node with
    | [] => Node.empty
    | n :: ns => ns.foldl (fun later earlier => .alt earlier later) n
  ⟨some node, depthOf (parts.map Part.depth)⟩

/-- Repeats the last part. -/
def repeatLast? (parts : List Part) (lo : Nat) (hi : Option Nat) : Option (List Part) :=
  match parts with
  | ⟨some node, depth⟩ :: rest => some (⟨some (node.repeated lo hi), depth + 1⟩ :: rest)
  | _ => none

end Part

/-- Reads one character, escape or class that is no group. -/
def atom? (flags : Flags) : List Char → Option (Part × List Char)
  | [] => none
  | '\\' :: cs =>
    match escape? flags cs with
    | some (.char c, rest) => some (.plain (.chars (flags.cased (.single c))), rest)
    | some (.byte c, rest) =>
      if flags.unicode || c.toNat < 0x80 then
        some (.plain (.chars (flags.cased (.single c))), rest)
      else none
    | some (.set s, rest) => some (.plain (.chars s), rest)
    | some (.look l, rest) => some (.plain (.look l), rest)
    | none => none
  | '[' :: cs =>
    (bracketClass? flags 0 (cs.length + 1) cs).map fun (part, rest) =>
      (⟨some (.chars part.set), part.depth⟩, rest)
  | '.' :: cs => if flags.unicode then some (.plain (.chars flags.dot), cs) else none
  | '^' :: cs => some (.plain (.look flags.lineStart), cs)
  | '$' :: cs => some (.plain (.look flags.lineEnd), cs)
  | c :: cs => some (.plain (.chars (flags.cased (.single c))), cs)

/-- What has been read when a group or the pattern ends: the pattern, the names of groups in
use, and the rest of the text. -/
structure Parsed where
  part : Part
  names : List (List Char)
  rest : List Char

/-- Reads up to the end of a group or of the text. `outer` groups are open; `alts` are the
alternatives before this one and `parts` its parts so far, of both the last one first. -/
def parseGroup? (fuel : Nat) (flags : Flags) (outer : Nat) (names : List (List Char))
    (alts parts : List Part) (cs : List Char) : Option Parsed :=
  match fuel with
  | 0 => none
  | fuel + 1 =>
    let again (lo : Nat) (hi : Option Nat) (rest : List Char) : Option Parsed :=
      match Part.repeatLast? parts lo hi with
      | some parts => parseGroup? fuel flags outer names alts parts (skipLazy rest)
      | none => none
    let inside (flags' : Flags) (names' : List (List Char)) (close : Node → Node)
        (rest : List Char) : Option Parsed :=
      if outer ≥ nestLimit then none
      else
        match parseGroup? fuel flags' (outer + 1) names' [] [] rest with
        | some ⟨⟨node, depth⟩, names, ')' :: rest⟩ =>
          parseGroup? fuel flags outer names alts (⟨node.map close, depth + 1⟩ :: parts) rest
        | _ => none
    match skip flags cs with
    | [] => some ⟨.alternatives (.seq parts :: alts), names, []⟩
    | ')' :: rest => some ⟨.alternatives (.seq parts :: alts), names, ')' :: rest⟩
    | '|' :: rest => parseGroup? fuel flags outer names (.seq parts :: alts) [] rest
    | '?' :: rest => again 0 (some 1) rest
    | '*' :: rest => again 0 none rest
    | '+' :: rest => again 1 none rest
    | '\x7b' :: rest =>
      match braces? flags rest with
      | some (lo, hi, rest) => again lo hi (skip flags rest)
      | none => none
    | '(' :: rest =>
      match groupStart? flags rest with
      | some (.setting later, rest) =>
        parseGroup? fuel later outer names alts (⟨none, 0⟩ :: parts) rest
      | some (.plain inner, rest) => inside inner names id rest
      | some (.remembered name, rest) =>
        if name.any names.contains then none
        else inside flags (name.toList ++ names) .group rest
      | none => none
    | cs =>
      match atom? flags cs with
      | some (part, rest) => parseGroup? fuel flags outer names alts (part :: parts) rest
      | none => none

/-- Reads a whole pattern. -/
def parse? (text : List Char) : Option Node :=
  match parseGroup? (text.length + 1) .initial 0 [] [] [] text with
  | some ⟨⟨node, depth⟩, _, []⟩ => if depth ≤ nestLimit then node else none
  | _ => none

end Eir.Pattern
