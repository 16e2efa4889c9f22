import Eir.Yaml.Basic

/-!
# Reading table documents

From the tokens of a document to its value. A text holds one document, which may
have directives in front of it and marks around it; an empty text is a document
in which nothing stands.
-/

namespace Eir.Yaml

/-- What is left of the tokens, and the names of anchors with the numbers that they have now. -/
structure Reading where
  tokens : List Token
  anchors : List (String × Nat) := []

namespace Reading

/-- Goes on behind the next token. -/
def advance (r : Reading) : Reading := { r with tokens := r.tokens.drop 1 }

/-- The next token is one of `ts`. -/
def atAny (r : Reading) (ts : List Token) : Bool := r.tokens.head?.any ts.contains

/-- Names the value to come. Its number is how many names there are, whether or not the name is
a new one. -/
def name (r : Reading) (anchor : String) : Nat × Reading :=
  let n := r.anchors.length
  (n, { r with anchors := (anchor, n) :: r.anchors.filter (·.1 != anchor) })

end Reading

/-- Reads a tag. -/
def readTag? (handles : Handles) (r : Reading) : Option (Option String × Reading) :=
  match r.tokens with
  | .tag t :: _ => (handles.resolve? t).map fun tag => (some tag, r.advance)
  | _ => some (none, r)

/-- Reads an anchor. -/
def readAnchor (r : Reading) : Option String × Reading :=
  match r.tokens with
  | .anchor name :: _ => (some name, r.advance)
  | _ => (none, r)

/-- Reads an anchor and a tag, in either order. -/
def readProperties? (handles : Handles) (r : Reading) : Option (Properties × Reading) := do
  let (before, r) := readAnchor r
  let (tag, r) ← readTag? handles r
  let (name, r) := if before.isNone && tag.isSome then readAnchor r else (before, r)
  match name with
  | some name =>
    let (n, r) := r.name name
    return (⟨some n, tag⟩, r)
  | none => return (⟨none, tag⟩, r)

/-- Where a value stands. -/
inductive Context where
  /-- Within brackets. -/
  | flow
  | block
  /-- In a mapping by indentation, where a sequence may stand in the column of the keys. -/
  | entry
  deriving DecidableEq, Repr

/-- The single exclamation mark says nothing about a scalar. -/
def Properties.ofScalar (about : Properties) : Properties :=
  if about.tag = some "!" then { about with tag := none } else about

mutual

/-- Reads a value. -/
def value? (handles : Handles) (context : Context) : Nat → Reading → Option (Yaml × Reading)
  | 0, _ => none
  | fuel + 1, r => do
    if let .repeated name :: _ := r.tokens then
      return (repeated (← r.anchors.lookup name), r.advance)
    let (about, r) ← readProperties? handles r
    let next := r.advance
    match r.tokens.head? with
    | some .item =>
      if context = .entry then
        let (items, r) ← items? handles true fuel r
        return (seq items about, r)
      else empty? about r
    | some (.scalar text style) => return (scalar text style about.ofScalar, next)
    | some .flowSeq =>
      let (items, r) ← flowItems? handles true fuel next
      return (seq items about, r)
    | some .flowMap =>
      let (entries, r) ← flowEntries? handles true fuel next
      return (map entries about, r)
    | some .blockSeq =>
      if context = .flow then empty? about r
      else
        let (items, r) ← items? handles false fuel next
        return (seq items about, r)
    | some .blockMap =>
      if context = .flow then empty? about r
      else
        let (entries, r) ← entries? handles fuel next
        return (map entries about, r)
    | _ => empty? about r
where
  /-- A value of which there are only properties. -/
  empty? (about : Properties) (r : Reading) : Option (Yaml × Reading) :=
    if about.anchor.isSome || about.tag.isSome then some (scalar "" .plain about, r) else none

/-- Reads the value behind a token, which may be missing in front of one of `ends`. -/
def valueOr? (handles : Handles) (context : Context) (ends : List Token) :
    Nat → Reading → Option (Yaml × Reading)
  | 0, _ => none
  | fuel + 1, r => if r.atAny ends then some (nothing, r) else value? handles context fuel r

/-- Reads the items of a sequence by indentation. The items of one that is not indented end with
the first token that is no hyphen. -/
def items? (handles : Handles) (unindented : Bool) : Nat → Reading → Option (List Yaml × Reading)
  | 0, _ => none
  | fuel + 1, r =>
    match r.tokens.head? with
    | some .item => do
      let ends := if unindented then [.item, .key, .value, .blockEnd] else [.item, .blockEnd]
      let (y, r) ← valueOr? handles .block ends fuel r.advance
      let (ys, r) ← items? handles unindented fuel r
      return (y :: ys, r)
    | some .blockEnd => some ([], if unindented then r else r.advance)
    | _ => if unindented then some ([], r) else none

/-- Reads the entries of a mapping by indentation. -/
def entries? (handles : Handles) : Nat → Reading → Option (List (Yaml × Yaml) × Reading)
  | 0, _ => none
  | fuel + 1, r =>
    match r.tokens.head? with
    | some .key => do
      let ends := [.key, .value, .blockEnd]
      let (k, r) ← valueOr? handles .entry ends fuel r.advance
      let (v, r) ←
        if r.atAny [.value] then valueOr? handles .entry ends fuel r.advance
        else some (nothing, r)
      let (es, r) ← entries? handles fuel r
      return ((k, v) :: es, r)
    | some .blockEnd => some ([], r.advance)
    | _ => none

/-- Reads the items of a sequence in brackets. An item can be a mapping of one entry. -/
def flowItems? (handles : Handles) (first : Bool) :
    Nat → Reading → Option (List Yaml × Reading)
  | 0, _ => none
  | fuel + 1, r => do
    if r.atAny [.flowSeqEnd] then return ([], r.advance)
    if !first && !r.atAny [.comma] then none
    let r := if first then r else r.advance
    if r.atAny [.flowSeqEnd] then return ([], r.advance)
    let ends := [.comma, .flowSeqEnd]
    let (y, r) ←
      if r.atAny [.key] then do
        let r := r.advance
        let (k, r) ←
          if r.atAny (.value :: ends) then some (nothing, r.advance)
          else value? handles .flow fuel r
        let (v, r) ←
          if r.atAny [.value] then valueOr? handles .flow ends fuel r.advance
          else some (nothing, r)
        pure (map [(k, v)] {}, r)
      else value? handles .flow fuel r
    let (ys, r) ← flowItems? handles false fuel r
    return (y :: ys, r)

/-- Reads the entries of a mapping in brackets. -/
def flowEntries? (handles : Handles) (first : Bool) :
    Nat → Reading → Option (List (Yaml × Yaml) × Reading)
  | 0, _ => none
  | fuel + 1, r => do
    if r.atAny [.flowMapEnd] then return ([], r.advance)
    if !first && !r.atAny [.comma] then none
    let r := if first then r else r.advance
    if r.atAny [.flowMapEnd] then return ([], r.advance)
    let ends := [.comma, .flowMapEnd]
    let (k, v, r) ←
      if r.atAny [.key] then do
        let (k, r) ← valueOr? handles .flow (.value :: ends) fuel r.advance
        let (v, r) ←
          if r.atAny [.value] then valueOr? handles .flow ends fuel r.advance
          else some (nothing, r)
        pure (k, v, r)
      else do
        let (k, r) ← value? handles .flow fuel r
        pure (k, nothing, r)
    let (es, r) ← flowEntries? handles false fuel r
    return ((k, v) :: es, r)

end

/-- Reads the directives of a document, each of which must stand once. -/
def directives? (version : Bool) (handles : Handles) : List Token → Option (Handles × List Token)
  | .version major minor :: ts =>
    if version || major ≠ 1 || (minor ≠ 1 && minor ≠ 2) then none
    else directives? true handles ts
  | .handle name stem :: ts =>
    if (handles.lookup name).isSome then none
    else directives? version ((name, stem) :: handles) ts
  | ts => some (handles, ts)

/-- Reads what stands in front of the value of a document: its handles, and whether there is a
mark at the start. -/
def documentStart? (tokens : List Token) : Option (Handles × Bool × List Token) :=
  match directives? false [] tokens with
  | some (handles, .documentStart :: ts) => some (handles ++ Handles.standard, true, ts)
  | some (_, ts) =>
    if ts.length = tokens.length then some (Handles.standard, false, ts) else none
  | none => none

/-- Nothing stands behind the mark at the start of a document. -/
def endsDocument : List Token → Bool
  | [] => true
  | t :: _ =>
    match t with
    | .version _ _ => true
    | .handle _ _ => true
    | .documentStart => true
    | .documentEnd => true
    | _ => false

/-- Reads the value of a document. -/
def ofTokens? (tokens : List Token) : Option Yaml := do
  if tokens.isEmpty then return nothing
  let (handles, marked, ts) ← documentStart? tokens
  let (y, r) ←
    if marked && endsDocument ts then some (nothing, { tokens := ts })
    else value? handles .block (4 * tokens.length + 4) { tokens := ts }
  if r.tokens.all (· == .documentEnd) then some y else none

/-- Reads the text of a document. -/
def ofText? (text : String) : Option Yaml := do
  ofTokens? (← (← Source.ofText? text).tokens?)

end Eir.Yaml
