import Eir.Text.Digits
import Eir.Yaml.Source

/-!
# Tags

A tag says of what kind a value is. It is written as a handle and what follows
it; a document can say what its handles stand for.
-/

namespace Eir.Yaml

/-- A tag as it is written. -/
structure TagName where
  /-- A word between exclamation marks; nothing if the tag is written in full. -/
  handle : String
  suffix : String
  deriving Repr, DecidableEq, Inhabited

/-- What the handles of tags stand for. -/
abbrev Handles := List (String × String)

namespace Handles

/-- The handles that need no explanation. -/
def standard : Handles := [("!", "!"), ("!!", "tag:yaml.org,2002:")]

/-- The full tag. -/
def resolve? (handles : Handles) (t : TagName) : Option String :=
  if t.handle.isEmpty then some t.suffix
  else (handles.lookup t.handle).map (· ++ t.suffix)

end Handles

/-- A character that may stand in a tag. Commas and square brackets may do so only where a tag
is written in full. -/
def isTagChar (inFull : Bool) (c : Char) : Bool :=
  isNameChar c || ";/?:@&=+$.%!~*'()".toList.contains c || (inFull && ",[]".toList.contains c)

/-- How many bytes a character has whose first byte is `n`. -/
def byteCount? (n : Nat) : Option Nat :=
  if n < 0x80 then some 1
  else if n / 0x20 = 0x6 then some 2
  else if n / 0x10 = 0xE then some 3
  else if n / 0x8 = 0x1E then some 4
  else none

/-- Reads a byte written as a percent sign and two digits. -/
def byte? : Source → Option (Nat × Source)
  | a :: b :: c :: rest =>
    if a.char = '%' then (Text.number? 16 [b.char, c.char]).map (·, rest) else none
  | _ => none

/-- Reads bytes that follow the first one of a character. -/
def moreBytes? : Nat → Source → Option (List Nat × Source)
  | 0, s => some ([], s)
  | n + 1, s => do
    let (b, s) ← byte? s
    if b / 0x40 ≠ 2 then none
    let (bs, s) ← moreBytes? n s
    return (b :: bs, s)

/-- Reads a character written as bytes. -/
def percentChar? (s : Source) : Option (Char × Source) := do
  let (b, s) ← byte? s
  let count ← byteCount? b
  let (bs, s) ← moreBytes? (count - 1) s
  let bytes := ByteArray.mk ((b :: bs).map (·.toUInt8)).toArray
  let c ← (String.fromUTF8? bytes).bind (·.toList.head?)
  return (c, s)

/-- Reads the characters of a tag. -/
def tagChars? (inFull : Bool) : Nat → Source → Option (List Char × Source)
  | 0, s => some ([], s)
  | _ + 1, [] => some ([], [])
  | fuel + 1, m :: rest =>
    if !isTagChar inFull m.char then some ([], m :: rest)
    else do
      let (c, rest) ← if m.char = '%' then percentChar? (m :: rest) else some (m.char, rest)
      let (cs, rest) ← tagChars? inFull fuel rest
      return (c :: cs, rest)

/-- Reads characters of a tag, of which there has to be one. -/
def tagText? (inFull : Bool) (s : Source) : Option (String × Source) := do
  let (cs, rest) ← tagChars? inFull s.length s
  if cs.isEmpty then none
  return (String.ofList cs, rest)

/-- Reads a handle, and whether an exclamation mark ends it. -/
def handle? (s : Source) : Option (String × Bool × Source) := do
  if !nextIs '!' s then none
  let (name, rest) := cutName (s.drop 1)
  if nextIs '!' rest then return ("!" ++ name ++ "!", true, rest.drop 1)
  return ("!" ++ name, false, rest)

/-- Reads a tag, from its exclamation mark on. Within brackets a comma may follow it. -/
def tag? (inFlow : Bool) (s : Source) : Option (TagName × Source) := do
  let (tag, rest) ←
    if nextIs '<' (s.drop 1) then do
      let (text, rest) ← tagText? true (s.drop 2)
      if !nextIs '>' rest then none
      pure (TagName.mk "" text, rest.drop 1)
    else do
      let (handle, closed, rest) ← handle? s
      if closed then do
        let (text, rest) ← tagText? false rest
        pure (TagName.mk handle text, rest)
      else do
        let (more, rest) ← tagChars? false rest.length rest
        let text := (handle.drop 1).toString ++ String.ofList more
        pure (if text.isEmpty then TagName.mk "" "!" else TagName.mk "!" text, rest)
  if atSpace rest || (inFlow && nextIs ',' rest) then return (tag, rest) else none

/-! ### Directives -/

/-- Reads the number of a version. -/
def versionNumber? (s : Source) : Option (Nat × Source) := do
  let (digits, rest) := cutDigits s
  if 9 < digits.length then none
  return (← Text.number? 10 digits, rest)

/-- Reads the version that a document is written in. -/
def version? (s : Source) : Option ((Nat × Nat) × Source) := do
  let (major, rest) ← versionNumber? (skipGap s)
  if !nextIs '.' rest then none
  let (minor, rest) ← versionNumber? (rest.drop 1)
  return ((major, minor), rest)

/-- Reads what a handle stands for. -/
def handleMeaning? (s : Source) : Option ((String × String) × Source) := do
  let (handle, closed, rest) ← handle? (skipGap s)
  if !closed && handle ≠ "!" then none
  if !(rest.head?.any (isGap ·.char)) then none
  let (stem, rest) ← tagText? true (skipGap rest)
  if !atSpace rest then none
  return ((handle, stem), rest)

end Eir.Yaml
