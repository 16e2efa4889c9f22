import Eir.Digest.Sha1
import Eir.Json.Codec
import Eir.Text.Digits

/-!
# Identifiers from names

Universally unique identifiers of version 5: the same name in the same space of
names always has the same identifier.
-/

namespace Eir

/-- An identifier of 16 bytes. -/
structure Uuid where
  bytes : List UInt8
  deriving DecidableEq, Repr, Inhabited

namespace Uuid

/-- The identifier that a number of 128 bits is. -/
def ofNat (n : Nat) : Uuid :=
  ⟨(List.range 16).map fun i => UInt8.ofNat (n >>> (8 * (15 - i)))⟩

/-- The identifier of a name in the space that `space` stands for. -/
def ofName (space : Uuid) (name : String) : Uuid :=
  let digest := (Digest.Sha1.hash (⟨space.bytes.toArray⟩ ++ name.toUTF8)).take 16
  ⟨(digest.modify 6 fun b => (b &&& 0x0F) ||| 0x50).modify 8 fun b => (b &&& 0x3F) ||| 0x80⟩

/-- The written form, in five groups of lower-case hexadecimal digits. -/
def text (u : Uuid) : String :=
  let part (start count : Nat) : String := Text.hex ((u.bytes.drop start).take count)
  "-".intercalate [part 0 4, part 4 2, part 6 2, part 8 2, part 10 6]

/-- The bytes that pairs of digits write. -/
def bytes? : List Char → Option (List UInt8)
  | [] => some []
  | [_] => none
  | hi :: lo :: cs => do
    let b ← Text.number? 16 [hi, lo]
    return UInt8.ofNat b :: (← bytes? cs)

/-- Reads the written form. -/
def ofText? (s : String) : Option Uuid :=
  let cs := s.toList
  if cs.zipIdx.all fun (c, i) => (c == '-') == [8, 13, 18, 23].contains i then
    ((bytes? (cs.filter (· ≠ '-'))).filter (·.length = 16)).map Uuid.mk
  else none

instance : Json.Encode Uuid := ⟨fun u => .str u.text⟩
instance : Json.Decode Uuid where
  decode?
    | .str s => ofText? s
    | _ => none

end Uuid

end Eir
