import Eir.Digest.Words

/-!
# SHA-1

The digest of 160 bits from which identifiers are derived from names.
-/

namespace Eir.Digest.Sha1

/-- The chaining value. -/
structure State where
  a : UInt32
  b : UInt32
  c : UInt32
  d : UInt32
  e : UInt32
  deriving DecidableEq, Repr

def State.start : State := ⟨0x67452301, 0xEFCDAB89, 0x98BADCFE, 0x10325476, 0xC3D2E1F0⟩

/-- The message, a bit, zeros up to a whole number of blocks, and the length in bits. -/
def pad (message : ByteArray) : ByteArray :=
  let zeros := (119 - message.size % 64) % 64
  let bits := 8 * message.size
  let length := [UInt32.ofNat (bits >>> 32), UInt32.ofNat bits].flatMap bigBytes
  (0x80 :: (List.replicate zeros 0 ++ length)).foldl ByteArray.push message

/-- The 80 words of the block at an offset. -/
def schedule (b : ByteArray) (start : Nat) : Array UInt32 :=
  let first := (Array.range 16).map fun i => bigWordAt b (start + 4 * i)
  (List.range 64).foldl (fun w i =>
    w.push (rotateLeft (w.getD (i + 13) 0 ^^^ w.getD (i + 8) 0 ^^^ w.getD (i + 2) 0 ^^^
      w.getD i 0) 1)) first

/-- The function and the constant of a round. -/
def roundValue (i : Nat) (s : State) : UInt32 :=
  if i < 20 then ((s.b &&& s.c) ||| (~~~s.b &&& s.d)) + 0x5A827999
  else if i < 40 then (s.b ^^^ s.c ^^^ s.d) + 0x6ED9EBA1
  else if i < 60 then ((s.b &&& s.c) ||| (s.b &&& s.d) ||| (s.c &&& s.d)) + 0x8F1BBCDC
  else (s.b ^^^ s.c ^^^ s.d) + 0xCA62C1D6

def round (i : Nat) (word : UInt32) (s : State) : State :=
  ⟨rotateLeft s.a 5 + roundValue i s + s.e + word, s.a, rotateLeft s.b 30, s.c, s.d⟩

/-- Takes in the block at an offset. -/
def compress (b : ByteArray) (s : State) (start : Nat) : State :=
  let words := schedule b start
  let t := (List.range 80).foldl (fun t i => round i (words.getD i 0) t) s
  ⟨s.a + t.a, s.b + t.b, s.c + t.c, s.d + t.d, s.e + t.e⟩

/-- The 20 bytes of the digest. -/
def hash (message : ByteArray) : List UInt8 :=
  let padded := pad message
  let s := (List.range (padded.size / 64)).foldl (fun s i => compress padded s (64 * i)) .start
  [s.a, s.b, s.c, s.d, s.e].flatMap bigBytes

end Eir.Digest.Sha1
