/-!
# Words in byte strings

Reading the 32-bit words of a byte string. Bytes behind its end are zero.
-/

namespace Eir.Digest

/-- The byte at an offset. -/
def byteAt (b : ByteArray) (i : Nat) : UInt8 := if h : i < b.size then b[i] else 0

/-- The four bytes at an offset, the most significant first. -/
def bigWordAt (b : ByteArray) (i : Nat) : UInt32 :=
  ((byteAt b i).toUInt32 <<< 24) ||| ((byteAt b (i + 1)).toUInt32 <<< 16) |||
    ((byteAt b (i + 2)).toUInt32 <<< 8) ||| (byteAt b (i + 3)).toUInt32

/-- The four bytes at an offset, the least significant first. -/
def littleWordAt (b : ByteArray) (i : Nat) : UInt32 :=
  (byteAt b i).toUInt32 ||| ((byteAt b (i + 1)).toUInt32 <<< 8) |||
    ((byteAt b (i + 2)).toUInt32 <<< 16) ||| ((byteAt b (i + 3)).toUInt32 <<< 24)

/-- The bytes of a word, the most significant first. -/
def bigBytes (w : UInt32) : List UInt8 :=
  [(w >>> 24).toUInt8, (w >>> 16).toUInt8, (w >>> 8).toUInt8, w.toUInt8]

/-- The bytes of a word, the least significant first. -/
def littleBytes (w : UInt32) : List UInt8 := (bigBytes w).reverse

/-- The bits of a word, moved left by `n` places and around. -/
def rotateLeft (w : UInt32) (n : UInt32) : UInt32 := (w <<< n) ||| (w >>> (32 - n))

/-- The bits of a word, moved right by `n` places and around. -/
def rotateRight (w : UInt32) (n : UInt32) : UInt32 := (w >>> n) ||| (w <<< (32 - n))

end Eir.Digest
