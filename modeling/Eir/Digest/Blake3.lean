import Eir.Digest.Words
import Eir.Text.Digits

/-!
# BLAKE3

The digest of 256 bits that tells the contents of documents apart. The message
is cut into chunks, which are the leaves of a binary tree; each node of the tree
compresses the values of the two below it.
-/

namespace Eir.Digest.Blake3

/-- The chaining value of a node. -/
abbrev Chain := Vector UInt32 8

/-- The words of a block, or of the state while it is compressed. -/
abbrev Block := Vector UInt32 16

def startChain : Chain :=
  #v[0x6A09E667, 0xBB67AE85, 0x3C6EF372, 0xA54FF53A, 0x510E527F, 0x9B05688C, 0x1F83D9AB,
    0x5BE0CD19]

/-- The order in which a round takes the words of the round before. -/
def wordOrder : Vector (Fin 16) 16 :=
  #v[2, 6, 3, 10, 7, 0, 4, 13, 1, 11, 12, 5, 9, 14, 15, 8]

/-- Mixes two words of the message into four of the state. -/
def mix (v : Block) (a b c d : Fin 16) (x y : UInt32) : Block :=
  let va := v[a] + v[b] + x
  let vd := rotateRight (v[d] ^^^ va) 16
  let vc := v[c] + vd
  let vb := rotateRight (v[b] ^^^ vc) 12
  let va := va + vb + y
  let vd := rotateRight (vd ^^^ va) 8
  let vc := vc + vd
  let vb := rotateRight (vb ^^^ vc) 7
  (((v.set a va).set b vb).set c vc).set d vd

/-- Mixes the columns and then the diagonals of the state. -/
def round (v m : Block) : Block :=
  let v := mix v 0 4 8 12 m[0] m[1]
  let v := mix v 1 5 9 13 m[2] m[3]
  let v := mix v 2 6 10 14 m[4] m[5]
  let v := mix v 3 7 11 15 m[6] m[7]
  let v := mix v 0 5 10 15 m[8] m[9]
  let v := mix v 1 6 11 12 m[10] m[11]
  let v := mix v 2 7 8 13 m[12] m[13]
  mix v 3 4 9 14 m[14] m[15]

/-- The rounds, each with the words in a new order. -/
def rounds : Nat → Block → Block → Block
  | 0, v, _ => v
  | n + 1, v, m => rounds n (round v m) (wordOrder.map fun i => m[i])

/-- Says of a block that it is the first of its chunk. -/
def chunkStart : UInt32 := 1
/-- Says of a block that it is the last of its chunk. -/
def chunkEnd : UInt32 := 2
/-- Says of a block that it holds the values of two nodes. -/
def parentNode : UInt32 := 4
/-- Says of a block that its value is the digest. -/
def rootNode : UInt32 := 8

/-- The chaining value after one block of `length` bytes, in the chunk with number `index`. -/
def compress (chain : Chain) (block : Block) (index length : Nat) (flags : UInt32) : Chain :=
  let last : Vector UInt32 8 := #v[0x6A09E667, 0xBB67AE85, 0x3C6EF372, 0xA54FF53A,
    UInt32.ofNat index, UInt32.ofNat (index >>> 32), UInt32.ofNat length, flags]
  let v : Block := chain ++ last
  let v := rounds 7 v block
  .ofFn fun i => v[i.val] ^^^ v[i.val + 8]

/-- The words of the block at an offset. -/
def blockAt (b : ByteArray) (start : Nat) : Block :=
  .ofFn fun i => littleWordAt b (start + 4 * i.val)

/-- The value of a chunk; `root` is `rootNode` if there is no other. -/
def chunk (b : ByteArray) (index : Nat) (root : UInt32) : Chain :=
  let start := 1024 * index
  let length := min 1024 (b.size - start)
  let last := (length - 1) / 64
  (List.range (last + 1)).foldl (fun chain j =>
    let flags := (if j = 0 then chunkStart else 0) ||| if j = last then chunkEnd ||| root else 0
    compress chain (blockAt b (start + 64 * j)) index (min 64 (length - 64 * j)) flags) startChain

/-- The value of a node over two others. -/
def parent (left right : Chain) (root : UInt32) : Chain :=
  compress startChain (left ++ right) 0 64 (parentNode ||| root)

/-- The chunks of `count` that go below the left node: the largest power of two that leaves
some. -/
def leftCount (count : Nat) : Nat := 1 <<< (count - 1).log2

theorem leftCount_lt {count : Nat} (h : 1 < count) : leftCount count < count := by
  have := Nat.log2_self_le (n := count - 1) (by omega)
  rw [leftCount, Nat.one_shiftLeft]
  omega

theorem leftCount_pos (count : Nat) : 0 < leftCount count := by
  rw [leftCount, Nat.one_shiftLeft]
  exact Nat.two_pow_pos _

/-- The value of the node over `count` chunks from `first` on. -/
def node (b : ByteArray) (first count : Nat) (root : UInt32) : Chain :=
  if _h : 1 < count then
    parent (node b first (leftCount count) 0)
      (node b (first + leftCount count) (count - leftCount count) 0) root
  else chunk b first root
  termination_by count
  decreasing_by
    · exact leftCount_lt _h
    · exact Nat.sub_lt (Nat.lt_trans Nat.one_pos _h) (leftCount_pos count)

/-- The 32 bytes of the digest. -/
def hash (message : ByteArray) : List UInt8 :=
  (node message 0 ((message.size + 1023) / 1024) rootNode).toList.flatMap littleBytes

/-- The digest of a text, as hexadecimal digits. -/
def hashText (s : String) : String := Text.hex (hash s.toUTF8)

end Eir.Digest.Blake3
