import Eir.Pattern.Ranges

/-!
# Sequences of byte ranges

The UTF-8 forms of a range of characters fall into sequences of byte ranges: all
forms whose first byte lies in the first range, whose second byte lies in the
second range, and so on.
-/

namespace Eir.Pattern

/-- A range of bytes, ends included. -/
abbrev ByteRange := Nat × Nat

namespace ByteRange

/-- The bytes that follow the first one of a character. -/
def following : ByteRange := (0x80, 0xBF)

/-- The sequences for the numbers from `lo` to `hi`, each written as a first byte that begins
counting at `base` and `k` bytes behind it with six bits each. -/
def sequences (base : Nat) : Nat → Nat → Nat → List (List ByteRange)
  | 0, lo, hi => [[(base + lo, base + hi)]]
  | k + 1, lo, hi =>
    let m := 64 ^ (k + 1)
    let first := lo / m
    let last := hi / m
    let under (lead lo hi : Nat) : List (List ByteRange) :=
      (sequences 0x80 k lo hi).map fun s => (base + lead, base + lead) :: s
    if first == last then under first (lo % m) (hi % m)
    else
      let startsFull := lo % m == 0
      let endsFull := hi % m == m - 1
      let a := if startsFull then first else first + 1
      let b := if endsFull then last else last - 1
      (if startsFull then [] else under first (lo % m) (m - 1)) ++
        (if a ≤ b then [(base + a, base + b) :: List.replicate (k + 1) following] else []) ++
        (if endsFull then [] else under last 0 (hi % m))

/-- The characters by the length of their forms: what the first byte begins counting at, how many
bytes follow, and the characters from the first to the last. -/
def bands : List (Nat × Nat × Nat × Nat) :=
  [(0, 0, 0, 0x7F), (0xC0, 1, 0x80, 0x7FF), (0xE0, 2, 0x800, 0xD7FF), (0xE0, 2, 0xE000, 0xFFFF),
    (0xF0, 3, 0x10000, 0x10FFFF)]

/-- The sequences for the characters from `lo` to `hi`. -/
def ofRange (lo hi : Nat) : List (List ByteRange) :=
  bands.flatMap fun (base, k, first, last) =>
    if max lo first ≤ min hi last then sequences base k (max lo first) (min hi last) else []

end ByteRange

/-- The sequences for the characters of the set, in order. -/
def Ranges.byteSequences (r : Ranges) : List (List ByteRange) :=
  r.toList.flatMap fun (a, b) => ByteRange.ofRange a b

/-- Puts sequences together that begin with the same range and stand side by side. -/
def groupByFirst : List (List ByteRange) → List (ByteRange × List (List ByteRange))
  | [] => []
  | [] :: ss => groupByFirst ss
  | (r :: tail) :: ss =>
    match groupByFirst ss with
    | (r', tails) :: groups =>
      if r == r' then (r, tail :: tails) :: groups else (r, [tail]) :: (r', tails) :: groups
    | [] => [(r, [tail])]

end Eir.Pattern
