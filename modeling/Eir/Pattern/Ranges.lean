/-!
# Ranges of code points

Sets of characters as disjoint ranges in order, with the operations of sets. A
table for a set is written as runs: it alternates the length of a gap and the
length of a run, in hexadecimal digits.
-/

namespace Eir.Pattern

/-- The number that hexadecimal digits write. -/
def ofHex (cs : List Char) : Nat :=
  cs.foldl (fun n c => 16 * n + if c.isDigit then c.toNat - 48 else c.toNat - 87) 0

/-- The words of a table, which blanks separate. -/
def words (rows : List String) : List (List Char) :=
  rows.flatMap fun row => row.toList.splitOn ' '

/-- Disjoint ranges of code points, ends included, in order. -/
structure Ranges where
  table : Array (Nat × Nat)
  deriving Repr, DecidableEq, Inhabited

namespace Ranges

def empty : Ranges := ⟨#[]⟩

def toList (r : Ranges) : List (Nat × Nat) := r.table.toList

/-- Reads gaps and lengths, starting at `next`. -/
def readRuns (next : Nat) : List Nat → List (Nat × Nat)
  | gap :: len :: rest => (next + gap, next + gap + len - 1) :: readRuns (next + gap + len) rest
  | _ => []

/-- Reads a table of gaps and lengths. -/
def ofRows (rows : List String) : Ranges :=
  ⟨(readRuns 0 ((words rows).map ofHex)).toArray⟩

/-- Joins ranges that overlap or touch, of a list in the order of where they begin; `a` to `b` is
the range that may still grow. -/
def join (a b : Nat) : List (Nat × Nat) → List (Nat × Nat)
  | [] => [(a, b)]
  | (c, d) :: rest => if c ≤ b + 1 then join a (max b d) rest else (a, b) :: join c d rest

/-- The set of all that is in one of the ranges. -/
def ofList (ranges : List (Nat × Nat)) : Ranges :=
  match ranges.mergeSort fun x y => x.1 ≤ y.1 with
  | [] => empty
  | (a, b) :: rest => ⟨(join a b rest).toArray⟩

/-- Halves the part of the table between `lo` and `hi` until it is empty. -/
def search (table : Array (Nat × Nat)) (n : Nat) : Nat → Nat → Nat → Bool
  | 0, _, _ => false
  | fuel + 1, lo, hi =>
    if lo < hi then
      let mid := (lo + hi) / 2
      let (a, b) := table.getD mid (0, 0)
      if n < a then search table n fuel lo mid
      else if b < n then search table n fuel (mid + 1) hi
      else true
    else false

/-- The code point lies in one of the ranges. -/
def contains (r : Ranges) (n : Nat) : Bool :=
  search r.table n (r.table.size + 1) 0 r.table.size

def union (r s : Ranges) : Ranges := ofList (r.toList ++ s.toList)

/-- All that is in one of the sets. -/
def unionAll (sets : List Ranges) : Ranges := ofList (sets.flatMap toList)

/-- What lies between the ranges, from `next` to `last`. -/
def gaps (last next : Nat) : List (Nat × Nat) → List (Nat × Nat)
  | [] => if next ≤ last then [(next, last)] else []
  | (a, b) :: rest => if next < a then (next, a - 1) :: gaps last (b + 1) rest
    else gaps last (b + 1) rest

/-- The code points that are no characters. -/
def surrogates : Ranges := ⟨#[(0xD800, 0xDFFF)]⟩

/-- The characters that are not in the set. -/
def compl (r : Ranges) : Ranges := ⟨(gaps 0x10FFFF 0 (r.union surrogates).toList).toArray⟩

/-- What two lists of ranges have in common. -/
def overlaps : List (Nat × Nat) → List (Nat × Nat) → List (Nat × Nat)
  | [], _ => []
  | _, [] => []
  | (a, b) :: xs, (c, d) :: ys =>
    let rest := if b < d then overlaps xs ((c, d) :: ys) else overlaps ((a, b) :: xs) ys
    if max a c ≤ min b d then (max a c, min b d) :: rest else rest
termination_by xs ys => xs.length + ys.length

def inter (r s : Ranges) : Ranges := ⟨(overlaps r.toList s.toList).toArray⟩

def diff (r s : Ranges) : Ranges := r.inter s.compl

/-- The characters in just one of the sets. -/
def symmDiff (r s : Ranges) : Ranges := (r.diff s).union (s.diff r)

/-- The set from `a` to `b`. -/
def between (a b : Nat) : Ranges := if a ≤ b then ⟨#[(a, b)]⟩ else empty

end Ranges

end Eir.Pattern
