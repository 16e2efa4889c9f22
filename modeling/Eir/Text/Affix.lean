/-!
# Affixes

Taking a known beginning or ending off a text, and cutting a text at the first
place where another text occurs in it.
-/

namespace Eir.Text

/-- What follows `head` in `s`, when `s` begins with it. -/
def stripPrefix? (head s : String) : Option String :=
  (List.isPrefixOf? head.toList s.toList).map String.ofList

/-- What precedes `tail` in `s`, when `s` ends with it. -/
def stripSuffix? (tail s : String) : Option String :=
  (List.isSuffixOf? tail.toList s.toList).map String.ofList

theorem isPrefixOf?_cons_cons (x y : Char) (xs ys : List Char) :
    List.isPrefixOf? (x :: xs) (y :: ys) =
      if x == y then List.isPrefixOf? xs ys else none := rfl

theorem length_of_isPrefixOf? {xs ys zs : List Char} (h : List.isPrefixOf? xs ys = some zs) :
    ys.length = xs.length + zs.length := by
  induction xs generalizing ys with
  | nil =>
    obtain rfl : ys = zs := Option.some.inj h
    exact (Nat.zero_add _).symm
  | cons x xs ih =>
    cases ys with
    | nil => cases h
    | cons y ys =>
      rw [isPrefixOf?_cons_cons] at h
      split at h
      · have := ih h
        simp only [List.length_cons]
        omega
      · cases h

/-- Takes `head` off the front as long as it stands there. -/
def dropRepeated (head cs : List Char) : List Char :=
  if head.isEmpty then cs
  else
    match _h : List.isPrefixOf? head cs with
    | some rest => dropRepeated head rest
    | none => cs
termination_by cs.length
decreasing_by
  have := length_of_isPrefixOf? ‹List.isPrefixOf? head cs = some rest›
  have : head.length ≠ 0 := by simp_all
  omega

/-- Takes every copy of `head` off the front of `s`. -/
def stripRepeated (head s : String) : String :=
  String.ofList (dropRepeated head.toList s.toList)

/-- Cuts `cs` around the first occurrence of `mid`. -/
def cutAround? (mid : List Char) : List Char → Option (List Char × List Char)
  | [] => if mid.isEmpty then some ([], []) else none
  | c :: cs =>
    match List.isPrefixOf? mid (c :: cs) with
    | some rest => some ([], rest)
    | none => (cutAround? mid cs).map fun (l, r) => (c :: l, r)

/-- Takes the first occurrence of `mid` out of `s`, wherever it stands. -/
def eraseFirst (mid s : String) : String :=
  match cutAround? mid.toList s.toList with
  | some (l, r) => String.ofList (l ++ r)
  | none => s

/-- Drops `skip` characters, and then every occurrence of `mid` from the left. -/
def eraseEach (mid : List Char) : Nat → List Char → List Char
  | _, [] => []
  | skip + 1, _ :: cs => eraseEach mid skip cs
  | 0, c :: cs =>
    if !mid.isEmpty && mid.isPrefixOf (c :: cs) then eraseEach mid (mid.length - 1) cs
    else c :: eraseEach mid 0 cs

/-- Takes every occurrence of `mid` out of `s`. -/
def eraseAll (mid s : String) : String := String.ofList (eraseEach mid.toList 0 s.toList)

/-- `mid` occurs in `s`. -/
def occursIn (mid s : String) : Bool :=
  (cutAround? mid.toList s.toList).isSome

end Eir.Text
