import Eir.Xml.Token

/-!
# Attributes of a tag

Attributes are looked for one after the other, up to the one that is asked for.
What stands behind it is not looked at.
-/

namespace Eir.Xml

/-- The first attribute of what follows the name of a tag. -/
structure WrittenAttribute where
  name : List Char
  /-- The value with its references. -/
  value : List Char
  /-- What stands behind it. -/
  rest : List Char
  deriving DecidableEq, Repr

/-- A character of the name of an attribute, other than the first. -/
def isNameChar (c : Char) : Bool := c ≠ '=' && !isBlank c

/-- Reads a value in quotation marks. -/
def quotedValue? (cs : List Char) : Option (List Char × List Char) :=
  match cs with
  | q :: cs => if isQuote q then Text.cutAround? [q] cs else none
  | [] => none

/-- Reads the first attribute; none if there is nothing but blanks. -/
def firstAttribute (cs : List Char) : Except Malformed (Option WrittenAttribute) :=
  match cs.dropWhile isBlank with
  | [] => .ok none
  | c :: cs =>
    match (cs.dropWhile isNameChar).dropWhile isBlank with
    | '=' :: value =>
      match quotedValue? (value.dropWhile isBlank) with
      | some (value, rest) => .ok (some ⟨c :: cs.takeWhile isNameChar, value, rest⟩)
      | none => .error .attr
    | _ => .error .attr

theorem length_firstAttribute {cs : List Char} {a : WrittenAttribute}
    (h : firstAttribute cs = .ok (some a)) : a.rest.length < cs.length := by
  have dropped (p : Char → Bool) (cs : List Char) : (cs.dropWhile p).length ≤ cs.length :=
    (List.dropWhile_sublist p).length_le
  unfold firstAttribute at h
  split at h
  · cases h
  · rename_i c cs' h₁
    split at h
    · rename_i value h₂
      split at h
      · rename_i value' rest h₃
        cases h
        have d₁ := dropped isBlank cs
        have d₂ := dropped isBlank (cs'.dropWhile isNameChar)
        have d₃ := dropped isNameChar cs'
        have d₄ := dropped isBlank value
        rw [h₁] at d₁
        rw [h₂] at d₂
        unfold quotedValue? at h₃
        split at h₃
        · rename_i q cs₄ h₄
          rw [h₄] at d₄
          split at h₃
          · have := length_cutAround? h₃
            simp only [List.length_cons] at *
            omega
          · cases h₃
        · cases h₃
      · cases h
    · cases h

/-- The value of the first attribute of that name, in what follows the name of a tag. -/
def attribute? (name : String) (cs : List Char) : Except Malformed (Option String) :=
  match _h : firstAttribute cs with
  | .error e => .error e
  | .ok none => .ok none
  | .ok (some a) =>
    if a.name = name.toList then
      match unescapeChars? a.value with
      | some value => .ok (some (String.ofList value))
      | none => .error .reference
    else attribute? name a.rest
termination_by cs.length
decreasing_by exact length_firstAttribute _h

end Eir.Xml
