import Eir.Naming.Resolver
import Eir.Proofs.Pattern.Written
import Eir.Proofs.Text.Numbers

/-!
# What the patterns of names match

The texts that the pattern of a naming decision stands for
(`NamingDecision.names`). A text as a whole matches the pattern just when it is
one of them. No pattern of up to `safeLength` characters is ever refused
(`fullMatch_pattern`).
-/

namespace Eir

open Pattern

/-! ## The names of spaces -/

/-- The storeys that the names of spaces can begin with. -/
def storeys : List (List Char) :=
  ["EX", "00", "01", "02", "03", "RF", "R2", "ZZ", "M0", "M1", "B1", "B2"].map String.toList

/-- The digits of the numbers of spaces. -/
def spaceDigit : CharSet := .unionAll [.range '0' '9']

/-- The letters behind the numbers of spaces. -/
def spaceSuffix : CharSet := .unionAll [.range 'a' 'z', .range 'A' 'Z']

/-- The letters that tell the spaces of a storey apart. -/
def spaceLetterSet : CharSet := .unionAll (spaceLetters.toList.reverse.map .single)

theorem readsAtom_spaceLetter {outer : Nat} :
    ReadsAtom outer ("[" ++ spaceLetters ++ "]").toList
      (.oneOf (spaceLetters.toList.reverse.map .single)) :=
  readsAtom_of_atom (w := (spaceLetters ++ "]").toList) (by decide) fun _ => rfl

/-- The numbers of spaces. -/
def spaceNumbers : Language Char :=
  {w | 1 ≤ w.length ∧ ∀ c ∈ w, spaceDigit.contains c = true}

/-- The names of spaces. -/
def spaceNames : Language Char :=
  (1 + anyOf storeys * {['-']}) * spaceNumbers * (1 + spaceSuffix.language)

/-- The pattern of space names stands for the names of spaces. -/
theorem writes_spaceName : Writes 1 7 spaceNamePattern.toList spaceNames 55232 := by
  have hstorey : WritesAtom 2 3 ('(' :: ['|'].intercalate storeys ++ [')']) (anyOf storeys) 14272 :=
    writesAtom_texts (by decide) (by decide) (by decide) (by decide)
  have hdash : Writes 2 3 ['-'] {['-']} 512 := writes_text (by decide)
  have hoptional := ((hstorey.writes.append hdash).group (by decide)).optional
    (u := ['E', 'X', '-']) ⟨['E', 'X'], List.mem_cons_self, ['-'], rfl, rfl⟩ (by simp)
  have hnumber : Writes 1 7 ("[0-9]".toList ++ ['+']) spaceNumbers 8512 :=
    (writes_repeated readsAtom_decimal (by decide) (by decide) rfl repeats_some
      (by decide)).mono (by decide)
  have hsuffix : WritesAtom 1 6 "[A-Za-z]".toList spaceSuffix.language 8224 :=
    (writesAtom_set readsAtom_letter (by decide) (by decide) rfl).mono (by decide)
  have hletter := hsuffix.optional (u := ['A']) ⟨'A', by decide, rfl⟩ (by simp)
  exact (hoptional.append hnumber).append hletter

/-! ## The names of a decision -/

/-- No pattern of names is refused that has at most so many characters. -/
def safeLength : Nat := 19000

namespace NamingDecision

/-- The texts that the pattern of a decision stands for. -/
def names (d : NamingDecision) (container : ContainerPattern) : Language Char :=
  match d, container with
  | spatial code, .literal c => {c.toList} * {['-']} * {code.toList} * digits 2
  | spatial code, .convention => spaceNames * {['-']} * {code.toList} * digits 2
  | sequence code, _ => {code.toList} * {['-']} * digits 2
  | spaceLetter, .literal c => {(spaceStem c).toList} * spaceLetterSet.language
  | spaceLetter, .convention => spaceNames
  | fallback label, _ => {label.toList} * digits 5

variable (d : NamingDecision) (container : ContainerPattern)

theorem length_le_escape (s : String) : s.length ≤ (escape s).length := by
  have hchars (cs : List Char) : cs.length ≤ (cs.flatMap escapeChar).length := by
    induction cs with
    | nil => exact Nat.le_refl 0
    | cons c cs ih =>
      have hchar : 1 ≤ (escapeChar c).length := by
        rw [escapeChar]
        split <;> simp
      rw [List.flatMap_cons, List.length_append, List.length_cons]
      omega
  rw [escape, String.length_ofList, ← String.length_toList]
  exact hchars s.toList

/-- The pattern of a decision stands for its names. -/
theorem writes_pattern :
    ∃ bytes, Writes 1 7 (d.pattern container).toList (d.names container) bytes ∧
      bytes ≤ 512 * (d.pattern container).length + 400000 := by
  have hdash : Writes 1 7 "-".toList {['-']} 512 := writes_text (by decide)
  have htwo : Writes 1 7 "\\d\x7b2,\x7d".toList (digits 2) 196992 :=
    (writes_digits repeats_from_two (by decide)).mono (by decide)
  have hfive : Writes 1 7 "\\d\x7b5,\x7d".toList (digits 5) 393984 :=
    (writes_digits repeats_from_five (by decide)).mono (by decide)
  have htext (s : String) : Writes 1 7 (escape s).toList {s.toList} (512 * s.toList.length) :=
    writes_escape s
  have hlength (s : String) : s.toList.length ≤ (escape s).length := length_le_escape s
  cases d with
  | spatial code =>
    have hcode := hlength code
    cases container with
    | literal c =>
      have hc := hlength c
      have hall := (((htext c).append hdash).append (htext code)).append htwo
      rw [pattern, String.toList_append, String.toList_append, String.toList_append]
      refine ⟨_, hall, ?_⟩
      simp only [String.length_append]
      omega
    | convention =>
      have hall := ((writes_spaceName.append hdash).append (htext code)).append htwo
      rw [pattern, String.toList_append, String.toList_append, String.toList_append]
      refine ⟨_, hall, ?_⟩
      simp only [String.length_append]
      omega
  | sequence code =>
    have hcode := hlength code
    have hall := ((htext code).append hdash).append htwo
    rw [pattern, String.toList_append, String.toList_append]
    refine ⟨_, hall, ?_⟩
    simp only [String.length_append]
    omega
  | spaceLetter =>
    cases container with
    | literal c =>
      have hstem := hlength (spaceStem c)
      have hletters : Writes 1 7 ("[" ++ spaceLetters ++ "]").toList spaceLetterSet.language 12320 :=
        ((writesAtom_set readsAtom_spaceLetter (by decide) (by decide) rfl).mono (by decide)).writes
      have hall := (htext (spaceStem c)).append hletters
      rw [pattern, String.append_assoc, String.append_assoc, String.toList_append,
        ← String.append_assoc]
      refine ⟨_, hall, ?_⟩
      simp only [String.length_append]
      omega
    | convention => exact ⟨_, writes_spaceName, by omega⟩
  | fallback label =>
    have hlabel := hlength label
    have hall := (htext label).append hfive
    rw [pattern, String.toList_append]
    refine ⟨_, hall, ?_⟩
    simp only [String.length_append]
    omega

/-- A text matches the pattern of a decision just when it is one of the names. -/
theorem matches_pattern (text : String) :
    Matches (d.pattern container) text ↔ text.toList ∈ d.names container := by
  obtain ⟨bytes, hwrites, -⟩ := d.writes_pattern container
  exact hwrites.matches_iff (by decide) rfl text

/-- As a whole, a text matches the pattern of a decision just when it is one of the names. Only a
long pattern is ever refused. -/
theorem fullMatch_pattern (text : String) :
    (∃ b, fullMatch (d.pattern container) text = .ok b ∧
      (b = true ↔ text.toList ∈ d.names container)) ∨
    (fullMatch (d.pattern container) text = .error (.invalidPattern (d.pattern container)) ∧
      safeLength < (d.pattern container).length) := by
  obtain ⟨bytes, hwrites, hbytes⟩ := d.writes_pattern container
  rcases hwrites.fullMatch (by decide) rfl text with h | ⟨h, hlarge⟩
  · exact .inl h
  · refine .inr ⟨h, ?_⟩
    simp only [memoryLimit, stateBytes] at hlarge
    rw [safeLength]
    omega

end NamingDecision

end Eir
