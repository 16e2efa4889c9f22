import Eir.Proofs.Naming.Matching
import Eir.Sample.Synthesis

/-!
# Invalid names

The words that break a name when they stand before it do so for every shape of
names. They bring in a letter that no number has, and that no code or container
can make up for (`prefixed_not_mem`). Names of spaces never begin with them
(`take_two_ne`).
-/

namespace Eir

open Pattern

variable {w u v : List Char} {lo : Nat}

/-- A number does not make up for the letter that stands in front of the name. -/
theorem prefixed_not_mem (hv : ∀ c ∈ v, c.isDigit = true) :
    invalidNameStart.toList ++ (w ++ v) ∉ ({w} : Language Char) * digits lo := by
  rintro ⟨_, rfl, u, ⟨-, hu⟩, heq⟩
  have hu' : u.count 'B' = 0 := List.count_eq_zero.mpr fun hmem => by
    have hdigit := hu 'B' hmem
    exact absurd hdigit (by decide)
  have hv' : v.count 'B' = 0 := List.count_eq_zero.mpr fun hmem => by
    have hdigit := hv 'B' hmem
    exact absurd hdigit (by decide)
  have hstart : invalidNameStart.toList.count 'B' = 1 := by decide
  have hcount := congrArg (List.count 'B') heq
  rw [List.count_append, List.count_append, List.count_append, hu', hv', hstart] at hcount
  omega

/-- No name of a space begins with the words that break names, whatever stands behind it. -/
theorem take_two_ne (hw : w ∈ spaceNames) (v : List Char) :
    (w ++ v).take 2 ≠ invalidNameStart.toList.take 2 := by
  have hshort : ∀ t ∈ storeys, t.length = 2 ∧ t ≠ invalidNameStart.toList.take 2 := by decide
  obtain ⟨_, ⟨s, hs, ds, ⟨hlength, hds⟩, rfl⟩, l, -, rfl⟩ := hw
  rcases hs with rfl | ⟨t, ht, _, rfl, rfl⟩
  · -- The name begins with its number.
    cases ds with
    | nil => cases hlength
    | cons d ds =>
      intro htake
      have hd : d = 'B' := by
        exact Option.some.inj (congrArg List.head? htake)
      have hdigit := hds d List.mem_cons_self
      rw [hd] at hdigit
      exact absurd hdigit (by decide)
  · -- The name begins with a storey.
    obtain ⟨hlength', hne⟩ := hshort t ht
    simp only [List.append_assoc]
    rwa [List.take_left' hlength']

namespace NamingDecision

/-- The name with the words that break it. -/
def broken (d : NamingDecision) (container : String) (number : Nat) : String :=
  invalidNameStart ++ d.render (d.counterKey container) number

variable (d : NamingDecision) (container : String) (number : Nat)

/-- A broken name is none of the names in its container. -/
theorem broken_not_mem_names : (d.broken container number).toList ∉ d.names (.literal container) := by
  have hdigit (width : Nat) : ∀ c ∈ (Text.zeroPadded width number).toList, c.isDigit = true :=
    fun _ => Text.isDigit_of_mem_zeroPadded
  rw [broken, String.toList_append]
  cases d with
  | spatial code =>
    simp only [render, counterKey, String.toList_append, names, singleton_mul_singleton]
    exact prefixed_not_mem (hdigit 3)
  | sequence code =>
    simp only [render, counterKey, String.toList_append, names, singleton_mul_singleton]
    exact prefixed_not_mem (hdigit 5)
  | fallback label =>
    simp only [render, counterKey, names, String.toList_append]
    exact prefixed_not_mem (hdigit 5)
  | spaceLetter =>
    simp only [render, counterKey, names, String.toList_append]
    rintro ⟨_, rfl, _, ⟨x, -, rfl⟩, heq⟩
    have hlength := congrArg List.length heq
    simp [invalidNameStart] at hlength

/-- Nor is it one of those of the project's rule. -/
theorem broken_not_mem_convention (h : d.hasConvention = true) :
    (d.broken container number).toList ∉ d.names .convention := by
  have hstart (name : String) :
      (invalidNameStart ++ name).toList.take 2 = invalidNameStart.toList.take 2 := by
    rw [String.toList_append]
    rfl
  cases d with
  | spatial code =>
    rintro ⟨_, ⟨_, ⟨w, hw, _, rfl, rfl⟩, _, rfl, rfl⟩, v, -, heq⟩
    refine take_two_ne hw (['-'] ++ code.toList ++ v) ?_
    simp only [← List.append_assoc]
    exact (congrArg (List.take 2) heq).trans (hstart _)
  | sequence code => exact broken_not_mem_names (.sequence code) container number
  | spaceLetter =>
    intro hw
    have hne := take_two_ne hw []
    rw [List.append_nil] at hne
    exact hne (hstart _)
  | fallback label => cases h

/-- A broken name never matches the pattern of its names, nor that of the project's rule if there
is one for names of its shape. -/
theorem broken_matches_no_pattern :
    Answers (d.pattern (.literal container)) (d.broken container number) false ∧
      (d.hasConvention = true →
        Answers (d.pattern .convention) (d.broken container number) false) := by
  constructor
  · exact answers_pattern (iff_of_false nofun (d.broken_not_mem_names container number))
  · intro h
    exact answers_pattern (iff_of_false nofun (d.broken_not_mem_convention container number h))

theorem pump_broken :
    (NamingDecision.sequence "PMP").hasConvention = true ∧
      Answers ((NamingDecision.sequence "PMP").pattern .convention)
        ((NamingDecision.sequence "PMP").broken "00-01A" 1) false :=
  ⟨rfl, (broken_matches_no_pattern (.sequence "PMP") "00-01A" 1).2 rfl⟩

end NamingDecision

end Eir
