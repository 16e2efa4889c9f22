import Eir.Proofs.Pattern.Leads
import Mathlib.Computability.Language

/-!
# The language of a pattern

A pattern without tests of places matches the words of a language, which its
structure gives (`Node.language`), wherever it begins. So a text as a whole
matches such a pattern between the start and the end of the text just when it is
a word of the language (`occursIn_whole`).
-/

namespace Eir.Pattern

namespace CharSet

/-- The words of one character of the set. -/
def language (s : CharSet) : Language Char := {w | ∃ x, s.contains x = true ∧ w = [x]}

theorem mem_language_pow {s : CharSet} {k : Nat} {w : List Char} :
    w ∈ s.language ^ k ↔ w.length = k ∧ ∀ x ∈ w, s.contains x = true := by
  induction k generalizing w with
  | zero => simp +contextual [Language.mem_one, List.length_eq_zero_iff]
  | succ k ih =>
    rw [pow_succ', Language.mem_mul]
    constructor
    · rintro ⟨_, ⟨x, hx, rfl⟩, v, hv, rfl⟩
      obtain ⟨hlength, hall⟩ := ih.mp hv
      simpa [hlength, hx] using hall
    · rintro ⟨hlength, hall⟩
      cases w with
      | nil => cases hlength
      | cons x v =>
        refine ⟨[x], ⟨x, hall x List.mem_cons_self, rfl⟩, v, ih.mpr ⟨?_, ?_⟩, rfl⟩
        · exact Nat.succ_injective hlength
        · exact fun y hy => hall y (List.mem_cons_of_mem x hy)

theorem contains_single {c x : Char} : (single c).contains x = true ↔ x = c := by
  rw [single, contains, Bool.and_eq_true, decide_eq_true_eq, decide_eq_true_eq]
  constructor
  · rintro ⟨h, h'⟩
    exact Char.le_antisymm h' h
  · rintro rfl
    exact ⟨Char.le_refl x, Char.le_refl x⟩

theorem language_single (c : Char) : (single c).language = {[c]} := by
  ext w
  constructor
  · rintro ⟨x, hx, rfl⟩
    rw [contains_single.mp hx]
    rfl
  · rintro rfl
    exact ⟨c, contains_single.mpr rfl, rfl⟩

end CharSet

namespace Node

/-- The pattern tests no places. -/
def lookFree : Node → Bool
  | empty | chars _ => true
  | look _ => false
  | seq a b | alt a b => a.lookFree && b.lookFree
  | times a _ _ | group a => a.lookFree

/-- The words that match a pattern that tests no places. -/
def language : Node → Language Char
  | empty | look _ => 1
  | chars s => s.language
  | seq a b => a.language * b.language
  | alt a b => a.language + b.language
  | times a lo hi => {w | ∃ k, lo ≤ k ∧ (∀ n ∈ hi, k ≤ max lo n) ∧ w ∈ a.language ^ k}
  | group a => a.language

end Node

section Words

variable {u v : List Char} {c d m : Cursor} {R : Cursor → Cursor → Prop} {L : Language Char}

/-- There is a place where a text behind `c` can be parted. -/
theorem Cursor.Past.split (h : Past (u ++ v) c d) : ∃ m, Past u c m ∧ Past v m d := by
  obtain ⟨hrest, hindex, hbefore⟩ := h
  refine ⟨⟨c.index + u.length, u.getLast?.or c.before, v ++ d.rest⟩, ⟨?_, rfl, rfl⟩, rfl, ?_, ?_⟩
  · rw [hrest, List.append_assoc]
  · rw [hindex, List.length_append, Nat.add_assoc]
  · rw [hbefore, List.getLast?_append, Option.or_assoc]

/-- The relation goes from place to place by the words of the language. -/
def Spells (R : Cursor → Cursor → Prop) (L : Language Char) : Prop :=
  ∀ c d, R c d ↔ ∃ u ∈ L, Cursor.Past u c d

theorem Spells.steps (h : Spells R L) (k : Nat) : Spells (Steps R k) (L ^ k) := by
  induction k with
  | zero =>
    intro c d
    rw [pow_zero]
    constructor
    · rintro rfl
      exact ⟨[], rfl, .refl c⟩
    · rintro ⟨u, rfl, hu⟩
      exact Cursor.eq_of_past_nil hu
  | succ k ih =>
    intro c d
    rw [pow_succ']
    constructor
    · rintro ⟨m, hm, hd⟩
      obtain ⟨u, hu, hcm⟩ := (h c m).mp hm
      obtain ⟨v, hv, hmd⟩ := (ih m d).mp hd
      exact ⟨u ++ v, Language.append_mem_mul hu hv, hcm.trans hmd⟩
    · rintro ⟨_, ⟨u, hu, v, hv, rfl⟩, hcd⟩
      obtain ⟨m, hcm, hmd⟩ := hcd.split
      exact ⟨m, (h c m).mpr ⟨u, hu, hcm⟩, (ih m d).mpr ⟨v, hv, hmd⟩⟩

end Words

namespace Node

/-- A pattern that tests no places leads on by the words of its language. -/
theorem spells_leads {n : Node} (h : n.lookFree = true) : Spells n.Leads n.language := by
  induction n with
  | empty => exact Spells.steps (R := fun _ _ => False) (L := 0) (fun c d => by simp [Language.notMem_zero]) 0
  | chars s =>
    intro c d
    rw [Leads, Cursor.past_step?]
    constructor
    · rintro ⟨x, hx, hcd⟩
      exact ⟨[x], ⟨x, hx, rfl⟩, hcd⟩
    · rintro ⟨_, ⟨x, hx, rfl⟩, hcd⟩
      exact ⟨x, hx, hcd⟩
  | look l => cases h
  | seq a b iha ihb =>
    rw [lookFree, Bool.and_eq_true] at h
    intro c d
    constructor
    · rintro ⟨m, hm, hd⟩
      obtain ⟨u, hu, hcm⟩ := (iha h.1 c m).mp hm
      obtain ⟨v, hv, hmd⟩ := (ihb h.2 m d).mp hd
      exact ⟨u ++ v, Language.append_mem_mul hu hv, hcm.trans hmd⟩
    · rintro ⟨_, ⟨u, hu, v, hv, rfl⟩, hcd⟩
      obtain ⟨m, hcm, hmd⟩ := hcd.split
      exact ⟨m, (iha h.1 c m).mpr ⟨u, hu, hcm⟩, (ihb h.2 m d).mpr ⟨v, hv, hmd⟩⟩
  | alt a b iha ihb =>
    rw [lookFree, Bool.and_eq_true] at h
    intro c d
    rw [Leads, iha h.1, ihb h.2, language]
    simp only [Language.mem_add]
    grind
  | times a lo hi iha =>
    intro c d
    constructor
    · rintro ⟨k, hlo, hhi, hk⟩
      obtain ⟨u, hu, hcd⟩ := ((iha h).steps k c d).mp hk
      exact ⟨u, ⟨k, hlo, hhi, hu⟩, hcd⟩
    · rintro ⟨u, ⟨k, hlo, hhi, hu⟩, hcd⟩
      exact ⟨k, hlo, hhi, ((iha h).steps k c d).mpr ⟨u, hu, hcd⟩⟩
  | group a iha => exact iha h

end Node

/-! ## Whole texts -/

theorem Cursor.past_of_mem_onward {index : Nat} {before : Option Char} {text : List Char} {c : Cursor}
    (h : c ∈ onward index before text) : ∃ u, Past u ⟨index, before, text⟩ c := by
  induction text generalizing index before with
  | nil =>
    obtain rfl := List.mem_singleton.mp h
    exact ⟨[], .refl _⟩
  | cons x xs ih =>
    rcases List.mem_cons.mp h with rfl | h
    · exact ⟨[], .refl _⟩
    · obtain ⟨u, hu⟩ := ih h
      have hx : Past [x] ⟨index, before, x :: xs⟩ ⟨index + 1, some x, xs⟩ := ⟨rfl, rfl, rfl⟩
      exact ⟨[x] ++ u, hx.trans hu⟩

namespace Node

/-- The pattern between the start and the end of the text. -/
def whole (n : Node) : Node := .seq (.seq (.look .textStart) n) (.look .textEnd)

/-- A text matches as a whole just when it is a word of the language. -/
theorem occursIn_whole {n : Node} (h : n.lookFree = true) (text : String) :
    n.whole.occursIn text = true ↔ text.toList ∈ n.language := by
  have hplaces : ∀ c ∈ Cursor.onward 0 none text.toList, c.In text.toList := fun c hc =>
    Cursor.past_of_mem_onward hc
  have hstart : Cursor.start text.toList ∈ Cursor.onward 0 none text.toList := by
    cases text.toList <;> exact List.mem_cons_self
  have hsome : n.whole.occursIn text = true ↔
      ∃ d, d ∈ n.whole.ends (Cursor.onward 0 none text.toList) := by
    rw [occursIn, Bool.not_eq_true', List.isEmpty_eq_false_iff_exists_mem]
  rw [hsome]
  constructor
  · rintro ⟨d, hd⟩
    obtain ⟨c, hc, e, ⟨_, ⟨hbefore, rfl⟩, he⟩, hend, rfl⟩ := (mem_ends _ _ _ hplaces d).mp hd
    obtain ⟨u, hu, hce⟩ := (spells_leads h c e).mp he
    -- The match begins at the start and ends at the end.
    obtain ⟨v, hv⟩ := hplaces c hc
    have hnil : v = [] := by
      have := hv.before
      rw [Option.isNone_iff_eq_none.mp hbefore] at this
      simpa [Cursor.start] using this.symm
    obtain rfl := Cursor.eq_of_past_nil (hnil ▸ hv)
    have hrest : e.rest = [] := by simpa [Look.holds] using hend
    have hwhole : text.toList = u ++ e.rest := hce.rest
    rw [hrest, List.append_nil] at hwhole
    rwa [hwhole]
  · intro hword
    have hpast : Cursor.Past text.toList (.start text.toList)
        ⟨text.toList.length, text.toList.getLast?, []⟩ :=
      ⟨(List.append_nil _).symm, (Nat.zero_add _).symm, by simp [Cursor.start]⟩
    have hmatch := (spells_leads h _ _).mpr ⟨_, hword, hpast⟩
    exact ⟨_, (mem_ends _ _ _ hplaces _).mpr ⟨_, hstart, _, ⟨_, ⟨rfl, rfl⟩, hmatch⟩, rfl, rfl⟩⟩

end Node

end Eir.Pattern
