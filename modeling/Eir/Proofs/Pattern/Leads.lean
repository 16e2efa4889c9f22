import Eir.Pattern.Matching

/-!
# What a pattern leads to

`Node.Leads` says between which two places of a text a pattern matches, by its
structure and with no sets of places. Matching computes just this: the places
behind a match are those that the pattern leads to (`mem_ends`).

Repetitions are cut off when no place is new. That loses nothing, since a step that takes
no character leads nowhere new, and each other step comes nearer to the end of
the text (`Steps.shorten`).
-/

namespace Eir.Pattern

namespace Cursor

variable {text u v : List Char} {c d e : Cursor}

/-- `d` is the place behind `u`, which stands behind `c`. -/
structure Past (u : List Char) (c d : Cursor) : Prop where
  rest : c.rest = u ++ d.rest
  index : d.index = c.index + u.length
  before : d.before = u.getLast?.or c.before

theorem Past.refl (c : Cursor) : Past [] c c := ⟨rfl, rfl, rfl⟩

theorem Past.trans (h : Past u c d) (h' : Past v d e) : Past (u ++ v) c e := by
  refine ⟨?_, ?_, ?_⟩
  · rw [h.rest, h'.rest, List.append_assoc]
  · rw [h'.index, h.index, List.length_append, Nat.add_assoc]
  · rw [h'.before, h.before, List.getLast?_append, Option.or_assoc]

theorem eq_of_past_nil (h : Past [] c d) : c = d := by
  obtain ⟨hrest, hindex, hbefore⟩ := h
  cases c
  cases d
  simp_all

/-- The texts to two places behind `c` tell the places apart. -/
theorem past_unique (h : Past u c d) (h' : Past v c e) (hlength : u.length = v.length) : d = e := by
  obtain ⟨hrest, hindex, hbefore⟩ := h
  obtain ⟨hrest', hindex', hbefore'⟩ := h'
  obtain ⟨huv, hde⟩ := List.append_inj (hrest.symm.trans hrest') hlength
  cases d
  cases e
  simp_all

theorem past_step? {s : CharSet} :
    c.step? s = some d ↔ ∃ x, s.contains x = true ∧ Past [x] c d := by
  obtain ⟨index, before, rest⟩ := c
  constructor
  · intro h
    cases rest with
    | nil => cases h
    | cons x xs =>
      simp only [step?, Option.ite_none_right_eq_some, Option.some.injEq] at h
      obtain ⟨hx, rfl⟩ := h
      exact ⟨x, hx, rfl, rfl, rfl⟩
  · rintro ⟨x, hx, hrest, hindex, hbefore⟩
    obtain ⟨index', before', rest'⟩ := d
    simp only at hrest hindex hbefore
    subst hrest hindex hbefore
    simp [step?, hx]

/-- A place of the text. -/
def In (text : List Char) (c : Cursor) : Prop := ∃ u, Past u (start text) c

theorem In.past (h : c.In text) (hd : Past u c d) : d.In text := by
  obtain ⟨v, hv⟩ := h
  exact ⟨v ++ u, hv.trans hd⟩

/-- A place of a text is known by how many characters stand before it. -/
theorem In.eq_of_index (h : c.In text) (h' : d.In text) (hindex : c.index = d.index) : c = d := by
  obtain ⟨u, hu⟩ := h
  obtain ⟨v, hv⟩ := h'
  refine past_unique hu hv ?_
  rw [hu.index, hv.index] at hindex
  exact Nat.add_left_cancel hindex

end Cursor

/-! ## Steps of a relation -/

/-- `d` comes `k` steps after `c`. -/
def Steps (R : Cursor → Cursor → Prop) : Nat → Cursor → Cursor → Prop
  | 0, c, d => c = d
  | k + 1, c, d => ∃ m, R c m ∧ Steps R k m d

section Steps

variable {R : Cursor → Cursor → Prop} {j k : Nat} {c d m : Cursor}

theorem Steps.trans (h : Steps R j c m) (h' : Steps R k m d) : Steps R (j + k) c d := by
  induction j generalizing c with
  | zero =>
    obtain rfl : c = m := h
    rwa [Nat.zero_add]
  | succ j ih =>
    obtain ⟨n, hn, h⟩ := h
    rw [Nat.succ_add]
    exact ⟨n, hn, ih h⟩

theorem Steps.split (h : Steps R (j + k) c d) : ∃ m, Steps R j c m ∧ Steps R k m d := by
  induction j generalizing c with
  | zero =>
    rw [Nat.zero_add] at h
    exact ⟨c, rfl, h⟩
  | succ j ih =>
    rw [Nat.succ_add] at h
    obtain ⟨n, hn, h⟩ := h
    obtain ⟨m, hm, h⟩ := ih h
    exact ⟨m, ⟨n, hn, hm⟩, h⟩

/-- The relation goes on in the text. -/
def Onward (R : Cursor → Cursor → Prop) : Prop := ∀ c d, R c d → ∃ u, Cursor.Past u c d

theorem Onward.steps (hR : Onward R) (h : Steps R k c d) : ∃ u, Cursor.Past u c d := by
  induction k generalizing c with
  | zero =>
    obtain rfl : c = d := h
    exact ⟨[], .refl c⟩
  | succ k ih =>
    obtain ⟨m, hm, h⟩ := h
    obtain ⟨u, hu⟩ := hR c m hm
    obtain ⟨v, hv⟩ := ih h
    exact ⟨u ++ v, hu.trans hv⟩

/-- Steps that take no character can be left out. -/
theorem Steps.shorten (hR : Onward R) (h : Steps R k c d) :
    ∃ j, j ≤ k ∧ j ≤ c.rest.length ∧ Steps R j c d := by
  induction k generalizing c with
  | zero => exact ⟨0, Nat.le_refl 0, Nat.zero_le _, h⟩
  | succ k ih =>
    obtain ⟨m, hm, h⟩ := h
    obtain ⟨j, hjk, hjm, hj⟩ := ih h
    obtain ⟨u, hu⟩ := hR c m hm
    have hlength := congrArg List.length hu.rest
    rw [List.length_append] at hlength
    by_cases hnil : u = []
    · obtain rfl : c = m := Cursor.eq_of_past_nil (hnil ▸ hu)
      exact ⟨j, by omega, hjm, hj⟩
    · have hpos := List.length_pos_iff.mpr hnil
      exact ⟨j + 1, by omega, by omega, m, hm, hj⟩

end Steps

/-! ## Sets of places -/

section Places

variable {text : List Char} {xs ys seen frontier : List Cursor} {c d : Cursor}

theorem mem_merge (hx : ∀ c ∈ xs, c.In text) (hy : ∀ c ∈ ys, c.In text) :
    d ∈ merge xs ys ↔ d ∈ xs ∨ d ∈ ys := by
  fun_induction merge xs ys with
  | case1 ys => simp
  | case2 xs _ => simp
  | case3 x xs y ys _ ih =>
    rw [List.mem_cons, ih (fun c hc => hx c (List.mem_cons_of_mem x hc)) hy]
    grind
  | case4 x xs y ys _ _ ih =>
    rw [List.mem_cons, ih hx fun c hc => hy c (List.mem_cons_of_mem y hc)]
    grind
  | case5 x xs y ys hxy hyx ih =>
    have hsame : x = y := Cursor.In.eq_of_index (hx x List.mem_cons_self) (hy y List.mem_cons_self)
      (by omega)
    rw [List.mem_cons, ih (fun c hc => hx c (List.mem_cons_of_mem x hc)) fun c hc =>
      hy c (List.mem_cons_of_mem y hc)]
    grind

theorem mem_unseen (hseen : ∀ c ∈ seen, c.In text) (hx : ∀ c ∈ xs, c.In text) :
    d ∈ unseen seen xs ↔ d ∈ xs ∧ d ∉ seen := by
  rw [unseen, List.mem_filter]
  refine and_congr_right fun hd => ?_
  have hany : (seen.any fun y => y.index == d.index) = true ↔ d ∈ seen := by
    rw [List.any_eq_true]
    constructor
    · rintro ⟨y, hy, hindex⟩
      rwa [← Cursor.In.eq_of_index (hseen y hy) (hx d hd) (beq_iff_eq.mp hindex)]
    · intro hmem
      exact ⟨d, hmem, beq_self_eq_true _⟩
  rw [Bool.not_eq_true', ← Bool.not_eq_true, hany]

/-- The function gives the places that the relation leads to. -/
def Follows (text : List Char) (f : List Cursor → List Cursor) (R : Cursor → Cursor → Prop) : Prop :=
  ∀ xs, (∀ c ∈ xs, c.In text) → ∀ d, d ∈ f xs ↔ ∃ c ∈ xs, R c d

variable {f : List Cursor → List Cursor} {R : Cursor → Cursor → Prop} {n k fuel : Nat}

theorem Follows.places (hf : Follows text f R) (hR : Onward R) (hx : ∀ c ∈ xs, c.In text) :
    ∀ d ∈ f xs, d.In text := by
  intro d hd
  obtain ⟨c, hc, hcd⟩ := (hf xs hx d).mp hd
  obtain ⟨u, hu⟩ := hR c d hcd
  exact (hx c hc).past hu

theorem mem_exactly (hf : Follows text f R) (hR : Onward R) (hx : ∀ c ∈ xs, c.In text) :
    d ∈ exactly f n xs ↔ ∃ c ∈ xs, Steps R n c d := by
  induction n generalizing xs with
  | zero => simp [exactly, Steps]
  | succ n ih =>
    cases xs with
    | nil => simp [exactly]
    | cons x xs =>
      rw [exactly, ih (hf.places hR hx)]
      · simp only [hf _ hx, Steps]
        grind
      · simp

theorem mem_atMost (hf : Follows text f R) (hR : Onward R) (hx : ∀ c ∈ xs, c.In text) :
    d ∈ atMost f n xs ↔ ∃ c ∈ xs, ∃ k ≤ n, Steps R k c d := by
  induction n generalizing xs d with
  | zero => simp [atMost, Steps]
  | succ n ih =>
    cases xs with
    | nil => simp [atMost]
    | cons x xs =>
      have hlater := hf.places hR hx
      have hrest : ∀ c ∈ atMost f n (f (x :: xs)), c.In text := by
        intro c hc
        obtain ⟨m, hm, k, -, hk⟩ := (ih hlater).mp hc
        obtain ⟨u, hu⟩ := hR.steps hk
        exact (hlater m hm).past hu
      rw [atMost, mem_merge hx hrest, ih hlater]
      · constructor
        · rintro (hd | ⟨m, hm, k, hk, hsteps⟩)
          · exact ⟨d, hd, 0, Nat.zero_le _, rfl⟩
          · obtain ⟨c, hc, hcm⟩ := (hf _ hx m).mp hm
            exact ⟨c, hc, k + 1, Nat.succ_le_succ hk, m, hcm, hsteps⟩
        · rintro ⟨c, hc, k, hk, hsteps⟩
          cases k with
          | zero =>
            obtain rfl : c = d := hsteps
            exact .inl hc
          | succ k =>
            obtain ⟨m, hcm, hsteps⟩ := hsteps
            exact .inr ⟨m, (hf _ hx m).mpr ⟨c, hc, hcm⟩, k, Nat.le_of_succ_le_succ hk, hsteps⟩
      · simp

/-- What a round of the closure finds is in the text, and all that it adds is one step behind the
frontier. -/
theorem mem_round (hf : Follows text f R) (hR : Onward R) (hseen : ∀ c ∈ seen, c.In text)
    (hfrontier : ∀ c ∈ frontier, c ∈ seen) :
    (∀ c ∈ unseen seen (f frontier), c.In text) ∧
      ∀ d, d ∈ merge seen (unseen seen (f frontier)) ↔ d ∈ seen ∨ ∃ c ∈ frontier, R c d := by
  have hplaces : ∀ c ∈ frontier, c.In text := fun c hc => hseen c (hfrontier c hc)
  have hlater := hf.places hR hplaces
  have hunseen (m) : m ∈ unseen seen (f frontier) ↔ m ∈ f frontier ∧ m ∉ seen :=
    mem_unseen hseen hlater
  have hnew : ∀ m ∈ unseen seen (f frontier), m.In text := fun m hm =>
    hlater m ((hunseen m).mp hm).1
  refine ⟨hnew, fun d => ?_⟩
  rw [mem_merge hseen hnew, hunseen, hf _ hplaces]
  by_cases hd : d ∈ seen <;> simp [hd]

/-- Every place that the closure adds is reached in some steps. -/
theorem steps_of_mem_closure (hf : Follows text f R) (hR : Onward R)
    (hseen : ∀ c ∈ seen, c.In text) (hfrontier : ∀ c ∈ frontier, c ∈ seen)
    (h : d ∈ closure f fuel seen frontier) : ∃ c ∈ seen, ∃ k, Steps R k c d := by
  induction fuel generalizing seen frontier with
  | zero => exact ⟨d, h, 0, rfl⟩
  | succ fuel ih =>
    rw [closure] at h
    split at h
    · exact ⟨d, h, 0, rfl⟩
    · obtain ⟨hnew, hround⟩ := mem_round hf hR hseen hfrontier
      have hmerge (m) : m ∈ merge seen (unseen seen (f frontier)) ↔
          m ∈ seen ∨ m ∈ unseen seen (f frontier) := mem_merge hseen hnew
      obtain ⟨c, hc, k, hk⟩ := ih (fun m hm => ((hmerge m).mp hm).elim (hseen m) (hnew m))
        (fun m hm => (hmerge m).mpr (.inr hm)) h
      rcases (hround c).mp hc with hc | ⟨b, hb, hbc⟩
      · exact ⟨c, hc, k, hk⟩
      · exact ⟨b, hfrontier b hb, k + 1, c, hbc, hk⟩

/-- Steps do not leave what is closed under them. -/
theorem mem_of_steps (hclosed : ∀ c ∈ seen, ∀ m, R c m → m ∈ seen) (hc : c ∈ seen)
    (h : Steps R k c d) : d ∈ seen := by
  induction k generalizing c with
  | zero =>
    obtain rfl : c = d := h
    exact hc
  | succ k ih =>
    obtain ⟨m, hcm, h⟩ := h
    exact ih (hclosed c hc m hcm) h

/-- The closure has every place that is reached in as many steps as there are rounds, if all that
is one step behind `seen` is in it, apart from what is one step behind `frontier`. -/
theorem mem_closure_of_steps (hf : Follows text f R) (hR : Onward R)
    (hseen : ∀ c ∈ seen, c.In text) (hfrontier : ∀ c ∈ frontier, c ∈ seen)
    (hclosed : ∀ c ∈ seen, c ∉ frontier → ∀ m, R c m → m ∈ seen) (hc : c ∈ seen) (hk : k ≤ fuel)
    (h : Steps R k c d) : d ∈ closure f fuel seen frontier := by
  induction fuel generalizing seen frontier c k with
  | zero =>
    obtain rfl := Nat.le_zero.mp hk
    obtain rfl : c = d := h
    exact hc
  | succ fuel ih =>
    obtain ⟨hnew, hround⟩ := mem_round hf hR hseen hfrontier
    have hmerge (m) : m ∈ merge seen (unseen seen (f frontier)) ↔
        m ∈ seen ∨ m ∈ unseen seen (f frontier) := mem_merge hseen hnew
    -- What is one step behind `seen` is in `seen` after this round.
    have hstep : ∀ b ∈ seen, ∀ m, R b m → m ∈ merge seen (unseen seen (f frontier)) := by
      intro b hb m hbm
      by_cases hfront : b ∈ frontier
      · exact (hround m).mpr (.inr ⟨b, hfront, hbm⟩)
      · exact (hround m).mpr (.inl (hclosed b hb hfront m hbm))
    rw [closure]
    split
    case h_1 hnone =>
      rw [hnone] at hstep hmerge
      have hsame (m) : m ∈ merge seen [] → m ∈ seen := fun hm =>
        ((hmerge m).mp hm).resolve_right (by simp)
      exact mem_of_steps (fun b hb m hbm => hsame m (hstep b hb m hbm)) hc h
    case h_2 =>
      have hplaces : ∀ m ∈ merge seen (unseen seen (f frontier)), m.In text := fun m hm =>
        ((hmerge m).mp hm).elim (hseen m) (hnew m)
      have hfront : ∀ m ∈ unseen seen (f frontier), m ∈ merge seen (unseen seen (f frontier)) :=
        fun m hm => (hmerge m).mpr (.inr hm)
      have hnext : ∀ b ∈ merge seen (unseen seen (f frontier)), b ∉ unseen seen (f frontier) →
          ∀ m, R b m → m ∈ merge seen (unseen seen (f frontier)) := fun b hb hnot =>
        hstep b (((hmerge b).mp hb).resolve_right hnot)
      cases k with
      | zero => exact ih hplaces hfront hnext ((hmerge c).mpr (.inl hc)) (Nat.zero_le _) h
      | succ k =>
        obtain ⟨m, hcm, h⟩ := h
        exact ih hplaces hfront hnext (hstep c hc m hcm) (Nat.le_of_succ_le_succ hk) h

theorem length_lt_room (hc : c ∈ xs) : c.rest.length < room xs := by
  have hfold (ys : List Cursor) (n : Nat) :
      n ≤ ys.foldl (fun n c => max n (c.rest.length + 1)) n ∧
        ∀ c ∈ ys, c.rest.length < ys.foldl (fun n c => max n (c.rest.length + 1)) n := by
    induction ys generalizing n with
    | nil => simp
    | cons y ys ih =>
      have hy := ih (max n (y.rest.length + 1))
      refine ⟨by simp only [List.foldl_cons]; omega, fun c hc => ?_⟩
      rcases List.mem_cons.mp hc with rfl | hc
      · have := hy.1
        simp only [List.foldl_cons]
        omega
      · exact hy.2 c hc
  exact (hfold xs 0).2 c hc

theorem mem_closure (hf : Follows text f R) (hR : Onward R) (hx : ∀ c ∈ xs, c.In text) :
    d ∈ closure f (room xs) xs xs ↔ ∃ c ∈ xs, ∃ k, Steps R k c d := by
  constructor
  · exact steps_of_mem_closure hf hR hx fun c hc => hc
  · rintro ⟨c, hc, k, hk⟩
    obtain ⟨j, -, hj, hsteps⟩ := hk.shorten hR
    exact mem_closure_of_steps hf hR hx (fun c hc => hc) (fun c hc hnot => absurd hc hnot) hc
      (Nat.le_of_lt (Nat.lt_of_le_of_lt hj (length_lt_room hc))) hsteps

end Places

/-! ## Patterns -/

namespace Node

/-- The pattern matches from `c` to `d`. -/
def Leads : Node → Cursor → Cursor → Prop
  | empty, c, d => c = d
  | chars s, c, d => c.step? s = some d
  | look l, c, d => l.holds c.before c.rest.head? = true ∧ c = d
  | seq a b, c, d => ∃ m, a.Leads c m ∧ b.Leads m d
  | alt a b, c, d => a.Leads c d ∨ b.Leads c d
  | times a lo hi, c, d => ∃ k, lo ≤ k ∧ (∀ n ∈ hi, k ≤ max lo n) ∧ Steps a.Leads k c d
  | group a, c, d => a.Leads c d

theorem onward_leads (n : Node) : Onward n.Leads := by
  induction n with
  | empty =>
    rintro c d rfl
    exact ⟨[], .refl c⟩
  | chars s =>
    intro c d h
    obtain ⟨x, -, hx⟩ := Cursor.past_step?.mp h
    exact ⟨[x], hx⟩
  | look l =>
    rintro c d ⟨-, rfl⟩
    exact ⟨[], .refl c⟩
  | seq a b iha ihb =>
    rintro c d ⟨m, hm, hd⟩
    obtain ⟨u, hu⟩ := iha c m hm
    obtain ⟨v, hv⟩ := ihb m d hd
    exact ⟨u ++ v, hu.trans hv⟩
  | alt a b iha ihb => exact fun c d h => h.elim (iha c d) (ihb c d)
  | times a lo hi iha =>
    rintro c d ⟨k, -, -, hk⟩
    exact iha.steps hk
  | group a iha => exact iha

/-- Matching finds the places that the pattern leads to. -/
theorem mem_ends (n : Node) (text : List Char) : Follows text n.ends n.Leads := by
  induction n with
  | empty =>
    intro xs _ d
    simp [ends, Leads]
  | chars s =>
    intro xs _ d
    simp [ends, Leads]
  | look l =>
    intro xs _ d
    simp [ends, Leads]
  | seq a b iha ihb =>
    intro xs hx d
    rw [ends, ihb _ (iha.places a.onward_leads hx)]
    simp only [iha xs hx, Leads]
    grind
  | alt a b iha ihb =>
    intro xs hx d
    rw [ends, mem_merge (iha.places a.onward_leads hx) (ihb.places b.onward_leads hx), iha xs hx,
      ihb xs hx]
    simp only [Leads]
    grind
  | times a lo hi iha =>
    intro xs hx d
    have honward := a.onward_leads
    have hlow (m) : m ∈ exactly a.ends lo xs ↔ ∃ c ∈ xs, Steps a.Leads lo c m :=
      mem_exactly iha honward hx
    have hplaces : ∀ m ∈ exactly a.ends lo xs, m.In text := by
      intro m hm
      obtain ⟨c, hc, hsteps⟩ := (hlow m).mp hm
      obtain ⟨u, hu⟩ := honward.steps hsteps
      exact (hx c hc).past hu
    cases hi with
    | none =>
      rw [ends, mem_closure iha honward hplaces]
      constructor
      · rintro ⟨m, hm, k, hk⟩
        obtain ⟨c, hc, hsteps⟩ := (hlow m).mp hm
        exact ⟨c, hc, lo + k, Nat.le_add_right lo k, by simp, hsteps.trans hk⟩
      · rintro ⟨c, hc, k, hk, -, hsteps⟩
        obtain ⟨j, rfl⟩ := Nat.exists_eq_add_of_le hk
        obtain ⟨m, hm, hd⟩ := hsteps.split
        exact ⟨m, (hlow m).mpr ⟨c, hc, hm⟩, j, hd⟩
    | some n =>
      rw [ends, mem_atMost iha honward hplaces]
      constructor
      · rintro ⟨m, hm, k, hk, hd⟩
        obtain ⟨c, hc, hsteps⟩ := (hlow m).mp hm
        refine ⟨c, hc, lo + k, Nat.le_add_right lo k, fun n' hn => ?_, hsteps.trans hd⟩
        obtain rfl := Option.some.inj hn
        omega
      · rintro ⟨c, hc, k, hk, hmax, hsteps⟩
        have hle := hmax n rfl
        obtain ⟨j, rfl⟩ := Nat.exists_eq_add_of_le hk
        obtain ⟨m, hm, hd⟩ := hsteps.split
        obtain ⟨i, hij, hroom, hd⟩ := hd.shorten honward
        have hmem := (hlow m).mpr ⟨c, hc, hm⟩
        have := length_lt_room hmem
        exact ⟨m, hmem, i, by omega, hd⟩
  | group a iha => exact iha

end Node

end Eir.Pattern
