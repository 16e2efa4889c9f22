import Mathlib.Data.List.Forall2
import Mathlib.Data.List.Induction
import Mathlib.Data.List.Perm.Subperm

/-!
# Lists, and steps that can fail

When a step succeeds that goes on with the result of another, both succeed
(`exists_of_bind_ok`). When a step succeeds for each item of a list, the results
are in step with the items (`forall₂_of_mapM_ok`), so that each of them has its
item, and each item its result (`exists_of_mem_left`, `exists_of_mem_right`).
What is made from different things can be told apart (`pairwise_of_forall₂`).

Lists that are sorted by a text are in its order (`pairwise_sortedBy`), strictly so
if the texts differ. Without repetitions, items are in the order in which they first
stand (`pairwise_eraseDups`). Rows with different keys give the same in any order
(`lookup_of_perm`).
-/

namespace Eir

variable {ε α β γ : Type}

/-! ## Steps that can fail -/

/-- Two steps that succeed one after the other each succeed. -/
theorem exists_of_bind_ok {x : Except ε α} {f : α → Except ε β} {b : β}
    (h : x >>= f = .ok b) : ∃ a, x = .ok a ∧ f a = .ok b := by
  cases x with
  | error e => cases h
  | ok a => exact ⟨a, rfl, h⟩

theorem ok_bind (a : α) (f : α → Except ε β) : (Except.ok a : Except ε α) >>= f = f a := rfl

theorem exists_ok_of_any {x : Except ε α} {p : α → Bool} (h : x.toOption.any p = true) :
    ∃ a, x = .ok a ∧ p a = true := by
  cases x with
  | error e => cases h
  | ok a => exact ⟨a, rfl, h⟩

/-! ## Lists in step -/

section InStep

variable {R : α → β → Prop} {as : List α} {bs : List β}

theorem exists_of_mem_left (h : List.Forall₂ R as bs) {a : α} (ha : a ∈ as) : ∃ b ∈ bs, R a b := by
  obtain ⟨i, hi, rfl⟩ := List.getElem_of_mem ha
  exact ⟨_, List.getElem_mem (h.length_eq ▸ hi), h.get (by exact hi) (by exact h.length_eq ▸ hi)⟩

theorem exists_of_mem_right (h : List.Forall₂ R as bs) {b : β} (hb : b ∈ bs) : ∃ a ∈ as, R a b :=
  exists_of_mem_left h.flip hb

theorem forall₂_and {S : α → β → Prop} (h : List.Forall₂ R as bs) (h' : List.Forall₂ S as bs) :
    List.Forall₂ (fun a b => R a b ∧ S a b) as bs :=
  List.forall₂_iff_zip.mpr
    ⟨h.length_eq, fun hab => ⟨List.forall₂_zip h hab, List.forall₂_zip h' hab⟩⟩

/-- Tests that agree on the items of both leave items in step. -/
theorem forall₂_filter {p : α → Bool} {q : β → Bool} (h : List.Forall₂ R as bs)
    (hpq : ∀ a b, R a b → p a = q b) : List.Forall₂ R (as.filter p) (bs.filter q) :=
  List.rel_filter (fun a b hab => Bool.eq_iff_iff.mp (hpq a b hab)) h

/-- What is in step with items that are in step with others is in step with those. -/
theorem forall₂_trans {S : β → γ → Prop} {T : α → γ → Prop} {cs : List γ} (h : List.Forall₂ R as bs)
    (h' : List.Forall₂ S bs cs) (hT : ∀ a b c, R a b → S b c → T a c) : List.Forall₂ T as cs := by
  induction h generalizing cs with
  | nil =>
    cases h'
    exact .nil
  | cons hab _ ih =>
    cases h' with
    | cons hbc hrest => exact .cons (hT _ _ _ hab hbc) (ih hrest)

/-- Items that are each made from one of some different things are in the relation that two of
these put their items in. -/
theorem pairwise_of_forall₂ {S : β → β → Prop} (h : List.Forall₂ R as bs) (hnodup : as.Nodup)
    (hS : ∀ a ∈ as, ∀ a' ∈ as, ∀ b b', a ≠ a' → R a b → R a' b' → S b b') : bs.Pairwise S := by
  induction h with
  | nil => exact .nil
  | @cons a b as bs hab hrest ih =>
    obtain ⟨hnot, hnodup⟩ := List.nodup_cons.mp hnodup
    refine .cons (fun b' hb' => ?_) (ih hnodup fun x hx y hy =>
      hS x (List.mem_cons_of_mem a hx) y (List.mem_cons_of_mem a hy))
    obtain ⟨a', ha', hr⟩ := exists_of_mem_right hrest hb'
    exact hS a List.mem_cons_self a' (List.mem_cons_of_mem a ha') b b'
      (fun hsame => hnot (hsame ▸ ha')) hab hr

/-- Items that are each made from one of some different things are different, if they tell from
which. -/
theorem nodup_map_of_forall₂ {f : β → γ} (h : List.Forall₂ R as bs) (hnodup : as.Nodup)
    (hinj : ∀ a ∈ as, ∀ a' ∈ as, ∀ b b', R a b → R a' b' → f b = f b' → a = a') :
    (bs.map f).Nodup :=
  List.pairwise_map.mpr <| pairwise_of_forall₂ h hnodup fun a ha a' ha' b b' hne hab hab' hsame =>
    hne (hinj a ha a' ha' b b' hab hab' hsame)

end InStep

theorem nodup_of_subperm {xs ys : List α} (h : xs.Subperm ys) (hnodup : ys.Nodup) : xs.Nodup := by
  obtain ⟨zs, hperm, hsub⟩ := h
  exact hperm.nodup_iff.mp (hnodup.sublist hsub)

/-! ## Steps for the items of a list -/

variable {f : α → Except ε β} {as : List α} {bs : List β}

theorem exists_mapM_ok (h : ∀ a ∈ as, ∃ b, f a = .ok b) : ∃ bs, as.mapM f = .ok bs := by
  induction as with
  | nil => exact ⟨[], rfl⟩
  | cons a as ih =>
    obtain ⟨⟨b, hb⟩, hrest⟩ := List.forall_mem_cons.mp h
    obtain ⟨bs, hbs⟩ := ih hrest
    exact ⟨b :: bs, by rw [List.mapM_cons, hb, hbs]; rfl⟩

/-- What is made of several items is in step with them. -/
theorem forall₂_of_mapM_ok {R : β → α → Prop} (h : as.mapM f = .ok bs)
    (hf : ∀ a b, f a = .ok b → R b a) : List.Forall₂ R bs as := by
  induction as generalizing bs with
  | nil =>
    cases h
    exact .nil
  | cons a as ih =>
    rw [List.mapM_cons] at h
    obtain ⟨b, hb, h⟩ := exists_of_bind_ok h
    obtain ⟨rest, hrest, h⟩ := exists_of_bind_ok h
    cases h
    exact .cons (hf a b hb) (ih hrest)

/-- What is made of several items has what each of them is made into. -/
theorem forall_of_mapM_ok {Q : β → Prop} (h : as.mapM f = .ok bs) (hf : ∀ a b, f a = .ok b → Q b) :
    ∀ b ∈ bs, Q b := by
  intro b hb
  obtain ⟨a, -, hmade⟩ := exists_of_mem_left (forall₂_of_mapM_ok h fun _ _ => id) hb
  exact hf a b hmade

/-! ## Lists sorted by a text -/

section Sorted

variable {key : α → String}

theorem pairwise_sortedBy (key : α → String) (as : List α) :
    (as.mergeSort fun a b => decide (key a ≤ key b)).Pairwise fun a b => key a ≤ key b := by
  refine (List.pairwise_mergeSort ?_ ?_ as).imp of_decide_eq_true
  · intro a b c hab hbc
    exact decide_eq_true (String.le_trans (of_decide_eq_true hab) (of_decide_eq_true hbc))
  · intro a b
    rcases String.le_total (key a) (key b) with h | h
    · simp [h]
    · simp [h]

theorem pairwise_lt_of_le (h : as.Pairwise fun a b => key a ≤ key b)
    (hne : as.Pairwise fun a b => key a ≠ key b) : as.Pairwise fun a b => key a < key b :=
  (List.pairwise_and_iff.mpr ⟨h, hne⟩).imp fun hab =>
    String.not_le.mp fun hle => hab.2 (String.le_antisymm hab.1 hle)

end Sorted

/-! ## Lists without repetitions -/

/-- Without repetitions, items are in the order in which they first stand. -/
theorem pairwise_eraseDups [BEq α] [LawfulBEq α] (as : List α) :
    as.eraseDups.Pairwise fun a b => as.idxOf a < as.idxOf b := by
  induction as using List.reverseRecOn with
  | nil => exact .nil
  | append_singleton as a ih =>
    have hearlier : as.eraseDups.Pairwise fun b c => (as ++ [a]).idxOf b < (as ++ [a]).idxOf c := by
      refine ih.imp_of_mem fun hb hc hlt => ?_
      rwa [List.idxOf_append_of_mem (List.mem_eraseDups.mp hb),
        List.idxOf_append_of_mem (List.mem_eraseDups.mp hc)]
    rw [List.eraseDups_append]
    by_cases ha : a ∈ as
    · simpa [List.removeAll, ha] using hearlier
    · have hlast : ([a].removeAll as).eraseDups = [a] := by
        simp [List.removeAll, ha, List.eraseDups_cons]
      rw [hlast]
      refine List.pairwise_append.mpr ⟨hearlier, List.pairwise_singleton _ _, fun b hb c hc => ?_⟩
      obtain rfl := List.mem_singleton.mp hc
      have hb := List.mem_eraseDups.mp hb
      rw [List.idxOf_append_of_mem hb, List.idxOf_append_of_notMem ha]
      exact Nat.lt_of_lt_of_le (List.idxOf_lt_length_iff.mpr hb) (Nat.le_add_right _ _)

theorem nodup_eraseDups [BEq α] [LawfulBEq α] (as : List α) : as.eraseDups.Nodup :=
  (pairwise_eraseDups as).imp fun hlt => ne_of_apply_ne as.idxOf (Nat.ne_of_lt hlt)

/-! ## Rows with keys -/

section Rows

variable {ι : Type} [BEq ι] [LawfulBEq ι] {rows rows' : List (ι × α)} {key : ι} {x : α}

theorem lookup_of_mem (hnodup : (rows.map Prod.fst).Nodup) (h : (key, x) ∈ rows) :
    rows.lookup key = some x := by
  obtain ⟨before, after, rfl⟩ := List.append_of_mem h
  rw [List.map_append] at hnodup
  refine List.lookup_eq_some_iff.mpr ⟨before, after, rfl, fun p hp => bne_iff_ne.mpr ?_⟩
  have hmem : p.1 ∈ before.map Prod.fst := List.mem_map_of_mem hp
  rintro rfl
  exact (List.nodup_append.mp hnodup).2.2 p.1 hmem p.1 List.mem_cons_self rfl

theorem mem_of_lookup (h : rows.lookup key = some x) : (key, x) ∈ rows := by
  obtain ⟨before, after, rfl, -⟩ := List.lookup_eq_some_iff.mp h
  exact List.mem_append_right _ List.mem_cons_self

/-- Rows with different keys give the same in any order. -/
theorem lookup_of_perm (h : rows.Perm rows') (hnodup : (rows.map Prod.fst).Nodup) (key : ι) :
    rows.lookup key = rows'.lookup key := by
  have hnodup' : (rows'.map Prod.fst).Nodup := (h.map Prod.fst).nodup_iff.mp hnodup
  refine Option.ext fun x => ⟨fun hx => ?_, fun hx => ?_⟩
  · exact lookup_of_mem hnodup' (h.mem_iff.mp (mem_of_lookup hx))
  · exact lookup_of_mem hnodup (h.mem_iff.mpr (mem_of_lookup hx))

end Rows

end Eir
