import Eir.Proofs.Consolidation.Merge
import Mathlib.Data.List.Sigma
import Mathlib.Data.Finset.Card

/-!
# Pieces of a consolidated list

Each specification of a consolidated list is made of one original that was kept
or of the members of a class. `pieceAt specs p` says which piece begins with the
original `p`: an original stands for itself unless its class is replaced, and a
class begins with its first member. `walk_eq` ties the walk to these pieces: one
step of it gives the piece that begins there, if any. So a consolidated list is
what its pieces come to (`filterMap_pieces`).

Originals are taken with their places, so that equal ones count separately.
-/

namespace Eir.Consolidation

/-- What alike specifications have in common. -/
abbrev Class := String × ApplicabilityCardinality

/-- A specification with its place in a list. -/
abbrev Placed := Specification × Nat

/-- The specifications of a class that demand something, in order. -/
def members (specs : List Specification) (key : Class) : List Placed :=
  specs.zipIdx.filter fun p => p.1.isMergeable && p.1.selection == key

/-- The specifications of a class that demand something, without their places. -/
def alike (specs : List Specification) (key : Class) : List Specification :=
  specs.filter fun s => s.isMergeable && s.selection == key

/-- The classes with at least two members that demand something. -/
def classes (specs : List Specification) : Finset Class :=
  (specs.map (·.selection)).toFinset.filter fun key => 2 ≤ (members specs key).length

/-- What a specification of a consolidated list is made of. -/
inductive Piece where
  | kept (original : Placed)
  | merged (constituents : List Placed)
  deriving DecidableEq

namespace Piece

def originals : Piece → List Placed
  | kept p => [p]
  | merged cs => cs

def isMerged : Piece → Bool
  | kept _ => false
  | merged _ => true

/-- The specification that comes of a piece. -/
def Gives : Piece → Specification → Prop
  | kept p, s => s = p.1
  | merged cs, s => Specification.mergeAll (cs.map Prod.fst) = some s

/-- The specification that a piece comes to, if any. -/
def result? : Piece → Option Specification
  | kept p => some p.1
  | merged cs => Specification.mergeAll (cs.map Prod.fst)

theorem gives_iff {a : Piece} {s : Specification} : a.Gives s ↔ a.result? = some s := by
  cases a with
  | kept p => exact ⟨fun h => congrArg some h.symm, fun h => (Option.some.inj h).symm⟩
  | merged cs => exact Iff.rfl

end Piece

variable {specs : List Specification} {p q r : Placed} {key : Class} {a b : Piece}

theorem mem_members : p ∈ members specs key ↔
    p ∈ specs.zipIdx ∧ p.1.isMergeable = true ∧ p.1.selection = key := by
  simp [members]

theorem map_fst_members (specs : List Specification) (key : Class) :
    (members specs key).map Prod.fst = alike specs key := by
  conv_rhs => rw [alike, ← List.zipIdx_map_fst 0 specs, List.filter_map]
  rfl

theorem nodup_zipIdx (specs : List Specification) : specs.zipIdx.Nodup :=
  (List.nodup_zipIdx_map_snd specs).of_map

theorem mem_classes : key ∈ classes specs ↔ 2 ≤ (members specs key).length := by
  simp only [classes, Finset.mem_filter, List.mem_toFinset, List.mem_map, and_iff_right_iff_imp]
  intro h
  obtain ⟨p, hp⟩ := List.exists_mem_of_length_pos (show 0 < (members specs key).length by omega)
  obtain ⟨hp, -, hk⟩ := mem_members.mp hp
  exact ⟨p.1, List.fst_mem_of_mem_zipIdx hp, hk⟩

theorem mem_classes_iff : key ∈ classes specs ↔ 2 ≤ (alike specs key).length := by
  rw [mem_classes, ← map_fst_members, List.length_map]

/-- A class with two members that demand something is replaced. -/
theorem mem_classes_of_ne (hp : p ∈ members specs key) (hq : q ∈ members specs key)
    (hne : p ≠ q) : key ∈ classes specs := by
  refine mem_classes.mpr (Nat.lt_of_not_le fun hle => ?_)
  obtain ⟨r, hr⟩ := List.length_eq_one_iff.mp
    (Nat.le_antisymm hle (List.length_pos_of_mem hp))
  rw [hr, List.mem_singleton] at hp hq
  exact hne (hp.trans hq.symm)

/-- A class that is replaced is known by its members. -/
theorem injOn_members (specs : List Specification) :
    Set.InjOn (members specs) (classes specs) := by
  intro key hk key' _ h
  obtain ⟨p, hp⟩ := List.exists_mem_of_length_pos
    (show 0 < (members specs key).length by have := mem_classes.mp hk; omega)
  exact (mem_members.mp hp).2.2.symm.trans (mem_members.mp (h ▸ hp)).2.2

/-- The original goes into a replacement. -/
def Merges (specs : List Specification) (p : Placed) : Prop :=
  p.1.isMergeable = true ∧ p.1.selection ∈ classes specs

instance (specs : List Specification) : DecidablePred (Merges specs) := fun p =>
  inferInstanceAs (Decidable (p.1.isMergeable = true ∧ p.1.selection ∈ classes specs))

/-- The piece that begins with an original. -/
def pieceAt (specs : List Specification) (p : Placed) : Option Piece :=
  if Merges specs p then
    if (members specs p.1.selection).head? = some p then
      some (.merged (members specs p.1.selection))
    else none
  else some (.kept p)

/-- The pieces of the consolidated list, in order. -/
def pieces (specs : List Specification) : List Piece := specs.zipIdx.filterMap (pieceAt specs)

/-- The two ways in which a piece begins. -/
theorem pieceAt_cases (h : pieceAt specs p = some a) :
    (¬ Merges specs p ∧ a = .kept p) ∨
      (Merges specs p ∧ a = .merged (members specs p.1.selection) ∧
        (members specs p.1.selection).head? = some p) := by
  unfold pieceAt at h
  split at h
  · rename_i hm
    split at h
    · rename_i hh
      exact .inr ⟨hm, (Option.some.inj h).symm, hh⟩
    · cases h
  · rename_i hm
    exact .inl ⟨hm, (Option.some.inj h).symm⟩

theorem pieceAt_of_not_merges (h : ¬ Merges specs p) : pieceAt specs p = some (.kept p) :=
  if_neg h

theorem head?_originals (h : pieceAt specs p = some a) : a.originals.head? = some p := by
  rcases pieceAt_cases h with ⟨-, rfl⟩ | ⟨-, rfl, hh⟩
  · rfl
  · exact hh

theorem merges_of_mem_members (hk : key ∈ classes specs) (hp : p ∈ members specs key) :
    Merges specs p := by
  obtain ⟨-, hm, rfl⟩ := mem_members.mp hp
  exact ⟨hm, hk⟩

/-- An original of two pieces is where both of them begin. -/
theorem eq_of_mem_originals (hp : pieceAt specs p = some a) (hq : pieceAt specs q = some b)
    (ha : r ∈ a.originals) (hb : r ∈ b.originals) : p = q := by
  rcases pieceAt_cases hp with ⟨hp', rfl⟩ | ⟨hp', rfl, hph⟩ <;>
    rcases pieceAt_cases hq with ⟨hq', rfl⟩ | ⟨hq', rfl, hqh⟩
  · rw [← List.mem_singleton.mp ha, ← List.mem_singleton.mp hb]
  · rw [List.mem_singleton.mp ha] at hb
    exact absurd (merges_of_mem_members hq'.2 hb) hp'
  · rw [List.mem_singleton.mp hb] at ha
    exact absurd (merges_of_mem_members hp'.2 ha) hq'
  · have hsel : p.1.selection = q.1.selection :=
      (mem_members.mp ha).2.2.symm.trans (mem_members.mp hb).2.2
    rw [hsel, hqh] at hph
    exact (Option.some.inj hph).symm

/-- A class that is replaced begins somewhere. -/
theorem exists_pieceAt_merged (hk : key ∈ classes specs) :
    ∃ p ∈ specs.zipIdx, pieceAt specs p = some (.merged (members specs key)) := by
  have hlen := mem_classes.mp hk
  cases hms : members specs key with
  | nil => simp [hms] at hlen
  | cons p ms =>
    have hp : p ∈ members specs key := hms ▸ List.mem_cons_self
    obtain ⟨hmem, hm, rfl⟩ := mem_members.mp hp
    refine ⟨p, hmem, ?_⟩
    rw [pieceAt, if_pos (show Merges specs p from ⟨hm, hk⟩), hms, List.head?_cons,
      if_pos rfl]

theorem mem_pieces : a ∈ pieces specs ↔ ∃ p ∈ specs.zipIdx, pieceAt specs p = some a :=
  List.mem_filterMap

theorem kept_mem_pieces : .kept p ∈ pieces specs ↔ p ∈ specs.zipIdx ∧ ¬ Merges specs p := by
  rw [mem_pieces]
  constructor
  · rintro ⟨q, hmem, hq⟩
    rcases pieceAt_cases hq with ⟨hm, he⟩ | ⟨-, he, -⟩
    · cases he
      exact ⟨hmem, hm⟩
    · cases he
  · exact fun h => ⟨p, h.1, pieceAt_of_not_merges h.2⟩

theorem merged_mem_pieces {cs : List Placed} :
    .merged cs ∈ pieces specs ↔ ∃ key ∈ classes specs, cs = members specs key := by
  rw [mem_pieces]
  constructor
  · rintro ⟨p, -, hp⟩
    rcases pieceAt_cases hp with ⟨-, he⟩ | ⟨hm, he, -⟩
    · cases he
    · cases he
      exact ⟨_, hm.2, rfl⟩
  · rintro ⟨key, hk, rfl⟩
    exact exists_pieceAt_merged hk

theorem nodup_pieces (specs : List Specification) : (pieces specs).Nodup := by
  refine List.Nodup.filterMap (fun p q a hp hq => ?_) (nodup_zipIdx specs)
  have := head?_originals hp
  rw [head?_originals hq] at this
  exact (Option.some.inj this).symm

/-- Every original belongs to exactly one piece. -/
theorem perm_originals (specs : List Specification) :
    ((pieces specs).flatMap Piece.originals).Perm specs.zipIdx := by
  refine (List.perm_ext_iff_of_nodup ?_ (nodup_zipIdx specs)).mpr fun p => ?_
  · rw [List.nodup_flatMap]
    refine ⟨fun a ha => ?_, ?_⟩
    · obtain ⟨p, -, hp⟩ := mem_pieces.mp ha
      rcases pieceAt_cases hp with ⟨-, rfl⟩ | ⟨-, rfl, -⟩
      · exact List.nodup_singleton _
      · exact (nodup_zipIdx specs).filter _
    · rw [pieces, List.pairwise_filterMap]
      exact (nodup_zipIdx specs).imp fun hne a ha b hb r hra hrb =>
        hne (eq_of_mem_originals ha hb hra hrb)
  · rw [List.mem_flatMap]
    constructor
    · rintro ⟨a, ha, hp⟩
      obtain ⟨q, hq, hqa⟩ := mem_pieces.mp ha
      rcases pieceAt_cases hqa with ⟨-, rfl⟩ | ⟨-, rfl, -⟩
      · rwa [List.mem_singleton.mp hp]
      · exact (mem_members.mp hp).1
    · intro hp
      by_cases hm : Merges specs p
      · exact ⟨_, merged_mem_pieces.mpr ⟨_, hm.2, rfl⟩, mem_members.mpr ⟨hp, hm.1, rfl⟩⟩
      · exact ⟨_, kept_mem_pieces.mpr ⟨hp, hm⟩, List.mem_singleton_self p⟩

/-- Pieces stand in the order of the originals that they begin with. -/
theorem heads_sublist (specs : List Specification) :
    ((pieces specs).filterMap fun a => a.originals.head?).Sublist specs.zipIdx := by
  have hguard : (fun p => (pieceAt specs p).bind fun a => a.originals.head?) =
      Option.guard fun p => (pieceAt specs p).isSome := by
    funext p
    cases h : pieceAt specs p with
    | none => simp [Option.guard, h]
    | some a => simp [Option.guard, h, head?_originals h]
  rw [pieces, List.filterMap_filterMap, hguard, List.filterMap_eq_filter]
  exact List.filter_sublist

/-- There is one replacement for each class. -/
theorem countP_isMerged (specs : List Specification) :
    (pieces specs).countP Piece.isMerged = (classes specs).card := by
  have hinj : Set.InjOn (fun key => Piece.merged (members specs key)) (classes specs) :=
    fun key hk key' hk' h => injOn_members specs hk hk' (Piece.merged.inj h)
  have himage : ((pieces specs).filter Piece.isMerged).toFinset =
      (classes specs).image fun key => Piece.merged (members specs key) := by
    ext a
    rw [List.mem_toFinset, List.mem_filter, Finset.mem_image]
    cases a with
    | kept p => simp [Piece.isMerged]
    | merged cs =>
      rw [merged_mem_pieces]
      simp only [Piece.isMerged, and_true, Piece.merged.injEq, eq_comm]
  rw [List.countP_eq_length_filter, ← Finset.card_image_of_injOn hinj, ← himage,
    List.toFinset_card_of_nodup ((nodup_pieces specs).filter _)]

/-! ## The walk -/

/-- The specifications with the classes they are in, as the walk takes them. -/
def keyed (ps : List Placed) : List Keyed := ps.map fun p => ⟨p.1, p.1.selection⟩

theorem mergeable_keyed (specs : List Specification) (key : Class) :
    mergeable (keyed specs.zipIdx) key = (members specs key).map Prod.fst := by
  simp only [mergeable, keyed, members, List.filter_map, List.map_map]
  rfl

/-- `seen` holds the classes that were replaced at one of the originals `pre`. -/
def Seen (specs : List Specification) (pre : List Placed) (seen : List Class) : Prop :=
  ∀ key, key ∈ seen ↔ ∃ p ∈ pre, Merges specs p ∧ p.1.selection = key

theorem Seen.snoc {pre : List Placed} {seen : List Class} (h : Seen specs pre seen)
    (hp : ¬ Merges specs p ∨ p.1.selection ∈ seen) : Seen specs (pre ++ [p]) seen := by
  intro key
  rw [h key]
  constructor
  · rintro ⟨q, hq, hm⟩
    exact ⟨q, List.mem_append_left _ hq, hm⟩
  · rintro ⟨q, hq, hm, hk⟩
    rcases List.mem_append.mp hq with hq | hq
    · exact ⟨q, hq, hm, hk⟩
    · rw [List.mem_singleton.mp hq] at hm hk
      rcases hp with hp | hp
      · exact absurd hm hp
      · exact (h key).mp (hk ▸ hp)

theorem Seen.snoc_cons {pre : List Placed} {seen : List Class} (h : Seen specs pre seen)
    (hp : Merges specs p) : Seen specs (pre ++ [p]) (p.1.selection :: seen) := by
  intro key
  rw [List.mem_cons, h key]
  constructor
  · rintro (rfl | ⟨q, hq, hm⟩)
    · exact ⟨p, by simp, hp, rfl⟩
    · exact ⟨q, List.mem_append_left _ hq, hm⟩
  · rintro ⟨q, hq, hm, hk⟩
    rcases List.mem_append.mp hq with hq | hq
    · exact .inr ⟨q, hq, hm, hk⟩
    · rw [List.mem_singleton.mp hq] at hk
      exact .inl hk.symm

/-- An original begins its class if no original before it is of the class. -/
theorem head?_members {pre rest : List Placed} (hs : specs.zipIdx = pre ++ p :: rest)
    (hp : Merges specs p) :
    (members specs p.1.selection).head? = some p ↔
      ¬ ∃ q ∈ pre, Merges specs q ∧ q.1.selection = p.1.selection := by
  have hsplit : members specs p.1.selection =
      (pre.filter fun q => q.1.isMergeable && q.1.selection == p.1.selection) ++
        p :: rest.filter fun q => q.1.isMergeable && q.1.selection == p.1.selection := by
    rw [members, hs, List.filter_append, List.filter_cons_of_pos (by simp [hp.1])]
  cases hpre : pre.filter fun q => q.1.isMergeable && q.1.selection == p.1.selection with
  | nil =>
    rw [hsplit, hpre]
    simp only [List.nil_append, List.head?_cons, true_iff]
    rintro ⟨q, hq, hm, hk⟩
    exact absurd (List.filter_eq_nil_iff.mp hpre q hq) (by simp [hm.1, hk])
  | cons q qs =>
    have hq : q ∈ pre.filter fun q => q.1.isMergeable && q.1.selection == p.1.selection :=
      hpre ▸ List.mem_cons_self
    simp only [List.mem_filter, Bool.and_eq_true, beq_iff_eq] at hq
    obtain ⟨hqpre, hqm, hqk⟩ := hq
    rw [hsplit, hpre, List.cons_append, List.head?_cons]
    constructor
    · intro he
      have hnd := hs ▸ nodup_zipIdx specs
      rw [← Option.some.inj he] at hnd
      exact (List.disjoint_of_nodup_append hnd hqpre List.mem_cons_self).elim
    · intro hno
      exact absurd ⟨q, hqpre, ⟨hqm, hqk ▸ hp.2⟩, hqk⟩ hno

/-- The walk over the rest of the originals gives the pieces that begin in it. -/
theorem walk_eq (rest : List Placed) : ∀ (pre : List Placed) (seen : List Class),
    specs.zipIdx = pre ++ rest → Seen specs pre seen →
      (walk (keyed specs.zipIdx) seen (keyed rest)).1 =
          (rest.filterMap (pieceAt specs)).countP Piece.isMerged ∧
        List.Forall₂ Piece.Gives (rest.filterMap (pieceAt specs))
          (walk (keyed specs.zipIdx) seen (keyed rest)).2 := by
  induction rest with
  | nil => exact fun _ _ _ _ => ⟨rfl, .nil⟩
  | cons p rest ih =>
    intro pre seen hs hseen
    have hs' : specs.zipIdx = (pre ++ [p]) ++ rest := by rw [hs, List.append_assoc]; rfl
    have hcons : keyed (p :: rest) = ⟨p.1, p.1.selection⟩ :: keyed rest := rfl
    rw [hcons, walk]
    by_cases hm : p.1.isMergeable = true
    · rw [if_pos hm]
      by_cases hmem : p.1.selection ∈ seen
      · -- The class was replaced before.
        obtain ⟨q, hq, hqm, hqk⟩ := (hseen _).mp hmem
        have hp : Merges specs p := ⟨hm, hqk ▸ hqm.2⟩
        have hhead := mt (head?_members hs hp).mp (fun h => h ⟨q, hq, hqm, hqk⟩)
        rw [if_pos (List.contains_iff_mem.mpr hmem),
          List.filterMap_cons_none (by rw [pieceAt, if_pos hp, if_neg hhead])]
        exact ih _ _ hs' (hseen.snoc (.inr hmem))
      · rw [if_neg (by simpa using hmem), mergeable_keyed]
        simp only [List.length_map]
        by_cases hlen : 2 ≤ (members specs p.1.selection).length
        · -- The class is replaced here.
          have hp : Merges specs p := ⟨hm, mem_classes.mpr hlen⟩
          have hhead := (head?_members hs hp).mpr fun h => hmem ((hseen _).mpr h)
          have hne : (members specs p.1.selection).map Prod.fst ≠ [] := by
            rw [ne_eq, List.map_eq_nil_iff, ← List.length_eq_zero_iff]
            omega
          obtain ⟨s, hmerge⟩ := Specification.exists_mergeAll hne
          obtain ⟨hcount, hgives⟩ := ih _ _ hs' (hseen.snoc_cons hp)
          rw [if_pos hlen, hmerge,
            List.filterMap_cons_some (by rw [pieceAt, if_pos hp, if_pos hhead])]
          exact ⟨by rw [List.countP_cons_of_pos rfl, ← hcount], .cons hmerge hgives⟩
        · have hp : ¬ Merges specs p := fun h => hlen (mem_classes.mp h.2)
          obtain ⟨hcount, hgives⟩ := ih _ _ hs' (hseen.snoc (.inl hp))
          rw [if_neg hlen, List.filterMap_cons_some (pieceAt_of_not_merges hp)]
          exact ⟨by simp [hcount, Piece.isMerged], .cons rfl hgives⟩
    · have hp : ¬ Merges specs p := fun h => hm h.1
      obtain ⟨hcount, hgives⟩ := ih _ _ hs' (hseen.snoc (.inl hp))
      rw [if_neg hm, List.filterMap_cons_some (pieceAt_of_not_merges hp)]
      exact ⟨by simp [hcount, Piece.isMerged], .cons rfl hgives⟩

theorem consolidate_eq_walk (specs : List Specification) :
    consolidate specs = walk (keyed specs.zipIdx) [] (keyed specs.zipIdx) := by
  have : keyed specs.zipIdx = specs.map fun s => Keyed.mk s s.selection := by
    conv_rhs => rw [← List.zipIdx_map_fst 0 specs, List.map_map]
    rfl
  rw [this]
  rfl

/-- A consolidated list is given by its pieces. -/
theorem gives_consolidate (specs : List Specification) :
    List.Forall₂ Piece.Gives (pieces specs) (consolidate specs).2 :=
  consolidate_eq_walk specs ▸
    (walk_eq specs.zipIdx [] [] rfl (fun key => by simp)).2

/-- What merging hands on from rules that have it, consolidation does too. -/
theorem forall_mem_consolidate {P : Specification → Prop}
    (hmerge : ∀ {cs s}, Specification.mergeAll cs = some s → (∀ c ∈ cs, P c) → P s)
    (h : ∀ s ∈ specs, P s) : ∀ s ∈ (consolidate specs).2, P s := by
  have hpieces : ∀ a ∈ pieces specs, ∀ p ∈ a.originals, P p.1 := by
    intro a ha p hp
    have hmem := (perm_originals specs).subset (List.mem_flatMap.mpr ⟨a, ha, hp⟩)
    exact h p.1 (List.fst_mem_of_mem_zipIdx hmem)
  have hgives := gives_consolidate specs
  generalize pieces specs = as at hpieces hgives
  generalize (consolidate specs).2 = out at hgives ⊢
  induction hgives with
  | nil => exact fun s hs => absurd hs List.not_mem_nil
  | @cons a t as out hgive _ ih =>
    refine List.forall_mem_cons.mpr ⟨?_, ih fun b hb => hpieces b (List.mem_cons_of_mem a hb)⟩
    have horiginals := hpieces a List.mem_cons_self
    cases a with
    | kept p =>
      obtain rfl : t = p.1 := hgive
      exact horiginals p (List.mem_singleton_self p)
    | merged cs =>
      refine hmerge hgive fun c hc => ?_
      obtain ⟨p, hp, rfl⟩ := List.mem_map.mp hc
      exact horiginals p hp

theorem filterMap_result? {ps : List Piece} {out : List Specification}
    (h : List.Forall₂ Piece.Gives ps out) : ps.filterMap Piece.result? = out := by
  induction h with
  | nil => rfl
  | cons hgives _ ih => rw [List.filterMap_cons_some (Piece.gives_iff.mp hgives), ih]

/-- A consolidated list is what its pieces come to. -/
theorem filterMap_pieces (specs : List Specification) :
    (pieces specs).filterMap Piece.result? = (consolidate specs).2 :=
  filterMap_result? (gives_consolidate specs)

theorem fst_consolidate (specs : List Specification) :
    (consolidate specs).1 = (classes specs).card := by
  rw [consolidate_eq_walk, (walk_eq specs.zipIdx [] [] rfl (fun key => by simp)).1]
  exact countP_isMerged specs

/-- The first specification of a list is kept, or a merged one stands in its place. -/
theorem consolidate_ne_nil {specs : List Specification} (h : specs ≠ []) :
    (consolidate specs).2 ≠ [] := by
  cases specs with
  | nil => exact absurd rfl h
  | cons s rest =>
    simp only [consolidate, List.map_cons, walk]
    split
    · split <;> rename_i hseen
      · cases hseen
      · split <;> exact List.cons_ne_nil _ _
    · exact List.cons_ne_nil _ _

end Eir.Consolidation
