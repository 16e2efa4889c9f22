import Eir.Constraint
import Eir.Proofs.Text.Delimited

/-!
# Constraints in short

The text of a constraint that is `Plain` can be told from what follows it, as long
as that is something that `Stops` the text (`short_cancel`). The kinds of
constraints are told apart by their first sign, and each is closed by a sign of
its own; only a range and a length go on until some other character comes.
-/

namespace Eir

open Text

namespace Bounds

/-- A bound can be told from the signs before it and the words behind it. -/
def PlainBound (m : String) : Prop := ' ' ∉ m.toList ∧ m.toList.head? ≠ some '='

/-- The bounds are plain, and an open end is not marked as inclusive. -/
structure Plain (b : Bounds) : Prop where
  min : ∀ m ∈ b.min, PlainBound m
  max : ∀ m ∈ b.max, PlainBound m
  minInclusive : b.min = none → b.minInclusive = false
  maxInclusive : b.max = none → b.maxInclusive = false

end Bounds

namespace Constraint

/-- No text of the constraint holds the character that closes it. -/
def Plain : Constraint → Prop
  | exact v => '\'' ∉ v.toList
  | pattern p => '/' ∉ p.toList
  | list vs => ∀ v ∈ vs, '\'' ∉ v.toList
  | range b => b.Plain
  | length _ _ => True

/-- What follows can be told from the constraint. Only numbers are not closed by themselves. -/
def Stops : Constraint → List Char → Prop
  | range _, r => StopsAt (· = ' ') r ∧ ¬ " and <".toList <+: r
  | length _ _, r => StopsAt (fun c => ¬ c.isDigit = true) r
  | _, _ => True

end Constraint

variable {r s : List Char}

namespace Bounds

/-- A bound that is there, with its mark. -/
abbrev Side := Bool × String

def lower (b : Bounds) : Option Side := b.min.map fun m => (b.minInclusive, m)

def upper (b : Bounds) : Option Side := b.max.map fun m => (b.maxInclusive, m)

/-- The text of a bound behind the sign of its direction. -/
def sideText (a : Side) : List Char := (if a.1 then ['='] else []) ++ a.2.toList

theorem toList_short (b : Bounds) : b.short.toList =
    match b.lower, b.upper with
    | some l, u => '>' :: (sideText l ++ optionalText " and <".toList sideText u)
    | none, some u => '<' :: sideText u
    | none, none => "any".toList := by
  obtain ⟨min, i, max, j⟩ := b
  cases min <;> cases max <;> cases i <;> cases j <;>
    simp [short, lowerText, upperText, lower, upper, sideText, optionalText]

theorem Plain.lower {b : Bounds} (h : b.Plain) : ∀ a ∈ b.lower, PlainBound a.2 := by
  intro a ha
  obtain ⟨m, hm, rfl⟩ := Option.map_eq_some_iff.mp ha
  exact h.min m hm

theorem Plain.upper {b : Bounds} (h : b.Plain) : ∀ a ∈ b.upper, PlainBound a.2 := by
  intro a ha
  obtain ⟨m, hm, rfl⟩ := Option.map_eq_some_iff.mp ha
  exact h.max m hm

/-- Plain bounds are given by their sides. -/
theorem Plain.ext {b c : Bounds} (hb : b.Plain) (hc : c.Plain) (hl : b.lower = c.lower)
    (hu : b.upper = c.upper) : b = c := by
  obtain ⟨bmin, bi, bmax, bj⟩ := b
  obtain ⟨cmin, ci, cmax, cj⟩ := c
  have := hb.minInclusive
  have := hb.maxInclusive
  have := hc.minInclusive
  have := hc.maxInclusive
  cases bmin <;> cases cmin <;> cases bmax <;> cases cmax <;>
    simp_all [Bounds.lower, Bounds.upper]

theorem side_cancel {a b : Side} (ha : PlainBound a.2) (hb : PlainBound b.2)
    (hr : StopsAt (· = ' ') r) (hs : StopsAt (· = ' ') s)
    (h : sideText a ++ r = sideText b ++ s) : a = b ∧ r = s := by
  obtain ⟨i, m⟩ := a
  obtain ⟨j, n⟩ := b
  have hfree {m : String} (hm : PlainBound m) : ∀ c ∈ m.toList, ¬ c = ' ' :=
    fun c hc he => hm.1 (he ▸ hc)
  -- A bound does not begin with the sign that would make the other one inclusive.
  have hsign {m n : String} {r s : List Char} (hm : PlainBound m)
      (hr : StopsAt (· = ' ') r) : ¬ m.toList ++ r = '=' :: (n.toList ++ s) := by
    intro h
    cases hmc : m.toList with
    | nil =>
      rw [hmc, List.nil_append] at h
      exact absurd (hr '=' (by rw [h]; rfl)) (by decide)
    | cons c cs =>
      rw [hmc, List.cons_append] at h
      exact hm.2 (by rw [hmc, (List.cons.inj h).1]; rfl)
  have hsame (i : Bool) (h : m.toList ++ r = n.toList ++ s) : (i, m) = (i, n) ∧ r = s := by
    obtain ⟨hmn, hrs⟩ := append_cancel (hfree ha) (hfree hb) hr hs h
    exact ⟨congrArg (Prod.mk i) (String.toList_inj.mp hmn), hrs⟩
  cases i <;> cases j
  · exact hsame _ h
  · exact absurd h (hsign ha hr)
  · exact absurd h.symm (hsign hb hs)
  · exact hsame _ (List.cons.inj h).2

theorem stopsAt_optionalText {o : Option Side} (hr : StopsAt (· = ' ') r) :
    StopsAt (· = ' ') (optionalText " and <".toList sideText o ++ r) := by
  cases o with
  | none => exact hr
  | some a => exact stopsAt_cons rfl

theorem short_cancel {b c : Bounds} (hb : b.Plain) (hc : c.Plain)
    (hr : (Constraint.range b).Stops r) (hs : (Constraint.range c).Stops s)
    (h : b.short.toList ++ r = c.short.toList ++ s) : b = c ∧ r = s := by
  have hbl := hb.lower
  have hcl := hc.lower
  have hbu := hb.upper
  have hcu := hc.upper
  rw [toList_short, toList_short] at h
  cases hlb : b.lower with
  | some l =>
    cases hlc : c.lower with
    | some l' =>
      simp only [hlb, hlc, List.cons_append, List.append_assoc, List.cons.injEq, true_and] at h
      obtain ⟨rfl, hrest⟩ := side_cancel (hbl l hlb) (hcl l' hlc) (stopsAt_optionalText hr.1)
        (stopsAt_optionalText hs.1) h
      obtain ⟨hu, hrs⟩ := optionalText_cancel
        (fun x hx y hy => side_cancel (hbu x hx) (hcu y hy) hr.1 hs.1) hr.2 hs.2 hrest
      exact ⟨hb.ext hc (hlb.trans hlc.symm) hu, hrs⟩
    | none => cases huc : c.upper <;> simp [hlb, hlc, huc] at h
  | none =>
    cases hlc : c.lower with
    | some l' => cases hub : b.upper <;> simp [hlb, hlc, hub] at h
    | none =>
      cases hub : b.upper with
      | some u =>
        cases huc : c.upper with
        | some u' =>
          simp only [hlb, hlc, hub, huc, List.cons_append, List.cons.injEq, true_and] at h
          obtain ⟨rfl, hrs⟩ := side_cancel (hbu u hub) (hcu u' huc) hr.1 hs.1 h
          exact ⟨hb.ext hc (hlb.trans hlc.symm) (hub.trans huc.symm), hrs⟩
        | none => simp [hlb, hlc, hub, huc] at h
      | none =>
        cases huc : c.upper with
        | some u' => simp [hlb, hlc, hub, huc] at h
        | none =>
          simp only [hlb, hlc, hub, huc, List.append_cancel_left_eq] at h
          exact ⟨hb.ext hc (hlb.trans hlc.symm) (hub.trans huc.symm), h⟩

end Bounds

namespace Constraint

theorem quote_cancel {v w : String} (hv : '\'' ∉ v.toList) (hw : '\'' ∉ w.toList)
    (h : (quote v).toList ++ r = (quote w).toList ++ s) : v = w ∧ r = s := by
  simp only [quote, String.toList_append, List.append_assoc, List.append_cancel_left_eq] at h
  obtain ⟨hvw, hrs⟩ := closed_cancel hv hw h
  exact ⟨String.toList_inj.mp hvw, hrs⟩

theorem toList_quote_cons (v : String) : ∃ cs, (quote v).toList = '\'' :: cs :=
  ⟨v.toList ++ ['\''], by simp [quote]⟩

/-- The quoted values of a list, separated by commas. -/
def listText (vs : List String) : List Char := joinedText ",".toList (fun v => (quote v).toList) vs

theorem toList_short_list (vs : List String) :
    (list vs).short.toList = "[".toList ++ (listText vs ++ "]".toList) := by
  simp only [short, String.toList_append, toList_intercalate_map, listText, List.append_assoc]

/-- A list is empty when it closes at once. -/
theorem list_eq_nil {vs : List String} (h : listText [] ++ ']' :: r = listText vs ++ ']' :: s) :
    vs = [] := by
  cases vs with
  | nil => rfl
  | cons v vs =>
    obtain ⟨cs, hcs, -⟩ := joinedText_cons ",".toList (fun v => (quote v).toList) v vs
    obtain ⟨qs, hqs⟩ := toList_quote_cons v
    rw [listText, listText, hcs, hqs] at h
    exact absurd (List.cons.inj h).1 (by decide)

theorem list_cancel {vs ws : List String} (hv : ∀ v ∈ vs, '\'' ∉ v.toList)
    (hw : ∀ w ∈ ws, '\'' ∉ w.toList)
    (h : listText vs ++ ']' :: r = listText ws ++ ']' :: s) : vs = ws ∧ r = s := by
  have hnot (r : List Char) : ¬ ",".toList <+: ']' :: r := by simp
  have hnil : vs = [] ↔ ws = [] := by
    constructor
    · rintro rfl
      exact list_eq_nil h
    · rintro rfl
      exact list_eq_nil h.symm
  obtain ⟨hvw, hrs⟩ := joinedText_cancel (fun _ => True)
    (fun v hvm w hwm _ _ _ _ => quote_cancel (hv v hvm) (hw w hwm)) (fun _ => trivial) trivial
    trivial (hnot r) (hnot s) hnil h
  exact ⟨hvw, (List.cons.inj hrs).2⟩

/-- The kind of constraint whose text begins with the sign. -/
def kindOfSign (c : Char) : String :=
  if c = '\'' then "exact"
  else if c = '/' then "pattern"
  else if c = '[' then "list"
  else if c = 'l' then "length"
  else "range"

theorem kindOfSign_short (c : Constraint) :
    ∃ sign cs, c.short.toList = sign :: cs ∧ kindOfSign sign = c.kind := by
  cases c with
  | exact v => exact ⟨'\'', v.toList ++ ['\''], by simp [short, quote], rfl⟩
  | pattern p => exact ⟨'/', p.toList ++ ['/'], by simp [short], rfl⟩
  | list vs => exact ⟨'[', _, toList_short_list vs, rfl⟩
  | range b =>
    have := b.toList_short
    cases hl : b.lower <;> cases hu : b.upper <;> simp [short, this, hl, hu, kind, kindOfSign]
  | length lo hi => exact ⟨'l', _, by simp only [short, String.toList_append]; rfl, rfl⟩

/-- The first sign tells the kinds of constraints apart. -/
theorem kind_eq {c d : Constraint} (h : c.short.toList ++ r = d.short.toList ++ s) :
    c.kind = d.kind := by
  obtain ⟨sign, cs, hc, hck⟩ := kindOfSign_short c
  obtain ⟨sign', ds, hd, hdk⟩ := kindOfSign_short d
  rw [hc, hd] at h
  rw [← hck, ← hdk, (List.cons.inj h).1]

theorem length_cancel {lo hi lo' hi' : Nat} (hr : StopsAt (fun c => ¬ c.isDigit = true) r)
    (hs : StopsAt (fun c => ¬ c.isDigit = true) s)
    (h : (length lo hi).short.toList ++ r = (length lo' hi').short.toList ++ s) :
    length lo hi = length lo' hi' ∧ r = s := by
  simp only [short, String.toList_append, List.append_assoc, List.append_cancel_left_eq,
    show "..".toList = ['.', '.'] from rfl, List.cons_append, List.nil_append] at h
  obtain ⟨rfl, hrest⟩ := decimal_cancel (stopsAt_cons (by decide)) (stopsAt_cons (by decide)) h
  obtain ⟨rfl, hrs⟩ := decimal_cancel hr hs (List.cons.inj (List.cons.inj hrest).2).2
  exact ⟨rfl, hrs⟩

theorem short_cancel {c d : Constraint} (hc : c.Plain) (hd : d.Plain) (hr : c.Stops r)
    (hs : d.Stops s) (h : c.short.toList ++ r = d.short.toList ++ s) : c = d ∧ r = s := by
  have hkind := kind_eq h
  cases c with
  | exact v =>
    cases d with
    | exact w =>
      obtain ⟨rfl, hrs⟩ := quote_cancel hc hd h
      exact ⟨rfl, hrs⟩
    | _ => simp [kind] at hkind
  | pattern p =>
    cases d with
    | pattern q =>
      simp only [short, String.toList_append, List.append_assoc, List.append_cancel_left_eq] at h
      obtain ⟨hpq, hrs⟩ := closed_cancel hc hd h
      exact ⟨by rw [String.toList_inj.mp hpq], hrs⟩
    | _ => simp [kind] at hkind
  | list vs =>
    cases d with
    | list ws =>
      simp only [toList_short_list, List.append_assoc, List.append_cancel_left_eq] at h
      obtain ⟨rfl, hrs⟩ := list_cancel hc hd h
      exact ⟨rfl, hrs⟩
    | _ => simp [kind] at hkind
  | range b =>
    cases d with
    | range c =>
      obtain ⟨rfl, hrs⟩ := Bounds.short_cancel hc hd hr hs h
      exact ⟨rfl, hrs⟩
    | _ => simp [kind] at hkind
  | length lo hi =>
    cases d with
    | length lo' hi' => exact length_cancel hr hs h
    | _ => simp [kind] at hkind

/-- The text ends, or goes on with a word that does not continue a range. -/
def Ends (r : List Char) : Prop := r = [] ∨ ∃ t, r = ' ' :: t ∧ ¬ "and <".toList <+: t

theorem Ends.stopsAt (h : Ends r) : StopsAt (· = ' ') r := by
  rcases h with rfl | ⟨t, rfl, -⟩
  · exact stopsAt_nil
  · exact stopsAt_cons rfl

theorem Ends.stops (h : Ends r) (c : Constraint) : c.Stops r := by
  cases c with
  | range b =>
    refine ⟨h.stopsAt, ?_⟩
    rcases h with rfl | ⟨t, rfl, ht⟩
    · simp
    · exact fun hp => ht (List.cons_prefix_cons.mp hp).2
  | length lo hi =>
    rcases h with rfl | ⟨t, rfl, -⟩
    · exact stopsAt_nil
    · exact stopsAt_cons (by decide)
  | _ => trivial

theorem Ends.optionalText {α : Type} {opening : List Char} (text : α → List Char) (o : Option α)
    (hopening : ∀ t, Ends (opening ++ t)) (h : Ends r) : Ends (optionalText opening text o ++ r) := by
  cases o with
  | none => exact h
  | some a =>
    rw [Text.optionalText, List.append_assoc]
    exact hopening _

end Constraint

end Eir
