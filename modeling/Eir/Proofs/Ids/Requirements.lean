import Eir.Proofs.Ids.Elements
import Eir.Proofs.Text.Numbers
import Mathlib.Data.List.Forall2

/-!
# What a written requirement says

The text of the requirements of a rule says what they demand: two groups with the
same text have the same description, and the same facets with the same
cardinalities in the same order (`FacetGroup.requirements_keep_meaning`). The text
does not show the case of the whole that an object is part of, nor whether a bound
is inclusive that is not there (`Facet.shown`), nor the cardinality of an entity
facet (`FacetGroup.door_requirements_look_alike`).
-/

namespace Eir

open Xml (Element)

/-! ## Constraints -/

theorem restriction_injective {base base' : String} {rules rules' : List (String × String)}
    (h : restriction base rules = restriction base' rules') : base = base' ∧ rules = rules' := by
  simp only [restriction, Element.parent.injEq, List.cons.injEq, Prod.mk.injEq, true_and,
    and_true] at h
  obtain ⟨hbase, hrules⟩ := h
  refine ⟨hbase, List.map_injective_iff.mpr (fun p q hpq => ?_) hrules⟩
  simp only [Element.single.injEq, List.cons.injEq, Prod.mk.injEq, true_and, and_true] at hpq
  exact Prod.ext hpq.1 hpq.2

/-- The bounds up to the marks of those that are missing. -/
def Bounds.shown (b : Bounds) : Bounds :=
  { b with
    minInclusive := b.min.isSome && b.minInclusive
    maxInclusive := b.max.isSome && b.maxInclusive }

/-- The bounds that rules set. -/
def Bounds.ofRules (rules : List (String × String)) : Bounds where
  min := (rules.lookup "xs:minInclusive").or (rules.lookup "xs:minExclusive")
  minInclusive := (rules.lookup "xs:minInclusive").isSome
  max := (rules.lookup "xs:maxInclusive").or (rules.lookup "xs:maxExclusive")
  maxInclusive := (rules.lookup "xs:maxInclusive").isSome

theorem Bounds.ofRules_rules (b : Bounds) : ofRules b.rules = b.shown := by
  obtain ⟨min, minInclusive, max, maxInclusive⟩ := b
  cases min <;> cases minInclusive <;> cases max <;> cases maxInclusive <;> rfl

/-- The constraint up to the marks of missing bounds. -/
def Constraint.shown : Constraint → Constraint
  | range b => range b.shown
  | c => c

theorem enumeration_ne_cons {name value : String} {rules : List (String × String)}
    (h : name ≠ "xs:enumeration") (vs : List String) :
    vs.map ("xs:enumeration", ·) ≠ (name, value) :: rules := by
  cases vs with
  | nil => exact (List.cons_ne_nil _ _).symm
  | cons v vs => exact fun he => h (congrArg Prod.fst (List.cons.inj he).1).symm

theorem Constraint.shown_of_element_eq {c d : Constraint} (h : c.element = d.element) :
    c.shown = d.shown := by
  cases c with
  | exact v =>
    cases d with
    | exact w =>
      cases h
      rfl
    | _ => cases h
  | pattern p =>
    cases d with
    | exact => cases h
    | pattern q =>
      cases h
      rfl
    | list ws =>
      exact absurd (restriction_injective h).2.symm (enumeration_ne_cons (by decide) ws)
    | range => exact absurd (restriction_injective h).1 (by decide)
    | length => cases (List.cons.inj (restriction_injective h).2).2
  | list vs =>
    cases d with
    | exact => cases h
    | list ws =>
      have inj : Function.Injective fun v : String => ("xs:enumeration", v) := fun v w h =>
        congrArg Prod.snd h
      rw [List.map_injective_iff.mpr inj (restriction_injective h).2]
    | range => exact absurd (restriction_injective h).1 (by decide)
    | _ => exact absurd (restriction_injective h).2 (enumeration_ne_cons (by decide) vs)
  | range a =>
    cases d with
    | exact => cases h
    | range b => rw [shown, shown, ← a.ofRules_rules, (restriction_injective h).2, b.ofRules_rules]
    | _ => exact absurd (restriction_injective h).1 (by decide)
  | length lo hi =>
    cases d with
    | exact => cases h
    | pattern => cases (List.cons.inj (restriction_injective h).2).2
    | list ws =>
      exact absurd (restriction_injective h).2.symm (enumeration_ne_cons (by decide) ws)
    | range => exact absurd (restriction_injective h).1 (by decide)
    | length lo' hi' =>
      obtain ⟨hlo, hrest⟩ := List.cons.inj (restriction_injective h).2
      have hhi := (List.cons.inj hrest).1
      rw [Text.decimal_injective (congrArg String.toList (congrArg Prod.snd hlo)),
        Text.decimal_injective (congrArg String.toList (congrArg Prod.snd hhi))]

/-! ## Facets -/

/-- The facet up to the marks of missing bounds and the case of the whole. -/
def Facet.shown : Facet → Facet
  | entity types predefinedType => entity types.shown (predefinedType.map Constraint.shown)
  | attr name value => attr name (value.map Constraint.shown)
  | property propertySet name value dataType =>
    property propertySet.shown name.shown (value.map Constraint.shown) dataType
  | classification system value =>
    classification (system.map Constraint.shown) (value.map Constraint.shown)
  | partOf relation whole => partOf relation whole.toUpper

/-- The facet tests the type of the object itself. -/
def Facet.isEntity : Facet → Bool
  | entity .. => true
  | _ => false

theorem Constraint.on_injective {c d : Constraint} {m n : String} (h : c.on m = d.on n) :
    m = n ∧ c.shown = d.shown := by
  simp only [on, Element.parent.injEq, List.cons.injEq, and_true, true_and] at h
  exact ⟨h.1, shown_of_element_eq h.2⟩

theorem Constraint.ifAny_injective {c d : Option Constraint} {name : String}
    (h : ifAny c name = ifAny d name) : c.map shown = d.map shown := by
  cases c <;> cases d
  · rfl
  · cases h
  · cases h
  · exact congrArg some (on_injective (List.cons.inj h).1).2

/-- The first item of a list is known to be there or not from what only it can be. -/
theorem toList_append_cancel {α : Type} (p : α → Prop) {a b : Option α} {as bs : List α}
    (ha : ∀ x ∈ a, p x) (hb : ∀ x ∈ b, p x) (has : ∀ x ∈ as, ¬ p x) (hbs : ∀ x ∈ bs, ¬ p x)
    (h : a.toList ++ as = b.toList ++ bs) : a = b ∧ as = bs := by
  cases a with
  | none =>
    cases b with
    | none => exact ⟨rfl, h⟩
    | some y =>
      obtain rfl : as = y :: bs := h
      exact absurd (hb y rfl) (has y List.mem_cons_self)
  | some x =>
    cases b with
    | none =>
      obtain rfl : x :: as = bs := h
      exact absurd (ha x rfl) (hbs x List.mem_cons_self)
    | some y =>
      obtain ⟨rfl, hrest⟩ := List.cons.inj h
      exact ⟨rfl, hrest⟩

theorem Relation.name_injective : Function.Injective Relation.name := fun r s h => by
  cases r <;> cases s <;> first | rfl | exact absurd h (by decide)

theorem RequirementCardinality.documentWord_injective {c d : RequirementCardinality}
    (h : c.documentWord = d.documentWord) : c = d := by
  cases c <;> cases d <;> first | rfl | exact absurd h (by decide)

theorem cardinality_injective {c d : RequirementCardinality}
    (h : attributeIfSome "cardinality" (some c.documentWord) =
      attributeIfSome "cardinality" (some d.documentWord)) : c = d :=
  RequirementCardinality.documentWord_injective (congrArg Prod.snd (List.cons.inj h).1)

/-- An attribute that may be missing, in front of the cardinality. -/
theorem attributeIfSome_cancel {name : String} (hname : name ≠ "cardinality")
    {v w : Option String} {c d : RequirementCardinality}
    (h : attributeIfSome name v ++ attributeIfSome "cardinality" (some c.documentWord) =
      attributeIfSome name w ++ attributeIfSome "cardinality" (some d.documentWord)) :
    v = w ∧ c = d := by
  have named (v : Option String) : ∀ a ∈ v.map (name, ·), a.1 = name := fun _ ha =>
    mem_attributeIfSome (Option.mem_toList.mpr ha)
  have other (c : RequirementCardinality) :
      ∀ a ∈ attributeIfSome "cardinality" (some c.documentWord), ¬ a.1 = name := fun a ha => by
    rw [mem_attributeIfSome ha]
    exact hname.symm
  obtain ⟨hv, hc⟩ := toList_append_cancel (fun a : Xml.Attribute => a.1 = name) (named v)
    (named w) (other c) (other d) h
  have inj : Function.Injective fun x : String => (name, x) := fun x y h => congrArg Prod.snd h
  exact ⟨Option.map_injective inj hv, cardinality_injective hc⟩

/-- Two constraints that may be missing, on parts of different names. -/
theorem Constraint.ifAny_cancel {c d c' d' : Option Constraint} {m n : String} (hmn : m ≠ n)
    (h : ifAny c m ++ ifAny d n = ifAny c' m ++ ifAny d' n) :
    c.map shown = c'.map shown ∧ d.map shown = d'.map shown := by
  have named (c : Option Constraint) (m : String) : ∀ e ∈ c.map (·.on m), e.name = m := by
    rintro e he
    obtain ⟨x, -, rfl⟩ := Option.map_eq_some_iff.mp he
    rfl
  have other (d : Option Constraint) : ∀ e ∈ ifAny d n, ¬ e.name = m := fun e he => by
    rw [named d n e (Option.mem_toList.mp he)]
    exact hmn.symm
  obtain ⟨hc, hd⟩ := toList_append_cancel (fun e : Element => e.name = m) (named c m)
    (named c' m) (other d) (other d') h
  exact ⟨ifAny_injective (congrArg Option.toList hc), ifAny_injective hd⟩

theorem Facet.shown_of_element_eq {f g : Facet} {c d : RequirementCardinality}
    (h : f.element (some c) = g.element (some d)) :
    f.shown = g.shown ∧ (f.isEntity = false → c = d) := by
  cases f with
  | entity t p =>
    cases g with
    | entity t' p' =>
      simp only [element, Element.parent.injEq, List.cons.injEq, true_and] at h
      refine ⟨?_, fun h => Bool.noConfusion h⟩
      rw [shown, shown, (Constraint.on_injective h.1).2, Constraint.ifAny_injective h.2]
    | _ => simp [element] at h
  | attr n v =>
    cases g with
    | attr n' v' =>
      simp only [element, Element.parent.injEq, List.cons.injEq, true_and] at h
      obtain ⟨hc, hn, hv⟩ := h
      have hname := (Constraint.on_injective hn).2
      simp only [Constraint.shown, Constraint.exact.injEq] at hname
      rw [shown, shown, hname, Constraint.ifAny_injective hv]
      exact ⟨rfl, fun _ => cardinality_injective hc⟩
    | _ => simp [element] at h
  | property s n v t =>
    cases g with
    | property s' n' v' t' =>
      simp only [element, Element.parent.injEq, List.cons.injEq, true_and] at h
      obtain ⟨ha, hs, hn, hv⟩ := h
      obtain ⟨rfl, hc⟩ := attributeIfSome_cancel (by decide) ha
      rw [shown, shown, (Constraint.on_injective hs).2, (Constraint.on_injective hn).2,
        Constraint.ifAny_injective hv]
      exact ⟨rfl, fun _ => hc⟩
    | _ => simp [element] at h
  | classification s v =>
    cases g with
    | classification s' v' =>
      simp only [element, Element.parent.injEq, true_and] at h
      obtain ⟨hc, hchildren⟩ := h
      obtain ⟨hv, hs⟩ := Constraint.ifAny_cancel (by decide) hchildren
      rw [shown, shown, hs, hv]
      exact ⟨rfl, fun _ => cardinality_injective hc⟩
    | _ => simp [element] at h
  | partOf r w =>
    cases g with
    | partOf r' w' =>
      simp only [element, Element.parent.injEq, List.cons.injEq, true_and, and_true] at h
      obtain ⟨ha, hw⟩ := h
      obtain ⟨hr, hc⟩ := attributeIfSome_cancel (by decide) ha
      have hwhole := (Constraint.on_injective hw).2
      simp only [Constraint.shown, Constraint.exact.injEq] at hwhole
      rw [shown, shown, Option.map_injective Relation.name_injective hr, hwhole]
      exact ⟨rfl, fun _ => hc⟩
    | _ => simp [element] at h

/-! ## Groups -/

/-- Two entries of a requirement demand the same, as far as a document shows it. The cardinality
of an entity facet does not enter. -/
def SameDemand (a b : Facet × RequirementCardinality) : Prop :=
  a.1.shown = b.1.shown ∧ (a.1.isEntity = false → a.2 = b.2)

namespace FacetGroup

/-- The text of what a rule demands of selected objects, at a depth of a document. -/
def requirementsText (g : FacetGroup) (depth : Nat) : String :=
  "\n".intercalate (g.requirementsElement.lines depth)

theorem attributeIfAny_injective {name v w : String}
    (h : attributeIfAny name v = attributeIfAny name w) : v = w := by
  unfold attributeIfAny at h
  split at h <;> split at h
  · simp_all
  · cases h
  · cases h
  · exact congrArg Prod.snd (List.cons.inj h).1

/-- Requirements with the same text demand the same, entry by entry. -/
theorem requirements_keep_meaning {g h : FacetGroup} {depth : Nat}
    (htext : g.requirementsText depth = h.requirementsText depth) :
    g.description = h.description ∧ List.Forall₂ SameDemand g.entries h.entries := by
  have helement := g.namedBy_requirementsElement.eq_of_text_eq h.namedBy_requirementsElement htext
  simp only [requirementsElement, Element.parent.injEq, true_and] at helement
  obtain ⟨hdescription, hentries⟩ := helement
  refine ⟨attributeIfAny_injective hdescription, ?_⟩
  have facets : List.Forall₂ (· = ·) (g.entries.map fun p => p.1.element (some p.2))
      (h.entries.map fun p => p.1.element (some p.2)) :=
    List.forall₂_eq_eq_eq ▸ hentries
  rw [List.forall₂_map_left_iff, List.forall₂_map_right_iff] at facets
  exact facets.imp fun _ _ => Facet.shown_of_element_eq

/-- The group of one facet with its cardinality. -/
def demanding (f : Facet) (c : RequirementCardinality) : FacetGroup := ⟨"Demand", "", [f], [c]⟩

theorem requirementsText_demanding {f g : Facet} {c d : RequirementCardinality}
    (h : f.element (some c) = g.element (some d)) (depth : Nat) :
    (demanding f c).requirementsText depth = (demanding g d).requirementsText depth := by
  simp only [requirementsText, requirementsElement, demanding, entries, pairUp, List.map_cons,
    List.map_nil, h]

/-- The case in which the whole is named does not matter. -/
theorem storey_requirements_same_demand :
    (demanding (.partOf none "IfcBuildingStorey") .prohibited).requirementsText 3 =
      (demanding (.partOf none "IFCBUILDINGSTOREY") .prohibited).requirementsText 3 ∧
    List.Forall₂ SameDemand (demanding (.partOf none "IfcBuildingStorey") .prohibited).entries
      (demanding (.partOf none "IFCBUILDINGSTOREY") .prohibited).entries := by
  have upper : "IfcBuildingStorey".toUpper = "IFCBUILDINGSTOREY".toUpper := by
    refine String.toList_injective ?_
    unfold String.toUpper
    rw [String.toList_map, String.toList_map]
    decide
  have element : (Facet.partOf none "IfcBuildingStorey").element (some .prohibited) =
      (Facet.partOf none "IFCBUILDINGSTOREY").element (some .prohibited) := by
    rw [Facet.element, Facet.element, upper]
  have text := requirementsText_demanding element 3
  exact ⟨text, (requirements_keep_meaning text).2⟩

/-- The entries with the wholes in upper case. -/
def caselessEntries (g : FacetGroup) : List (Facet × RequirementCardinality) :=
  g.entries.map fun
    | (.partOf relation whole, c) => (.partOf relation whole.toUpper, c)
    | entry => entry

/-- The facet of the heights above two, with the mark of the bound that is not there. -/
def heightAbove (maxInclusive : Bool) : Facet :=
  .attr "Height" (some (.range ⟨some "2", true, none, maxInclusive⟩))

/-- A prohibited entity facet looks like an expected one, and so does a range whose missing bound
is marked as inclusive look like one whose missing bound is not. -/
theorem door_requirements_look_alike :
    ((demanding (.entity (.exact "IFCDOOR") none) .prohibited).requirementsText 3 =
        (demanding (.entity (.exact "IFCDOOR") none) .expected).requirementsText 3 ∧
      (demanding (.entity (.exact "IFCDOOR") none) .prohibited).caselessEntries ≠
        (demanding (.entity (.exact "IFCDOOR") none) .expected).caselessEntries) ∧
    ((demanding (heightAbove true) .expected).requirementsText 3 =
        (demanding (heightAbove false) .expected).requirementsText 3 ∧
      (demanding (heightAbove true) .expected).caselessEntries ≠
        (demanding (heightAbove false) .expected).caselessEntries) :=
  ⟨⟨requirementsText_demanding rfl 3, by decide⟩, requirementsText_demanding rfl 3, by decide⟩

end FacetGroup

end Eir
