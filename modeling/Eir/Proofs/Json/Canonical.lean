import Eir.Proofs.Json.Documents
import Eir.Proofs.Lists
import Mathlib.Data.List.Nodup

/-!
# Values in canonical order

A value with the members of its objects in the order of their names tells all but
the order that they had: under each name it has the same as any other value with
that canonical form, again but for the order (`agreeOn_of_sorted_eq`). The values of a
type are `Told` apart by their canonical forms if their fields are, and a field may be
left out or written as null when there is nothing in it.

Bundles and all that they are made of are told apart in this way (`Bundle.told`): kinds
of constraints and facets by the word for them, fields by their names, and fields that
are left out when there is nothing in them by that. Numbers may be of any size here,
unlike in what is read back.
-/

namespace Eir

namespace Json

variable {α : Type} {j k : Json} {key : String}

/-! ## Objects -/

theorem sortedItems_eq (xs : List Json) : sortedItems xs = xs.map sorted := by
  induction xs with
  | nil => rfl
  | cons x xs ih => rw [sortedItems, ih, List.map_cons]

theorem sortedMembers_eq (ms : List (String × Json)) :
    sortedMembers ms = ms.map fun m => (m.1, m.2.sorted) := by
  induction ms with
  | nil => rfl
  | cons m ms ih => rw [sortedMembers, ih, List.map_cons]

theorem lookup_sortedMembers (ms : List (String × Json)) (key : String) :
    (sortedMembers ms).lookup key = (ms.lookup key).map sorted := by
  induction ms with
  | nil => rfl
  | cons m ms ih =>
    rw [sortedMembers, List.lookup_cons, List.lookup_cons]
    cases key == m.1 with
    | true => rfl
    | false => exact ih

/-- The canonical form of an object has the canonical forms of its members, in some order. -/
theorem exists_sorted_obj (ms : List (String × Json)) :
    ∃ ms', (obj ms).sorted = obj ms' ∧ ms'.Perm (sortedMembers ms) :=
  ⟨_, rfl, List.mergeSort_perm _ _⟩

/-- Members in the order of their names are those of the canonical form. -/
theorem sorted_obj_eq {ms ns : List (String × Json)} (hperm : (sortedMembers ms).Perm ns)
    (hnames : (ns.map Prod.fst).Nodup) (horder : ns.Pairwise fun m n => m.1 ≤ n.1) :
    (obj ms).sorted = obj ns := by
  have hmerged := (List.mergeSort_perm _ fun m n => decide (m.1 ≤ n.1)).trans hperm
  refine congrArg obj (hmerged.eq_of_pairwise ?_ (pairwise_sortedBy Prod.fst _) horder)
  intro m n hm hn hle hle'
  exact List.inj_on_of_nodup_map hnames (hmerged.mem_iff.mp hm) hn (String.le_antisymm hle hle')

/-- Under a name there is the same in both, but for the order of members in it. -/
def AgreeOn (j k : Json) (key : String) : Prop := (j.get? key).map sorted = (k.get? key).map sorted

/-- An object in which no name occurs twice. -/
def IsRecord (j : Json) : Prop := ∃ ms, j = obj ms ∧ (ms.map Prod.fst).Nodup

/-- Objects with the same canonical form agree on each name. -/
theorem agreeOn_of_sorted_eq (h : j.sorted = k.sorted) (hj : j.IsRecord) (hk : k.IsRecord)
    (key : String) : AgreeOn j k key := by
  obtain ⟨ms, rfl, hnodup⟩ := hj
  obtain ⟨ns, rfl, -⟩ := hk
  have hperm : (sortedMembers ms).Perm (sortedMembers ns) := by
    obtain ⟨ms', hms, hperm⟩ := exists_sorted_obj ms
    obtain ⟨ns', hns, hperm'⟩ := exists_sorted_obj ns
    rw [hms, hns] at h
    exact hperm.symm.trans (obj.inj h ▸ hperm')
  have hnames : ((sortedMembers ms).map Prod.fst).Nodup := by
    rw [sortedMembers_eq, List.map_map]
    exact hnodup
  have hsame := lookup_of_perm hperm hnames key
  rwa [lookup_sortedMembers, lookup_sortedMembers] at hsame

/-! ## Types -/

/-- Different values of the type have different canonical forms. -/
def Told (α : Type) [Encode α] : Prop := ∀ x y : α, (encode x).sorted = (encode y).sorted → x = y

theorem told_string : Told String := fun _ _ h => str.inj h

theorem told_bool : Told Bool := fun _ _ h => bool.inj h

theorem told_nat : Told Nat := fun _ _ h => Int.ofNat.inj (num.inj h)

/-- Values that are written without objects, and read back. -/
theorem told_of_reads [Encode α] [Decode α] (hsorted : ∀ x : α, (encode x).sorted = encode x)
    (hreads : ∀ x : α, decode? (encode x) = some x) : Told α := by
  intro x y h
  rw [hsorted, hsorted] at h
  exact Option.some.inj ((hreads x).symm.trans ((congrArg decode? h).trans (hreads y)))

variable [Encode α]

theorem told_list (hα : Told α) : Told (List α) := by
  intro xs ys h
  have hitems : sortedItems (xs.map encode) = sortedItems (ys.map encode) := arr.inj h
  rw [sortedItems_eq, sortedItems_eq, List.map_map, List.map_map] at hitems
  exact List.map_injective_iff.mpr (fun x y => hα x y) hitems

theorem told_option (hα : Told α) (hnull : ∀ x : α, (encode x).sorted ≠ .null) :
    Told (Option α) := by
  intro x y h
  cases x with
  | none =>
    cases y with
    | none => rfl
    | some y => exact absurd h.symm (hnull y)
  | some x =>
    cases y with
    | none => exact absurd h (hnull x)
    | some y => exact congrArg some (hα x y h)

/-- A field that is always written. -/
theorem Told.field (hα : Told α) {x y : α} (h : AgreeOn j k key)
    (hj : j.get? key = some (encode x)) (hk : k.get? key = some (encode y)) : x = y := by
  rw [AgreeOn, hj, hk] at h
  exact hα x y (Option.some.inj h)

/-- A field that is left out when there is no value. -/
theorem Told.fieldOfSome (hα : Told α) {x y : Option α} (h : AgreeOn j k key)
    (hj : j.get? key = x.map encode) (hk : k.get? key = y.map encode) : x = y := by
  rw [AgreeOn, hj, hk, Option.map_map, Option.map_map] at h
  exact Option.map_injective (fun x y => hα x y) h

/-- A field that is left out when the list is empty. -/
theorem Told.fieldOfAny (hα : Told α) {xs ys : List α} (h : AgreeOn j k key)
    (hj : j.get? key = (ifAny key xs).lookup key) (hk : k.get? key = (ifAny key ys).lookup key) :
    xs = ys := by
  have hlookup (xs : List α) :
      (ifAny key xs).lookup key = if xs = [] then none else some (encode xs) := by
    cases xs <;> simp [ifAny]
  rw [AgreeOn, hj, hk, hlookup, hlookup] at h
  by_cases hxs : xs = [] <;> by_cases hys : ys = [] <;>
    simp only [hxs, hys, if_true, if_false, Option.map_none, Option.map_some, reduceCtorEq] at h ⊢
  exact told_list hα xs ys (Option.some.inj h)

end Json

open Json

/-! ## Facets -/

theorem Bounds.isRecord (b : Bounds) : (encode b).IsRecord := ⟨_, rfl, by simp⟩

theorem Bounds.told : Told Bounds := by
  intro a b h
  have agree := agreeOn_of_sorted_eq h a.isRecord b.isRecord
  have hoption : Told (Option String) := told_option told_string fun _ => Json.noConfusion
  have hmin := hoption.field (agree "min") rfl rfl
  have hminInclusive := told_bool.field (agree "min_inclusive") rfl rfl
  have hmax := hoption.field (agree "max") rfl rfl
  have hmaxInclusive := told_bool.field (agree "max_inclusive") rfl rfl
  obtain ⟨_, _, _, _⟩ := a
  obtain ⟨_, _, _, _⟩ := b
  exact Bounds.mk.injEq .. ▸ ⟨hmin, hminInclusive, hmax, hmaxInclusive⟩

theorem Constraint.isRecord (c : Constraint) : (encode c).IsRecord := ⟨_, rfl, by simp⟩

theorem Constraint.told : Told Constraint := by
  intro c d h
  have agree := agreeOn_of_sorted_eq h c.isRecord d.isRecord
  have hkind : c.kind = d.kind := told_string.field (agree "kind") rfl rfl
  have hcontent : c.content.sorted = d.content.sorted := Option.some.inj (agree "value")
  cases c with
  | exact v =>
    cases d with
    | exact w => exact congrArg exact (told_string v w hcontent)
    | _ => simp [kind] at hkind
  | pattern p =>
    cases d with
    | pattern q => exact congrArg pattern (told_string p q hcontent)
    | _ => simp [kind] at hkind
  | list vs =>
    cases d with
    | list ws => exact congrArg list (told_list told_string vs ws hcontent)
    | _ => simp [kind] at hkind
  | range a =>
    cases d with
    | range b => exact congrArg range (Bounds.told a b hcontent)
    | _ => simp [kind] at hkind
  | length lo hi =>
    cases d with
    | length lo' hi' =>
      have agree := agreeOn_of_sorted_eq hcontent ⟨_, rfl, by simp⟩ ⟨_, rfl, by simp⟩
      have hlo := told_nat.field (agree "min") rfl rfl
      have hhi := told_nat.field (agree "max") rfl rfl
      rw [hlo, hhi]
    | _ => simp [kind] at hkind

theorem Relation.told : Told Relation :=
  told_of_reads (fun _ => rfl) fun r => by cases r <;> rfl

/-- The word for the kind of a facet. -/
def Facet.word : Facet → String
  | entity .. => "entity"
  | attr .. => "attribute"
  | property .. => "property"
  | classification .. => "classification"
  | partOf .. => "part_of"

theorem Facet.get?_facet (f : Facet) : (encode f).get? "facet" = some (encode f.word) := by
  cases f <;> rfl

theorem Facet.isRecord (f : Facet) : (encode f).IsRecord := by
  cases f with
  | entity types predefinedType => exact ⟨_, rfl, by cases predefinedType <;> simp [ifSome]⟩
  | attr name value => exact ⟨_, rfl, by cases value <;> simp [ifSome]⟩
  | property propertySet name value dataType =>
    exact ⟨_, rfl, by cases value <;> cases dataType <;> simp [ifSome]⟩
  | classification system value =>
    exact ⟨_, rfl, by cases system <;> cases value <;> simp [ifSome]⟩
  | partOf relation whole => exact ⟨_, rfl, by simp⟩

theorem Facet.told : Told Facet := by
  intro f g h
  have agree := agreeOn_of_sorted_eq h f.isRecord g.isRecord
  have hword := told_string.field (agree "facet") f.get?_facet g.get?_facet
  cases f with
  | entity types predefinedType =>
    cases g with
    | entity types' predefinedType' =>
      have htypes := Constraint.told.field (agree "entity") rfl rfl
      have hpredefined := Constraint.told.fieldOfSome (agree "predefined_type")
        (x := predefinedType) (y := predefinedType')
        (by cases predefinedType <;> rfl) (by cases predefinedType' <;> rfl)
      rw [htypes, hpredefined]
    | _ => simp [word] at hword
  | attr name value =>
    cases g with
    | attr name' value' =>
      have hname := told_string.field (agree "name") rfl rfl
      have hvalue := Constraint.told.fieldOfSome (agree "value") (x := value) (y := value')
        (by cases value <;> rfl) (by cases value' <;> rfl)
      rw [hname, hvalue]
    | _ => simp [word] at hword
  | property propertySet name value dataType =>
    cases g with
    | property propertySet' name' value' dataType' =>
      have hset := Constraint.told.field (agree "property_set") rfl rfl
      have hname := Constraint.told.field (agree "name") rfl rfl
      have hvalue := Constraint.told.fieldOfSome (agree "value") (x := value) (y := value')
        (by cases value <;> cases dataType <;> rfl) (by cases value' <;> cases dataType' <;> rfl)
      have htype := told_string.fieldOfSome (agree "data_type") (x := dataType) (y := dataType')
        (by cases value <;> cases dataType <;> rfl) (by cases value' <;> cases dataType' <;> rfl)
      rw [hset, hname, hvalue, htype]
    | _ => simp [word] at hword
  | classification system value =>
    cases g with
    | classification system' value' =>
      have hsystem := Constraint.told.fieldOfSome (agree "system") (x := system) (y := system')
        (by cases system <;> cases value <;> rfl) (by cases system' <;> cases value' <;> rfl)
      have hvalue := Constraint.told.fieldOfSome (agree "value") (x := value) (y := value')
        (by cases system <;> cases value <;> rfl) (by cases system' <;> cases value' <;> rfl)
      rw [hsystem, hvalue]
    | _ => simp [word] at hword
  | partOf relation whole =>
    cases g with
    | partOf relation' whole' =>
      have hoption : Told (Option Relation) := told_option Relation.told fun _ => Json.noConfusion
      have hrelation := hoption.field (agree "relation") rfl rfl
      have hwhole := told_string.field (agree "entity") rfl rfl
      rw [hrelation, hwhole]
    | _ => simp [word] at hword

/-! ## Rules -/

theorem RequirementCardinality.told : Told RequirementCardinality :=
  told_of_reads (fun _ => rfl) RequirementCardinality.decode?_encode

theorem ApplicabilityCardinality.told : Told ApplicabilityCardinality :=
  told_of_reads (fun _ => rfl) ApplicabilityCardinality.decode?_encode

theorem Dialect.told : Told Dialect := told_of_reads (fun _ => rfl) Dialect.decode?_encode

theorem FacetGroup.isRecord (g : FacetGroup) : (encode g).IsRecord :=
  ⟨_, rfl, by cases g.options <;> simp [ifAny]⟩

theorem FacetGroup.told : Told FacetGroup := by
  intro g k h
  have agree := agreeOn_of_sorted_eq h g.isRecord k.isRecord
  have hname := told_string.field (agree "name") rfl rfl
  have hdescription := told_string.field (agree "description") rfl rfl
  have hfacets := (told_list Facet.told).field (agree "facets") rfl rfl
  have hoptions := RequirementCardinality.told.fieldOfAny (agree "options") rfl rfl
  obtain ⟨_, _, _, _⟩ := g
  obtain ⟨_, _, _, _⟩ := k
  exact FacetGroup.mk.injEq .. ▸ ⟨hname, hdescription, hfacets, hoptions⟩

theorem Specification.isRecord (s : Specification) : (encode s).IsRecord :=
  ⟨_, rfl, by cases s.instructions <;> simp [ifSome]⟩

/-- The fields of a rule behind the one that may be left out. -/
theorem Specification.get?_encode (s : Specification) :
    (encode s).get? "instructions" = s.instructions.map encode ∧
    (encode s).get? "applicability" = some (encode s.applicability) ∧
    (encode s).get? "applicability_cardinality" = some (encode s.cardinality) ∧
    (encode s).get? "requirement" = some (encode s.requirement) ∧
    (encode s).get? "dialects" = some (encode s.dialects) := by
  obtain ⟨_, _, _, instructions, _, _, _, _⟩ := s
  cases instructions <;> exact ⟨rfl, rfl, rfl, rfl, rfl⟩

theorem Specification.told : Told Specification := by
  intro s t h
  have agree := agreeOn_of_sorted_eq h s.isRecord t.isRecord
  obtain ⟨sInstructions, sApplicability, sCardinality, sRequirement, sDialects⟩ := s.get?_encode
  obtain ⟨tInstructions, tApplicability, tCardinality, tRequirement, tDialects⟩ := t.get?_encode
  have hidentifier := told_string.field (agree "identifier") rfl rfl
  have hname := told_string.field (agree "name") rfl rfl
  have hdescription := told_string.field (agree "description") rfl rfl
  have hinstructions :=
    told_string.fieldOfSome (agree "instructions") sInstructions tInstructions
  have happlicability :=
    FacetGroup.told.field (agree "applicability") sApplicability tApplicability
  have hcardinality := ApplicabilityCardinality.told.field (agree "applicability_cardinality")
    sCardinality tCardinality
  have hrequirement := FacetGroup.told.field (agree "requirement") sRequirement tRequirement
  have hdialects := (told_list Dialect.told).field (agree "dialects") sDialects tDialects
  obtain ⟨_, _, _, _, _, _, _, _⟩ := s
  obtain ⟨_, _, _, _, _, _, _, _⟩ := t
  exact Specification.mk.injEq .. ▸ ⟨hidentifier, hname, hdescription, hinstructions,
    happlicability, hcardinality, hrequirement, hdialects⟩

/-! ## Bundles -/

theorem GroupMetadata.isRecord (m : GroupMetadata) : (encode m).IsRecord :=
  ⟨_, rfl, by cases m.date <;> simp [ifSome]⟩

theorem GroupMetadata.told : Told GroupMetadata := by
  intro m n h
  have agree := agreeOn_of_sorted_eq h m.isRecord n.isRecord
  have get?_date (m : GroupMetadata) : (encode m).get? "date" = m.date.map encode := by
    obtain ⟨_, _, _, _, _, _, _, date⟩ := m
    cases date <;> rfl
  have hname := told_string.field (agree "name") rfl rfl
  have hdescription := told_string.field (agree "description") rfl rfl
  have hauthor := told_string.field (agree "author") rfl rfl
  have hversion := told_string.field (agree "version") rfl rfl
  have hmilestone := told_string.field (agree "milestone") rfl rfl
  have hpurpose := told_string.field (agree "purpose") rfl rfl
  have hcopyright := told_string.field (agree "copyright") rfl rfl
  have hdate := told_string.fieldOfSome (agree "date") (get?_date m) (get?_date n)
  obtain ⟨_, _, _, _, _, _, _, _⟩ := m
  obtain ⟨_, _, _, _, _, _, _, _⟩ := n
  exact GroupMetadata.mk.injEq .. ▸
    ⟨hname, hdescription, hauthor, hversion, hmilestone, hpurpose, hcopyright, hdate⟩

theorem SpecGroup.isRecord (g : SpecGroup) : (encode g).IsRecord := ⟨_, rfl, by simp⟩

theorem SpecGroup.told : Told SpecGroup := by
  intro g k h
  have agree := agreeOn_of_sorted_eq h g.isRecord k.isRecord
  have hmetadata := GroupMetadata.told.field (agree "metadata") rfl rfl
  have hspecifications := (told_list Specification.told).field (agree "specifications") rfl rfl
  obtain ⟨_, _⟩ := g
  obtain ⟨_, _⟩ := k
  exact SpecGroup.mk.injEq .. ▸ ⟨hmetadata, hspecifications⟩

theorem ProjectInfo.isRecord (p : ProjectInfo) : (encode p).IsRecord := ⟨_, rfl, by simp⟩

theorem ProjectInfo.told : Told ProjectInfo := by
  intro p q h
  have agree := agreeOn_of_sorted_eq h p.isRecord q.isRecord
  have hname := told_string.field (agree "name") rfl rfl
  have hdescription := told_string.field (agree "description") rfl rfl
  obtain ⟨_, _⟩ := p
  obtain ⟨_, _⟩ := q
  exact ProjectInfo.mk.injEq .. ▸ ⟨hname, hdescription⟩

theorem Bundle.isRecord (b : Bundle) : (encode b).IsRecord := ⟨_, rfl, by simp⟩

theorem Bundle.told : Told Bundle := by
  intro a b h
  have agree := agreeOn_of_sorted_eq h a.isRecord b.isRecord
  have hname := told_string.field (agree "name") rfl rfl
  have hproject := ProjectInfo.told.field (agree "project") rfl rfl
  have hstages := (told_list told_string).field (agree "stages") rfl rfl
  have hgroups := (told_list SpecGroup.told).field (agree "groups") rfl rfl
  obtain ⟨_, _, _, _⟩ := a
  obtain ⟨_, _, _, _⟩ := b
  exact Bundle.mk.injEq .. ▸ ⟨hname, hproject, hstages, hgroups⟩

end Eir
