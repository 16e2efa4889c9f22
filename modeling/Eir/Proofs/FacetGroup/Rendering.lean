import Eir.FacetGroup
import Eir.Proofs.FacetGroup.ConstraintText

/-!
# Groups that are told apart by their text

`decode` joins free texts with words and signs that free texts may hold as well,
so groups with different facets can have the same text. A facet is `Plain` when
none of its texts holds what would end it. Plain groups without options have the
same text only if they have the same facets (`facets_eq_of_decode_eq`).

The text of a plain facet can be told from what follows it: nothing, or the next
facet (`Follows`). So each lemma here takes the first facet off two equal texts,
and in it one part after the other.
-/

namespace Eir

open Text

variable {r s : List Char}

/-! ## Facets -/

namespace Facet

open Constraint

/-- No text of the facet holds the blank or the sign that ends it. A property set is not given
by a range, which could go on behind the point. -/
def Plain : Facet → Prop
  | entity types predefinedType => types.Plain ∧ ∀ c ∈ predefinedType, c.Plain
  | attr name value => ' ' ∉ name.toList ∧ ∀ c ∈ value, c.Plain
  | property set name value dataType =>
    set.Plain ∧ (∀ b, set ≠ .range b) ∧ name.Plain ∧ (∀ c ∈ value, c.Plain) ∧
      ∀ t ∈ dataType, ')' ∉ t.toList
  | classification system value => (∀ c ∈ system, c.Plain) ∧ ∀ c ∈ value, c.Plain
  | partOf _ whole => ' ' ∉ whole.toList

/-- The text ends, or the next facet follows. -/
def Follows (r : List Char) : Prop := r = [] ∨ ∃ t, r = " AND ".toList ++ t

theorem Follows.ends (h : Follows r) : Ends r := by
  rcases h with rfl | ⟨t, rfl⟩
  · exact .inl rfl
  · simp [Ends]

/-- The words open a further part of a facet: they end what is before them, and the next facet
does not begin with them. -/
structure Opens (opening : List Char) : Prop where
  ne_nil : opening ≠ []
  ends : ∀ t, Ends (opening ++ t)
  next : ∀ t, ¬ opening <+: " AND ".toList ++ t

theorem Opens.not_prefix {opening : List Char} (ho : Opens opening) (h : Follows r) :
    ¬ opening <+: r := by
  rcases h with rfl | ⟨t, rfl⟩
  · simpa using ho.ne_nil
  · exact ho.next t

theorem opens_predefinedType : Opens " and predefined type ".toList :=
  ⟨by simp, by simp [Ends], by simp⟩

theorem opens_value : Opens " = ".toList := ⟨by simp, by simp [Ends], by simp⟩

theorem opens_dataType : Opens " (".toList := ⟨by simp, by simp [Ends], by simp⟩

theorem opens_code : Opens " as ".toList := ⟨by simp, by simp [Ends], by simp⟩

theorem opens_relation : Opens " through ".toList := ⟨by simp, by simp [Ends], by simp⟩

/-- A part that need not be there and is given by a constraint. -/
theorem constraint_cancel {opening : List Char} {a b : Option Constraint}
    (ha : ∀ c ∈ a, c.Plain) (hb : ∀ c ∈ b, c.Plain) (hre : Ends r) (hse : Ends s)
    (hr : ¬ opening <+: r) (hs : ¬ opening <+: s)
    (h : optionalText opening (fun c => c.short.toList) a ++ r =
      optionalText opening (fun c => c.short.toList) b ++ s) : a = b ∧ r = s :=
  optionalText_cancel (fun c hc d hd => short_cancel (ha c hc) (hb d hd) (hre.stops c)
    (hse.stops d)) hr hs h

theorem word_cancel {v w : String} (hv : ' ' ∉ v.toList) (hw : ' ' ∉ w.toList) (hr : Ends r)
    (hs : Ends s) (h : v.toList ++ r = w.toList ++ s) : v = w ∧ r = s := by
  have hfree {v : String} (hv : ' ' ∉ v.toList) : ∀ c ∈ v.toList, ¬ c = ' ' :=
    fun c hc he => hv (he ▸ hc)
  obtain ⟨hvw, hrs⟩ := append_cancel (hfree hv) (hfree hw) hr.stopsAt hs.stopsAt h
  exact ⟨String.toList_inj.mp hvw, hrs⟩

/-- A part that need not be there, behind its opening words. -/
def optionalPart {α : Type} (opening : String) (text : α → String) : Option α → String
  | some a => opening ++ text a
  | none => ""

theorem toList_optionalPart {α : Type} (opening : String) (text : α → String) (o : Option α) :
    (optionalPart opening text o).toList =
      Text.optionalText opening.toList (fun a => (text a).toList) o := by
  cases o <;> simp [optionalPart, Text.optionalText]

theorem describe_entity (types : Constraint) (p : Option Constraint) :
    (entity types p).describe =
      "of entity " ++ types.short ++ optionalPart " and predefined type " Constraint.short p := by
  cases p <;> rfl

theorem describe_attr (name : String) (value : Option Constraint) :
    (attr name value).describe =
      "with attribute " ++ name ++ optionalPart " = " Constraint.short value := by
  cases value <;> rfl

theorem describe_property (set name : Constraint) (value : Option Constraint)
    (dataType : Option String) :
    (property set name value dataType).describe =
      "with property " ++ set.short ++ "." ++ name.short ++
        optionalPart " = " Constraint.short value ++
          optionalPart " (" (fun t => t ++ ")") dataType := by
  cases value <;> cases dataType <;> rfl

theorem describe_classification (system value : Option Constraint) :
    (classification system value).describe =
      "classified by " ++ (system.map Constraint.short).getD "any system" ++
        optionalPart " as " Constraint.short value := by
  cases value <;> rfl

theorem describe_partOf (relation : Option Relation) (whole : String) :
    (partOf relation whole).describe =
      "part of " ++ whole ++ optionalPart " through " Relation.name relation := by
  cases relation <;> rfl

theorem entity_cancel {types types' : Constraint} {p p' : Option Constraint}
    (hf : (entity types p).Plain) (hg : (entity types' p').Plain) (hr : Follows r)
    (hs : Follows s)
    (h : (entity types p).describe.toList ++ r = (entity types' p').describe.toList ++ s) :
    entity types p = entity types' p' ∧ r = s := by
  rw [describe_entity, describe_entity] at h
  simp only [String.toList_append, toList_optionalPart, List.append_assoc,
    List.append_cancel_left_eq] at h
  obtain ⟨rfl, hrest⟩ := short_cancel hf.1 hg.1
    (Ends.stops (hr.ends.optionalText _ _ opens_predefinedType.ends) _)
    (Ends.stops (hs.ends.optionalText _ _ opens_predefinedType.ends) _) h
  obtain ⟨rfl, hrs⟩ := constraint_cancel hf.2 hg.2 hr.ends hs.ends
    (opens_predefinedType.not_prefix hr) (opens_predefinedType.not_prefix hs) hrest
  exact ⟨rfl, hrs⟩

theorem attr_cancel {name name' : String} {value value' : Option Constraint}
    (hf : (attr name value).Plain) (hg : (attr name' value').Plain) (hr : Follows r)
    (hs : Follows s)
    (h : (attr name value).describe.toList ++ r = (attr name' value').describe.toList ++ s) :
    attr name value = attr name' value' ∧ r = s := by
  rw [describe_attr, describe_attr] at h
  simp only [String.toList_append, toList_optionalPart, List.append_assoc,
    List.append_cancel_left_eq] at h
  obtain ⟨rfl, hrest⟩ := word_cancel hf.1 hg.1 (hr.ends.optionalText _ _ opens_value.ends)
    (hs.ends.optionalText _ _ opens_value.ends) h
  obtain ⟨rfl, hrs⟩ := constraint_cancel hf.2 hg.2 hr.ends hs.ends (opens_value.not_prefix hr)
    (opens_value.not_prefix hs) hrest
  exact ⟨rfl, hrs⟩

theorem dataType_cancel {t u : Option String} (ht : ∀ a ∈ t, ')' ∉ a.toList)
    (hu : ∀ a ∈ u, ')' ∉ a.toList) (hr : Follows r) (hs : Follows s)
    (h : Text.optionalText " (".toList (fun a => a.toList ++ ")".toList) t ++ r =
      Text.optionalText " (".toList (fun a => a.toList ++ ")".toList) u ++ s) :
    t = u ∧ r = s := by
  refine optionalText_cancel (fun a ha b hb hab => ?_) (opens_dataType.not_prefix hr)
    (opens_dataType.not_prefix hs) h
  rw [List.append_assoc, List.append_assoc] at hab
  obtain ⟨hab, hrs⟩ := closed_cancel (ht a ha) (hu b hb) hab
  exact ⟨String.toList_inj.mp hab, hrs⟩

theorem property_cancel {set name set' name' : Constraint} {value value' : Option Constraint}
    {t t' : Option String} (hf : (property set name value t).Plain)
    (hg : (property set' name' value' t').Plain) (hr : Follows r) (hs : Follows s)
    (h : (property set name value t).describe.toList ++ r =
      (property set' name' value' t').describe.toList ++ s) :
    property set name value t = property set' name' value' t' ∧ r = s := by
  obtain ⟨hset, hrange, hname, hvalue, ht⟩ := hf
  obtain ⟨hset', hrange', hname', hvalue', ht'⟩ := hg
  have hends {r : List Char} (hr : Follows r) (t : Option String) :
      Ends (Text.optionalText " (".toList (fun a => a.toList ++ ")".toList) t ++ r) :=
    hr.ends.optionalText _ t opens_dataType.ends
  have hpoint {c : Constraint} (hc : ∀ b, c ≠ .range b) (t : List Char) :
      c.Stops (".".toList ++ t) := by
    cases c with
    | range b => exact absurd rfl (hc b)
    | length lo hi => exact stopsAt_cons (by decide)
    | _ => trivial
  have hnot {r : List Char} (hr : Follows r) (t : Option String) : ¬ " = ".toList <+:
      Text.optionalText " (".toList (fun a => a.toList ++ ")".toList) t ++ r := by
    cases t with
    | none => exact opens_value.not_prefix hr
    | some a => simp [Text.optionalText]
  rw [describe_property, describe_property] at h
  simp only [String.toList_append, toList_optionalPart, List.append_assoc,
    List.append_cancel_left_eq] at h
  obtain ⟨rfl, hrest⟩ := short_cancel hset hset' (hpoint hrange _) (hpoint hrange' _) h
  obtain ⟨rfl, hoptions⟩ := short_cancel hname hname'
    (Ends.stops ((hends hr t).optionalText _ _ opens_value.ends) _)
    (Ends.stops ((hends hs t').optionalText _ _ opens_value.ends) _)
    (List.append_cancel_left hrest)
  obtain ⟨rfl, hmeasure⟩ := constraint_cancel hvalue hvalue' (hends hr t) (hends hs t') (hnot hr t)
    (hnot hs t') hoptions
  obtain ⟨rfl, hrs⟩ := dataType_cancel ht ht' hr hs hmeasure
  exact ⟨rfl, hrs⟩

/-- Any system is written like a range without bounds, with a word behind it. -/
theorem toList_system (system : Option Constraint) :
    ((system.map Constraint.short).getD "any system").toList =
      (system.getD (.range ⟨none, false, none, false⟩)).short.toList ++
        if system.isSome then [] else " system".toList := by
  cases system with
  | none => simp [short, Bounds.short, Bounds.lowerText, Bounds.upperText]
  | some c => simp

theorem system_cancel {a b : Option Constraint} (ha : ∀ c ∈ a, c.Plain) (hb : ∀ c ∈ b, c.Plain)
    (hr : Ends r) (hs : Ends s) (hnr : ¬ " system".toList <+: r) (hns : ¬ " system".toList <+: s)
    (h : ((a.map Constraint.short).getD "any system").toList ++ r =
      ((b.map Constraint.short).getD "any system").toList ++ s) : a = b ∧ r = s := by
  have hplain {o : Option Constraint} (ho : ∀ c ∈ o, c.Plain) :
      (o.getD (.range ⟨none, false, none, false⟩)).Plain := by
    cases o with
    | none => exact ⟨by simp, by simp, fun _ => rfl, fun _ => rfl⟩
    | some c => exact ho c rfl
  have hends {r : List Char} (o : Option Constraint) (hr : Ends r) :
      Ends ((if o.isSome then [] else " system".toList) ++ r) := by
    cases o with
    | none => simp [Ends]
    | some c => exact hr
  rw [toList_system, toList_system, List.append_assoc, List.append_assoc] at h
  obtain ⟨hab, hrest⟩ := short_cancel (hplain ha) (hplain hb) ((hends a hr).stops _)
    ((hends b hs).stops _) h
  cases a with
  | none =>
    cases b with
    | none => exact ⟨rfl, List.append_cancel_left hrest⟩
    | some d => exact absurd ⟨r, hrest⟩ hns
  | some c =>
    cases b with
    | none => exact absurd ⟨s, hrest.symm⟩ hnr
    | some d => exact ⟨congrArg some hab, hrest⟩

theorem classification_cancel {system system' value value' : Option Constraint}
    (hf : (classification system value).Plain) (hg : (classification system' value').Plain)
    (hr : Follows r) (hs : Follows s)
    (h : (classification system value).describe.toList ++ r =
      (classification system' value').describe.toList ++ s) :
    classification system value = classification system' value' ∧ r = s := by
  have hsystem {r : List Char} (hr : Follows r) (value : Option Constraint) :
      ¬ " system".toList <+:
        Text.optionalText " as ".toList (fun c => c.short.toList) value ++ r := by
    cases value with
    | none => rcases hr with rfl | ⟨t, rfl⟩ <;> simp [Text.optionalText]
    | some c => simp [Text.optionalText]
  rw [describe_classification, describe_classification] at h
  simp only [String.toList_append, toList_optionalPart, List.append_assoc,
    List.append_cancel_left_eq] at h
  obtain ⟨rfl, hrest⟩ := system_cancel hf.1 hg.1 (hr.ends.optionalText _ _ opens_code.ends)
    (hs.ends.optionalText _ _ opens_code.ends) (hsystem hr value) (hsystem hs value') h
  obtain ⟨rfl, hrs⟩ := constraint_cancel hf.2 hg.2 hr.ends hs.ends (opens_code.not_prefix hr)
    (opens_code.not_prefix hs) hrest
  exact ⟨rfl, hrs⟩

theorem relation_cancel {a b : Relation} (hr : Ends r) (hs : Ends s)
    (h : a.name.toList ++ r = b.name.toList ++ s) : a = b ∧ r = s := by
  have hfree (a : Relation) : ' ' ∉ a.name.toList := by cases a <;> simp [Relation.name]
  obtain ⟨hab, hrs⟩ := word_cancel (hfree a) (hfree b) hr hs h
  refine ⟨?_, hrs⟩
  cases a <;> cases b <;> first | rfl | simp [Relation.name] at hab

theorem partOf_cancel {a b : Option Relation} {whole whole' : String}
    (hf : (partOf a whole).Plain) (hg : (partOf b whole').Plain) (hr : Follows r)
    (hs : Follows s)
    (h : (partOf a whole).describe.toList ++ r = (partOf b whole').describe.toList ++ s) :
    partOf a whole = partOf b whole' ∧ r = s := by
  rw [describe_partOf, describe_partOf] at h
  simp only [String.toList_append, toList_optionalPart, List.append_assoc,
    List.append_cancel_left_eq] at h
  obtain ⟨rfl, hrest⟩ := word_cancel hf hg (hr.ends.optionalText _ _ opens_relation.ends)
    (hs.ends.optionalText _ _ opens_relation.ends) h
  obtain ⟨rfl, hrs⟩ := optionalText_cancel (fun x _ y _ => relation_cancel hr.ends hs.ends)
    (opens_relation.not_prefix hr) (opens_relation.not_prefix hs) hrest
  exact ⟨rfl, hrs⟩

/-- The words with which the description of a facet begins. -/
def opening : Facet → String
  | entity .. => "of entity "
  | attr .. => "with attribute "
  | property .. => "with property "
  | classification .. => "classified by "
  | partOf .. => "part of "

theorem toList_describe (f : Facet) : ∃ t, f.describe.toList = f.opening.toList ++ t := by
  cases f with
  | entity types p =>
    rw [describe_entity, String.append_assoc, String.toList_append]
    exact ⟨_, rfl⟩
  | attr name value =>
    rw [describe_attr, String.append_assoc, String.toList_append]
    exact ⟨_, rfl⟩
  | property set name value t =>
    rw [describe_property]
    simp only [String.append_assoc]
    rw [String.toList_append]
    exact ⟨_, rfl⟩
  | classification system value =>
    rw [describe_classification, String.append_assoc, String.toList_append]
    exact ⟨_, rfl⟩
  | partOf relation whole =>
    rw [describe_partOf, String.append_assoc, String.toList_append]
    exact ⟨_, rfl⟩

/-- The opening words tell the kinds of facets apart. -/
theorem opening_eq {f g : Facet} (h : f.describe.toList ++ r = g.describe.toList ++ s) :
    f.opening = g.opening := by
  obtain ⟨t, ht⟩ := f.toList_describe
  obtain ⟨u, hu⟩ := g.toList_describe
  rw [ht, hu, List.append_assoc, List.append_assoc] at h
  clear ht hu
  cases f <;> cases g <;> first | rfl | simp [opening] at h

theorem describe_cancel {f g : Facet} (hf : f.Plain) (hg : g.Plain) (hr : Follows r)
    (hs : Follows s) (h : f.describe.toList ++ r = g.describe.toList ++ s) : f = g ∧ r = s := by
  have hwords := opening_eq h
  cases f with
  | entity =>
    cases g with
    | entity => exact entity_cancel hf hg hr hs h
    | _ => simp [opening] at hwords
  | attr =>
    cases g with
    | attr => exact attr_cancel hf hg hr hs h
    | _ => simp [opening] at hwords
  | property =>
    cases g with
    | property => exact property_cancel hf hg hr hs h
    | _ => simp [opening] at hwords
  | classification =>
    cases g with
    | classification => exact classification_cancel hf hg hr hs h
    | _ => simp [opening] at hwords
  | partOf =>
    cases g with
    | partOf => exact partOf_cancel hf hg hr hs h
    | _ => simp [opening] at hwords

end Facet

/-! ## Groups -/

namespace FacetGroup

open Facet

/-- The facets can be read off the text: there are no options, every facet is plain, and the
name, which stands in for missing facets, does not look like facets. -/
structure Plain (g : FacetGroup) : Prop where
  options : g.options = []
  facets : ∀ f ∈ g.facets, f.Plain
  name : g.facets = [] → ¬ "All elements ".toList <+: g.name.toList

theorem Plain.toList_decode {g : FacetGroup} (hg : g.Plain) (hne : g.facets ≠ []) :
    g.decode.toList = "All elements ".toList ++
      joinedText " AND ".toList (fun f => f.describe.toList) g.facets := by
  have hempty : g.facets.isEmpty = false := by simpa using hne
  have hoptions : ", ".intercalate (g.options.map RequirementCardinality.name) = "" := by
    rw [hg.options]
    rfl
  rw [decode, hempty, hoptions, String.append_empty]
  simp only [Bool.false_eq_true, if_false, String.toList_append, toList_intercalate_map]

/-- A group without facets is told apart from one with facets. -/
theorem Plain.facets_ne_nil {g k : FacetGroup} (hg : g.Plain) (hk : k.Plain)
    (h : g.decode = k.decode) (hne : g.facets ≠ []) : k.facets ≠ [] := by
  intro hnil
  have hname : k.decode = k.name := by simp [decode, hnil]
  refine hk.name hnil ?_
  rw [← hname, ← h, hg.toList_decode hne]
  exact List.prefix_append _ _

/-- Plain groups with the same text have the same facets. -/
theorem facets_eq_of_decode_eq {g k : FacetGroup} (hg : g.Plain) (hk : k.Plain)
    (h : g.decode = k.decode) : g.facets = k.facets := by
  by_cases hgf : g.facets = []
  · by_cases hkf : k.facets = []
    · rw [hgf, hkf]
    · exact absurd hgf (hk.facets_ne_nil hg h.symm hkf)
  · have hkf := hg.facets_ne_nil hk h hgf
    have htext := congrArg String.toList h
    rw [hg.toList_decode hgf, hk.toList_decode hkf] at htext
    have hjoined := congrArg (· ++ ([] : List Char)) (List.append_cancel_left htext)
    obtain ⟨hfacets, -⟩ := joinedText_cancel Follows
      (fun f hf f' hf' _ _ hr hs => describe_cancel (hg.facets f hf) (hk.facets f' hf') hr hs)
      (fun t => .inr ⟨t, rfl⟩) (.inl rfl) (.inl rfl) (by simp) (by simp) (by simp [hgf, hkf])
      hjoined
    exact hfacets

end FacetGroup

end Eir
