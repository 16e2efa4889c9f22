import Eir.Sample.Values

/-!
# What value sets hold

A field that is set has its value, one that is removed has none, and all other
fields keep theirs, of whatever kinds the two fields are (`get?_set`,
`get?_remove`). Beside its fields a value set shows which sets of properties
there are, empty ones too; two that agree on both are the same (`ext_get?`). So it
can be read off a value set whether a change leaves it as it is (`set_eq_self`,
`remove_eq_self`).
-/

namespace Eir

/-- The value of a field that was given a value. -/
def Field.shown : Field → String → String
  | membership group, _ => group
  | _, value => value

namespace ValueSet

variable {v w : ValueSet} {f : Field}

/-! ## Fields -/

theorem get?_property (v : ValueSet) (set name : String) :
    v.get? (.property set name) = (v.properties.getD set ∅)[name]? := by
  rw [get?, Std.ExtTreeMap.getD_eq_getD_getElem?]
  cases v.properties[set]? with
  | none => exact Std.ExtTreeMap.getElem?_empty.symm
  | some ps => rfl

/-- Of a set of properties that one is removed from, the others stay, if there are any. -/
theorem getElem?_properties_remove (v : ValueSet) (set name other : String) :
    (v.remove (.property set name)).properties[other]? =
      if set = other then (v.properties[set]?.map (·.erase name)).filter (!·.isEmpty)
      else v.properties[other]? := by
  cases hset : v.properties[set]? with
  | none =>
    simp only [remove, hset]
    split
    · rename_i hother
      rw [← hother, hset]
      rfl
    · rfl
  | some ps =>
    simp only [remove, hset, Option.map_some, Option.filter_some]
    cases hlast : (ps.erase name).isEmpty with
    | true =>
      simp only [if_true, Std.ExtTreeMap.getElem?_erase, Std.LawfulEqCmp.compare_eq_iff_eq,
        Bool.not_true, Bool.false_eq_true, if_false]
    | false =>
      simp only [Bool.false_eq_true, if_false, Std.ExtTreeMap.getElem?_insert,
        Std.LawfulEqCmp.compare_eq_iff_eq, Bool.not_false, if_true]

theorem getD_properties_remove (v : ValueSet) (set name other : String) :
    (v.remove (.property set name)).properties.getD other ∅ =
      if set = other then (v.properties.getD set ∅).erase name else v.properties.getD other ∅ := by
  simp only [Std.ExtTreeMap.getD_eq_getD_getElem?, getElem?_properties_remove]
  split
  · cases v.properties[set]? with
    | none => exact Std.ExtTreeMap.erase_empty.symm
    | some ps =>
      simp only [Option.map_some, Option.filter_some, Option.getD_some]
      cases hlast : (ps.erase name).isEmpty with
      | true => exact (Std.ExtTreeMap.isEmpty_iff.mp hlast).symm
      | false => rfl
  · rfl

theorem get?_set (v : ValueSet) (f g : Field) (value : String) :
    (v.set f value).get? g = if f = g then some (f.shown value) else v.get? g := by
  cases f with
  | attr name =>
    cases g with
    | attr name' => simp [ValueSet.set, get?, Field.shown, Std.ExtTreeMap.getElem?_insert]
    | _ => rfl
  | property set name =>
    cases g with
    | property set' name' =>
      -- a set that is not there counts as one without properties, so there is one case for both
      simp only [get?_property, ValueSet.set, Std.ExtTreeMap.getD_insert, Field.property.injEq,
        Std.LawfulEqCmp.compare_eq_iff_eq, Field.shown]
      by_cases hset : set = set' <;> simp [hset, Std.ExtTreeMap.getElem?_insert]
    | _ => rfl
  | classification system =>
    cases g with
    | classification system' =>
      simp [ValueSet.set, get?, Field.shown, Std.ExtTreeMap.getElem?_insert]
    | _ => rfl
  | membership group =>
    cases g with
    | membership group' =>
      by_cases hgroup : group = group' <;> simp [ValueSet.set, get?, Field.shown, hgroup]
    | _ => rfl

theorem get?_remove (v : ValueSet) (f g : Field) :
    (v.remove f).get? g = if f = g then none else v.get? g := by
  cases f with
  | attr name =>
    cases g with
    | attr name' => simp [remove, get?, Std.ExtTreeMap.getElem?_erase]
    | _ => rfl
  | property set name =>
    cases g with
    | property set' name' =>
      simp only [get?_property, getD_properties_remove, Field.property.injEq]
      by_cases hset : set = set' <;> simp [hset, Std.ExtTreeMap.getElem?_erase]
    | _ =>
      rw [remove]
      split <;> rfl
  | classification system =>
    cases g with
    | classification system' => simp [remove, get?, Std.ExtTreeMap.getElem?_erase]
    | _ => rfl
  | membership group =>
    cases g with
    | membership group' => by_cases hgroup : group = group' <;> simp [remove, get?, hgroup]
    | _ => rfl

theorem get?_membership (v : ValueSet) (group : String) :
    v.get? (.membership group) = if group ∈ v.memberships then some group else none := rfl

/-- A value that a field has is shown as it is. -/
theorem shown_of_get? {value : String} (h : v.get? f = some value) : f.shown value = value := by
  cases f with
  | membership group =>
    rw [get?_membership] at h
    split at h
    · exact Option.some.inj h
    · cases h
  | _ => rfl

/-! ## Sets of properties -/

/-- A set of properties is there after a field was set if it was, or if the field is in it. -/
theorem mem_properties_set {set : String} (value : String) :
    set ∈ (v.set f value).properties ↔ set ∈ v.properties ∨ ∃ name, f = .property set name := by
  cases f with
  | property set' name =>
    simp only [ValueSet.set, Std.ExtTreeMap.mem_insert, Std.LawfulEqCmp.compare_eq_iff_eq,
      Field.property.injEq]
    constructor
    · rintro (rfl | hmem)
      · exact .inr ⟨name, rfl, rfl⟩
      · exact .inl hmem
    · rintro (hmem | ⟨_, rfl, rfl⟩)
      · exact .inr hmem
      · exact .inl rfl
  | _ => simp [ValueSet.set]

/-- A set of properties is there after a field was removed if it was, unless the field is in it and
none is left. -/
theorem mem_properties_remove {set : String} :
    set ∈ (v.remove f).properties ↔ set ∈ v.properties ∧
      ∀ name, f = .property set name → (v.properties.getD set ∅).erase name ≠ ∅ := by
  cases f with
  | property set' name =>
    simp only [Std.ExtTreeMap.mem_iff_isSome_getElem?, getElem?_properties_remove,
      Std.ExtTreeMap.getD_eq_getD_getElem?, Field.property.injEq]
    split
    · rename_i hset
      subst hset
      cases v.properties[set']? with
      | none => simp
      | some ps =>
        rw [Option.map_some, Option.filter_some, Option.getD_some]
        cases hlast : (ps.erase name).isEmpty with
        | true =>
          exact iff_of_false Bool.false_ne_true fun h =>
            h.2 name ⟨rfl, rfl⟩ (Std.ExtTreeMap.isEmpty_iff.mp hlast)
        | false =>
          refine iff_of_true rfl ⟨rfl, ?_⟩
          rintro _ ⟨-, rfl⟩
          exact Std.ExtTreeMap.isEmpty_eq_false_iff.mp hlast
    · rename_i hset
      simp [hset]
  | _ => simp [remove]

/-- Value sets are the same if they have the same fields and the same sets of properties. -/
theorem ext_get? (hget : ∀ f, v.get? f = w.get? f)
    (hsets : ∀ set, set ∈ v.properties ↔ set ∈ w.properties) : v = w := by
  have hattributes : v.attributes = w.attributes :=
    Std.ExtTreeMap.ext_getElem? fun name => hget (.attr name)
  have hproperties : v.properties = w.properties := by
    refine Std.ExtTreeMap.ext_getElem? fun set => ?_
    have hmem := hsets set
    have hprops : v.properties.getD set ∅ = w.properties.getD set ∅ := by
      refine Std.ExtTreeMap.ext_getElem? fun name => ?_
      rw [← get?_property, ← get?_property]
      exact hget (.property set name)
    simp only [Std.ExtTreeMap.mem_iff_isSome_getElem?] at hmem
    simp only [Std.ExtTreeMap.getD_eq_getD_getElem?] at hprops
    cases hv : v.properties[set]? <;> cases hw : w.properties[set]? <;> simp_all
  have hclassifications : v.classifications = w.classifications :=
    Std.ExtTreeMap.ext_getElem? fun system => hget (.classification system)
  have hmemberships : v.memberships = w.memberships := by
    refine Std.ExtTreeSet.ext_mem fun group => ?_
    have hgroup := hget (.membership group)
    simp only [get?] at hgroup
    split at hgroup <;> split at hgroup <;> simp_all
  cases v
  cases w
  cases hattributes
  cases hproperties
  cases hclassifications
  cases hmemberships
  rfl

/-- There is no set of properties without properties. -/
def Pruned (v : ValueSet) : Prop := ∀ set : String, v.properties[set]? ≠ some ∅

theorem pruned_empty : empty.Pruned := fun _ h => by simp [empty] at h

theorem Pruned.set (h : v.Pruned) (f : Field) (value : String) : (v.set f value).Pruned := by
  cases f with
  | property set name =>
    intro other hother
    simp only [ValueSet.set, Std.ExtTreeMap.getElem?_insert] at hother
    split at hother
    · exact Std.ExtTreeMap.insert_ne_empty (Option.some.inj hother)
    · exact h other hother
  | _ => exact h

theorem Pruned.remove (h : v.Pruned) (f : Field) : (v.remove f).Pruned := by
  cases f with
  | property set name =>
    intro other hother
    rw [getElem?_properties_remove] at hother
    split at hother
    · simp at hother
    · exact h other hother
  | _ => exact h

/-- The field is in a set of properties that is there without properties. -/
def InEmptySet (v : ValueSet) (f : Field) : Prop :=
  ∃ set name, f = .property set name ∧ v.properties[set]? = some ∅

theorem get?_of_inEmptySet (h : v.InEmptySet f) : v.get? f = none := by
  obtain ⟨set, name, rfl, hset⟩ := h
  rw [get?, hset, Option.bind_some, Std.ExtTreeMap.getElem?_empty]

/-! ## Changes that change nothing -/

/-- Setting a field changes nothing just when it has its value already. -/
theorem set_eq_self {value : String} : v.set f value = v ↔ v.get? f = some (f.shown value) := by
  constructor
  · intro h
    have hget := get?_set v f f value
    rwa [h, if_pos rfl] at hget
  · intro h
    refine ext_get? (fun g => ?_) fun set => ?_
    · rw [get?_set]
      split
      · rename_i hfield
        rw [← hfield, h]
      · rfl
    · rw [mem_properties_set, or_iff_left_of_imp]
      rintro ⟨name, rfl⟩
      rw [get?] at h
      obtain ⟨ps, hps, -⟩ := Option.bind_eq_some_iff.mp h
      rw [Std.ExtTreeMap.mem_iff_isSome_getElem?, hps, Option.isSome_some]

/-- Removing a field changes nothing just when it has no value and is in no set without properties,
which would go. -/
theorem remove_eq_self : v.remove f = v ↔ v.get? f = none ∧ ¬ v.InEmptySet f := by
  constructor
  · intro h
    have hget := get?_remove v f f
    rw [h, if_pos rfl] at hget
    refine ⟨hget, ?_⟩
    rintro ⟨set, name, rfl, hset⟩
    have hmem : set ∈ (v.remove (.property set name)).properties := by
      rw [h, Std.ExtTreeMap.mem_iff_isSome_getElem?, hset, Option.isSome_some]
    refine (mem_properties_remove.mp hmem).2 name rfl ?_
    rw [Std.ExtTreeMap.getD_eq_getD_getElem?, hset, Option.getD_some, Std.ExtTreeMap.erase_empty]
  · rintro ⟨hnone, hsets⟩
    refine ext_get? (fun g => ?_) fun set => ?_
    · rw [get?_remove]
      split
      · rename_i hfield
        rw [← hfield, hnone]
      · rfl
    · rw [mem_properties_remove, and_iff_left_iff_imp]
      rintro hmem name rfl hlast
      obtain ⟨ps, hps⟩ := Option.isSome_iff_exists.mp
        (Std.ExtTreeMap.mem_iff_isSome_getElem?.mp hmem)
      rw [get?, hps, Option.bind_some] at hnone
      rw [Std.ExtTreeMap.getD_eq_getD_getElem?, hps, Option.getD_some] at hlast
      -- the field is not among the properties, so those without it are all of them
      have hempty : ps = ∅ := (Std.ExtTreeMap.eq_empty_iff_erase_eq_empty_and_not_mem name).mpr
        ⟨hlast, fun hname => by simp [Std.ExtTreeMap.mem_iff_isSome_getElem?, hnone] at hname⟩
      exact hsets ⟨set, name, rfl, hempty ▸ hps⟩

end ValueSet

end Eir
