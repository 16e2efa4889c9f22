import Eir.Proofs.Sample.Overrides
import Eir.Proofs.Sample.Synthesis
import Eir.Sample.MetadataModel

/-!
# Samples keep their names

After samples were made they are furnished with descriptions, with the data of
components and with identifiers. This changes their values but not their names,
and nothing else (`Sample.Furnishes`).
-/

namespace Eir

open SampleBuilder

/-! ## Samples that are furnished -/

/-- The one sample is the other with more values, and with its name. -/
structure Sample.Furnishes (y x : Sample) : Prop where
  eq : y = { x with values := y.values }
  name : y.name = x.name

namespace Sample.Furnishes

variable {x y z : Sample}

theorem refl (x : Sample) : x.Furnishes x := ⟨rfl, rfl⟩

theorem trans (h : z.Furnishes y) (h' : y.Furnishes x) : z.Furnishes x where
  eq := by
    rw [h.eq, h'.eq]
  name := h.name.trans h'.name

theorem of_values {values : ValueSet} (h : values.get? (.attr "Name") = x.values.get? (.attr "Name")) :
    Sample.Furnishes { x with values } x where
  eq := rfl
  name := congrArg (Option.getD · "") h

theorem tags (h : y.Furnishes x) : y.tags = x.tags := by
  rw [h.eq]

theorem subKind (h : y.Furnishes x) : y.subKind = x.subKind := by
  rw [h.eq]

end Sample.Furnishes

/-- The sample is about no rule, and of no sub-kind. -/
def Sample.Plain (x : Sample) : Prop := x.subKind = none ∧ x.tags = []

namespace SampleSources

theorem plain_sampleOf {entity container : String} {values : ValueSet} :
    (sampleOf entity container values).Plain := ⟨rfl, rfl⟩

theorem withFields_eq (v : ValueSet) (fields : List (Field × String)) :
    withFields v fields = overrideAll v (fields.map fun p => (p.1, some p.2)) := by
  rw [overrideAll, List.foldl_map]
  rfl

/-- The attributes that are added to values with none of them are those of the sum. -/
theorem get?_withFields_attributes {v : ValueSet} {n : String} (hv : v.get? (.attr n) = none)
    (attributes : Texts) :
    (withFields v (attributes.toList.map fun p => (.attr p.1, p.2))).get? (.attr n) =
      attributes[n]? := by
  rw [withFields_eq, List.map_map]
  cases hn : attributes[n]? with
  | none =>
    rw [get?_overrideAll_of_ne, hv]
    intro p hp
    obtain ⟨⟨name, value⟩, hmem, rfl⟩ := List.mem_map.mp hp
    have hname := Std.ExtTreeMap.mem_toList_iff_getElem?_eq_some.mp hmem
    rintro heq
    obtain rfl : name = n := Field.attr.inj heq
    rw [hn] at hname
    cases hname
  | some value =>
    have hmem : (Field.attr n, some value) ∈ attributes.toList.map fun p => (.attr p.1, some p.2) :=
      List.mem_map.mpr ⟨(n, value), Std.ExtTreeMap.mem_toList_iff_getElem?_eq_some.mpr hn, rfl⟩
    refine get?_overrideAll_of_mem ?_ hmem
    refine List.pairwise_map.mpr (Std.ExtTreeMap.distinct_keys_toList.imp fun hne heq => hne ?_)
    rw [Field.attr.inj heq]
    exact Std.ReflCmp.compare_self

theorem get?_component (sequence : Nat) (n : String) :
    (ProductData.component sequence).values.get? (.attr n) = none := by
  simp [ProductData.component, Baseline.ofFields, ValueSet.set, ValueSet.get?, ValueSet.empty]

/-- The furnished values have the old attributes, and a description. -/
theorem furnishes_furnished (s : SampleSources) (x : Sample) (counters : Counters) :
    Sample.Furnishes ((s.furnished x).run counters).1 x := by
  rw [furnished]
  generalize x.typeName.getD (descriptiveLabel x.logicalEntity) = description
  have hdescription : (x.values.set (.attr "Description") description).get? (.attr "Name") =
      x.values.get? (.attr "Name") := (ValueSet.get?_set _ _ _ _).trans (if_neg (by decide))
  generalize x.values.set (.attr "Description") description = values at hdescription
  have hdoor (v : ValueSet) : (v.set (.property ProductData.doorSet "FireRating")
      fireRating).get? (.attr "Name") = v.get? (.attr "Name") := rfl
  have hdata (sequence : Nat) : (withFields (ProductData.component sequence).values
      (values.attributes.toList.map fun p => (.attr p.1, p.2))).get? (.attr "Name") =
        values.get? (.attr "Name") :=
    get?_withFields_attributes (get?_component sequence "Name") values.attributes
  cases s.isA x.entity Rulebook.componentTypes with
  | false =>
    cases hdoors : x.entity.toLower == "ifcdoor" with
    | false => exact .of_values hdescription
    | true => exact .of_values ((hdoor values).trans hdescription)
  | true =>
    cases hdoors : x.entity.toLower == "ifcdoor" with
    | false => exact .of_values ((hdata _).trans hdescription)
    | true => exact .of_values ((hdoor _).trans ((hdata _).trans hdescription))

/-- Identifiers change no names. -/
theorem furnishes_stamped (m : SampleModel) :
    List.Forall₂ Sample.Furnishes m.stamped.samples m.samples := by
  refine List.forall₂_iff_get.mpr ⟨List.length_mapIdx, fun i hi hi' => ?_⟩
  simp only [SampleModel.stamped, List.get_eq_getElem, List.getElem_mapIdx]
  split
  · exact .refl _
  · exact .of_values ((ValueSet.get?_set _ _ _ _).trans (if_neg (by decide)))

end SampleSources

end Eir
