import Eir.Json.Codec
import Eir.Sample.Model
import Eir.Specification
import Mathlib.Logic.Function.Basic

/-!
# Bundles and sample models in JSON

The members of an object are read one after the other (`reads_bind`), and each of
them comes back if the value under its name does: a required one
(`required_of_get?`), one that is left out or null when there is none
(`optional_of_get?`, `optionalBy_of_get?`), and a list that is left out when it
is empty (`orElse_of_get?`). Lists and numbers of 64 bits come back too
(`decode?_encode_list`, `decode?_encode_nat`).

So what is written for a bundle or for a sample model reads back as the same one, and
different ones are written differently (`documents_read_back`). The numbers in
them are the lengths of constraints and the positions of samples, which have 64
bits.
-/

namespace Eir

namespace Json

/-- One step of a reader: what it reads first, and what the rest makes of that. -/
theorem reads_bind {α β : Type} {x : Option α} {a : α} {f : α → Option β} {b : β}
    (hx : x = some a) (hf : f a = some b) : (x >>= f) = some b := by
  rw [hx]
  exact hf

/-! ## Values -/

theorem decode?_encode_nat {n : Nat} (h : n < UInt64.size) : decode? (encode n) = some n := by
  show natBelow? (1 <<< 64) (.num (.ofNat n)) = some n
  exact if_pos h

/-- Items that come back one by one come back together. -/
theorem mapM_map_of {α β : Type} {f : α → β} {g : β → Option α} {xs : List α}
    (h : ∀ x ∈ xs, g (f x) = some x) : (xs.map f).mapM g = some xs := by
  induction xs with
  | nil => rfl
  | cons x xs ih =>
    obtain ⟨hx, hxs⟩ := List.forall_mem_cons.mp h
    simp [List.mapM_cons, hx, ih hxs]

theorem decode?_encode_list {α : Type} [Encode α] [Decode α] {xs : List α}
    (h : ∀ x ∈ xs, decode? (encode x) = some x) : decode? (encode xs) = some xs :=
  mapM_map_of h

theorem decode?_encode_strings (xs : List String) : decode? (encode xs) = some xs :=
  decode?_encode_list fun _ _ => rfl

/-! ## Members -/

variable {α : Type} {j : Json} {key : String}

theorem required_of_get? [Encode α] [Decode α] {x : α} (hj : j.get? key = some (encode x))
    (hx : decode? (encode x) = some x) : required j key = some x := by
  rw [required, hj]
  exact hx

theorem optional_of_get? {x : Option String} (hj : j.get? key = x.map .str) :
    optional j key = some x := by
  rw [optional, hj]
  cases x <;> rfl

theorem optionalBy_of_get? [Encode α] {read : Json → Option α} {x : Option α}
    (hj : j.get? key = x.map encode)
    (hx : ∀ y ∈ x, encode y ≠ .null ∧ read (encode y) = some y) :
    optionalBy read j key = some x := by
  rw [optionalBy, hj]
  cases x with
  | none => rfl
  | some y =>
    obtain ⟨hne, hy⟩ := hx y rfl
    cases h : encode y <;> simp_all

theorem lookup_ifAny_of_ne [Encode α] {k : String} (h : k ≠ key) (xs : List α) :
    (ifAny key xs).lookup k = none := by
  cases xs <;> simp [ifAny, List.lookup_cons, beq_false_of_ne h]

theorem orElse_of_get? [Encode α] [Decode α] {xs : List α}
    (hj : j.get? key = (ifAny key xs).lookup key) (hxs : decode? (encode xs) = some xs) :
    orElse j key [] = some xs := by
  rw [orElse, hj]
  cases xs with
  | nil => rfl
  | cons x xs => simpa [ifAny] using hxs

end Json

open Json

/-! ## Rules -/

theorem RequirementCardinality.decode?_encode (c : RequirementCardinality) :
    decode? (encode c) = some c := by
  cases c <;> rfl

theorem ApplicabilityCardinality.decode?_encode (c : ApplicabilityCardinality) :
    decode? (encode c) = some c := by
  cases c <;> rfl

theorem Dialect.decode?_encode (d : Dialect) : decode? (encode d) = some d := by
  cases d <;> rfl

theorem Bounds.decode?_encode (b : Bounds) : decode? (encode b) = some b := by
  obtain ⟨min, minInclusive, max, maxInclusive⟩ := b
  cases min <;> cases max <;> rfl

/-- The lengths of a constraint are words of 64 bits, as in every constraint a program holds. -/
def Constraint.Fits : Constraint → Prop
  | length lo hi => lo < UInt64.size ∧ hi < UInt64.size
  | _ => True

theorem Constraint.ofContent?_content {c : Constraint} (h : c.Fits) :
    ofContent? c.kind c.content = some c := by
  cases c with
  | exact v => rfl
  | pattern p => rfl
  | list vs => exact congrArg (Option.map list) (decode?_encode_list fun _ _ => rfl)
  | range b => exact congrArg (Option.map range) b.decode?_encode
  | length lo hi =>
    exact reads_bind (decode?_encode_nat h.1) (reads_bind (decode?_encode_nat h.2) rfl)

theorem Constraint.read?_encode (withinTagged : Bool) {c : Constraint} (h : c.Fits) :
    read? withinTagged (encode c) = some c :=
  reads_bind rfl (reads_bind rfl (reads_bind rfl (ofContent?_content h)))

/-- The constraints of a facet. -/
def Facet.constraints : Facet → List Constraint
  | entity types predefinedType => types :: predefinedType.toList
  | attr _ value => value.toList
  | property propertySet name value _ => propertySet :: name :: value.toList
  | classification system value => system.toList ++ value.toList
  | partOf .. => []

/-- The lengths in a facet have 64 bits. -/
def Facet.Fits (f : Facet) : Prop := ∀ c ∈ f.constraints, c.Fits

/-- A constraint that may be missing from a facet. -/
theorem Constraint.optionalBy_encode {j : Json} {key : String} {c : Option Constraint}
    (hj : j.get? key = c.map encode) (h : ∀ d ∈ c.toList, d.Fits) :
    optionalBy (read? true) j key = some c :=
  optionalBy_of_get? hj fun d hd =>
    ⟨Json.noConfusion, read?_encode true (h d (Option.mem_toList.mpr hd))⟩

theorem Facet.decode?_encode {f : Facet} (h : f.Fits) : decode? (encode f) = some f := by
  cases f with
  | entity types predefinedType =>
    obtain ⟨hTypes, hPredefined⟩ := List.forall_mem_cons.mp h
    exact reads_bind rfl <| reads_bind (Constraint.read?_encode true hTypes) <|
      reads_bind (Constraint.optionalBy_encode (by cases predefinedType <;> rfl) hPredefined) rfl
  | attr name value =>
    exact reads_bind rfl <| reads_bind rfl <|
      reads_bind (Constraint.optionalBy_encode (by cases value <;> rfl) h) rfl
  | property propertySet name value dataType =>
    obtain ⟨hSet, hRest⟩ := List.forall_mem_cons.mp h
    obtain ⟨hName, hValue⟩ := List.forall_mem_cons.mp hRest
    have readValue : optionalBy (Constraint.read? true)
        (encode (property propertySet name value dataType)) "value" = some value :=
      Constraint.optionalBy_encode (by cases value <;> cases dataType <;> rfl) hValue
    exact reads_bind rfl <| reads_bind (Constraint.read?_encode true hSet) <|
      reads_bind (Constraint.read?_encode true hName) <| reads_bind readValue <|
      reads_bind (optional_of_get? (by cases value <;> cases dataType <;> rfl)) rfl
  | classification system value =>
    obtain ⟨hSystem, hValue⟩ := List.forall_mem_append.mp h
    exact reads_bind rfl <|
      reads_bind (Constraint.optionalBy_encode (by cases system <;> cases value <;> rfl) hSystem) <|
      reads_bind (Constraint.optionalBy_encode (by cases system <;> cases value <;> rfl) hValue) rfl
  | partOf relation whole =>
    -- no relation is written as null
    cases relation with
    | none => rfl
    | some r => cases r <;> rfl

/-- The lengths in a group of facets have 64 bits. -/
def FacetGroup.Fits (g : FacetGroup) : Prop := ∀ f ∈ g.facets, f.Fits

theorem FacetGroup.decode?_encode {g : FacetGroup} (h : g.Fits) :
    decode? (encode g) = some g := by
  have facets : decode? (encode g.facets) = some g.facets :=
    decode?_encode_list fun f hf => Facet.decode?_encode (h f hf)
  have options : decode? (encode g.options) = some g.options :=
    decode?_encode_list fun c _ => c.decode?_encode
  exact reads_bind rfl <| reads_bind rfl <| reads_bind rfl <|
    reads_bind (required_of_get? rfl facets) <| reads_bind (orElse_of_get? rfl options) rfl

/-- The lengths in a specification have 64 bits. -/
def Specification.Fits (s : Specification) : Prop := s.applicability.Fits ∧ s.requirement.Fits

theorem Specification.decode?_encode {s : Specification} (h : s.Fits) :
    decode? (encode s) = some s := by
  have applicability := FacetGroup.decode?_encode h.1
  have requirement := FacetGroup.decode?_encode h.2
  have dialects : decode? (encode s.dialects) = some s.dialects :=
    decode?_encode_list fun d _ => d.decode?_encode
  obtain ⟨identifier, name, description, instructions, applies, cardinality, requires, ds⟩ := s
  cases instructions <;>
    exact reads_bind rfl <| reads_bind rfl <| reads_bind rfl <| reads_bind rfl <|
      reads_bind rfl <| reads_bind (required_of_get? rfl applicability) <|
      reads_bind cardinality.decode?_encode <| reads_bind (required_of_get? rfl requirement) <|
      reads_bind (required_of_get? rfl dialects) rfl

theorem GroupMetadata.decode?_encode (m : GroupMetadata) : decode? (encode m) = some m := by
  obtain ⟨name, description, author, version, milestone, purpose, copyright, date⟩ := m
  cases date <;> rfl

theorem ProjectInfo.decode?_encode (p : ProjectInfo) : decode? (encode p) = some p := rfl

/-- The lengths in a group have 64 bits. -/
def SpecGroup.Fits (g : SpecGroup) : Prop := ∀ s ∈ g.specifications, s.Fits

theorem SpecGroup.decode?_encode {g : SpecGroup} (h : g.Fits) : decode? (encode g) = some g := by
  have specifications : decode? (encode g.specifications) = some g.specifications :=
    decode?_encode_list fun s hs => Specification.decode?_encode (h s hs)
  exact reads_bind rfl <| reads_bind (required_of_get? rfl g.metadata.decode?_encode) <|
    reads_bind (required_of_get? rfl specifications) rfl

/-- The lengths in a bundle have 64 bits. -/
def Bundle.Fits (b : Bundle) : Prop := ∀ g ∈ b.groups, g.Fits

theorem Bundle.decode?_encode {b : Bundle} (h : b.Fits) : decode? (encode b) = some b := by
  have stages : decode? (encode b.stages) = some b.stages := decode?_encode_strings b.stages
  have groups : decode? (encode b.groups) = some b.groups :=
    decode?_encode_list fun g hg => SpecGroup.decode?_encode (h g hg)
  exact reads_bind rfl <| reads_bind rfl <| reads_bind rfl <|
    reads_bind (required_of_get? rfl stages) <| reads_bind (required_of_get? rfl groups) rfl

/-! ## Samples -/

theorem ofList_toList_map {β : Type} (m : Std.ExtTreeMap String β) :
    Std.ExtTreeMap.ofList m.toList = m := by
  refine Std.ExtTreeMap.ext_getElem? fun k => ?_
  cases h : m[k]? with
  | some v =>
    exact Std.ExtTreeMap.getElem?_ofList_of_mem Std.ReflCmp.compare_self
      Std.ExtTreeMap.distinct_keys_toList (Std.ExtTreeMap.mem_toList_iff_getElem?_eq_some.mpr h)
  | none =>
    refine Std.ExtTreeMap.getElem?_ofList_of_contains_eq_false ?_
    rw [Std.ExtTreeMap.map_fst_toList_eq_keys, ← Bool.not_eq_true, List.contains_iff_mem,
      Std.ExtTreeMap.mem_keys, ← Std.ExtTreeMap.isSome_getElem?_iff_mem, h]
    exact Bool.false_ne_true

theorem ofList_toList_set (s : Std.ExtTreeSet String) : Std.ExtTreeSet.ofList s.toList = s :=
  Std.ExtTreeSet.ext_mem fun k => by
    rw [Std.ExtTreeSet.mem_ofList, List.contains_iff_mem, Std.ExtTreeSet.mem_toList]

/-- The members that a map of texts is written as. -/
def Texts.members (m : Texts) : List (String × Json) := m.toList.map fun (k, t) => (k, .str t)

theorem Texts.texts?_members (m : Texts) : ValueSet.texts? (.obj m.members) = some m := by
  have : stringMembers? (.obj m.members) = some m.toList := mapM_map_of fun _ _ => rfl
  rw [ValueSet.texts?, this, Option.map_some, ofList_toList_map]

namespace ValueSet

/-- The members that the sets of properties are written as. -/
def setMembers (v : ValueSet) : List (String × Json) :=
  v.properties.toList.map fun (set, ps) => (set, .obj ps.members)

theorem encode_eq (v : ValueSet) : encode v = .obj (entries "attributes" v.attributes.members ++
    entries "properties" v.setMembers ++ entries "classifications" v.classifications.members ++
    ifAny "memberships" v.memberships.toList) := rfl

theorem lookup_entries_self (key : String) (ms : List (String × Json)) :
    ((entries key ms).lookup key).getD (.obj []) = .obj ms := by
  cases ms <;> simp [entries]

theorem lookup_entries_of_ne {key k : String} (h : k ≠ key) (ms : List (String × Json)) :
    (entries key ms).lookup k = none := by
  cases ms <;> simp [entries, List.lookup_cons, beq_false_of_ne h]

/-- The members of a value set come back under their own names, also those left out. -/
theorem members_of_encode (v : ValueSet) :
    ((encode v).get? "attributes").getD (.obj []) = .obj v.attributes.members ∧
    ((encode v).get? "properties").getD (.obj []) = .obj v.setMembers ∧
    ((encode v).get? "classifications").getD (.obj []) = .obj v.classifications.members ∧
    (encode v).get? "memberships" =
      (ifAny "memberships" v.memberships.toList).lookup "memberships" := by
  rw [encode_eq]
  simp [Json.get?, List.lookup_append, lookup_entries_self, lookup_entries_of_ne,
    lookup_ifAny_of_ne]

theorem decode?_encode (v : ValueSet) : decode? (encode v) = some v := by
  obtain ⟨hAttributes, hProperties, hClassifications, hMemberships⟩ := v.members_of_encode
  have properties : v.setMembers.mapM (fun p => (texts? p.2).map (p.1, ·)) =
      some v.properties.toList :=
    mapM_map_of fun p _ => congrArg (Option.map (p.1, ·)) p.2.texts?_members
  refine reads_bind rfl <| reads_bind (congrArg members? hProperties) <|
    reads_bind properties <|
    reads_bind (orElse_of_get? hMemberships (decode?_encode_strings _)) <|
    reads_bind ((congrArg texts? hAttributes).trans v.attributes.texts?_members) <|
    reads_bind ((congrArg texts? hClassifications).trans v.classifications.texts?_members) ?_
  show some (⟨_, _, _, _⟩ : ValueSet) = _
  rw [ofList_toList_map, ofList_toList_set]

end ValueSet

theorem Sample.decode?_encode (s : Sample) : decode? (encode s) = some s := by
  have tags : decode? (encode s.tags) = some s.tags := decode?_encode_strings s.tags
  obtain ⟨entity, logicalEntity, subKind, typeName, container, ts, good, domain, values⟩ := s
  -- the members behind an optional one stand in another place when it is left out
  cases subKind <;> cases typeName <;>
    exact reads_bind rfl <| reads_bind rfl <| reads_bind rfl <| reads_bind rfl <|
      reads_bind rfl <| reads_bind rfl <| reads_bind tags <| reads_bind rfl <| reads_bind rfl <|
      reads_bind values.decode?_encode rfl

theorem Stage.decode?_encode (s : Stage) : decode? (encode s) = some s := by
  cases s <;> rfl

theorem CorruptionRecord.decode?_encode {r : CorruptionRecord} (h : r.instance_ < UInt64.size) :
    decode? (encode r) = some r := by
  have position := decode?_encode_nat h
  obtain ⟨i, name, description, tag, changed⟩ := r
  cases tag <;>
    exact reads_bind rfl <| reads_bind position <| reads_bind rfl <| reads_bind rfl <|
      reads_bind rfl rfl

/-- The positions in the log have 64 bits. -/
def SampleModel.Fits (m : SampleModel) : Prop := ∀ r ∈ m.corruptions, r.instance_ < UInt64.size

theorem SampleModel.decode?_encode {m : SampleModel} (h : m.Fits) :
    decode? (encode m) = some m := by
  have samples : decode? (encode m.samples) = some m.samples :=
    decode?_encode_list fun s _ => s.decode?_encode
  have corruptions : decode? (encode m.corruptions) = some m.corruptions :=
    decode?_encode_list fun r hr => CorruptionRecord.decode?_encode (h r hr)
  exact reads_bind rfl <| reads_bind rfl <| reads_bind m.stage.decode?_encode <|
    reads_bind m.schema.decode?_encode <| reads_bind rfl <| reads_bind rfl <| reads_bind rfl <|
    reads_bind (required_of_get? rfl samples) <| reads_bind corruptions rfl

/-! ## Both formats -/

/-- Values that read back are written differently if they are different. -/
theorem Json.eq_of_encode_eq {α : Type} [Encode α] [Decode α] {x y : α}
    (hx : decode? (encode x) = some x) (hy : decode? (encode y) = some y)
    (h : encode x = encode y) : x = y :=
  Option.some.inj (hx.symm.trans ((congrArg decode? h).trans hy))

/-- A bundle and a sample model read back as they were from what they are written as, and
different ones are written as different values. -/
theorem documents_read_back :
    (∀ b : Bundle, b.Fits → decode? (encode b) = some b) ∧
    (∀ m : SampleModel, m.Fits → decode? (encode m) = some m) ∧
    (∀ b c : Bundle, b.Fits → c.Fits → encode b = encode c → b = c) ∧
    (∀ m n : SampleModel, m.Fits → n.Fits → encode m = encode n → m = n) :=
  ⟨fun _ => Bundle.decode?_encode, fun _ => SampleModel.decode?_encode,
    fun _ _ hb hc => eq_of_encode_eq (Bundle.decode?_encode hb) (Bundle.decode?_encode hc),
    fun _ _ hm hn =>
      eq_of_encode_eq (SampleModel.decode?_encode hm) (SampleModel.decode?_encode hn)⟩

/-- The rule that the codes of doors have two to eight letters and no marks. -/
def doorCodes : Specification where
  identifier := "05_03"
  name := "05_03 Doors Should have a code"
  description := ""
  instructions := some "Ask for the list of codes"
  applicability := ⟨"Doors", "", [.entity (.exact "IFCDOOR") none], []⟩
  cardinality := .required
  requirement := ⟨"Codes", "", [.attr "Tag" (some (.length 2 8)),
    .property (.pattern "Pset_.*") (.exact "Mark") (some (.list [])) none,
    .partOf none "IFCBUILDINGSTOREY"], [.expected, .prohibited]⟩
  dialects := [.ifc4]

/-- The bundle of that rule alone. -/
def doorBundle : Bundle :=
  ⟨"Stage5", ⟨"House", ""⟩, ["Stage5"], [⟨.named "Doors", [doorCodes]⟩]⟩

/-- A model of one door, whose name was replaced. -/
def doorModel : SampleModel where
  name := "Doors"
  stage := .stage5
  schema := .ifc4
  project := "House"
  samples := [(Sample.named "IFCDOOR" "Ground" "D1").addTag (some "05_03")]
  corruptions := [⟨0, "D1", "Name", none, true⟩]

theorem door_documents_read_back :
    (doorBundle.Fits ∧ decode? (encode doorBundle) = some doorBundle) ∧
    (doorModel.Fits ∧ decode? (encode doorModel) = some doorModel) ∧
    encode doorModel ≠ encode { doorModel with corruptions := [] } := by
  have bundle : doorBundle.Fits := by
    simp [doorBundle, doorCodes, Bundle.Fits, SpecGroup.Fits, Specification.Fits, FacetGroup.Fits,
      Facet.Fits, Facet.constraints, Constraint.Fits, UInt64.size]
  have model : doorModel.Fits := by simp [doorModel, SampleModel.Fits]
  have unbroken : SampleModel.Fits { doorModel with corruptions := [] } := by
    simp [SampleModel.Fits]
  exact ⟨⟨bundle, documents_read_back.1 doorBundle bundle⟩,
    ⟨model, documents_read_back.2.1 doorModel model⟩, fun h => List.cons_ne_nil _ _ <|
      congrArg SampleModel.corruptions (documents_read_back.2.2.2 _ _ model unbroken h)⟩

end Eir
