import Eir.Proofs.Sample.Values
import Eir.Proofs.Schema.Subtypes
import Eir.Sample.Synthesis
import Mathlib.Data.List.Forall2
import Mathlib.Data.String.Basic

/-!
# Samples come in pairs

What is made for a sub-kind of a type (`Made`): a sample that passes and its
twin that fails (`Twins`), or for the undefined sub-kind just one that fails, if
any. A run over the sub-kinds of a type, and one over types, makes these one
after the other. The types are those below the roots, sorted, each once.
-/

namespace Eir

/-- Two steps with a state that succeed one after the other each succeed. -/
theorem exists_of_run_bind_ok {σ ε α β : Type} {x : StateT σ (Except ε) α}
    {f : α → StateT σ (Except ε) β} {st : σ} {r : β × σ} (h : (x >>= f).run st = .ok r) :
    ∃ a next, x.run st = .ok (a, next) ∧ (f a).run next = .ok r := by
  rw [StateT.run_bind] at h
  obtain ⟨⟨a, next⟩, hx, hf⟩ := exists_of_bind_ok h
  exact ⟨a, next, hx, hf⟩

/-- A step without a state leaves it alone. -/
theorem eq_of_run_lift_ok {σ ε α : Type} {x : Except ε α} {st next : σ} {a : α}
    (h : (liftM x : StateT σ (Except ε) α).run st = .ok (a, next)) : x = .ok a ∧ next = st := by
  cases x with
  | error e => cases h
  | ok a =>
    cases h
    exact ⟨rfl, rfl⟩

namespace Synthesizer

variable {s : Synthesizer} {t : EntityType} {o : Occurrence} {subKind : Option String}

/-! ## The samples of a sub-kind -/

/-- Two samples of a sub-kind that differ in where they are, in whether they pass, and in their
names. -/
structure Twins (s : Synthesizer) (o : Occurrence) (subKind : Option String)
    (good bad : Sample) : Prop where
  passes : good.conforming = true
  fails : bad.conforming = false
  good_container : good.container = s.passContainer
  bad_container : bad.container = s.failContainer
  entity : good.entity = o.concrete.name ∧ bad.entity = o.concrete.name
  logicalEntity : good.logicalEntity = o.logical.name ∧ bad.logicalEntity = o.logical.name
  subKind : good.subKind = subKind ∧ bad.subKind = subKind
  typeName : bad.typeName = good.typeName
  tags : bad.tags = good.tags
  bad_name : ∃ rest, bad.name = invalidNameStart ++ rest

/-- A sample of the undefined sub-kind. -/
structure Undefined (s : Synthesizer) (o : Occurrence) (bad : Sample) : Prop where
  fails : bad.conforming = false
  container : bad.container = s.failContainer
  entity : bad.entity = o.concrete.name
  logicalEntity : bad.logicalEntity = o.logical.name
  subKind : bad.subKind = some undefinedSubKind

/-- What is made for a sub-kind: twins, or for the undefined one a sample or nothing, as the
policy says. -/
def Made (s : Synthesizer) (o : Occurrence) (subKind : Option String) (samples : List Sample) :
    Prop :=
  if subKind = some undefinedSubKind then
    if s.policy.fixtureOccurrences then ∃ bad, samples = [bad] ∧ s.Undefined o bad
    else samples = []
  else ∃ good bad, samples = [good, bad] ∧ s.Twins o subKind good bad

theorem name_sample (o : Occurrence) (subKind : Option String)
    (container name typeName : String) (conforming : Bool) :
    (sample o subKind container name typeName conforming).name = name := by
  cases subKind with
  | none => simp [sample, Sample.name, ValueSet.get?_set, Field.shown]
  | some k =>
    by_cases hk : k = "USERDEFINED" <;>
      simp [sample, Sample.name, ValueSet.get?_set, Field.shown, hk]

theorem twins_sample (s : Synthesizer) (o : Occurrence) (subKind : Option String)
    (good bad typeName : String) (tag : Option String) :
    s.Twins o subKind ((sample o subKind s.passContainer good typeName true).addTag tag)
      ((sample o subKind s.failContainer (invalidNameStart ++ bad) typeName false).addTag tag) where
  passes := rfl
  fails := rfl
  good_container := rfl
  bad_container := rfl
  entity := ⟨rfl, rfl⟩
  logicalEntity := ⟨rfl, rfl⟩
  subKind := ⟨rfl, rfl⟩
  typeName := rfl
  tags := rfl
  bad_name := ⟨bad, name_sample o subKind s.failContainer (invalidNameStart ++ bad) typeName false⟩

theorem twins_twins (s : Synthesizer) (o : Occurrence) (subKind : Option String) (variant : Nat)
    (counters : Counters) :
    ∃ good bad, ((s.twins o subKind variant).run counters).1 = [good, bad] ∧
      s.Twins o subKind good bad :=
  ⟨_, _, rfl, twins_sample s o subKind _ _ _ _⟩

theorem undefined_undefinedSample (s : Synthesizer) (o : Occurrence) (counters : Counters) :
    s.Undefined o ((s.undefinedSample o).run counters).1 :=
  ⟨rfl, rfl, rfl, rfl, rfl⟩

theorem Made.undefined_fails {samples : List Sample} (h : s.Made o subKind samples) {x : Sample}
    (hx : x ∈ samples) (hundefined : x.subKind = some undefinedSubKind) :
    x.conforming = false := by
  rw [Made] at h
  split at h
  · split at h
    · obtain ⟨bad, rfl, hbad⟩ := h
      obtain rfl := List.mem_singleton.mp hx
      exact hbad.fails
    · rw [h] at hx
      cases hx
  · rename_i hdefined
    obtain ⟨good, bad, rfl, htwins⟩ := h
    rcases List.mem_cons.mp hx with rfl | hx
    · exact absurd (htwins.subKind.1.symm.trans hundefined) hdefined
    · obtain rfl := List.mem_singleton.mp hx
      exact htwins.fails

/-! ## Runs over sub-kinds and types -/

/-- The sub-kinds are taken one after the other, whatever was given out before. -/
theorem made_samplesOfKinds (s : Synthesizer) (o : Occurrence) (variant : Nat)
    (kinds : List (Option String)) (counters : Counters) :
    ∃ parts, ((s.samplesOfKinds o variant kinds).run counters).1 = parts.flatten ∧
      List.Forall₂ (s.Made o) kinds parts := by
  induction kinds generalizing variant counters with
  | nil => exact ⟨[], rfl, .nil⟩
  | cons subKind kinds ih =>
    rw [samplesOfKinds]
    split
    · rename_i hundefined
      cases hpolicy : s.policy.fixtureOccurrences with
      | true =>
        obtain ⟨parts, hparts, hmade⟩ := ih variant ((s.undefinedSample o).run counters).2
        refine ⟨[((s.undefinedSample o).run counters).1] :: parts,
          congrArg (List.cons _) hparts, .cons ?_ hmade⟩
        rw [Made, if_pos hundefined, if_pos hpolicy]
        exact ⟨_, rfl, undefined_undefinedSample s o counters⟩
      | false =>
        obtain ⟨parts, hparts, hmade⟩ := ih variant counters
        refine ⟨[] :: parts, hparts, .cons ?_ hmade⟩
        rw [Made, if_pos hundefined, if_neg (by simp [hpolicy])]
    · rename_i hdefined
      obtain ⟨good, bad, htwins, hspec⟩ := twins_twins s o subKind variant counters
      obtain ⟨parts, hparts, hmade⟩ := ih (variant + 1) ((s.twins o subKind variant).run counters).2
      refine ⟨[good, bad] :: parts, congrArg₂ (· ++ ·) htwins hparts, .cons ?_ hmade⟩
      rw [Made, if_neg hdefined]
      exact ⟨good, bad, rfl, hspec⟩

/-- What is made for a type are the parts for its sub-kinds. -/
theorem made_samplesOf {counters counters' : Counters} {samples : List Sample}
    (h : (s.samplesOf t).run counters = .ok (samples, counters')) :
    ∃ o parts, s.occurrence t = .ok o ∧ samples = parts.flatten ∧
      List.Forall₂ (s.Made o) (kindsOf t) parts := by
  rw [samplesOf] at h
  obtain ⟨o, next, hlift, hkinds⟩ := exists_of_run_bind_ok h
  obtain ⟨ho, rfl⟩ := eq_of_run_lift_ok hlift
  obtain ⟨parts, hparts, hmade⟩ := made_samplesOfKinds s o 1 (kindsOf t) next
  have hrun : (s.samplesOfKinds o 1 (kindsOf t)).run next = (samples, counters') :=
    Except.ok.inj hkinds
  rw [hrun] at hparts
  exact ⟨o, parts, ho, hparts, hmade⟩

/-- What is made for the pair of a type and a sub-kind. -/
def MadeFor (s : Synthesizer) (p : EntityType × Option String) (samples : List Sample) : Prop :=
  ∃ o, s.occurrence p.1 = .ok o ∧ s.Made o p.2 samples

/-- Types are taken one after the other. -/
theorem made_mapM {types : List EntityType} {counters counters' : Counters}
    {lists : List (List Sample)}
    (h : (types.mapM s.samplesOf).run counters = .ok (lists, counters')) :
    ∃ parts, lists.flatten = parts.flatten ∧
      List.Forall₂ s.MadeFor (types.flatMap fun t => (kindsOf t).map (t, ·)) parts := by
  induction types generalizing counters lists with
  | nil =>
    cases h
    exact ⟨[], rfl, .nil⟩
  | cons t types ih =>
    rw [List.mapM_cons] at h
    obtain ⟨samples, next, hfirst, h⟩ := exists_of_run_bind_ok h
    obtain ⟨rest, last, hrest, h⟩ := exists_of_run_bind_ok h
    cases h
    obtain ⟨o, here, ho, rfl, hmade⟩ := made_samplesOf hfirst
    obtain ⟨later, hlater, hrest⟩ := ih hrest
    refine ⟨here ++ later, ?_, ?_⟩
    · rw [List.flatten_cons, hlater, List.flatten_append]
    · rw [List.flatMap_cons]
      exact List.rel_append (List.forall₂_map_left_iff.mpr
        (hmade.imp fun _ _ hpart => ⟨o, ho, hpart⟩)) hrest

/-! ## The types below the roots -/

/-- The one type comes before the other: by domain, and by name within one. -/
def Before (a b : EntityType) : Prop := a.domain < b.domain ∨ a.domain = b.domain ∧ a.name < b.name

theorem precedes_iff {a b : EntityType} :
    precedes a b = true ↔ a.domain < b.domain ∨ a.domain = b.domain ∧ a.name ≤ b.name := by
  simp [precedes]

theorem precedes_trans {a b c : EntityType} (hab : precedes a b = true)
    (hbc : precedes b c = true) : precedes a c = true := by
  rw [precedes_iff] at *
  rcases hab with hab | ⟨hab, hle⟩ <;> rcases hbc with hbc | ⟨hbc, hle'⟩
  · exact .inl (String.lt_trans hab hbc)
  · exact .inl (hbc ▸ hab)
  · exact .inl (hab ▸ hbc)
  · exact .inr ⟨hab.trans hbc, String.le_trans hle hle'⟩

theorem precedes_total (a b : EntityType) : (precedes a b || precedes b a) = true := by
  rw [Bool.or_eq_true, precedes_iff, precedes_iff]
  rcases lt_trichotomy a.domain b.domain with h | h | h
  · exact .inl (.inl h)
  · exact (String.le_total a.name b.name).imp (fun hle => .inr ⟨h, hle⟩)
      fun hle => .inr ⟨h.symm, hle⟩
  · exact .inr (.inl h)

theorem pairwise_precedes (ts : List EntityType) :
    (ts.mergeSort precedes).Pairwise fun a b => precedes a b = true :=
  @List.pairwise_mergeSort _ precedes (fun _ _ _ => precedes_trans) precedes_total ts

theorem name_eq_of_precedes {a b : EntityType} (hab : precedes a b = true)
    (hba : precedes b a = true) : a.name = b.name := by
  rw [precedes_iff] at hab hba
  rcases hab with hab | ⟨hab, hle⟩
  · rcases hba with hba | ⟨hba, -⟩
    · exact absurd (lt_trans hab hba) (lt_irrefl _)
    · exact absurd (hba ▸ hab) (lt_irrefl _)
  · rcases hba with hba | ⟨-, hle'⟩
    · exact absurd (hab ▸ hba) (lt_irrefl _)
    · exact String.le_antisymm hle hle'

theorem before_of_precedes {a b : EntityType} (hab : precedes a b = true) (hne : a.name ≠ b.name) :
    Before a b :=
  (precedes_iff.mp hab).imp_right fun ⟨hdomain, hle⟩ => ⟨hdomain, lt_of_le_of_ne hle hne⟩

/-- What is found for several arguments is what is found for any of them. -/
theorem mem_flatten_of_mapM {α β : Type} {f : α → Except Fault (List β)} {as : List α}
    {found : List (List β)} (h : as.mapM f = .ok found) {b : β} :
    b ∈ found.flatten ↔ ∃ a ∈ as, ∃ bs, f a = .ok bs ∧ b ∈ bs := by
  induction as generalizing found with
  | nil =>
    cases h
    simp
  | cons a as ih =>
    rw [List.mapM_cons] at h
    obtain ⟨first, hfirst, h⟩ := exists_of_bind_ok h
    obtain ⟨rest, hrest, h⟩ := exists_of_bind_ok h
    cases h
    simp [ih hrest, hfirst]

/-- The types below the roots are sorted, each once. -/
theorem typesBelow_spec (hkeyed : Catalog.Keyed s.logical.catalog.entries) {roots : List String}
    {types : List EntityType} (h : s.typesBelow roots = .ok types) :
    types.Pairwise Before ∧
      ∀ t, t ∈ types ↔ ∃ root ∈ roots, ∃ ts, s.logical.concreteSubtypes root = .ok ts ∧ t ∈ ts := by
  rw [typesBelow] at h
  obtain ⟨found, hfound, h⟩ := exists_of_bind_ok h
  cases h
  have hmem {t : EntityType} : t ∈ found.flatten ↔
      ∃ root ∈ roots, ∃ ts, s.logical.concreteSubtypes root = .ok ts ∧ t ∈ ts :=
    mem_flatten_of_mapM hfound
  have hnamed : SchemaView.Named (found.flatten.mergeSort precedes) := by
    have hown {t : EntityType} (ht : t ∈ found.flatten.mergeSort precedes) :
        s.logical.catalog.find? t.name = some t := by
      obtain ⟨root, -, ts, hts, ht⟩ := hmem.mp (List.mem_mergeSort.mp ht)
      exact SchemaView.find?_of_mem_concreteSubtypes hkeyed hts ht
    exact fun t ht u hu hname => Catalog.eq_of_name_eq (hown ht) (hown hu) hname
  have hsorted := pairwise_precedes found.flatten
  refine ⟨?_, fun t => ?_⟩
  · have hdistinct := SchemaView.pairwise_dedupNames (R := fun a b => precedes a b = true) hnamed
      (fun _ _ => name_eq_of_precedes) hsorted
    have hkept := hsorted.sublist (SchemaView.sublist_dedupNames _)
    exact (List.pairwise_and_iff.mpr ⟨hkept, hdistinct⟩).imp fun h => before_of_precedes h.1 h.2
  · rw [SchemaView.mem_dedupNames hnamed, List.mem_mergeSort, hmem]

/-- **Samples come in pairs.** What is made are, for the concrete types at and below any of the
roots, by domain and name and each once, and for the sub-kinds of a type in the order of the schema,
or one without a name if there are none: a sample that passes and its twin that fails. For the
undefined sub-kind it is one that fails, or nothing, as the policy says. So no sample of the
undefined sub-kind passes. -/
theorem synthesize_makes_twins (s : Synthesizer) (rows : List CatalogRow)
    (hcatalog : Catalog.ofRows rows = .ok s.logical.catalog) (roots : List String)
    (counters counters' : Counters) (samples : List Sample)
    (h : (s.synthesize roots).run counters = .ok (samples, counters')) :
    (∃ (types : List EntityType) (parts : List (List Sample)), types.Pairwise Before ∧
      (∀ t, t ∈ types ↔
        ∃ root ∈ roots, ∃ ts, s.logical.concreteSubtypes root = .ok ts ∧ t ∈ ts) ∧
      samples = parts.flatten ∧
      List.Forall₂ s.MadeFor (types.flatMap fun t => (kindsOf t).map (t, ·)) parts) ∧
    ∀ x ∈ samples, x.subKind = some undefinedSubKind → x.conforming = false := by
  rw [synthesize] at h
  obtain ⟨types, next, hlift, hrest⟩ := exists_of_run_bind_ok h
  obtain ⟨htypes, rfl⟩ := eq_of_run_lift_ok hlift
  obtain ⟨lists, last, hlists, hresult⟩ := exists_of_run_bind_ok hrest
  cases hresult
  obtain ⟨hsorted, hmem⟩ := typesBelow_spec (Catalog.keyed_of_ofRows hcatalog) htypes
  obtain ⟨parts, hparts, hmade⟩ := made_mapM hlists
  refine ⟨⟨types, parts, hsorted, hmem, hparts, hmade⟩, fun x hx hundefined => ?_⟩
  rw [hparts] at hx
  obtain ⟨part, hpart, hx⟩ := List.mem_flatten.mp hx
  obtain ⟨i, hi, rfl⟩ := List.getElem_of_mem hpart
  obtain ⟨o, -, hmade⟩ := hmade.get (i := i) (by rw [hmade.length_eq]; exact hi) hi
  exact hmade.undefined_fails hx hundefined

/-- Doors and their types, some of them undefined. -/
def doorRows : List CatalogRow :=
  [⟨"IfcDoor", none, false, none, Dialect.all, [], none⟩,
    ⟨"IfcDoorType", none, false, none, Dialect.all, ["GATE", "NOTDEFINED"], none⟩]

/-- Makes samples of doors. -/
def ofDoors : Synthesizer :=
  let catalog := (Catalog.ofRows doorRows).toOption.getD default
  .standard (catalog.view .ifc4) (catalog.view .ifc4) default .empty

/-- The kinds of the samples that are made, and if they pass. -/
def outline (s : Synthesizer) (roots : List String) : Option (List (Option String × Bool)) :=
  ((s.synthesize roots).run .fresh).toOption.map fun r => r.1.map fun x => (x.subKind, x.conforming)

theorem twins_of_gates :
    Catalog.ofRows doorRows = .ok ofDoors.logical.catalog ∧
      ∃ samples counters,
        (ofDoors.synthesize ["IfcDoorType"]).run .fresh = .ok (samples, counters) ∧
        samples.map (fun x => (x.subKind, x.conforming)) =
          [(some "GATE", true), (some "GATE", false), (some "NOTDEFINED", false)] ∧
        ∀ x ∈ samples, x.subKind = some undefinedSubKind → x.conforming = false := by
  have hmade : (Catalog.ofRows doorRows).isOk = true := by decide +kernel
  have hcatalog : Catalog.ofRows doorRows = .ok ofDoors.logical.catalog := by
    change Catalog.ofRows doorRows = .ok ((Catalog.ofRows doorRows).toOption.getD default)
    cases h : Catalog.ofRows doorRows with
    | error f =>
      rw [h] at hmade
      cases hmade
    | ok catalog => rfl
  have houtline : ofDoors.outline ["IfcDoorType"] =
      some [(some "GATE", true), (some "GATE", false), (some "NOTDEFINED", false)] := by
    decide +kernel
  rw [outline] at houtline
  cases hrun : (ofDoors.synthesize ["IfcDoorType"]).run .fresh with
  | error f =>
    rw [hrun] at houtline
    cases houtline
  | ok result =>
    rw [hrun] at houtline
    obtain ⟨-, hundefined⟩ := synthesize_makes_twins ofDoors doorRows hcatalog ["IfcDoorType"]
      .fresh result.2 result.1 hrun
    exact ⟨hcatalog, result.1, result.2, rfl, Option.some.inj houtline, hundefined⟩

end Synthesizer

end Eir
