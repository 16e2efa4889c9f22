import Eir.Proofs.Compiler.Recording

/-!
# Rules that could not be made

A rule is not made if a scope closed with a fault before, or if the sink refuses the
rule itself. In both cases no group gets it. But a rule that the sink refuses is in the
index before the sink sees it, and stays there: its identifier is looked up like those
of the other rules, though no group has the rule
(`refused_rule_stays_listed`, `refused_door_is_offered`).

What a group has is said of identifiers: one is `HeldIn` groups if it is that of a
rule in one of them, or of one of the rules that such a rule was merged from.
-/

namespace Eir

open IndexedRule RuleIndex

/-- Some rule in the groups has the identifier, or, where alike rules are merged, stands for rules
that were made, with the identifier among theirs. -/
def HeldIn (grouping : Bool) (made : List String) (groups : List SpecGroup) (id : String) : Prop :=
  ∃ g ∈ groups, ∃ s ∈ g.specifications, s.identifier = id ∨
    (grouping = true ∧ ∃ ids : List String, 2 ≤ ids.length ∧ id ∈ ids ∧
      s.identifier = ",".intercalate ids ∧ ids ⊆ made)

namespace Compiler

variable {σ : Type} {c d : Compiler σ} {ks : List (Call σ)} {slots : List Nat}
  {filed : List (Nat × Emission)}

/-! ## What is made is held -/

/-- A rule that is filed is held, whether its group is still collected or is settled. -/
theorem Filed.heldIn (h : Filed slots filed c) {p : Nat × Emission} (hp : p ∈ filed) :
    HeldIn c.settings.groupByApplicability (filed.map (·.2.spec.identifier))
      (c.groups.map Prod.snd) p.2.spec.identifier := by
  have hfiled : p.2.spec ∈ filedUnder p.1 filed :=
    List.mem_map.mpr ⟨p, List.mem_filter.mpr ⟨hp, beq_self_eq_true p.1⟩, rfl⟩
  obtain ⟨q, hq, hslot⟩ := List.mem_map.mp (h.mem p hp)
  refine ⟨q.2, List.mem_map_of_mem hq, ?_⟩
  by_cases hopen : q.1 ∈ slots
  · rw [h.collected q hq hopen, hslot]
    exact ⟨p.2.spec, hfiled, .inl rfl⟩
  · obtain ⟨-, metadata, hsettled⟩ := h.settled q hq hopen
    rw [hslot] at hsettled
    rw [hsettled]
    rcases exists_of_mem_settled (c := c) (g := ⟨metadata, filedUnder p.1 filed⟩) hfiled with
      hstays | ⟨hgrouping, t, ht, cs, hlength, hcs, hreplaces, hmem⟩
    · exact ⟨p.2.spec, hstays, .inl rfl⟩
    · obtain ⟨ids, hperm, -, hjoined⟩ := hreplaces.identifier
      refine ⟨t, ht, .inr ⟨hgrouping, ids, ?_, ?_, hjoined, fun i hi => ?_⟩⟩
      · rwa [hperm.length_eq, List.length_map]
      · exact hperm.mem_iff.mpr (List.mem_map_of_mem hmem)
      · obtain ⟨s, hs, rfl⟩ := List.mem_map.mp (hperm.mem_iff.mp hi)
        obtain ⟨q', hq', rfl⟩ := List.mem_map.mp (hcs hs)
        exact List.mem_map_of_mem (List.mem_of_mem_filter hq')

/-- The identifiers of the rules that the calls made. -/
def madeIdentifiers (ks : List (Call σ)) : List String :=
  (ks.flatMap Call.emissions).map (·.spec.identifier)

/-- Every rule that the calls made for a requirement is held, if all that they made is filed. -/
theorem Filed.heldIn_of_indexed (h : Filed slots filed c)
    (hfiled : filed.map Prod.snd = ks.flatMap Call.emissions) {k : Call σ} (hk : k ∈ ks)
    {x : IndexedRule} (hx : k.indexed = some x) :
    HeldIn c.settings.groupByApplicability (madeIdentifiers ks) (c.groups.map Prod.snd)
      x.identifier := by
  obtain ⟨e, he, heq⟩ := emissions_of_indexed hx
  have hmade : e ∈ filed.map Prod.snd := hfiled ▸ List.mem_flatMap.mpr ⟨k, hk, he⟩
  obtain ⟨p, hp, rfl⟩ := List.mem_map.mp hmade
  have hheld := h.heldIn hp
  rwa [heq, show filed.map (·.2.spec.identifier) = madeIdentifiers ks by
    rw [madeIdentifiers, ← hfiled, List.map_map]; rfl] at hheld

/-- What a compilation is set up with stays, whatever the sink does. -/
theorem tracks_setup : Tracks (σ := σ) fun c _ d => d.setup = c.setup where
  refl _ := rfl
  trans h h' := h'.trans h
  mapTop _ _ _ _ := rfl
  generateIdentifier _ := rfl
  skip _ _ _ := rfl
  make c _ record _ := (c.setup_make _ record).1
  openKind _ _ _ := rfl
  closeScope c := c.setup_closeScope

theorem setup_settle (c : Compiler σ) (s : Scope) : (c.settle s).setup = c.setup := by
  have hclosed := (c.setup_closeGroup s).1
  rcases c.settle_cases s with ⟨-, heq⟩ | ⟨f, -, heq⟩
  · rw [heq, hclosed]
  · rw [heq]
    exact hclosed

theorem setup_finish (c : Compiler σ) : c.finish.2.setup = c.setup := by
  have hall (scopes : List Scope) (e : Compiler σ) : (e.closeAll scopes).setup = e.setup := by
    induction scopes generalizing e with
    | nil => rfl
    | cons s scopes ih => exact (ih (e.settle s)).trans (e.setup_settle s)
  exact hall (c.top :: c.outer) c

theorem index_of_finish {rules : CompiledRules} (h : c.finish.1 = .ok rules) :
    rules.index = c.index :=
  (congrArg CompiledRules.index (eq_of_finish h)).trans (index_finish c)

/-! ## What is refused is not made -/

theorem Call.recorded_of_refusal {k : Call σ} {x : IndexedRule} (h : k.refusal = some x) :
    k.recorded = some x := by
  have hnone : k.indexed = none := by
    obtain ⟨before, step, result, after⟩ := k
    simp only [Call.refusal] at h
    split at h
    · rfl
    · cases h
  rw [Call.recorded, hnone, Option.none_or, h]

/-- A rule that is not made leaves the groups alone, but not the index, unless it failed before the
sink saw it. -/
theorem make_of_error {rule : Compiler σ → String → Specification}
    {record : RuleIndex → String → RuleIndex} {f : Fault}
    (h : (c.make rule record).1 = .error f) :
    (c.make rule record).2.groups = c.groups ∧ (c.make rule record).2.index =
      if c.deferred.isSome then c.index else record c.index c.generateIdentifier.1 := by
  rcases c.make_cases rule record with ⟨reason, hdeferred, heq⟩ | ⟨-, -, heq⟩ |
    ⟨hdeferred, -, fault, d, happend, heq⟩
  · rw [heq, hdeferred]
    exact ⟨rfl, rfl⟩
  · rw [heq] at h
    cases h
  · have hindex := (c.prepared record).index_append
      (rule (c.prepared record) c.generateIdentifier.1)
    rw [happend] at hindex
    rw [heq] at h ⊢
    refine ⟨?_, by rw [hdeferred]; exact hindex⟩
    rcases (c.prepared record).append_cases
      (rule (c.prepared record) c.generateIdentifier.1) with ⟨-, happ⟩ | ⟨-, st, fault', -, happ⟩
    · obtain ⟨rfl, -⟩ := Prod.mk.inj (happend.symm.trans happ)
      cases h
    · obtain ⟨rfl, hd⟩ := Prod.mk.inj (happend.symm.trans happ)
      cases fault with
      | none => cases h
      | some f' =>
        rw [hd]
        rfl

/-- Recording a rule changes nothing just when it is under all its keys. -/
theorem listed?_recordRule_eq_iff (index : RuleIndex) (applicability : FacetGroup)
    (requirement : Requirement) (id : String) :
    (∀ key, (recordRule index applicability requirement id).listed? key = index.listed? key) ↔
      ∀ name ∈ applicability.entityNames, id ∈ (index.listed? (.of name
        applicability.predefinedType? requirement.kind requirement.subject)).getD [] := by
  constructor
  · intro hsame name hname
    have hkey := hsame (.of name applicability.predefinedType? requirement.kind requirement.subject)
    rw [recordRule, listed?_foldl_record,
      if_pos (List.any_eq_true.mpr ⟨name, hname, decide_eq_true rfl⟩)] at hkey
    rw [← hkey, Option.getD_some, addOnce]
    split <;> simp [*]
  · intro hlisted key
    rw [recordRule, listed?_foldl_record]
    split
    · rename_i hany
      obtain ⟨name, hname, hkey⟩ := List.any_eq_true.mp hany
      have hmem := hlisted name hname
      rw [of_decide_eq_true hkey] at hmem
      cases hentry : index.listed? key with
      | none => rw [hentry] at hmem; cases hmem
      | some ids =>
        rw [hentry, Option.getD_some] at hmem
        rw [Option.getD_some, addOnce, if_pos hmem]
    · rfl

/-- What the index offers was made, and is held then, or was refused. -/
theorem offers_held_iff {groups : List SpecGroup} {grouping : Bool} {made : List String}
    (hrecords : d.index.Records (ks.filterMap Call.recorded))
    (hmade : ∀ k ∈ ks, ∀ x, k.indexed = some x → HeldIn grouping made groups x.identifier) :
    (∀ id, d.index.containsIdentifier id = true → HeldIn grouping made groups id) ↔
      ∀ k ∈ ks, ∀ x, k.refusal = some x → x.applicability.entityNames ≠ [] →
        HeldIn grouping made groups x.identifier := by
  constructor
  · intro hall k hk x hx hnames
    refine hall x.identifier (hrecords.containsIdentifier_iff.mpr ⟨x, ?_, hnames, rfl⟩)
    exact List.mem_filterMap.mpr ⟨k, hk, Call.recorded_of_refusal hx⟩
  · intro hrefused id hid
    obtain ⟨x, hx, hnames, rfl⟩ := hrecords.containsIdentifier_iff.mp hid
    obtain ⟨k, hk, hrecorded⟩ := List.mem_filterMap.mp hx
    rcases Option.or_eq_some_iff.mp hrecorded with hindexed | ⟨-, hrefusal⟩
    · exact hmade k hk x hindexed
    · exact hrefused k hk x hrefusal hnames

/-- **A refused rule stays in the index.** However the sink behaves: a rule that is not made leaves
all groups as they were, and one that only says that there are objects leaves the index as it was
too. But one for a requirement leaves the index as it was only if some scope had closed with a
fault before, or its identifier was under all its keys already. So, at any time as in the end, every
identifier that the index offers is held by some group just when those are held that belong to
refused rules which select some type by its name. -/
theorem refused_rule_stays_listed {σ : Type} (settings : CompilerSettings) (catalog : Catalog)
    (template : GroupMetadata) (sink : Sink σ) (st : σ) (c d : Compiler σ)
    (hc : start settings catalog template sink st = .ok c) (ks : List (Call σ))
    (htrace : Trace c ks d) :
    (∀ applicability requirement title f,
      (d.createTitled applicability requirement title).1 = .error f →
        (d.createTitled applicability requirement title).2.groups = d.groups ∧
        ((∀ key, (d.createTitled applicability requirement title).2.index.listed? key =
            d.index.listed? key) ↔
          d.deferred.isSome = true ∨ ∀ name ∈ applicability.entityNames,
            d.generateIdentifier.1 ∈ (d.index.listed? (.of name applicability.predefinedType?
              requirement.kind requirement.subject)).getD [])) ∧
    (∀ applicability f, (d.createPresence applicability).1 = .error f →
      (d.createPresence applicability).2.groups = d.groups ∧
        (d.createPresence applicability).2.index = d.index) ∧
    ((∀ id, d.index.containsIdentifier id = true →
        HeldIn settings.groupByApplicability (madeIdentifiers ks) (d.groups.map Prod.snd) id) ↔
      ∀ k ∈ ks, ∀ x, k.refusal = some x → x.applicability.entityNames ≠ [] →
        HeldIn settings.groupByApplicability (madeIdentifiers ks) (d.groups.map Prod.snd)
          x.identifier) ∧
    ∀ rules, d.finish.1 = .ok rules →
      ((∀ id, rules.index.containsIdentifier id = true →
          HeldIn settings.groupByApplicability (madeIdentifiers ks) rules.groups id) ↔
        ∀ k ∈ ks, ∀ x, k.refusal = some x → x.applicability.entityNames ≠ [] →
          HeldIn settings.groupByApplicability (madeIdentifiers ks) rules.groups x.identifier) := by
  have hrecords : d.index.Records (ks.filterMap Call.recorded) :=
    records_run htrace (index_start hc ▸ records_empty)
  obtain ⟨hgrouped, hfiled⟩ := htrace.tracks tracks_filesAway (grouped_start hc)
  obtain ⟨filed, hemitted, hfiled⟩ := hfiled [] (filed_start hc)
  rw [List.nil_append] at hfiled
  have hsettings : d.settings = settings := by
    rw [settings_of_setup (htrace.tracks tracks_setup), eq_of_start hc]
  refine ⟨fun applicability requirement title f herror => ?titled,
    fun applicability f herror => ?presence,
    offers_held_iff hrecords fun k hk x hx => ?running, fun rules hrules => ?finished⟩
  case titled =>
    rw [createTitled_eq_make] at herror ⊢
    obtain ⟨hgroups, hindex⟩ := make_of_error herror
    refine ⟨hgroups, ?_⟩
    rw [hindex]
    cases hdeferred : d.deferred with
    | some reason => simp
    | none =>
      simp only [Option.isSome_none, Bool.false_eq_true, if_false, false_or]
      exact listed?_recordRule_eq_iff d.index applicability requirement d.generateIdentifier.1
  case presence =>
    rw [createPresence_eq_make] at herror ⊢
    obtain ⟨hgroups, hindex⟩ := make_of_error herror
    exact ⟨hgroups, hindex.trans (ite_self _)⟩
  case running =>
    have hheld := hfiled.heldIn_of_indexed hemitted hk hx
    rwa [hsettings] at hheld
  case finished =>
    have hclosed : Filed [] filed d.finish.2 :=
      hfiled.closeAll (d.top :: d.outer) hgrouped.openNodup
    have hgroups : rules.groups = d.finish.2.groups.map Prod.snd :=
      congrArg CompiledRules.groups (eq_of_finish hrules)
    rw [index_of_finish hrules, hgroups]
    refine offers_held_iff hrecords fun k hk x hx => ?_
    have hheld := hclosed.heldIn_of_indexed hemitted hk hx
    rwa [settings_of_setup d.setup_finish, hsettings] at hheld

/-- Refuses the first specification, since the disk is full. -/
def fullDiskOnce : Sink Bool where
  writeSpecification _ _ _ freed := (true, if freed then none else some (.sink "disk full"))
  writeGroup _ _ freed := (freed, none)

/-- What the rules are about. -/
def plainDoors : FacetGroup := ⟨"Door", "", [.entity (.exact "IFCDOOR") none], []⟩

/-- A rule that is refused, and one that is made. -/
def twoDoorSteps : List Step :=
  [.create plainDoors (.attributeDefined "Name") none,
    .create plainDoors (.attributeDefined "Tag") none]

/-- Plain settings, with a file for each rule. -/
def filePerRule : CompilerSettings :=
  { CompilerSettings.of .stage3 .coreOnly with oneFilePerSpecification := true }

/-- The identifiers of the rules that the groups have in the end. -/
def finalIdentifiers (c : Compiler σ) : Option (List String) :=
  c.finish.1.toOption.map fun rules =>
    rules.groups.flatMap fun g => g.specifications.map (·.identifier)

theorem exists_of_finalIdentifiers {ids : List String} (h : c.finalIdentifiers = some ids) :
    ∃ rules, c.finish.1 = .ok rules ∧
      ∀ made id, HeldIn false made rules.groups id → id ∈ ids := by
  rw [finalIdentifiers] at h
  cases hfinish : c.finish.1 with
  | error f =>
    rw [hfinish] at h
    cases h
  | ok rules =>
    rw [hfinish] at h
    obtain rfl := Option.some.inj h
    refine ⟨rules, rfl, ?_⟩
    rintro made id ⟨g, hg, s, hs, rfl | ⟨hgrouping, -⟩⟩
    · exact List.mem_flatMap.mpr ⟨g, hg, List.mem_map_of_mem hs⟩
    · cases hgrouping

theorem refused_door_stays_listed :
    ∃ c : Compiler Bool,
      start filePerRule default (.named "Bundle") fullDiskOnce false = .ok c ∧
        (takeSteps false c twoDoorSteps).2.1.finalIdentifiers = some ["02"] ∧
        ∃ rules, (takeSteps false c twoDoorSteps).2.1.finish.1 = .ok rules ∧
          ¬ ∀ id, rules.index.containsIdentifier id = true →
            HeldIn false (madeIdentifiers (calls c twoDoorSteps (takeSteps false c twoDoorSteps).1))
              rules.groups id := by
  obtain ⟨c, hc⟩ : ∃ c : Compiler Bool,
    start filePerRule default (.named "Bundle") fullDiskOnce false = .ok c := ⟨_, rfl⟩
  have hids : (takeSteps false c twoDoorSteps).2.1.finalIdentifiers = some ["02"] := by
    rw [eq_of_start hc]
    decide +kernel
  have hrefusals : ((calls c twoDoorSteps (takeSteps false c twoDoorSteps).1).filterMap
      Call.refusal).map (fun x => (x.applicability.entityNames, x.identifier)) =
        [(["IFCDOOR"], "01")] := by
    rw [eq_of_start hc]
    decide +kernel
  obtain ⟨-, -, -, hlisted⟩ := refused_rule_stays_listed _ _ _ _ _ _ _ hc _
    (trace_takeSteps false c twoDoorSteps)
  obtain ⟨rules, hrules, hheld⟩ := exists_of_finalIdentifiers hids
  refine ⟨c, hc, hids, rules, hrules, fun hall => ?_⟩
  -- The rule with the identifier 01 was refused, and only 02 is in a group.
  obtain ⟨x, hx, hfields⟩ := List.mem_map.mp (hrefusals ▸ List.mem_singleton_self (["IFCDOOR"], "01"))
  obtain ⟨k, hk, hrefusal⟩ := List.mem_filterMap.mp hx
  obtain ⟨hnames, hid⟩ := Prod.mk.inj hfields
  have hmem := hheld _ _ ((hlisted rules hrules).mp hall k hk x hrefusal (by simp [hnames]))
  rw [hid] at hmem
  exact absurd hmem (by decide)

/-- The first rule of a compilation is refused. Then its identifier is looked up, also in the end,
when there is no rule in any group. -/
theorem refused_door_is_offered :
    ∃ c d : Compiler Bool,
      start filePerRule default (.named "Bundle") fullDiskOnce false = .ok c ∧
        (c.createTitled plainDoors (.attributeDefined "Name") none).1 =
          .error (.sink "disk full") ∧
        (c.createTitled plainDoors (.attributeDefined "Name") none).2 = d ∧
        c.index.lookupAll (.of "IFCDOOR" none .attributeDefined "Name") = [] ∧
        d.index.lookupAll (.of "IFCDOOR" none .attributeDefined "Name") = ["01"] ∧
        d.finalIdentifiers = some [] ∧ ∃ rules, d.finish.1 = .ok rules ∧
          rules.index.lookupAll (.of "IFCDOOR" none .attributeDefined "Name") = ["01"] := by
  obtain ⟨c, hc⟩ : ∃ c : Compiler Bool,
    start filePerRule default (.named "Bundle") fullDiskOnce false = .ok c := ⟨_, rfl⟩
  have herror : (c.createTitled plainDoors (.attributeDefined "Name") none).1 =
      .error (.sink "disk full") := by
    rw [eq_of_start hc]
    rfl
  have hids : (c.createTitled plainDoors (.attributeDefined "Name") none).2.finalIdentifiers =
      some [] := by
    rw [eq_of_start hc]
    decide +kernel
  have hidentifier : c.generateIdentifier.1 = "01" := by
    rw [eq_of_start hc]
    decide +kernel
  have hstart : c.index.Records [] := index_start hc ▸ records_empty
  have hrecords : (c.createTitled plainDoors (.attributeDefined "Name") none).2.index.Records
      [⟨plainDoors, .attributeDefined "Name", "01"⟩] := by
    have hindex := (make_of_error (createTitled_eq_make c plainDoors _ none ▸ herror)).2
    rw [createTitled_eq_make, hindex, hidentifier, show c.deferred = none by rw [eq_of_start hc]]
    exact hstart.recordRule ⟨plainDoors, .attributeDefined "Name", "01"⟩
  have hoffered := hrecords.lookupAll (.of "IFCDOOR" none .attributeDefined "Name")
  obtain ⟨rules, hrules, -⟩ := exists_of_finalIdentifiers hids
  refine ⟨c, _, hc, herror, rfl, ?_, ?_, hids, rules, hrules, ?_⟩
  · rw [hstart.lookupAll]
    rfl
  · rw [hoffered]
    decide +kernel
  · rw [index_of_finish hrules, hoffered]
    decide +kernel

end Compiler

end Eir
