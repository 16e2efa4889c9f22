import Eir.Proofs.Compiler.Settling

/-!
# The index is the record of what was compiled

An index `Records` a list of rules when it has under each key the identifiers of
the rules that answer the key. Making a rule keeps this (`Records.recordRule`), so
the index of a compilation records the rules that its calls made
(`records_trace`). Every identifier in it is that of a rule in the end, or a part
of one that rules were merged into (`index_is_record`).
-/

namespace Eir

/-- A rule that was made for a requirement. -/
structure IndexedRule where
  applicability : FacetGroup
  requirement : Requirement
  identifier : String

namespace IndexedRule

/-- The rule selects objects of the type of the key, in any case, and of just the sub-kind, and
what it demands is of the kind and about the subject. -/
def answers (key : RuleKey) (x : IndexedRule) : Bool :=
  x.applicability.entityNames.any (·.toUpper == key.entity) &&
    x.applicability.predefinedType? == key.subKind && x.requirement.kind == key.kind &&
    x.requirement.subject == key.subject

/-- The identifiers of the rules that answer a key, in order and each once. -/
def identifiersFor (rules : List IndexedRule) (key : RuleKey) : List String :=
  ((rules.filter (answers key)).map (·.identifier)).eraseDups

/-- The list with a text behind it, unless the text is in it. -/
def addOnce (ids : List String) (id : String) : List String :=
  if id ∈ ids then ids else ids ++ [id]

theorem addOnce_ne_nil (ids : List String) (id : String) : addOnce ids id ≠ [] := by
  rw [addOnce]
  split
  · rename_i h
    exact List.ne_nil_of_mem h
  · simp

theorem addOnce_addOnce (ids : List String) (id : String) :
    addOnce (addOnce ids id) id = addOnce ids id := by
  have hmem : id ∈ addOnce ids id := by
    rw [addOnce]
    split <;> simp [*]
  rw [addOnce, if_pos hmem]

theorem eraseDups_snoc (ids : List String) (id : String) :
    (ids ++ [id]).eraseDups = addOnce ids.eraseDups id := by
  rw [List.eraseDups_append, addOnce]
  by_cases h : id ∈ ids
  · simp [List.removeAll, h]
  · simp [List.removeAll, h, List.eraseDups_cons]

theorem identifiersFor_snoc (rules : List IndexedRule) (x : IndexedRule) (key : RuleKey) :
    identifiersFor (rules ++ [x]) key =
      if x.answers key then addOnce (identifiersFor rules key) x.identifier
      else identifiersFor rules key := by
  rw [identifiersFor, List.filter_append, List.map_append]
  cases h : x.answers key with
  | true => simp [h, eraseDups_snoc, identifiersFor]
  | false => simp [h, identifiersFor]

theorem mem_identifiersFor {rules : List IndexedRule} {key : RuleKey} {id : String} :
    id ∈ identifiersFor rules key ↔ ∃ x ∈ rules, x.answers key = true ∧ x.identifier = id := by
  simp only [identifiersFor, List.mem_eraseDups, List.mem_map, List.mem_filter, and_assoc]

end IndexedRule

open IndexedRule

/-! ## Indices -/

namespace RuleIndex

variable {index : RuleIndex} {rules : List IndexedRule}

/-- The identifiers under a key that something was recorded under. -/
def listed? (index : RuleIndex) (key : RuleKey) : Option (List String) := index.entries[key]?

theorem listed?_record (index : RuleIndex) (key key' : RuleKey) (id : String) :
    (index.record key id).listed? key' =
      if key = key' then some (addOnce ((index.listed? key').getD []) id)
      else index.listed? key' := by
  rw [listed?, record, Std.HashMap.getElem?_insert, Std.HashMap.getD_eq_getD_getElem?]
  by_cases h : key = key'
  · subst h
    rw [if_pos (beq_self_eq_true key), if_pos rfl]
    rfl
  · simp [h, listed?]

/-- The index has under each key the identifiers of the rules that answer it, and no key without
one. -/
def Records (index : RuleIndex) (rules : List IndexedRule) : Prop :=
  ∀ key, index.listed? key =
    if identifiersFor rules key = [] then none else some (identifiersFor rules key)

theorem records_empty : empty.Records [] := fun key => by
  simp [listed?, empty, identifiersFor]

/-- Recording an identifier under the keys of several types. -/
theorem listed?_foldl_record (names : List String) (key : RuleKey) (subKind : Option String)
    (kind : RequirementKind) (subject id : String) (index : RuleIndex) :
    (names.foldl (fun index name => index.record (.of name subKind kind subject) id) index).listed?
        key =
      if names.any (fun name => decide (RuleKey.of name subKind kind subject = key)) then
        some (addOnce ((index.listed? key).getD []) id)
      else index.listed? key := by
  induction names generalizing index with
  | nil => rfl
  | cons name names ih =>
    rw [List.foldl_cons, ih, listed?_record, List.any_cons]
    by_cases h : RuleKey.of name subKind kind subject = key
    · simp [h, addOnce_addOnce]
    · simp [h]

theorem answers_eq_any (x : IndexedRule) (key : RuleKey) :
    x.answers key = x.applicability.entityNames.any fun name =>
      decide (RuleKey.of name x.applicability.predefinedType? x.requirement.kind
        x.requirement.subject = key) := by
  obtain ⟨entity, subKind, kind, subject⟩ := key
  rw [Bool.eq_iff_iff]
  simp only [answers, Bool.and_eq_true, List.any_eq_true, beq_iff_eq, decide_eq_true_eq,
    RuleKey.of, RuleKey.mk.injEq]
  constructor
  · rintro ⟨⟨⟨⟨name, hname, hentity⟩, hsub⟩, hkind⟩, hsubject⟩
    exact ⟨name, hname, hentity, hsub, hkind, hsubject⟩
  · rintro ⟨name, hname, hentity, hsub, hkind, hsubject⟩
    exact ⟨⟨⟨⟨name, hname, hentity⟩, hsub⟩, hkind⟩, hsubject⟩

theorem Records.recordRule (h : index.Records rules) (x : IndexedRule) :
    (Compiler.recordRule index x.applicability x.requirement x.identifier).Records
      (rules ++ [x]) := by
  intro key
  rw [Compiler.recordRule, listed?_foldl_record, ← answers_eq_any, identifiersFor_snoc, h key]
  cases x.answers key with
  | true =>
    rw [if_pos rfl, if_pos rfl, if_neg (addOnce_ne_nil _ _)]
    by_cases hnil : identifiersFor rules key = [] <;> simp [hnil]
  | false => rfl

/-- What is looked up is what answers the key, or else what answers it without a sub-kind. -/
theorem Records.lookupAll (h : index.Records rules) (key : RuleKey) :
    index.lookupAll key =
      if identifiersFor rules key = [] then identifiersFor rules { key with subKind := none }
      else identifiersFor rules key := by
  have hkey := h key
  have hplain := h { key with subKind := none }
  rw [listed?] at hkey hplain
  rw [RuleIndex.lookupAll, hkey, Std.HashMap.getD_eq_getD_getElem?, hplain]
  by_cases hnil : identifiersFor rules key = []
  · rw [if_pos hnil, if_pos hnil]
    by_cases hnone : key.subKind = none
    · have hsame : { key with subKind := none } = key := by rw [← hnone]
      simp [hsame, hnil]
    · by_cases hplain : identifiersFor rules { key with subKind := none } = [] <;>
        simp [hplain]
  · rw [if_neg hnil, if_neg hnil]

/-- The identifiers in the index are those of the rules that select some type by its name. -/
theorem Records.containsIdentifier_iff (h : index.Records rules) {id : String} :
    index.containsIdentifier id = true ↔
      ∃ x ∈ rules, x.applicability.entityNames ≠ [] ∧ x.identifier = id := by
  rw [containsIdentifier, List.any_eq_true]
  constructor
  · rintro ⟨⟨key, ids⟩, hmem, hcontains⟩
    have hentry : index.listed? key = some ids :=
      Std.HashMap.mem_toList_iff_getElem?_eq_some.mp hmem
    rw [h key] at hentry
    split at hentry
    · cases hentry
    · obtain rfl := Option.some.inj hentry
      obtain ⟨x, hx, hanswers, rfl⟩ := mem_identifiersFor.mp (List.contains_iff_mem.mp hcontains)
      rw [answers_eq_any, List.any_eq_true] at hanswers
      obtain ⟨name, hname, -⟩ := hanswers
      exact ⟨x, hx, List.ne_nil_of_mem hname, rfl⟩
  · rintro ⟨x, hx, hnames, rfl⟩
    obtain ⟨name, hname⟩ := List.exists_mem_of_ne_nil _ hnames
    let key : RuleKey := .of name x.applicability.predefinedType? x.requirement.kind
      x.requirement.subject
    have hanswers : x.answers key = true := by
      rw [answers_eq_any, List.any_eq_true]
      exact ⟨name, hname, decide_eq_true rfl⟩
    have hmem : x.identifier ∈ identifiersFor rules key :=
      mem_identifiersFor.mpr ⟨x, hx, hanswers, rfl⟩
    have hentry := h key
    rw [if_neg (List.ne_nil_of_mem hmem)] at hentry
    exact ⟨(key, _), Std.HashMap.mem_toList_iff_getElem?_eq_some.mpr hentry,
      List.contains_iff_mem.mpr hmem⟩

theorem Records.exists_rule (h : index.Records rules) {id : String}
    (hid : index.containsIdentifier id = true) : ∃ x ∈ rules, x.identifier = id := by
  obtain ⟨x, hx, -, heq⟩ := h.containsIdentifier_iff.mp hid
  exact ⟨x, hx, heq⟩

end RuleIndex

/-! ## Runs -/

namespace Compiler

variable {σ : Type} {c d : Compiler σ} {ks : List (Call σ)}

/-- The rule that a call made for a requirement, if it made one. -/
def Call.indexed (k : Call σ) : Option IndexedRule :=
  match k.step, k.result with
  | .create applicability requirement _, .rule (.ok (some identifier)) =>
    some ⟨applicability, requirement, identifier⟩
  | _, _ => none

/-- A rule that is in the index was made. -/
theorem emissions_of_indexed {k : Call σ} {x : IndexedRule} (h : k.indexed = some x) :
    ∃ e ∈ k.emissions, e.spec.identifier = x.identifier := by
  obtain ⟨before, step, result, after⟩ := k
  simp only [Call.indexed] at h
  split at h
  · cases h
    exact ⟨_, List.mem_singleton_self _, rfl⟩
  · cases h

/-- The rule of a call that failed after the rule was put into the index: the sink refused it. -/
def Call.refusal (k : Call σ) : Option IndexedRule :=
  match k.step, k.result, k.before.deferred with
  | .create applicability requirement _, .rule (.error _), none =>
    some ⟨applicability, requirement, k.before.generateIdentifier.1⟩
  | _, _, _ => none

/-- What a call puts into the index: a rule that it made, or one that was refused. -/
def Call.recorded (k : Call σ) : Option IndexedRule := k.indexed.or k.refusal

theorem Call.recorded_of_result {k : Call σ} (h : ∀ r, k.result ≠ .rule r) : k.recorded = none := by
  obtain ⟨before, step, result, after⟩ := k
  cases result with
  | rule r => exact absurd rfl (h r)
  | nothing => cases step <;> rfl
  | identifier text => cases step <;> rfl

/-- However the sink behaves, a call that makes a rule which applies puts it into the index. -/
theorem records_call {k : Call σ} {rules : List IndexedRule} (htaken : k.Taken)
    (h : k.before.index.Records rules) : k.after.index.Records (rules ++ k.recorded.toList) := by
  have hquiet (hrecorded : k.recorded = none) (hindex : k.after.index = k.before.index) :
      k.after.index.Records (rules ++ k.recorded.toList) := by
    rwa [hrecorded, hindex, Option.toList_none, List.append_nil]
  rcases Call.cases htaken with ⟨f, -, hresult, hafter⟩ | ⟨hstep, hresult, hafter⟩ |
    ⟨reason, quiet, -, hresult, hafter⟩ | ⟨rule, record, hmakes, hresult, hafter⟩ |
    ⟨fault, hstep, hresult, hafter⟩
  · exact hquiet (Call.recorded_of_result (by simp [hresult])) (by rw [hafter]; rfl)
  · exact hquiet (Call.recorded_of_result (by simp [hresult])) (by rw [hafter]; rfl)
  · exact hquiet (Call.recorded_of_result (by simp [hresult])) (by rw [hafter]; rfl)
  · generalize hstep : k.step = step at hmakes
    rcases k.before.make_cases rule record with ⟨reason, hdeferred, hmade⟩ | ⟨-, -, hmade⟩ |
      ⟨hdeferred, -, fault, d, happend, hmade⟩
    · rw [hmade] at hresult hafter
      refine hquiet ?_ (by rw [hafter])
      cases hmakes <;>
        simp [Call.recorded, Call.indexed, Call.refusal, hstep, hresult, hdeferred]
    · rw [hmade] at hresult hafter
      refine hquiet ?_ (by rw [hafter]; rfl)
      cases hmakes <;> simp [Call.recorded, Call.indexed, Call.refusal, hstep, hresult]
    · have hindex := (k.before.prepared record).index_append
        (rule (k.before.prepared record) k.before.generateIdentifier.1)
      rw [happend] at hindex
      rw [hmade] at hresult hafter
      rw [← hafter] at hindex
      cases hmakes with
      | createPresence applicability =>
        exact hquiet (by simp [Call.recorded, Call.indexed, Call.refusal, hstep]) hindex
      | create applicability requirement title =>
        have hrecorded : k.recorded =
            some ⟨applicability, requirement, k.before.generateIdentifier.1⟩ := by
          cases fault <;>
            simp [Call.recorded, Call.indexed, Call.refusal, hstep, hresult, hdeferred]
        rw [hrecorded, hindex]
        exact h.recordRule ⟨applicability, requirement, k.before.generateIdentifier.1⟩
  · exact hquiet (by simp [Call.recorded, Call.indexed, Call.refusal, hstep]) (by rw [hafter])

/-- The index records the rules that the calls of a run made for requirements, and those that the
sink refused. -/
theorem records_run (htrace : Trace c ks d) (h : c.index.Records []) :
    d.index.Records (ks.filterMap Call.recorded) := by
  induction htrace with
  | nil => exact h
  | @call ks k _ htaken ih =>
    have hcall := records_call htaken ih
    rw [List.filterMap_append]
    cases hrecorded : k.recorded with
    | none => simpa [hrecorded] using hcall
    | some x => simpa [hrecorded] using hcall
  | openKind kind name _ ih => exact ih
  | closeScope _ ih => rwa [index_closeScope]

/-- A reliable sink refuses nothing. -/
theorem recorded_of_sound {k : Call σ} (htaken : k.Taken) (hsound : k.before.Sound) :
    k.recorded = k.indexed := by
  cases hrefusal : k.refusal with
  | none => rw [Call.recorded, hrefusal, Option.or_none]
  | some x =>
    simp only [Call.refusal] at hrefusal
    split at hrefusal
    · rename_i applicability requirement title f hstep hresult hdeferred
      have hmakes := Step.Makes.create (σ := σ) applicability requirement title
      rw [← hstep] at hmakes
      have hmade := (Call.of_makes htaken hmakes).1
      rw [(hsound.make_eq _ _).1, hresult] at hmade
      cases StepResult.rule.inj hmade
    · cases hrefusal

/-- With a reliable sink the index records just the rules that were made. -/
theorem records_trace (htrace : Trace c ks d) (hsound : c.Sound) (h : c.index.Records []) :
    d.index.Records (ks.filterMap Call.indexed) := by
  have hsame : ks.filterMap Call.indexed = ks.filterMap Call.recorded := by
    refine List.filterMap_congr fun k hk => ?_
    obtain ⟨htaken, before, later, -, hbefore, -⟩ := htrace.of_mem hk
    exact (recorded_of_sound htaken (hbefore.tracks tracks_files hsound).1).symm
  rw [hsame]
  exact records_run htrace h

theorem index_start {settings : CompilerSettings} {catalog : Catalog} {template : GroupMetadata}
    {sink : Sink σ} {st : σ} (h : start settings catalog template sink st = .ok c) :
    c.index = .empty := by
  rw [eq_of_start h]

/-- **The index is the record of what was compiled.** With a sink that never fails, what is looked
up under a type, a sub-kind and a demand at any time are the identifiers of the rules made so far
that select the type, in any case, and the sub-kind, and that demand this; if there are none, of
those that select the type without a sub-kind. In the end every identifier of the index is that of
a rule in some group or, where alike rules are merged, one of those that it is joined of. -/
theorem index_is_record {σ : Type} (settings : CompilerSettings) (catalog : Catalog)
    (template : GroupMetadata) (sink : Sink σ) (st : σ) (hsink : sink.Reliable)
    (c d : Compiler σ) (hc : start settings catalog template sink st = .ok c)
    (ks : List (Call σ)) (htrace : Trace c ks d) :
    (∀ entity subKind kind subject,
      d.index.lookupAll (.of entity subKind kind subject) =
        if identifiersFor (ks.filterMap Call.indexed) (.of entity subKind kind subject) = [] then
          identifiersFor (ks.filterMap Call.indexed) (.of entity none kind subject)
        else identifiersFor (ks.filterMap Call.indexed) (.of entity subKind kind subject)) ∧
      ∃ rules, d.finish.1 = .ok rules ∧ rules.index = d.index ∧
        ∀ id, rules.index.containsIdentifier id = true →
          ∃ g ∈ rules.groups, ∃ s ∈ g.specifications, s.identifier = id ∨
            (settings.groupByApplicability = true ∧
              ∃ ids : List String, 2 ≤ ids.length ∧ id ∈ ids ∧ s.identifier = ",".intercalate ids ∧
                ids ⊆ (ks.flatMap Call.emissions).map (·.spec.identifier)) := by
  have hrecords : d.index.Records (ks.filterMap Call.indexed) :=
    records_trace htrace (sound_start hc hsink) (index_start hc ▸ RuleIndex.records_empty)
  refine ⟨fun entity subKind kind subject => hrecords.lookupAll _, ?_⟩
  obtain ⟨raw, rules, hfinish, hindex, hdealt, hgroups, hsettings⟩ :=
    finish_settles hc hsink htrace
  refine ⟨rules, hfinish, hindex, fun id hid => ?_⟩
  -- The identifier is that of a rule that was made, which was dealt out to some group.
  rw [hindex] at hid
  obtain ⟨x, hx, rfl⟩ := hrecords.exists_rule hid
  obtain ⟨k, hk, hindexed⟩ := List.mem_filterMap.mp hx
  obtain ⟨e, he, heq⟩ := emissions_of_indexed hindexed
  have hmade : e.spec ∈ (ks.flatMap Call.emissions).map (·.spec) :=
    List.mem_map_of_mem (List.mem_flatMap.mpr ⟨k, hk, he⟩)
  obtain ⟨g, hg, hspec⟩ := List.mem_flatMap.mp (hdealt.perm.mem_iff.mpr hmade)
  refine ⟨d.settledGroup g, hgroups ▸ List.mem_map_of_mem hg, ?_⟩
  rcases exists_of_mem_settled (c := d) hspec with
    hstays | ⟨hgrouping, t, ht, cs, hlength, hcs, hreplaces, hmem⟩
  · exact ⟨e.spec, hstays, .inl heq⟩
  · obtain ⟨ids, hperm, -, hjoined⟩ := hreplaces.identifier
    refine ⟨t, ht, .inr ⟨hsettings ▸ hgrouping, ids, ?_, ?_, hjoined, fun i hi => ?_⟩⟩
    · rwa [hperm.length_eq, List.length_map]
    · exact hperm.mem_iff.mpr (heq ▸ List.mem_map_of_mem hmem)
    · obtain ⟨s, hs, rfl⟩ := List.mem_map.mp (hperm.mem_iff.mp hi)
      obtain ⟨e', he', rfl⟩ := List.mem_map.mp ((hdealt.sublist g hg).subset (hcs hs))
      exact List.mem_map_of_mem he'

/-- Two rules about doors, one of them in a section, one about gates, and one that does not
apply. -/
def doorSteps : List Step :=
  let doors : FacetGroup := ⟨"Door", "", [.entity (.exact "IfcDoor") none], []⟩
  let gates : FacetGroup := ⟨"Gate", "", [.entity (.exact "IFCDOOR") (some (.exact "GATE"))], []⟩
  [.create doors (.attributeDefined "Name") none, .create gates (.attributeDefined "Name") none,
    .scope .sectional "A" [.create doors (.attributeDefined "Name") none,
      .setPasses .complexOnly, .create doors (.attributeDefined "Name") none]]

theorem index_of_doors :
    ∃ c : Compiler Unit,
      start (.of .stage3 .coreOnly) default (.named "Bundle") .null () = .ok c ∧
        (takeSteps false c doorSteps).2.1.index.lookupAll
          (.of "ifcDoor" (some "GATE") .attributeDefined "Name") = ["02"] ∧
        (takeSteps false c doorSteps).2.1.index.lookupAll
          (.of "ifcDoor" (some "TRAPDOOR") .attributeDefined "Name") = ["01", "A_01"] ∧
        ∃ rules, (takeSteps false c doorSteps).2.1.finish.1 = .ok rules := by
  obtain ⟨hlookup, rules, hfinish, -⟩ :=
    index_is_record (.of .stage3 .coreOnly) default (.named "Bundle") .null ()
      Sink.reliable_null _ _ rfl _ (trace_takeSteps false _ doorSteps)
  have hupper : "ifcDoor".toUpper = "IFCDOOR" := by decide +kernel
  refine ⟨_, rfl, ?_, ?_, rules, hfinish⟩
  · rw [hlookup, RuleKey.of, RuleKey.of, hupper]
    decide +kernel
  · rw [hlookup, RuleKey.of, RuleKey.of, hupper]
    decide +kernel

end Compiler

end Eir
