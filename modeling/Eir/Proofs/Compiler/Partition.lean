import Eir.Proofs.Compiler.Filing
import Eir.Proofs.Compiler.Numbering
import Eir.Proofs.Consolidation.Merge

/-!
# Partitioning

Whether scopes and rules get files of their own decides only where rules are
collected. Two runs of a program with different partitioning are `Twin` after
every step, so they give the same and make the same rules. Each run deals its
rules out to the groups that it ends with (`DealtOut`): no rule is lost or
doubled, and the rules of a group keep their order.
-/

namespace Eir

/-- The settings with the partitioning given. -/
def CompilerSettings.partitioned (s : CompilerSettings) (perScope perSpecification : Bool) :
    CompilerSettings :=
  { s with oneFilePerScope := perScope, oneFilePerSpecification := perSpecification }

/-! ## Dealing out -/

/-- The rules are in the groups, each once; those of one group are in order, and no group is
empty. -/
structure DealtOut (rules : List Specification) (groups : List SpecGroup) : Prop where
  perm : (groups.flatMap (·.specifications)).Perm rules
  sublist : ∀ g ∈ groups, g.specifications.Sublist rules
  nonempty : ∀ g ∈ groups, g.specifications ≠ []

theorem filedUnder_filter_ne {slot n : Nat} (h : n ≠ slot) (filed : List (Nat × Emission)) :
    filedUnder n (filed.filter (!·.1 == slot)) = filedUnder n filed := by
  rw [filedUnder, filedUnder, List.filter_filter]
  refine congrArg _ (List.filter_congr fun p _ => ?_)
  by_cases hn : p.1 = n
  · simp [hn, h]
  · simp [hn]

/-- The rules under all slots are the rules that were filed. -/
theorem perm_filedUnder {slots : List Nat} {filed : List (Nat × Emission)} (hnodup : slots.Nodup)
    (hslots : ∀ p ∈ filed, p.1 ∈ slots) :
    (slots.flatMap fun slot => filedUnder slot filed).Perm (filed.map (·.2.spec)) := by
  induction slots generalizing filed with
  | nil =>
    have hnil : filed = [] := List.eq_nil_iff_forall_not_mem.mpr fun p hp => by simpa using hslots p hp
    rw [hnil]
    rfl
  | cons slot slots ih =>
    obtain ⟨hslot, hnodup⟩ := List.nodup_cons.mp hnodup
    have hothers : ∀ p ∈ filed.filter (!·.1 == slot), p.1 ∈ slots := fun p hp => by
      obtain ⟨hmem, hne⟩ := List.mem_filter.mp hp
      exact (List.mem_cons.mp (hslots p hmem)).resolve_left (by simpa using hne)
    have hrest := ih hnodup hothers
    have hsame : (slots.flatMap fun n => filedUnder n (filed.filter (!·.1 == slot))) =
        slots.flatMap fun n => filedUnder n filed := by
      refine List.flatMap_congr fun n hn => filedUnder_filter_ne ?_ filed
      rintro rfl
      exact hslot hn
    rw [hsame] at hrest
    rw [List.flatMap_cons]
    refine (hrest.append_left _).trans ?_
    rw [filedUnder, ← List.map_append]
    exact (List.filter_append_perm (·.1 == slot) filed).map _

/-- Groups that hold what was filed under their slots have the rules dealt out. -/
theorem dealtOut_of_filed {groups : List (Nat × SpecGroup)} {filed : List (Nat × Emission)}
    (hnodup : (groups.map Prod.fst).Nodup) (hfiled : ∀ p ∈ filed, p.1 ∈ groups.map Prod.fst)
    (hcontent : ∀ p ∈ groups, p.2.specifications = filedUnder p.1 filed)
    (hnonempty : ∀ p ∈ groups, p.2.specifications ≠ []) :
    DealtOut (filed.map (·.2.spec)) (groups.map Prod.snd) := by
  refine ⟨?_, fun g hg => ?_, fun g hg => ?_⟩
  · have hall := perm_filedUnder hnodup hfiled
    rw [List.flatMap_map] at hall ⊢
    rwa [List.flatMap_congr hcontent]
  · obtain ⟨p, hp, rfl⟩ := List.mem_map.mp hg
    rw [hcontent p hp]
    exact List.filter_sublist.map _
  · obtain ⟨p, hp, rfl⟩ := List.mem_map.mp hg
    exact hnonempty p hp

/-! ## Flat bundles -/

namespace Bundle

variable {b b' : Bundle} {rules : List Specification}

theorem specifications_flatten (b : Bundle) (metadata : GroupMetadata) :
    (b.flatten metadata).specifications = Specification.sorted b.specifications :=
  List.append_nil _

theorem perm_flatten (b : Bundle) (metadata : GroupMetadata) :
    (b.flatten metadata).specifications.Perm b.specifications := by
  rw [specifications_flatten]
  exact Specification.perm_sorted _

theorem pairwise_flatten (b : Bundle) (metadata : GroupMetadata) :
    (b.flatten metadata).specifications.Pairwise fun s t => s.identifier ≤ t.identifier := by
  rw [specifications_flatten]
  exact List.pairwise_map.mp (Specification.pairwise_sorted _)

theorem perm_flatten_of_dealtOut (h : DealtOut rules b.groups) (h' : DealtOut rules b'.groups)
    (metadata : GroupMetadata) :
    (b.flatten metadata).specifications.Perm (b'.flatten metadata).specifications :=
  (b.perm_flatten metadata).trans (h.perm.trans ((b'.perm_flatten metadata).trans h'.perm).symm)

/-- With identifiers that differ, the flat bundle does not depend on how rules were dealt out. -/
theorem flatten_eq (hname : b.name = b'.name) (hproject : b.project = b'.project)
    (hstages : b.stages = b'.stages) (h : DealtOut rules b.groups) (h' : DealtOut rules b'.groups)
    (hnodup : (rules.map (·.identifier)).Nodup) (metadata : GroupMetadata) :
    b.flatten metadata = b'.flatten metadata := by
  have hsorted : Specification.sorted b.specifications = Specification.sorted b'.specifications :=
    Specification.sorted_of_perm (h.perm.trans h'.perm.symm) ((h'.perm.map _).nodup_iff.mpr hnodup)
  unfold Specification.sorted at hsorted
  rw [flatten, flatten, hname, hproject, hstages, hsorted]

end Bundle

namespace Compiler

variable {σ τ : Type} {c c' : Compiler σ} {d d' : Compiler τ}

/-! ## The index of the rules -/

theorem index_append (c : Compiler σ) (spec : Specification) :
    (c.append spec).2.index = c.index := by
  have hcollect (e : Compiler σ) : (e.collect spec).index = e.index := by
    rw [collect_eq]
    rcases e.activeSlot_cases with ⟨slot, -, h⟩ | ⟨-, top, outer, -, h⟩ <;> rw [h] <;> rfl
  rcases c.append_cases spec with ⟨-, h⟩ | ⟨-, st, fault, -, h⟩
  · rw [h, hcollect]
  · rw [h]
    cases fault with
    | none => exact hcollect _
    | some f => rfl

theorem index_settle (c : Compiler σ) (s : Scope) : (c.settle s).index = c.index := by
  have hclose : (c.closeGroup s).2.index = c.index := by
    rcases c.closeGroup_cases s with ⟨-, notices, h⟩ | ⟨slot, g, -, -, -, h⟩ |
      ⟨slot, g, d, -, -, -, rfl, ⟨-, h⟩ | ⟨-, st, fault, -, h⟩⟩ <;>
      rw [h] <;> rfl
  rcases c.settle_cases s with ⟨-, h⟩ | ⟨f, -, h⟩ <;> rw [h] <;> exact hclose

theorem index_closeScope (c : Compiler σ) : c.closeScope.index = c.index := by
  rcases c.closeScope_cases with ⟨-, h⟩ | ⟨parent, outer, -, h⟩ <;> rw [h]
  exact index_settle _ _

theorem index_finish (c : Compiler σ) : c.finish.2.index = c.index := by
  have hall (scopes : List Scope) (e : Compiler σ) : (e.closeAll scopes).index = e.index := by
    induction scopes generalizing e with
    | nil => rfl
    | cons s scopes ih => exact (ih (e.settle s)).trans (e.index_settle s)
  exact hall (c.top :: c.outer) c

/-- A rule that is made is in the index. -/
theorem Sound.make_eq (h : c.Sound) (rule : Compiler σ → String → Specification)
    (record : RuleIndex → String → RuleIndex) :
    (c.make rule record).1 = .ok (if c.isApplicable then some c.generateIdentifier.1 else none) ∧
      (c.make rule record).2.index =
        if c.isApplicable then record c.index c.generateIdentifier.1 else c.index := by
  rcases c.make_cases rule record with ⟨reason, hdeferred, -⟩ | ⟨-, happ, heq⟩ |
    ⟨-, happ, fault, d, happend, heq⟩
  · rw [h.deferred] at hdeferred
    cases hdeferred
  · rw [heq, happ]
    exact ⟨rfl, rfl⟩
  · have hindex := (c.prepared record).index_append
      (rule (c.prepared record) c.generateIdentifier.1)
    have hprepared : (c.prepared record).Sound := h.of_eq (h.grouped.prepared record) rfl rfl
    obtain ⟨st, hnone⟩ := hprepared.append (rule (c.prepared record) c.generateIdentifier.1)
    rw [happend] at hindex hnone
    obtain rfl : fault = none := congrArg Prod.fst hnone
    rw [heq, happ]
    exact ⟨rfl, hindex⟩

/-! ## One run -/

section Start

variable {settings : CompilerSettings} {catalog : Catalog} {template : GroupMetadata}
  {sink : Sink σ} {st : σ}

/-- The groups at the end have the rules of the run dealt out, if alike rules are not merged. -/
theorem dealtOut_finish (h : start settings catalog template sink st = .ok c)
    (hsink : sink.Reliable) (hgroup : settings.groupByApplicability = false) (strict : Bool)
    (steps : List Step) :
    DealtOut ((emitted c steps (takeSteps strict c steps).1).map (·.spec))
      ((takeSteps strict c steps).2.1.finish.2.groups.map Prod.snd) := by
  have hsound := sound_start h hsink
  obtain ⟨hsettings, -, hcontent, houtside⟩ := fresh_start h
  obtain ⟨hsound', filed, closed, hfiled, hadvance, -⟩ :=
    (files_takeSteps strict c steps).whole hsound
  obtain ⟨-, hnodup, closed', hadvance', -⟩ := advance_finish hsound'
  obtain ⟨-, hsettled, hnonempty, hfilled⟩ := hadvance.trans hadvance'
  generalize (takeSteps strict c steps).2.1.finish.2 = d at hnodup hsettled hfilled ⊢
  rw [outside_nil, houtside, List.nil_append] at hsettled
  have hheld : ∀ slot, d.content slot = filedUnder slot filed := by
    intro slot
    rw [hfilled (by rw [hsettings, hgroup]), hcontent, List.append_nil, List.nil_append]
  rw [← hfiled, List.map_map]
  refine dealtOut_of_filed hnodup (fun p hp => ?_) (fun p hp => ?_) fun p hp =>
    hnonempty p (hsettled.mem_iff.mp hp)
  · have hmem : p.2.spec ∈ filedUnder p.1 filed :=
      List.mem_map.mpr ⟨p, List.mem_filter.mpr ⟨hp, by simp⟩, rfl⟩
    rw [← hheld, content] at hmem
    refine mem_groupSlots.mpr ?_
    cases hgroup? : d.group? p.1 with
    | some g => rfl
    | none => simp [hgroup?] at hmem
  · have hlookup : d.group? p.1 = some p.2 := lookup_of_mem hnodup hp
    rw [← hheld, content, hlookup]
    rfl

/-- A run from the start can be finished. -/
theorem finish_takeSteps (h : start settings catalog template sink st = .ok c)
    (hsink : sink.Reliable) (strict : Bool) (steps : List Step) :
    ∃ rules, (takeSteps strict c steps).2.1.finish.1 = .ok rules ∧
      rules.groups = (takeSteps strict c steps).2.1.finish.2.groups.map Prod.snd ∧
      rules.index = (takeSteps strict c steps).2.1.index ∧ rules.root = template := by
  obtain ⟨hsound, filed, closed, -, hadvance, -⟩ :=
    (files_takeSteps strict c steps).whole (sound_start h hsink)
  obtain ⟨hfinish, -, closed', hadvance', -⟩ := advance_finish hsound
  have hsetup := (hadvance.trans hadvance').setup
  refine ⟨_, hfinish, rfl, index_finish _, ?_⟩
  exact (congrArg (fun x => x.2.2.1) hsetup).trans (fresh_start h).2.1

end Start

/-! ## Two runs with different partitioning -/

/-- Two compilations that differ at most in where rules are collected, and in the sinks. -/
structure Twin (c : Compiler σ) (d : Compiler τ) : Prop where
  similar : Similar c d
  stage : c.settings.stage = d.settings.stage
  pass : c.settings.pass = d.settings.pass
  index : c.index = d.index

theorem Twin.of_similar (h : Twin c d) (hsimilar : Similar c' d') (hsetup : c'.setup = c.setup)
    (hsetup' : d'.setup = d.setup) (hindex : c'.index = d'.index) : Twin c' d' := by
  refine ⟨hsimilar, ?_, ?_, hindex⟩
  · rw [settings_of_setup hsetup, settings_of_setup hsetup', h.stage]
  · rw [settings_of_setup hsetup, settings_of_setup hsetup', h.pass]

theorem Twin.isApplicable (h : Twin c d) : c.isApplicable = d.isApplicable := by
  have hstages := congrArg Scope.stages h.similar.top
  have hpasses := congrArg Scope.passes h.similar.top
  simp only [Scope.bare] at hstages hpasses
  rw [Compiler.isApplicable, Compiler.isApplicable, hstages, hpasses, h.stage, h.pass]

theorem Twin.location (h : Twin c d) : c.location = d.location := by
  have hprefix := congrArg Scope.fullPrefix h.similar.top
  simp only [Scope.bare] at hprefix
  rw [Compiler.location, Compiler.location, h.stage, hprefix]

theorem Twin.make {rule : Compiler σ → String → Specification}
    {rule' : Compiler τ → String → Specification} (h : Twin c d)
    (record : RuleIndex → String → RuleIndex) :
    (c.make rule record).1 = (d.make rule' record).1 ∧
      Twin (c.make rule record).2 (d.make rule' record).2 := by
  obtain ⟨hresult, hindex⟩ := h.similar.left.make_eq rule record
  obtain ⟨hresult', hindex'⟩ := h.similar.right.make_eq rule' record
  refine ⟨?_, h.of_similar h.similar.make (c.setup_make rule record).1
    (d.setup_make rule' record).1 ?_⟩
  · rw [hresult, hresult', h.isApplicable, h.similar.identifier]
  · rw [hindex, hindex', h.isApplicable, h.similar.identifier, h.index]

/-- No operation tells twins apart. -/
theorem lockstep_twin : Lockstep (Twin (σ := σ) (τ := τ)) where
  mapTop hf h := h.of_similar (h.similar.mapTop hf) rfl rfl h.index
  generateIdentifier h :=
    ⟨h.similar.identifier, h.of_similar h.similar.generateIdentifier rfl rfl h.index⟩
  skip reason quiet h := h.of_similar (h.similar.skip reason reason quiet quiet) rfl rfl h.index
  createTitled applicability requirement title h := by
    rw [createTitled_eq_make, createTitled_eq_make]
    exact h.make _
  createPresence applicability h := by
    rw [createPresence_eq_make, createPresence_eq_make]
    exact h.make _
  openKind kind name h := h.of_similar (h.similar.openKind kind name) rfl rfl h.index
  closeScope {c d} h := h.of_similar h.similar.closeScope c.setup_closeScope d.setup_closeScope
    (by rw [index_closeScope, index_closeScope, h.index])

theorem Twin.emission (h : Twin c d) {rule : Compiler σ → String → Specification}
    {rule' : Compiler τ → String → Specification} (hrule : rule c = rule' d)
    (result : Except Fault (Option String)) : c.emission rule result = d.emission rule' result := by
  rcases result with f | _ | identifier
  · rfl
  · rfl
  · rw [Compiler.emission, Compiler.emission, h.location, hrule]

theorem Twin.made (h : Twin c d) (step : Step) (result : StepResult) :
    c.made step result = d.made step result := by
  cases result with
  | nothing => rw [made_nothing, made_nothing]
  | identifier text => cases step <;> rfl
  | rule result =>
    cases step with
    | create applicability requirement title =>
      exact h.emission (funext fun _ => titledRule_eq h.similar ..) result
    | createPresence applicability =>
      exact h.emission (funext fun _ => presenceRule_eq h.similar ..) result
    | _ => rfl

theorem twin_after {o : Outcome σ} {o' : Outcome τ} (h : Outcome.Match Twin o o') :
    Twin o.after o'.after := by
  cases h with
  | step hafter => exact hafter
  | scope _ _ hafter => exact hafter

mutual

theorem emittedBy_eq {σ τ : Type} {c : Compiler σ} {d : Compiler τ} (h : Twin c d) (step : Step) :
    ∀ (o : Outcome σ) {o' : Outcome τ}, Outcome.Match Twin o o' →
      emittedBy c step o = emittedBy d step o'
  | .step result _, _, .step _ => by rw [emittedBy_step, emittedBy_step, h.made]
  | .scope _ inner _, _, .scope hopen hinner _ => by
    rw [emittedBy_scope, emittedBy_scope]
    exact emitted_eq hopen step.body inner hinner

/-- Twins make the same rules. -/
theorem emitted_eq {σ τ : Type} {c : Compiler σ} {d : Compiler τ} (h : Twin c d) :
    ∀ (steps : List Step) (os : List (Outcome σ)) {os' : List (Outcome τ)},
      List.Forall₂ (Outcome.Match Twin) os os' → emitted c steps os = emitted d steps os'
  | [], _, _, _ => by rw [emitted_nil_left, emitted_nil_left]
  | _ :: _, _, _, .nil => by rw [emitted_nil_right, emitted_nil_right]
  | step :: steps, o :: os, _, .cons hmatch hmatches => by
    rw [emitted_cons, emitted_cons, emittedBy_eq h step o hmatch,
      emitted_eq (twin_after hmatch) steps os hmatches]

end

theorem twin_start {settings : CompilerSettings} {perScope perScope' perSpec perSpec' : Bool}
    {catalog : Catalog} {template : GroupMetadata} {sink : Sink σ} {sink' : Sink τ} {st : σ} {st' : τ}
    (hsink : sink.Reliable) (hsink' : sink'.Reliable)
    (hc : start (settings.partitioned perScope perSpec) catalog template sink st = .ok c)
    (hd : start (settings.partitioned perScope' perSpec') catalog template sink' st' = .ok d) :
    Twin c d := by
  have hleft := sound_start hc hsink
  have hright := sound_start hd hsink'
  obtain rfl := eq_of_start hc
  obtain rfl := eq_of_start hd
  exact ⟨⟨hleft, hright, rfl, rfl, rfl, rfl⟩, rfl, rfl, rfl⟩

/-- The open scopes look the same, and so do the rules that can be looked up. -/
def Alike (c : Compiler σ) (d : Compiler τ) : Prop := c.stack = d.stack ∧ c.index = d.index

theorem Twin.alike (h : Twin c d) : Alike c d := ⟨h.similar.stack, h.index⟩

/-- **Partitioning keeps the rules.** However scopes and rules get files, as long as alike rules
are not merged, a program gives the same at each step and makes the same rules. Each run deals
them out to the groups that it ends with. So the flat bundles have the same rules in the order of
their identifiers, and are the same if the identifiers differ. -/
theorem partitioning_keeps_rules {σ τ : Type} (settings : CompilerSettings)
    (hgroup : settings.groupByApplicability = false) (perScope perScope' perSpec perSpec' : Bool)
    (catalog : Catalog) (template : GroupMetadata) (sink : Sink σ) (sink' : Sink τ) (st : σ)
    (st' : τ) (hsink : sink.Reliable) (hsink' : sink'.Reliable) (c : Compiler σ) (d : Compiler τ)
    (hc : start (settings.partitioned perScope perSpec) catalog template sink st = .ok c)
    (hd : start (settings.partitioned perScope' perSpec') catalog template sink' st' = .ok d)
    (strict : Bool) (steps : List Step) :
    List.Forall₂ (Outcome.Match Alike) (takeSteps strict c steps).1 (takeSteps strict d steps).1 ∧
      (takeSteps strict c steps).2.2 = (takeSteps strict d steps).2.2 ∧
      ∃ made rules rules',
        (emitted c steps (takeSteps strict c steps).1).map (·.spec) = made ∧
        (emitted d steps (takeSteps strict d steps).1).map (·.spec) = made ∧
        (takeSteps strict c steps).2.1.finish.1 = .ok rules ∧
        (takeSteps strict d steps).2.1.finish.1 = .ok rules' ∧
        rules.index = rules'.index ∧ rules.root = rules'.root ∧
        DealtOut made rules.groups ∧ DealtOut made rules'.groups ∧
        ∀ (b : Bundle) (metadata : GroupMetadata) (flat flat' : Bundle),
          flat = ({ b with groups := rules.groups } : Bundle).flatten metadata →
          flat' = ({ b with groups := rules'.groups } : Bundle).flatten metadata →
          flat.specifications.Perm flat'.specifications ∧
          flat.specifications.Pairwise (fun s t => s.identifier ≤ t.identifier) ∧
          flat'.specifications.Pairwise (fun s t => s.identifier ≤ t.identifier) ∧
          ((made.map (·.identifier)).Nodup → flat = flat') := by
  have htwin := twin_start hsink hsink' hc hd
  have hrun := lockstep_twin.takeSteps strict htwin steps
  have hmade := emitted_eq htwin steps _ hrun.outcomes
  have hdealt := dealtOut_finish hc hsink hgroup strict steps
  have hdealt' := dealtOut_finish hd hsink' hgroup strict steps
  obtain ⟨rules, hfinish, hgroups, hindex, hroot⟩ := finish_takeSteps hc hsink strict steps
  obtain ⟨rules', hfinish', hgroups', hindex', hroot'⟩ := finish_takeSteps hd hsink' strict steps
  rw [← hgroups] at hdealt
  rw [← hgroups', ← hmade] at hdealt'
  refine ⟨Outcome.forall₂_mono Twin.alike _ hrun.outcomes, hrun.halt, _, rules, rules', rfl,
    by rw [hmade], hfinish, hfinish', ?_, by rw [hroot, hroot'], hdealt, hdealt', ?_⟩
  · rw [hindex, hindex', hrun.after.index]
  · rintro b metadata _ _ rfl rfl
    refine ⟨?_, Bundle.pairwise_flatten .., Bundle.pairwise_flatten .., fun hnodup => ?_⟩
    · exact Bundle.perm_flatten_of_dealtOut hdealt hdealt' metadata
    · refine Bundle.flatten_eq ?_ ?_ ?_ hdealt hdealt' hnodup metadata <;> rfl

/-- A rule in a section, one in a scope that numbers within it, an empty section, and a rule at the
end. -/
def sectionSteps : List Step :=
  let doors : FacetGroup := ⟨"Door", "", [.entity (.exact "IFCDOOR") none], []⟩
  [.scope .sectional "" [.create doors (.attributeDefined "Name") none,
      .scope .numbering "A" [.create doors (.attributeDefined "Tag") none]],
    .scope .sectional "" [], .createPresence doors]

/-- How many rules each group has in the end. -/
def groupSizes (c : Compiler σ) : Option (List Nat) :=
  c.finish.1.toOption.map fun rules => rules.groups.map (·.specifications.length)

theorem groupSizes_eq {rules : CompiledRules} {sizes : List Nat} (h : c.finish.1 = .ok rules)
    (hsizes : c.groupSizes = some sizes) :
    rules.groups.map (·.specifications.length) = sizes := by
  rw [groupSizes, h] at hsizes
  exact Option.some.inj hsizes

theorem partitioning_of_sections :
    ∃ c d : Compiler Unit,
      start ((CompilerSettings.of .stage3 .coreOnly).partitioned false false) default
        (.named "Bundle") .null () = .ok c ∧
        start ((CompilerSettings.of .stage3 .coreOnly).partitioned true true) default
          (.named "Bundle") .null () = .ok d ∧
        ∃ made rules rules', (takeSteps false c sectionSteps).2.1.finish.1 = .ok rules ∧
          (takeSteps false d sectionSteps).2.1.finish.1 = .ok rules' ∧
          made.map (·.identifier) = ["01_01", "01_A_01", "03"] ∧
          DealtOut made rules.groups ∧ DealtOut made rules'.groups ∧
          rules.groups.map (·.specifications.length) = [3] ∧
          rules'.groups.map (·.specifications.length) = [1, 2] := by
  have hnull : Sink.null.Reliable := ⟨fun _ _ _ _ => rfl, fun _ _ _ => rfl⟩
  obtain ⟨-, -, made, rules, rules', hmade, -, hfinish, hfinish', -, -, hdealt, hdealt', -⟩ :=
    partitioning_keeps_rules (.of .stage3 .coreOnly) rfl false true false true default
      (.named "Bundle") .null .null () () hnull hnull _ _ rfl rfl false sectionSteps
  refine ⟨_, _, rfl, rfl, made, rules, rules', hfinish, hfinish', ?_, hdealt, hdealt', ?_, ?_⟩
  · rw [← hmade]
    decide +kernel
  · exact groupSizes_eq hfinish (by decide +kernel)
  · exact groupSizes_eq hfinish' (by decide +kernel)

end Compiler

end Eir
