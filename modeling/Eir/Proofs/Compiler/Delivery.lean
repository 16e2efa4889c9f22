import Eir.Proofs.Compiler.Partition

/-!
# What is delivered is what is returned

Groups go to the sink while the program still runs, and the program gives them
once more at its end. The two are the same: each group goes out once, when its
scope closes, and nothing reaches it after that. Rules with files of their own go
out as they are made.

A `logged` sink does what another one does and notes what it was asked for.
-/

namespace Eir

namespace Sink

variable {σ : Type}

/-- The sink, with a log of the steps that it was asked for, in order. -/
def logged (s : Sink σ) : Sink (σ × List SinkEvent) where
  writeSpecification location metadata spec st :=
    let (next, fault) := s.writeSpecification location metadata spec st.1
    ((next, st.2 ++ [.specification location metadata spec]), fault)
  writeGroup stage group st :=
    let (next, fault) := s.writeGroup stage group st.1
    ((next, st.2 ++ [.group stage group]), fault)

theorem Reliable.logged {s : Sink σ} (h : s.Reliable) : s.logged.Reliable :=
  ⟨fun l m x st => h.writeSpecification l m x st.1, fun stage g st => h.writeGroup stage g st.1⟩

theorem log_receive (s : Sink σ) (e : SinkEvent) (st : σ × List SinkEvent) :
    (s.logged.receive st e).2 = st.2 ++ [e] := by
  cases e <;> rfl

theorem log_receiveAll (s : Sink σ) (events : List SinkEvent) (st : σ × List SinkEvent) :
    (s.logged.receiveAll events st).2 = st.2 ++ events := by
  induction events generalizing st with
  | nil => exact (List.append_nil st.2).symm
  | cons e events ih =>
    have hrest := ih (s.logged.receive st e)
    rw [log_receive, List.append_assoc, List.singleton_append] at hrest
    exact hrest

end Sink

namespace Compiler

variable {σ : Type}

/-- What the sink was asked for so far. -/
def log (c : Compiler (σ × List SinkEvent)) : List SinkEvent := c.sinkState.2

/-- The groups that went to the sink so far, each in a file of its own. -/
def groupLog (c : Compiler (σ × List SinkEvent)) : List SinkEvent := c.log.filter (·.isGroup)

/-- The rules that went to the sink so far, each in a file of its own. -/
def specLog (c : Compiler (σ × List SinkEvent)) : List SinkEvent := c.log.filter (!·.isGroup)

variable {c d e : Compiler (σ × List SinkEvent)} {sink : Sink σ}

theorem specLog_of_log {events : List SinkEvent} (h : d.log = c.log ++ events) :
    d.specLog = c.specLog ++ events.filter (!·.isGroup) := by
  rw [specLog, h, List.filter_append]
  rfl

theorem groupLog_of_log {events : List SinkEvent} (h : d.log = c.log ++ events) :
    d.groupLog = c.groupLog ++ events.filter (·.isGroup) := by
  rw [groupLog, h, List.filter_append]
  rfl

/-- What was received between two moments is in the log. -/
theorem Received.log {rules : List Emission} {groups : List SpecGroup} (hsink : c.sink = sink.logged)
    (h : Received c rules groups d) :
    d.specLog = c.specLog ++
        (if c.settings.oneFilePerSpecification then rules.map c.specEvent else []) ∧
      d.groupLog = c.groupLog ++
        (if c.settings.oneFilePerScope then groups.map c.groupEvent else []) := by
  obtain ⟨events, hstate, hrules, hgroups⟩ := h
  have hlog : d.log = c.log ++ events := by
    rw [Compiler.log, hstate, hsink, Sink.log_receiveAll]
    rfl
  exact ⟨by rw [specLog_of_log hlog, hrules], by rw [groupLog_of_log hlog, hgroups]⟩

/-- The sink was asked for the rules, in order, and for each of the groups once, as far as they
have files of their own, and for nothing else. -/
structure Delivered (settings : CompilerSettings) (rules : List SinkEvent)
    (groups : List SpecGroup) (c : Compiler (σ × List SinkEvent)) : Prop where
  rules : c.specLog = if settings.oneFilePerSpecification then rules else []
  groups : c.groupLog.Perm
    (if settings.oneFilePerScope then groups.map (.group settings.stage) else [])

section Start

variable {settings : CompilerSettings} {catalog : Catalog} {template : GroupMetadata} {st : σ}
  {slots : List Nat} {filed : List (Nat × Emission)} {closed : List (Nat × SpecGroup)}
  {rules : List Emission}

theorem log_start (h : start settings catalog template sink.logged (st, []) = .ok c) :
    c.sink = sink.logged ∧ c.log = [] := by
  obtain rfl := eq_of_start h
  exact ⟨rfl, rfl⟩

/-- What was closed since the start is all that is not owned by open scopes. -/
theorem delivered_of_advance (h : start settings catalog template sink.logged (st, []) = .ok c)
    (hadvance : Advance c.openSlots slots c filed closed d)
    (hreceived : Received c rules (closed.map Prod.snd) d) :
    Delivered settings (rules.map c.specEvent) ((outside slots d.groups).map Prod.snd) d := by
  obtain ⟨hsink, hlog⟩ := log_start h
  obtain ⟨hsettings, -, -, houtside⟩ := fresh_start h
  obtain ⟨hspecs, hgroups⟩ := hreceived.log hsink
  have hsettled := hadvance.settled
  rw [houtside, List.nil_append] at hsettled
  refine ⟨?_, ?_⟩
  · rw [hspecs, specLog, hlog, hsettings]
    rfl
  · rw [hgroups, groupLog, hlog, hsettings]
    by_cases hfile : settings.oneFilePerScope = true
    · rw [if_pos hfile, if_pos hfile, ← hsettings]
      exact (hsettled.map Prod.snd).symm.map c.groupEvent
    · rw [if_neg hfile, if_neg hfile]
      rfl

/-- A group that is closed stays as it is. -/
theorem closedGroups_subset {slots' : List Nat} (h : Advance slots slots' c filed closed d) :
    outside slots c.groups ⊆ outside slots' d.groups :=
  List.Subset.trans (List.subset_append_left ..) h.settled.symm.subset

/-- **What is delivered is what is returned.** With a sink that never fails, a program can be
finished whatever it does. By then each rule with a file of its own went to the sink as it was
made, and each group with a file of its own went there once, as it is returned; no group is empty.
At each moment of the run the groups that went to the sink are those that no open scope owns, and
these stay as they are to the end. -/
theorem delivered_is_returned {σ : Type} (settings : CompilerSettings) (catalog : Catalog)
    (template : GroupMetadata) (sink : Sink σ) (st : σ) (hsink : sink.Reliable)
    (c : Compiler (σ × List SinkEvent))
    (hc : start settings catalog template sink.logged (st, []) = .ok c) (strict : Bool)
    (steps : List Step) :
    ∃ rules, (takeSteps strict c steps).2.1.finish.1 = .ok rules ∧
      (∀ g ∈ rules.groups, g.specifications ≠ []) ∧
      Delivered settings ((emitted c steps (takeSteps strict c steps).1).map c.specEvent)
        rules.groups (takeSteps strict c steps).2.1.finish.2 ∧
      (∀ m ∈ Outcome.momentsOf (takeSteps strict c steps).1,
        (∃ before, before <+: emitted c steps (takeSteps strict c steps).1 ∧
          Delivered settings (before.map c.specEvent) (m.closedGroups.map Prod.snd) m) ∧
        m.closedGroups ⊆ (takeSteps strict c steps).2.1.finish.2.groups) ∧
      (Outcome.momentsOf (takeSteps strict c steps).1).Pairwise
        fun m m' => m.closedGroups ⊆ m'.closedGroups := by
  have hpath := files_takeSteps strict c steps
  have hsound := sound_start hc hsink.logged
  obtain ⟨hsound', filed, closed, -, hadvance, hreceived⟩ := hpath.whole hsound
  obtain ⟨hfinish, -, closed', hadvance', hreceived'⟩ := advance_finish hsound'
  have hall := hadvance.trans hadvance'
  have hgot := hreceived.trans hadvance.setup hreceived'
  rw [← List.map_append, List.append_nil] at hgot
  have hdelivered := delivered_of_advance hc hall hgot
  rw [outside_nil] at hdelivered
  refine ⟨_, hfinish, fun g hg => ?_, hdelivered, fun m hm => ⟨?_, ?_⟩, ?_⟩
  · obtain ⟨p, hp, rfl⟩ := List.mem_map.mp hg
    have hsettled := hall.settled
    rw [outside_nil, (fresh_start hc).2.2.2, List.nil_append] at hsettled
    exact hall.nonempty p (hsettled.mem_iff.mp hp)
  · obtain ⟨before, later, hsplit, hbefore, -⟩ := hpath.between m hm
    obtain ⟨-, filed, closed, -, hadvance, hreceived⟩ := hbefore hsound
    exact ⟨before, ⟨later, hsplit.symm⟩, delivered_of_advance hc hadvance hreceived⟩
  · obtain ⟨before, later, -, hbefore, hlater⟩ := hpath.between m hm
    obtain ⟨-, filed, closed, -, hadvance, -⟩ := hlater (hbefore hsound).1
    have hstays := closedGroups_subset (hadvance.trans hadvance')
    rwa [outside_nil] at hstays
  · refine hpath.ordered.imp_of_mem fun {m m'} hm _ h => ?_
    obtain ⟨before, -, -, hbefore, -⟩ := hpath.between m hm
    obtain ⟨later, hlater⟩ := h
    obtain ⟨-, filed, closed, -, hadvance, -⟩ := hlater (hbefore hsound).1
    exact closedGroups_subset hadvance

end Start

/-- A section with a rule in it and one in a scope of its own, and then a rule outside. -/
def deliverySteps : List Step :=
  let doors : FacetGroup := ⟨"Door", "", [.entity (.exact "IFCDOOR") none], []⟩
  [.scope .sectional "A" [.create doors (.attributeDefined "Name") none,
      .scope .sectional "B" [.create doors (.attributeDefined "Tag") none]],
    .createPresence doors]

/-- What was delivered, in short: where a rule was made with its identifier, or how many rules a
group has. -/
def deliveries (c : Compiler (σ × List SinkEvent)) : List (String × String ⊕ Nat) :=
  c.log.map fun
    | .specification location _ spec => .inl (location.fullPrefix, spec.identifier)
    | .group _ group => .inr group.specifications.length

theorem delivered_sections :
    ∃ c : Compiler (Unit × List SinkEvent), ∃ rules,
      start ((CompilerSettings.of .stage3 .coreOnly).partitioned true true) default
        (.named "Bundle") Sink.null.logged ((), []) = .ok c ∧
        (takeSteps false c deliverySteps).2.1.finish.1 = .ok rules ∧
        (takeSteps false c deliverySteps).2.1.finish.2.groupLog.Perm
          (rules.groups.map (.group .stage3)) ∧
        (takeSteps false c deliverySteps).2.1.finish.2.deliveries =
          [.inl ("A", "A_01"), .inl ("A/A_B", "A_B_01"), .inr 1, .inr 1, .inl ("", "02"), .inr 1] := by
  have hnull : Sink.null.Reliable := ⟨fun _ _ _ _ => rfl, fun _ _ _ => rfl⟩
  obtain ⟨rules, hfinish, -, hdelivered, -⟩ :=
    delivered_is_returned ((CompilerSettings.of .stage3 .coreOnly).partitioned true true) default
      (.named "Bundle") .null () hnull _ rfl false deliverySteps
  exact ⟨_, rules, rfl, hfinish, hdelivered.groups, by decide +kernel⟩

end Compiler

end Eir
