import Eir.Proofs.Compiler.Calls

/-!
# A failed close is kept

A scope that closes cannot give a fault back, so the compiler keeps it. An
`answering` sink does what another one does, which may fail in any way, and notes
its answers; `closeFaults` are the faults among them with which scopes closed. The
compiler keeps just the first of them (`Deferring`), whatever comes after it. No
rule is made from then on, and the fault comes out in the end.
-/

namespace Eir

/-- What a sink was asked for, and the fault if it failed. -/
structure SinkAnswer where
  event : SinkEvent
  fault : Option Fault

namespace SinkAnswer

/-- The fault with which a scope closed. -/
def closeFault? (a : SinkAnswer) : Option Fault :=
  match a.event with
  | .group .. => a.fault
  | .specification .. => none

end SinkAnswer

/-- The step makes a rule, if rules apply. -/
def Step.makesRule : Step → Bool
  | create .. | createPresence .. => true
  | _ => false

theorem Step.exists_makes_of_makesRule (σ : Type) {step : Step} (h : step.makesRule = true) :
    ∃ (rule : Compiler σ → String → Specification) (record : RuleIndex → String → RuleIndex),
      step.Makes rule record := by
  cases step with
  | create applicability requirement title => exact ⟨_, _, .create applicability requirement title⟩
  | createPresence applicability => exact ⟨_, _, .createPresence applicability⟩
  | _ => cases h

/-- The sink, with a log of its answers, in order. -/
def Sink.answering {σ : Type} (s : Sink σ) : Sink (σ × List SinkAnswer) where
  writeSpecification location metadata spec st :=
    let (next, fault) := s.writeSpecification location metadata spec st.1
    ((next, st.2 ++ [⟨.specification location metadata spec, fault⟩]), fault)
  writeGroup stage group st :=
    let (next, fault) := s.writeGroup stage group st.1
    ((next, st.2 ++ [⟨.group stage group, fault⟩]), fault)

namespace Compiler

variable {σ : Type}

/-- The faults with which scopes closed so far, in order. -/
def closeFaults (c : Compiler (σ × List SinkAnswer)) : List Fault :=
  c.sinkState.2.filterMap SinkAnswer.closeFault?

variable {c d : Compiler (σ × List SinkAnswer)} {sink : Sink σ}

/-- The compiler keeps the first of the faults with which scopes closed. -/
structure Deferring (sink : Sink σ) (c : Compiler (σ × List SinkAnswer)) : Prop where
  sink : c.sink = sink.answering
  deferred : c.deferred = c.closeFaults.head?.map deferredReason

theorem Deferring.of_eq (h : c.Deferring sink) (hsink : d.sink = c.sink)
    (hdeferred : d.deferred = c.deferred) (hfaults : d.closeFaults = c.closeFaults) :
    d.Deferring sink :=
  ⟨hsink.trans h.sink, by rw [hdeferred, hfaults, h.deferred]⟩

/-! ## What each operation logs -/

theorem closeFaults_collect (c : Compiler (σ × List SinkAnswer)) (spec : Specification) :
    (c.collect spec).closeFaults = c.closeFaults := by
  rw [closeFaults, closeFaults, show (c.collect spec).sinkState = c.activeSlot.2.sinkState from rfl]
  rcases c.activeSlot_cases with ⟨slot, -, h⟩ | ⟨-, top, outer, -, h⟩ <;> rw [h]

/-- A rule with a file of its own closes no scope, even if the sink refuses it. -/
theorem closeFaults_append (hsink : c.sink = sink.answering) (spec : Specification) :
    (c.append spec).2.closeFaults = c.closeFaults := by
  rcases c.append_cases spec with ⟨-, h⟩ | ⟨-, st, fault, hwrite, h⟩
  · rw [h]
    exact closeFaults_collect c spec
  · have hlogged : ({ c with sinkState := st } : Compiler _).closeFaults = c.closeFaults := by
      rw [hsink] at hwrite
      rw [closeFaults, closeFaults, show st = _ from (congrArg Prod.fst hwrite).symm]
      simp [Sink.answering, SinkAnswer.closeFault?]
    rw [h]
    cases fault with
    | none => rw [← hlogged, ← closeFaults_collect { c with sinkState := st } spec]; rfl
    | some f => exact hlogged

theorem closeFaults_make (hsink : c.sink = sink.answering)
    (rule : Compiler (σ × List SinkAnswer) → String → Specification)
    (record : RuleIndex → String → RuleIndex) :
    (c.make rule record).2.closeFaults = c.closeFaults := by
  rcases c.make_cases rule record with ⟨reason, -, h⟩ | ⟨-, -, h⟩ | ⟨-, -, fault, d, happend, h⟩
  · rw [h]
  · rw [h]
    rfl
  · have hprepared : (c.prepared record).sink = sink.answering := hsink
    have happended := closeFaults_append hprepared (rule (c.prepared record) c.generateIdentifier.1)
    rw [happend] at happended
    rw [h]
    exact happended

/-- A group closes with a fault just when the log gets one. -/
theorem closeFaults_closeGroup (hsink : c.sink = sink.answering) (s : Scope) :
    (c.closeGroup s).2.closeFaults = c.closeFaults ++ (c.closeGroup s).1.toList := by
  rcases c.closeGroup_cases s with ⟨-, notices, h⟩ | ⟨slot, g, -, -, -, h⟩ |
    ⟨slot, g, d, -, -, -, rfl, ⟨-, h⟩ | ⟨-, st, fault, hwrite, h⟩⟩
  · rw [h]
    exact (List.append_nil _).symm
  · rw [h]
    exact (List.append_nil _).symm
  · rw [h]
    exact (List.append_nil _).symm
  · rw [hsink] at hwrite
    obtain ⟨rfl, rfl⟩ := Prod.mk.inj hwrite
    rw [h]
    simp only [closeFaults, List.filterMap_append]
    rfl

/-! ## Runs -/

/-- Once the compiler keeps the first fault it goes on to, and no fault leaves the log. -/
def Defers (sink : Sink σ) (c d : Compiler (σ × List SinkAnswer)) : Prop :=
  c.Deferring sink → d.Deferring sink ∧ c.closeFaults <+: d.closeFaults

theorem Defers.trans {e : Compiler (σ × List SinkAnswer)} (h : Defers sink c d)
    (h' : Defers sink d e) : Defers sink c e := by
  intro hc
  obtain ⟨hd, hfirst⟩ := h hc
  obtain ⟨he, hlast⟩ := h' hd
  exact ⟨he, hfirst.trans hlast⟩

theorem defers_of_eq (hsink : d.sink = c.sink) (hdeferred : d.deferred = c.deferred)
    (hfaults : d.sinkState = c.sinkState) : Defers sink c d := fun hc =>
  have heq : d.closeFaults = c.closeFaults := by rw [closeFaults, closeFaults, hfaults]
  ⟨hc.of_eq hsink hdeferred heq, heq ▸ List.prefix_rfl⟩

theorem defers_make (c : Compiler (σ × List SinkAnswer))
    (rule : Compiler (σ × List SinkAnswer) → String → Specification)
    (record : RuleIndex → String → RuleIndex) : Defers sink c (c.make rule record).2 := by
  intro hc
  obtain ⟨hsetup, hdeferred⟩ := c.setup_make rule record
  have hfaults := closeFaults_make hc.sink rule record
  exact ⟨hc.of_eq (congrArg (fun x => x.2.2.2) hsetup) hdeferred hfaults,
    hfaults ▸ List.prefix_rfl⟩

/-- A fault is kept if it is the first one, and logged in any case. -/
theorem defers_settle (c : Compiler (σ × List SinkAnswer)) (s : Scope) :
    Defers sink c (c.settle s) := by
  intro hc
  obtain ⟨hsetup, hdeferred⟩ := c.setup_closeGroup s
  have hsink : (c.closeGroup s).2.sink = c.sink := congrArg (fun x => x.2.2.2) hsetup
  have hfaults := closeFaults_closeGroup hc.sink s
  rcases c.settle_cases s with ⟨hnone, h⟩ | ⟨f, hfault, h⟩
  · rw [hnone, Option.toList_none, List.append_nil] at hfaults
    rw [h]
    exact ⟨hc.of_eq hsink hdeferred hfaults, hfaults ▸ List.prefix_rfl⟩
  · rw [hfault, Option.toList_some] at hfaults
    have hlogged : (c.settle s).closeFaults = c.closeFaults ++ [f] := by
      rw [h]
      exact hfaults
    refine ⟨⟨?_, ?_⟩, hlogged ▸ List.prefix_append ..⟩
    · rw [h]
      exact hsink.trans hc.sink
    · rw [hlogged, h]
      simp only [recordDeferred, notify, hdeferred, hc.deferred]
      cases c.closeFaults with
      | nil => rfl
      | cons first rest => rfl

theorem defers_closeScope (c : Compiler (σ × List SinkAnswer)) : Defers sink c c.closeScope := by
  rcases c.closeScope_cases with ⟨-, h⟩ | ⟨parent, outer, -, h⟩
  · rw [h]
    exact defers_of_eq rfl rfl rfl
  · have hpopped : Defers sink c (c.popped parent outer) := defers_of_eq rfl rfl rfl
    rw [h]
    exact hpopped.trans (defers_settle _ c.top)

theorem defers_closeAll (scopes : List Scope) (c : Compiler (σ × List SinkAnswer)) :
    Defers sink c (c.closeAll scopes) := by
  induction scopes generalizing c with
  | nil => exact defers_of_eq rfl rfl rfl
  | cons s scopes ih => exact (defers_settle c s).trans (ih (c.settle s))

theorem tracks_defers (sink : Sink σ) : Tracks fun c _ d => Defers sink c d where
  refl _ := defers_of_eq rfl rfl rfl
  trans := Defers.trans
  mapTop _ _ _ _ := defers_of_eq rfl rfl rfl
  generateIdentifier _ := defers_of_eq rfl rfl rfl
  skip _ _ _ := defers_of_eq rfl rfl rfl
  make c _ record _ := defers_make c _ record
  openKind _ _ _ := defers_of_eq rfl rfl rfl
  closeScope c := defers_closeScope c

/-- What is kept comes out in the end, with what is added while the last scopes close. -/
theorem Deferring.finish (h : c.Deferring sink) :
    c.closeFaults <+: c.finish.2.closeFaults ∧
      (c.finish.2.closeFaults = [] → ∃ rules, c.finish.1 = .ok rules) ∧
      ∀ f, c.finish.2.closeFaults.head? = some f →
        c.finish.1 = .error (.sink (deferredReason f)) := by
  obtain ⟨hfinal, hfaults⟩ := defers_closeAll (c.top :: c.outer) c h
  have hdeferred : c.finish.2.deferred = c.finish.2.closeFaults.head?.map deferredReason :=
    hfinal.deferred
  have hresult : c.finish.1 = c.finish.2.checkDeferred.map fun _ =>
    ⟨c.finish.2.groups.map Prod.snd, c.finish.2.index, c.finish.2.template⟩ := rfl
  refine ⟨hfaults, fun hnone => ?_, fun f hf => ?_⟩
  · rw [hresult, checkDeferred, hdeferred, hnone]
    exact ⟨_, rfl⟩
  · rw [hresult, checkDeferred, hdeferred, hf]
    rfl

/-- No rule is made once a fault is kept, and trying to leaves no trace. -/
theorem Call.refused {σ : Type} {k : Call σ} (h : k.Taken) {reason : String}
    (hdeferred : k.before.deferred = some reason) (hstep : k.step.makesRule = true) :
    k.result = .rule (.error (.sink reason)) ∧ k.after = k.before := by
  obtain ⟨rule, record, hmakes⟩ := Step.exists_makes_of_makesRule σ hstep
  obtain ⟨hresult, hafter⟩ := Call.of_makes h hmakes
  rcases k.before.make_cases rule record with ⟨reason', hkept, hmade⟩ | ⟨hnone, -⟩ | ⟨hnone, -⟩
  · obtain rfl := Option.some.inj (hdeferred.symm.trans hkept)
    rw [hresult, hafter, hmade]
    exact ⟨rfl, rfl⟩
  · rw [hdeferred] at hnone
    cases hnone
  · rw [hdeferred] at hnone
    cases hnone

section Start

variable {settings : CompilerSettings} {catalog : Catalog} {template : GroupMetadata} {st : σ}

theorem deferring_start (h : start settings catalog template sink.answering (st, []) = .ok c) :
    c.Deferring sink := by
  obtain rfl := eq_of_start h
  exact ⟨rfl, rfl⟩

/-- **A failed close is never lost.** However the sink behaves: as soon as some scope closed with a
fault, no call makes a rule any more; each that should gives the first such fault and changes
nothing. The compilation gives its rules in the end unless some scope closed with a fault, be it
only then, and else the first of these faults. -/
theorem failed_close_is_kept {σ : Type} (settings : CompilerSettings) (catalog : Catalog)
    (template : GroupMetadata) (sink : Sink σ) (st : σ) (c m d : Compiler (σ × List SinkAnswer))
    (hc : start settings catalog template sink.answering (st, []) = .ok c)
    (ks ls : List (Call (σ × List SinkAnswer))) (hfirst : Trace c ks m) (hlater : Trace m ls d) :
    (∀ f, m.closeFaults.head? = some f →
      (∀ k ∈ ls, k.step.makesRule = true →
        k.result = .rule (.error (.sink (deferredReason f))) ∧ k.after = k.before) ∧
      d.finish.1 = .error (.sink (deferredReason f))) ∧
    (∀ f, d.finish.2.closeFaults.head? = some f →
      d.finish.1 = .error (.sink (deferredReason f))) ∧
    (d.finish.2.closeFaults = [] → ∃ rules, d.finish.1 = .ok rules) := by
  have hm := (hfirst.tracks (tracks_defers sink) (deferring_start hc)).1
  obtain ⟨hd, hkept⟩ := hlater.tracks (tracks_defers sink) hm
  obtain ⟨hclosed, hnone, hsome⟩ := hd.finish
  have still_first {xs ys : List Fault} {f : Fault} (h : xs <+: ys) (hf : xs.head? = some f) :
      ys.head? = some f := by
    obtain ⟨rest, rfl⟩ := h
    rw [List.head?_append, hf, Option.some_or]
  refine ⟨fun f hf => ⟨fun k hk hstep => ?_, ?_⟩, hsome, hnone⟩
  · obtain ⟨htaken, before, later, -, hbefore, -⟩ := hlater.of_mem hk
    obtain ⟨hthere, hgrown⟩ := hbefore.tracks (tracks_defers sink) hm
    refine Call.refused htaken ?_ hstep
    rw [hthere.deferred, still_first hgrown hf]
    rfl
  · exact hsome f (still_first (hkept.trans hclosed) hf)

end Start

/-- Refuses all groups: the first one since the disk is full, and then since it is gone. -/
def fullDisk : Sink Bool where
  writeSpecification _ _ _ gone := (gone, none)
  writeGroup _ _ gone := (true, some (.sink (if gone then "disk gone" else "disk full")))

/-- A section with a rule, in another section with a rule. -/
def nestedSteps : List Step :=
  let doors : FacetGroup := ⟨"Door", "", [.entity (.exact "IFCDOOR") none], []⟩
  [.scope .sectional "A" [.create doors (.attributeDefined "Name") none,
    .scope .sectional "B" [.create doors (.attributeDefined "Tag") none]]]

theorem full_disk_is_kept :
    ∃ c : Compiler (Bool × List SinkAnswer),
      start { CompilerSettings.of .stage3 .coreOnly with oneFilePerScope := true } default
        (.named "Bundle") fullDisk.answering (false, []) = .ok c ∧
        (takeSteps false c nestedSteps).2.1.closeFaults = [.sink "disk full", .sink "disk gone"] ∧
        (∀ k ∈ calls (takeSteps false c nestedSteps).2.1 nestedSteps
            (takeSteps false (takeSteps false c nestedSteps).2.1 nestedSteps).1,
          k.step.makesRule = true →
            k.result = .rule (.error (.sink "disk full")) ∧ k.after = k.before) ∧
        (takeSteps false (takeSteps false c nestedSteps).2.1 nestedSteps).2.1.finish.1 =
          .error (.sink "disk full") := by
  obtain ⟨hkept, -⟩ := failed_close_is_kept
    { CompilerSettings.of .stage3 .coreOnly with oneFilePerScope := true } default
    (.named "Bundle") fullDisk false _ _ _ rfl _ _ (trace_takeSteps false _ nestedSteps)
    (trace_takeSteps false _ nestedSteps)
  obtain ⟨hcalls, hfinish⟩ := hkept (.sink "disk full") (by decide +kernel)
  exact ⟨_, rfl, by decide +kernel, hcalls, hfinish⟩

end Compiler

end Eir
