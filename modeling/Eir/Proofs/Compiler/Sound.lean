import Eir.Proofs.Compiler.Groups

/-!
# Compilations that cannot fail

With a reliable sink, and when nothing has failed yet, scopes close without a
failure and every rule that applies is made. All operations keep a compilation
`Sound`.
-/

namespace Eir.Compiler

variable {σ : Type} {c d : Compiler σ}

/-- Nothing of the compilation has failed or can fail. -/
structure Sound (c : Compiler σ) : Prop where
  grouped : c.Grouped
  reliable : c.sink.Reliable
  deferred : c.deferred = none

theorem Sound.of_eq (h : c.Sound) (hgrouped : d.Grouped) (hsetup : d.setup = c.setup)
    (hdeferred : d.deferred = c.deferred) : d.Sound := by
  have hsink : d.sink = c.sink := congrArg (fun x => x.2.2.2) hsetup
  exact ⟨hgrouped, hsink ▸ h.reliable, hdeferred.trans h.deferred⟩

theorem grouped_start {settings : CompilerSettings} {catalog : Catalog} {template : GroupMetadata}
    {sink : Sink σ} {st : σ} (h : start settings catalog template sink st = .ok c) :
    c.Grouped := by
  obtain rfl := eq_of_start h
  refine ⟨List.nodup_singleton 0, fun slot hslot => ?_, List.nodup_singleton 0,
    fun slot hslot => hslot, rfl⟩
  rw [List.mem_singleton.mp hslot]
  exact Nat.one_pos

theorem sound_start {settings : CompilerSettings} {catalog : Catalog} {template : GroupMetadata}
    {sink : Sink σ} {st : σ} (h : start settings catalog template sink st = .ok c)
    (hsink : sink.Reliable) : c.Sound := by
  have hgrouped := grouped_start h
  obtain rfl := eq_of_start h
  exact ⟨hgrouped, hsink, rfl⟩

theorem Sound.mapTop {step : Step} {f : Scope → Scope} (hf : step.setter? = some f)
    (h : c.Sound) : (c.mapTop f).Sound :=
  h.of_eq (h.grouped.mapTop hf) rfl rfl

theorem Sound.generateIdentifier (h : c.Sound) : c.generateIdentifier.2.Sound :=
  h.of_eq h.grouped.generateIdentifier rfl rfl

theorem Sound.skip (h : c.Sound) (reason : String) (quiet : Bool) : (c.skip reason quiet).Sound :=
  h.of_eq (h.grouped.skip reason quiet) rfl rfl

theorem Sound.openKind (h : c.Sound) (kind : ScopeKind) (name : String) :
    (c.openKind kind name).Sound :=
  h.of_eq (h.grouped.openKind kind name) rfl rfl

/-- A reliable sink takes every group. -/
theorem fault_closeGroup (h : c.sink.Reliable) (s : Scope) : (c.closeGroup s).1 = none := by
  rcases c.closeGroup_cases s with ⟨-, notices, heq⟩ | ⟨slot, g, -, -, -, heq⟩ |
    ⟨slot, g, d, -, -, -, -, ⟨-, heq⟩ | ⟨-, st, fault, hwrite, heq⟩⟩
  · rw [heq]
  · rw [heq]
  · rw [heq]
  · have hfault := h.writeGroup c.settings.stage (c.settledGroup g) c.sinkState
    rw [hwrite] at hfault
    rw [heq]
    exact hfault

theorem Sound.closeScope (h : c.Sound) : c.closeScope.Sound := by
  refine h.of_eq h.grouped.closeScope c.setup_closeScope ?_
  rcases c.closeScope_cases with ⟨-, heq⟩ | ⟨parent, outer, houter, heq⟩
  · rw [heq]
  · have hpopped : (c.popped parent outer).Sound :=
      h.of_eq (h.grouped.popped houter).1 rfl rfl
    rcases (c.popped parent outer).settle_cases c.top with ⟨-, hs⟩ | ⟨f, hf, -⟩
    · rw [heq, hs]
      exact ((c.popped parent outer).setup_closeGroup c.top).2
    · rw [fault_closeGroup hpopped.reliable] at hf
      cases hf

/-! ## Rules -/

theorem Sound.append (h : c.Sound) (spec : Specification) :
    ∃ st, c.append spec = (none, { c with sinkState := st }.collect spec) := by
  rcases c.append_cases spec with ⟨-, heq⟩ | ⟨-, st, fault, hwrite, heq⟩
  · exact ⟨c.sinkState, heq⟩
  · have hfault := h.reliable.writeSpecification ⟨c.settings.stage, c.top.fullPrefix⟩
      (c.singleMetadata spec) spec c.sinkState
    rw [hwrite] at hfault
    obtain rfl : fault = none := hfault
    exact ⟨st, heq⟩

theorem Sound.make (h : c.Sound) (rule : Compiler σ → String → Specification)
    (record : RuleIndex → String → RuleIndex) : (c.make rule record).2.Sound :=
  h.of_eq (h.grouped.make rule record) (c.setup_make rule record).1 (c.setup_make rule record).2

/-- A rule uses the next slot; it is made, and collected last, just when it applies. -/
theorem Sound.make_cases (h : c.Sound) (rule : Compiler σ → String → Specification)
    (record : RuleIndex → String → RuleIndex) :
    (c.isApplicable = false ∧ c.make rule record = (.ok none, c.skipped)) ∨
      (c.isApplicable = true ∧ ∃ d, c.make rule record = (.ok (some c.generateIdentifier.1), d) ∧
        d.stack = c.skipped.stack ∧
          d.lastCollected = some (rule (c.prepared record) c.generateIdentifier.1)) := by
  rcases c.make_cases rule record with ⟨reason, hdeferred, -⟩ | ⟨-, happ, heq⟩ |
    ⟨-, happ, fault, d, happend, heq⟩
  · rw [h.deferred] at hdeferred
    cases hdeferred
  · exact .inl ⟨happ, heq⟩
  · right
    have hprepared : (c.prepared record).Sound := h.of_eq (h.grouped.prepared record) rfl rfl
    obtain ⟨st, hst⟩ := hprepared.append (rule (c.prepared record) c.generateIdentifier.1)
    obtain ⟨rfl, rfl⟩ := Prod.mk.inj (happend.symm.trans hst)
    refine ⟨happ, _, heq, stack_collect _ _, lastCollected_collect ?_ _⟩
    exact hprepared.grouped.of_eq rfl rfl rfl

end Eir.Compiler
