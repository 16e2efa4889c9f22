import Eir.Proofs.Compiler.Calls
import Eir.Proofs.Compiler.Groups

/-!
# What a scope leaves behind

A scope is opened in the next slot of the one around it, which it uses up. Nothing
that happens in it reaches the scopes around, save that a rule may be the first of
its group: then the nearest scope with a group of its own gets the slot of it
(`ScopesKept`). `Encloses` says this of any two moments of a run at which the same scopes
are around; it is shown for each operation, and by induction for programs.
-/

namespace Eir

/-- The scopes are as they were, but the nearest with a group of its own may have got the slot of
it. -/
inductive ScopesKept : List Scope → List Scope → Prop where
  | refl (ss : List Scope) : ScopesKept ss ss
  | acquired {s : Scope} {ss : List Scope} (slot : Nat) : s.collection = .own none →
    ScopesKept (s :: ss) ({ s with collection := .own (some slot) } :: ss)
  | cons {s : Scope} {ss ts : List Scope} : s.ownsGroup = false → ScopesKept ss ts →
    ScopesKept (s :: ss) (s :: ts)

theorem ownsGroup_of_own {s : Scope} {slot : Option Nat} (h : s.collection = .own slot) :
    s.ownsGroup = true := by
  rw [Scope.ownsGroup, h]
  rfl

theorem ownsGroup_congr {s t : Scope} (h : t.collection = s.collection) :
    t.ownsGroup = s.ownsGroup := by
  rw [Scope.ownsGroup, Scope.ownsGroup, h]

namespace ScopesKept

variable {ss ts us : List Scope}

/-- A slot is got once. -/
theorem trans (h : ScopesKept ss ts) (h' : ScopesKept ts us) : ScopesKept ss us := by
  induction h generalizing us with
  | refl => exact h'
  | acquired slot hnone =>
    cases h' with
    | refl => exact .acquired slot hnone
    | acquired _ hagain => cases hagain
    | cons howns _ => cases howns
  | cons howns hrest ih =>
    cases h' with
    | refl => exact .cons howns hrest
    | acquired slot hnone =>
      rw [ownsGroup_of_own hnone] at howns
      cases howns
    | cons _ hrest' => exact .cons howns (ih hrest')

theorem assignSlot (slot : Nat) (h : ∀ s, ss.find? Scope.ownsGroup = some s →
    ∀ n, s.collection ≠ .own (some n)) : ScopesKept ss (Compiler.assignSlot slot ss) := by
  induction ss with
  | nil => exact .refl []
  | cons s ss ih =>
    rw [Compiler.assignSlot]
    cases hs : s.ownsGroup with
    | true =>
      rw [if_pos rfl]
      have hnot := h s (List.find?_cons_of_pos hs)
      refine .acquired slot ?_
      cases hcoll : s.collection with
      | around =>
        rw [Scope.ownsGroup, hcoll] at hs
        cases hs
      | own got =>
        cases got with
        | none => rfl
        | some n => exact absurd hcoll (hnot n)
    | false =>
      rw [if_neg (by decide)]
      refine .cons hs (ih fun t ht => h t ?_)
      rwa [List.find?_cons_of_neg (by simp [hs])]

end ScopesKept

namespace Compiler

variable {σ : Type} {c d e : Compiler σ}

/-- The scopes around are kept, and all the same if the innermost scope has a group of its own. -/
structure Encloses (c d : Compiler σ) : Prop where
  ownsGroup : d.top.ownsGroup = c.top.ownsGroup
  kept : ScopesKept c.outer d.outer
  apart : c.top.ownsGroup = true → d.outer = c.outer

namespace Encloses

theorem of_eq (htop : d.top.collection = c.top.collection) (houter : d.outer = c.outer) :
    Encloses c d := ⟨ownsGroup_congr htop, houter ▸ .refl _, fun _ => houter⟩

theorem refl (c : Compiler σ) : Encloses c c := .of_eq rfl rfl

theorem trans (h : Encloses c d) (h' : Encloses d e) : Encloses c e where
  ownsGroup := h'.ownsGroup.trans h.ownsGroup
  kept := h.kept.trans h'.kept
  apart howns := (h'.apart (h.ownsGroup.trans howns)).trans (h.apart howns)

/-- The innermost scope and those around it are kept all together. -/
theorem of_kept (h : ScopesKept (c.top :: c.outer) (d.top :: d.outer)) : Encloses c d := by
  generalize htop : d.top = top at h
  generalize houter : d.outer = outer at h
  cases h with
  | refl => exact .of_eq (congrArg _ htop) houter
  | acquired slot hnone =>
    refine ⟨?_, houter ▸ .refl _, fun _ => houter⟩
    rw [htop, ownsGroup_of_own hnone]
    rfl
  | cons howns hrest =>
    refine ⟨congrArg _ htop, houter ▸ hrest, fun hnot => ?_⟩
    rw [howns] at hnot
    cases hnot

/-! ## Operations -/

theorem activeSlot (c : Compiler σ) : Encloses c c.activeSlot.2 := by
  rcases c.activeSlot_cases with ⟨slot, -, heq⟩ | ⟨hnone, top, outer, hassign, heq⟩
  · rw [heq]
    exact .refl c
  · rw [heq]
    refine .of_kept (hassign ▸ .assignSlot c.nextGroup fun s hs => ?_)
    rw [groupOwner, hs] at hnone
    exact hnone

theorem collect (c : Compiler σ) (spec : Specification) : Encloses c (c.collect spec) := by
  have hactive := activeSlot c
  rw [collect_eq]
  exact hactive.trans (.of_eq rfl rfl)

theorem append (c : Compiler σ) (spec : Specification) : Encloses c (c.append spec).2 := by
  rcases c.append_cases spec with ⟨-, heq⟩ | ⟨-, st, fault, -, heq⟩
  · rw [heq]
    exact collect c spec
  · rw [heq]
    have hasked : Encloses c { c with sinkState := st } := .of_eq rfl rfl
    cases fault with
    | none => exact hasked.trans (collect _ spec)
    | some f => exact hasked

theorem make (c : Compiler σ) (rule : Compiler σ → String → Specification)
    (record : RuleIndex → String → RuleIndex) : Encloses c (c.make rule record).2 := by
  rcases c.make_cases rule record with ⟨reason, -, heq⟩ | ⟨-, -, heq⟩ |
    ⟨-, -, fault, d, happend, heq⟩
  · rw [heq]
    exact .refl c
  · rw [heq]
    exact .of_eq rfl rfl
  · have hprepared : Encloses c (c.prepared record) := .of_eq rfl rfl
    have happended := append (c.prepared record)
      (rule (c.prepared record) c.generateIdentifier.1)
    rw [happend] at happended
    rw [heq]
    exact hprepared.trans happended

theorem call {k : Call σ} (htaken : k.Taken) : Encloses k.before k.after := by
  rcases Call.cases htaken with ⟨f, hf, -, hafter⟩ | ⟨-, -, hafter⟩ | ⟨reason, quiet, -, -, hafter⟩ |
    ⟨rule, record, -, -, hafter⟩ | ⟨fault, -, -, hafter⟩ <;> rw [hafter]
  · exact .of_eq (Step.collection_setter hf _) rfl
  · exact .of_eq rfl rfl
  · exact .of_eq rfl rfl
  · exact make k.before rule record
  · exact .refl _

end Encloses

/-! ## Scopes in scopes -/

theorem frames_settle (c : Compiler σ) (s : Scope) :
    (c.settle s).top = c.top ∧ (c.settle s).outer = c.outer := by
  have hgroup : (c.closeGroup s).2.top = c.top ∧ (c.closeGroup s).2.outer = c.outer := by
    rcases c.closeGroup_cases s with ⟨-, notices, h⟩ | ⟨slot, g, -, -, -, h⟩ |
      ⟨slot, g, d, -, -, -, rfl, ⟨-, h⟩ | ⟨-, st, fault, -, h⟩⟩ <;>
      rw [h] <;> exact ⟨rfl, rfl⟩
  rcases c.settle_cases s with ⟨-, h⟩ | ⟨f, -, h⟩ <;> rw [h] <;> exact hgroup

/-- A scope that closes leaves those around it. -/
theorem frames_closeScope (h : c.outer ≠ []) :
    c.closeScope.top :: c.closeScope.outer = c.outer := by
  rcases c.closeScope_cases with ⟨hnone, -⟩ | ⟨parent, outer, houter, heq⟩
  · exact absurd hnone h
  · obtain ⟨htop, hrest⟩ := (c.popped parent outer).frames_settle c.top
    rw [heq, htop, hrest, houter]
    rfl

/-- The scopes around a scope that is opened: its parent has used the next slot. -/
theorem outer_openKind (c : Compiler σ) (kind : ScopeKind) (name : String) :
    (c.openKind kind name).outer =
      { c.top with section_ := c.top.section_ + 1, pendingName := "" } :: c.outer := rfl

/-- When a scope is closed again, those around it are kept. -/
theorem Encloses.frames_closed {kind : ScopeKind} {name : String}
    (h : Encloses (c.openKind kind name) d) :
    d.closeScope.top :: d.closeScope.outer = d.outer := by
  refine frames_closeScope fun hnone => ?_
  have hkept := h.kept
  rw [outer_openKind, hnone] at hkept
  cases hkept

theorem Encloses.scope {kind : ScopeKind} {name : String}
    (h : Encloses (c.openKind kind name) d) : Encloses c d.closeScope := by
  -- The scope was opened from a parent that has used a slot, which touches no group.
  have hused : Encloses c (c.mapTop fun s => { s with section_ := s.section_ + 1, pendingName := "" }) :=
    .of_eq rfl rfl
  have hkept := h.kept
  rw [outer_openKind, ← h.frames_closed] at hkept
  exact hused.trans (.of_kept hkept)

/-! ## Programs -/

variable {strict : Bool} {step : Step}

theorem encloses_of_result {result : StepResult} {halt : Option Halt}
    (h : takeStep strict c step = (some (.step result d), d, halt)) :
    Encloses c (takeStep strict c step).2.1 := by
  rw [h]
  exact Encloses.call (k := ⟨c, step, result, d⟩) ⟨strict, halt, h⟩

theorem encloses_cons {steps : List Step} (hstep : Encloses c (takeStep strict c step).2.1)
    (hsteps : ∀ d : Compiler σ, Encloses d (takeSteps strict d steps).2.1) :
    Encloses c (takeSteps strict c (step :: steps)).2.1 := by
  rcases htake : takeStep strict c step with ⟨o, d, halt⟩
  rw [htake] at hstep
  cases halt with
  | some halt => rwa [takeSteps_cons_halted htake]
  | none =>
    rw [takeSteps_cons htake]
    exact hstep.trans (hsteps d)

mutual

theorem encloses_takeStep {σ : Type} (strict : Bool) (c : Compiler σ) :
    ∀ step, Encloses c (takeStep strict c step).2.1
  | .pass => encloses_of_result rfl
  | .setTag _ => encloses_of_result rfl
  | .setName _ => encloses_of_result rfl
  | .setSection _ => encloses_of_result rfl
  | .setStages _ => encloses_of_result rfl
  | .setPasses _ => encloses_of_result rfl
  | .setApplicability _ => encloses_of_result rfl
  | .setRequirement _ => encloses_of_result rfl
  | .setPrefixNames _ => encloses_of_result rfl
  | .identifier => encloses_of_result rfl
  | .skip _ _ => encloses_of_result rfl
  | .create _ _ _ => encloses_of_result rfl
  | .createPresence _ => encloses_of_result rfl
  | .fail _ => encloses_of_result rfl
  | .stop => .refl c
  | .scope kind name body => (encloses_takeSteps strict (c.openKind kind name) body).scope

/-- Whatever a program does, the scopes around are kept. -/
theorem encloses_takeSteps {σ : Type} (strict : Bool) (c : Compiler σ) :
    ∀ steps, Encloses c (takeSteps strict c steps).2.1
  | [] => .refl c
  | step :: steps =>
    encloses_cons (encloses_takeStep strict c step) fun d => encloses_takeSteps strict d steps

end

end Compiler

end Eir
