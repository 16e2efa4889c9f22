import Eir.Proofs.Compiler.Steps
import Eir.Proofs.Text.Delimited
import Mathlib.Data.List.Nodup

/-!
# Identifiers are unique

The identifier of a slot is that of its scope with one more part: the name or the
number of the slot. In one scope all parts differ, since numbers go up, and names
are used once and are no numbers. No part holds the separator, so identifiers
under different parts of a scope differ (`eq_of_under`), however deep they are.

A step uses up at most one part (`SlotUse`). What is given to slots by the rest
of a program is under parts that are still to come.
-/

namespace Eir

open Text

/-! ## Parts of identifiers -/

/-- The identifier of a slot in a scope. -/
def slotIdent (scope part : String) : String :=
  if scope = "" then part else scope ++ "_" ++ part

/-- An identifier is `base`, or goes on behind it with a separator. -/
def Under (base x : String) : Prop := ∃ r, x.toList = base.toList ++ r ∧ StopsAt (· = '_') r

variable {i t u x : String}

theorem under_refl (x : String) : Under x x := ⟨[], (List.append_nil _).symm, stopsAt_nil⟩

theorem toList_slotIdent (i t : String) :
    (slotIdent i t).toList = (slotIdent i "").toList ++ t.toList := by
  rw [slotIdent, slotIdent]
  split
  · rfl
  · rw [String.append_empty, String.toList_append]

/-- Identifiers under different parts of a scope differ. -/
theorem eq_of_under (ht : '_' ∉ t.toList) (hu : '_' ∉ u.toList) (h : Under (slotIdent i t) x)
    (h' : Under (slotIdent i u) x) : t = u := by
  obtain ⟨r, hr, hrs⟩ := h
  obtain ⟨s, hs, hss⟩ := h'
  rw [hr, toList_slotIdent i t, toList_slotIdent i u, List.append_assoc, List.append_assoc] at hs
  have hfree {t : String} (ht : '_' ∉ t.toList) : ∀ c ∈ t.toList, ¬ c = '_' :=
    fun c hc he => ht (he ▸ hc)
  exact String.toList_inj.mp
    (append_cancel (hfree ht) (hfree hu) hrs hss (List.append_cancel_left hs)).1

theorem slotIdent_ne_empty (ht : t ≠ "") : slotIdent i t ≠ "" := by
  intro h
  have hlist := congrArg String.toList h
  rw [toList_slotIdent] at hlist
  exact ht (String.toList_inj.mp (List.append_eq_nil_iff.mp hlist).2)

/-- A slot in a scope is under the scope, and is not the scope itself. -/
theorem under_of_slotIdent (hi : i ≠ "") (h : Under (slotIdent i t) x) : Under i x ∧ x ≠ i := by
  obtain ⟨r, hr, -⟩ := h
  rw [slotIdent, if_neg hi] at hr
  simp only [String.toList_append, List.append_assoc] at hr
  refine ⟨⟨_, hr, stopsAt_cons rfl⟩, ?_⟩
  rintro rfl
  have hlength := congrArg List.length hr
  simp at hlength

/-- An identifier that goes on behind `base` with a separator. -/
def isBelow (base x : String) : Bool := (base.toList ++ ['_']).isPrefixOf x.toList

theorem isBelow_of_under {base x : String} (h : Under base x) (hne : x ≠ base) :
    isBelow base x = true := by
  obtain ⟨r, hr, hstops⟩ := h
  cases r with
  | nil => exact absurd (String.toList_inj.mp (hr.trans (List.append_nil _))) hne
  | cons d r =>
    obtain rfl : d = '_' := hstops d rfl
    rw [isBelow, List.isPrefixOf_iff_prefix, hr]
    exact ⟨r, by simp⟩

theorem under_of_isBelow {base x : String} (h : isBelow base x = true) : Under base x := by
  obtain ⟨r, hr⟩ := List.isPrefixOf_iff_prefix.mp h
  exact ⟨'_' :: r, by rw [← hr, List.append_assoc]; rfl, stopsAt_cons rfl⟩

/-- The name or the number of the next slot, when `n` slots are used. -/
def nextPart (n : Nat) (pending : String) : String :=
  if pending = "" then zeroPadded 2 (n + 1) else pending

theorem nextPart_ne_empty (n : Nat) (pending : String) : nextPart n pending ≠ "" := by
  rw [nextPart]
  by_cases hpending : pending = ""
  · rw [if_pos hpending]
    exact zeroPadded_ne_empty 2 (n + 1)
  · rwa [if_neg hpending]

/-- The name that waits for the next slot, if there is one. -/
def pendingNames (pending : String) : List String := if pending = "" then [] else [pending]

/-- Names that tell slots apart. -/
structure ProperNames (names : List String) : Prop where
  nodup : names.Nodup
  noSeparator : ∀ n ∈ names, '_' ∉ n.toList
  /-- A name has a character that is no digit. So it is not empty. -/
  notNumber : ∀ n ∈ names, n.toList.all Char.isDigit = false

theorem ProperNames.sublist {names rest : List String} (h : ProperNames names)
    (hsub : rest.Sublist names) : ProperNames rest :=
  ⟨h.nodup.sublist hsub, fun n hn => h.noSeparator n (hsub.subset hn),
    fun n hn => h.notNumber n (hsub.subset hn)⟩

/-- The parts that are still to come when `n` slots are used. -/
def PartAfter (n : Nat) (names : List String) (t : String) : Prop :=
  (∃ k, n < k ∧ t = zeroPadded 2 k) ∨ t ∈ names

variable {m n : Nat} {names rest : List String} {q : String}

theorem PartAfter.mono (h : PartAfter m rest t) (hn : n ≤ m) (hsub : rest ⊆ names) :
    PartAfter n names t := by
  rcases h with ⟨k, hk, rfl⟩ | h
  · exact .inl ⟨k, by omega, rfl⟩
  · exact .inr (hsub h)

theorem all_isDigit_zeroPadded (k : Nat) : (zeroPadded 2 k).toList.all Char.isDigit = true :=
  List.all_eq_true.mpr fun _ => isDigit_of_mem_zeroPadded

theorem PartAfter.noSeparator (h : PartAfter n names t) (hnames : ProperNames names) :
    '_' ∉ t.toList := by
  rcases h with ⟨k, -, rfl⟩ | h
  · exact fun hmem => absurd (isDigit_of_mem_zeroPadded hmem) (by decide)
  · exact hnames.noSeparator t h

theorem partAfter_nextPart (n : Nat) (q : String) : PartAfter n (pendingNames q) (nextPart n q) := by
  rw [nextPart, pendingNames]
  split
  · exact .inl ⟨n + 1, Nat.lt_succ_self n, rfl⟩
  · exact .inr (List.mem_singleton_self q)

/-- A part that is used does not come again. -/
theorem not_partAfter_nextPart (h : ProperNames (pendingNames q ++ rest)) :
    ¬ PartAfter (n + 1) rest (nextPart n q) := by
  rw [nextPart]
  by_cases hq : q = ""
  · rw [if_pos hq]
    rintro (⟨k, hk, he⟩ | hmem)
    · have := zeroPadded_injective he
      omega
    · have hnot := h.notNumber _ (List.mem_append_right _ hmem)
      rw [all_isDigit_zeroPadded] at hnot
      cases hnot
  · have hpending : pendingNames q = [q] := if_neg hq
    rw [hpending] at h
    rw [if_neg hq]
    rintro (⟨k, -, rfl⟩ | hmem)
    · have hnot := h.notNumber _ List.mem_cons_self
      rw [all_isDigit_zeroPadded] at hnot
      cases hnot
    · exact (List.nodup_cons.mp h.nodup).1 hmem

/-! ## Programs with proper names -/

/-- The name that a step gives to a slot of the innermost scope. -/
def Step.name? : Step → Option String
  | setName name | scope _ name _ => if name = "" then none else some name
  | _ => none

/-- The names of slots of the innermost scope. -/
def namesOf (steps : List Step) : List String := steps.filterMap Step.name?

mutual

/-- The step does not set the counter, and names in the scopes it opens are proper. -/
def Step.WellNamed : Step → Prop
  | .setSection _ => False
  | .scope _ _ body => ProperNames (namesOf body) ∧ EachWellNamed body
  | _ => True

def EachWellNamed : List Step → Prop
  | [] => True
  | step :: steps => step.WellNamed ∧ EachWellNamed steps

end

/-- The program does not set counters, and in each scope its names are proper. -/
def WellNamed (steps : List Step) : Prop := ProperNames (namesOf steps) ∧ EachWellNamed steps

theorem namesOf_cons (step : Step) (steps : List Step) :
    namesOf (step :: steps) = step.name?.toList ++ namesOf steps := by
  rw [namesOf, List.filterMap_cons]
  cases step.name? <;> rfl

theorem pendingNames_eq_name? (name : String) :
    pendingNames name = (if name = "" then none else some name : Option String).toList := by
  rw [pendingNames]
  split <;> rfl

namespace Compiler

variable {σ : Type} {c d : Compiler σ} {given : List String} {strict : Bool} {step : Step}
  {steps : List Step}

/-- What a step does to the numbering in the innermost scope, where it can use the name `q`: it
gives no slot and leaves the name for the next one, or it uses one part. -/
inductive SlotUse (c : Compiler σ) (given : List String) (d : Compiler σ) (q : String) : Prop where
  | keeps (nothing : given = []) (section_ : d.top.section_ = c.top.section_)
      (pending : d.top.pendingName = q) : SlotUse c given d q
  | uses (nodup : given.Nodup)
      (under : ∀ x ∈ given, Under (slotIdent c.top.ident (nextPart c.top.section_ q)) x)
      (section_ : d.top.section_ = c.top.section_ + 1) (pending : d.top.pendingName = "") :
      SlotUse c given d q

/-- What a step does to the scopes around the innermost one, and to its identifier: nothing. -/
structure StaysIn (c d : Compiler σ) : Prop where
  ident : d.top.ident = c.top.ident
  outer : d.outer.map Scope.bare = c.outer.map Scope.bare

theorem staysIn_of_stack {s : Scope} (h : d.stack = s :: c.outer.map Scope.bare)
    (hs : s.ident = c.top.ident) : StaysIn c d := by
  obtain ⟨htop, houter⟩ := List.cons.inj h
  have hident := congrArg Scope.ident htop
  exact ⟨hident.trans hs, houter⟩

/-- The slots that one step gave. -/
def givenBy (step : Step) (o : Option (Outcome σ)) : List String := o.elim [] (slotsOf step)

/-- A step of a run: it stays in its scope, and uses a name that waits or that it gives itself. -/
def UsesOnePart (strict : Bool) (c : Compiler σ) (step : Step) : Prop :=
  StaysIn c (takeStep strict c step).2.1 ∧
    ∃ q, (pendingNames q).Sublist (pendingNames c.top.pendingName ++ step.name?.toList) ∧
      SlotUse c (givenBy step (takeStep strict c step).1) (takeStep strict c step).2.1 q

/-- The numbers given by a program are under parts that were still to come, and differ. -/
structure Numbers (strict : Bool) (c : Compiler σ) (steps : List Step) : Prop where
  nodup : (slots steps (takeSteps strict c steps).1).Nodup
  under : ∀ x ∈ slots steps (takeSteps strict c steps).1, ∃ t,
    PartAfter c.top.section_ (pendingNames c.top.pendingName ++ namesOf steps) t ∧
      Under (slotIdent c.top.ident t) x
  outer : (takeSteps strict c steps).2.1.outer.map Scope.bare = c.outer.map Scope.bare

theorem numbers_nil (strict : Bool) (c : Compiler σ) : Numbers strict c [] where
  nodup := by rw [slots_nil_left]; exact List.nodup_nil
  under := by rw [slots_nil_left]; exact fun _ hx => by cases hx
  outer := rfl

/-- What one step gives and what the rest gives are under different parts. -/
theorem SlotUse.append {q : String} {later rest : List String} (huse : SlotUse c given d q)
    (hident : d.top.ident = c.top.ident) (hnames : ProperNames (pendingNames q ++ rest))
    (hlater : later.Nodup)
    (hunder : ∀ x ∈ later, ∃ t, PartAfter d.top.section_ (pendingNames d.top.pendingName ++ rest) t ∧
      Under (slotIdent d.top.ident t) x) :
    (given ++ later).Nodup ∧ ∀ x ∈ given ++ later,
      ∃ t, PartAfter c.top.section_ (pendingNames q ++ rest) t ∧
        Under (slotIdent c.top.ident t) x := by
  rw [hident] at hunder
  cases huse with
  | keeps hnothing hsection hpending =>
    rw [hsection, hpending] at hunder
    rw [hnothing, List.nil_append]
    exact ⟨hlater, hunder⟩
  | uses hnodup hgiven hsection hpending =>
    have hempty : pendingNames "" = [] := rfl
    rw [hsection, hpending, hempty, List.nil_append] at hunder
    have hnext : PartAfter c.top.section_ (pendingNames q ++ rest) (nextPart c.top.section_ q) :=
      (partAfter_nextPart _ q).mono (Nat.le_refl _) (List.subset_append_left _ _)
    have hrest : ProperNames rest := hnames.sublist (List.sublist_append_right _ _)
    constructor
    · refine List.nodup_append.mpr ⟨hnodup, hlater, fun x hx y hy => ?_⟩
      rintro rfl
      obtain ⟨t, ht, htx⟩ := hunder x hy
      have hpart := eq_of_under (hnext.noSeparator hnames) (ht.noSeparator hrest) (hgiven x hx) htx
      exact not_partAfter_nextPart hnames (hpart ▸ ht)
    · intro x hx
      rcases List.mem_append.mp hx with hx | hx
      · exact ⟨_, hnext, hgiven x hx⟩
      · obtain ⟨t, ht, htx⟩ := hunder x hx
        exact ⟨t, ht.mono (Nat.le_succ _) (List.subset_append_right _ _), htx⟩

theorem numbers_cons (hstep : UsesOnePart strict c step)
    (hsteps : ∀ d : Compiler σ, ProperNames (pendingNames d.top.pendingName ++ namesOf steps) →
      Numbers strict d steps)
    (hnames : ProperNames (pendingNames c.top.pendingName ++ namesOf (step :: steps))) :
    Numbers strict c (step :: steps) := by
  obtain ⟨hstays, q, hq, huse⟩ := hstep
  have hone := exists_outcome strict c step
  rcases htake : takeStep strict c step with ⟨o, d, halt⟩
  rw [htake] at hstays huse hone
  -- The names that are left when the step has used `q` are among those of the program.
  have hsub : (pendingNames q ++ namesOf steps).Sublist
      (pendingNames c.top.pendingName ++ namesOf (step :: steps)) := by
    rw [namesOf_cons, ← List.append_assoc]
    exact hq.append (List.Sublist.refl _)
  have hwiden {t x : String} (h : PartAfter c.top.section_ (pendingNames q ++ namesOf steps) t ∧
      Under (slotIdent c.top.ident t) x) : PartAfter c.top.section_
        (pendingNames c.top.pendingName ++ namesOf (step :: steps)) t ∧
          Under (slotIdent c.top.ident t) x := ⟨h.1.mono (Nat.le_refl _) hsub.subset, h.2⟩
  have hleft := hnames.sublist hsub
  cases halt with
  | some halt =>
    have hslots : slots (step :: steps) o.toList = givenBy step o := by
      cases o with
      | none => exact slots_nil_right _
      | some o => simp [slots_cons, slots_nil_right, givenBy]
    obtain ⟨hnodup, hunder⟩ := huse.append hstays.ident hleft List.nodup_nil
      (fun x hx => by cases hx)
    rw [List.append_nil] at hnodup hunder
    refine ⟨?_, ?_, ?_⟩ <;> rw [takeSteps_cons_halted htake]
    · exact hslots ▸ hnodup
    · intro x hx
      obtain ⟨t, ht⟩ := hunder x (hslots ▸ hx)
      exact ⟨t, hwiden ht⟩
    · exact hstays.outer
  | none =>
    obtain ⟨x, rfl⟩ := hone rfl
    have hrest : Numbers strict d steps := by
      refine hsteps d ?_
      cases huse with
      | keeps hnothing hsection hpending => exact hpending ▸ hleft
      | uses hnodup hgiven hsection hpending =>
        rw [hpending]
        exact hleft.sublist (List.sublist_append_right _ _)
    have hslots : slots (step :: steps) ([x] ++ (takeSteps strict d steps).1) =
        givenBy step (some x) ++ slots steps (takeSteps strict d steps).1 := slots_cons ..
    obtain ⟨hnodup, hunder⟩ := huse.append hstays.ident hleft hrest.nodup hrest.under
    refine ⟨?_, ?_, ?_⟩ <;> rw [takeSteps_cons htake]
    · exact hslots ▸ hnodup
    · intro y hy
      obtain ⟨t, ht⟩ := hunder y (hslots ▸ hy)
      exact ⟨t, hwiden ht⟩
    · exact hrest.outer.trans hstays.outer

/-! ## One lemma for each kind of step -/

theorem pendingNames_sublist (c : Compiler σ) (step : Step) :
    (pendingNames c.top.pendingName).Sublist
      (pendingNames c.top.pendingName ++ step.name?.toList) :=
  List.sublist_append_left _ _

/-- Setters give no slot. Only the setter of the name changes which names can be used. -/
theorem usesOnePart_setter {f : Scope → Scope} (hf : step.setter? = some f)
    (hstep : step.WellNamed) : UsesOnePart strict c step := by
  have hgiven : givenBy step (takeStep strict c step).1 = [] := by
    rw [takeStep_setter hf]
    exact slotsOf_setter hf _
  rw [UsesOnePart, hgiven, takeStep_setter hf]
  cases step with
  | setSection n => exact absurd hstep (by simp [Step.WellNamed])
  | setName name =>
    cases hf
    refine ⟨⟨rfl, rfl⟩, name, ?_, .keeps rfl rfl rfl⟩
    rw [pendingNames_eq_name?]
    exact List.sublist_append_right _ _
  | _ => cases hf <;> exact ⟨⟨rfl, rfl⟩, _, c.pendingNames_sublist _, .keeps rfl rfl rfl⟩

/-- A step that uses the next slot of the innermost scope, and gives it if it succeeds. -/
theorem usesOnePart_of_advance {o : Outcome σ} {halt : Option Halt}
    (htake : takeStep strict c step = (some o, d, halt))
    (hstack : d.stack = c.top.bare.advance.2 :: c.outer.map Scope.bare)
    (hgiven : slotsOf step o = [c.generateIdentifier.1] ∨ slotsOf step o = []) :
    UsesOnePart strict c step := by
  obtain ⟨htop, -⟩ := List.cons.inj hstack
  have hsection := congrArg Scope.section_ htop
  have hpending := congrArg Scope.pendingName htop
  rw [UsesOnePart, htake]
  refine ⟨staysIn_of_stack hstack rfl, c.top.pendingName, c.pendingNames_sublist step, ?_⟩
  have hgivenBy : givenBy step (some o) = slotsOf step o := rfl
  rw [hgivenBy]
  rcases hgiven with hgiven | hgiven <;> rw [hgiven]
  · exact .uses (List.nodup_singleton _)
      (fun x hx => List.mem_singleton.mp hx ▸ under_refl _) hsection hpending
  · exact .uses List.nodup_nil (fun x hx => by cases hx) hsection hpending

theorem usesOnePart_identifier (strict : Bool) (c : Compiler σ) :
    UsesOnePart strict c .identifier :=
  usesOnePart_of_advance (takeStep_identifier strict c) c.stack_generateIdentifier
    (.inl (slotsOf_identifier _ _))

theorem usesOnePart_skip (strict : Bool) (c : Compiler σ) (reason : String) (quiet : Bool) :
    UsesOnePart strict c (.skip reason quiet) :=
  usesOnePart_of_advance (takeStep_skip strict c reason quiet) (c.stack_skip reason quiet)
    (.inl (by rw [slotsOf_skip, lastSkipped_skip]; rfl))

/-- A step that gives nothing and changes nothing. -/
theorem usesOnePart_of_same (hstate : (takeStep strict c step).2.1 = c)
    (hgiven : givenBy step (takeStep strict c step).1 = []) : UsesOnePart strict c step := by
  rw [UsesOnePart, hstate, hgiven]
  exact ⟨⟨rfl, rfl⟩, _, c.pendingNames_sublist step, .keeps rfl rfl rfl⟩

theorem usesOnePart_make {rule : Compiler σ → String → Specification}
    {record : RuleIndex → String → RuleIndex} (hrule : TakesRule strict c step rule record)
    (hslots : ∀ (r : StepResult) (d : Compiler σ),
      slotsOf step (.step r d) = (slotGiven d r).toList) : UsesOnePart strict c step := by
  rw [TakesRule] at hrule
  rcases c.make_cases rule record with ⟨reason, -, heq⟩ | ⟨-, -, heq⟩ |
    ⟨-, -, fault, d, happend, heq⟩
  · rw [heq] at hrule
    refine usesOnePart_of_same (by rw [hrule]) ?_
    rw [hrule, givenBy, Option.elim_some, hslots]
    rfl
  · rw [heq] at hrule
    refine usesOnePart_of_advance hrule (c.stack_skip _ _) (.inl ?_)
    rw [hslots, slotGiven, lastSkipped_skipped]
    rfl
  · rw [heq] at hrule
    have hstack : d.stack = c.top.bare.advance.2 :: c.outer.map Scope.bare := by
      have := (c.prepared record).stack_append (rule (c.prepared record) c.generateIdentifier.1)
      rw [happend] at this
      exact this
    refine usesOnePart_of_advance hrule hstack ?_
    rw [hslots]
    cases fault with
    | none => exact .inl rfl
    | some f => exact .inr rfl

theorem usesOnePart_fail (strict : Bool) (c : Compiler σ) (fault : Fault) :
    UsesOnePart strict c (.fail fault) :=
  usesOnePart_of_same rfl (slotsOf_fail fault fault c)

theorem usesOnePart_stop (strict : Bool) (c : Compiler σ) : UsesOnePart strict c .stop :=
  usesOnePart_of_same rfl rfl

theorem ident_openKind (c : Compiler σ) (kind : ScopeKind) (name : String) :
    (c.openKind kind name).top.ident = slotIdent c.top.ident (nextPart c.top.section_ name) := rfl

/-- All that happens in a scope is under the part that the scope uses. -/
theorem usesOnePart_scope {kind : ScopeKind} {name : String} {body : List Step}
    (hbody : Numbers strict (c.openKind kind name) body) :
    UsesOnePart strict c (.scope kind name body) := by
  have hident := c.ident_openKind kind name
  have hne : (c.openKind kind name).top.ident ≠ "" :=
    hident ▸ slotIdent_ne_empty (nextPart_ne_empty _ name)
  have hinside : ∀ x ∈ slots body (takeSteps strict (c.openKind kind name) body).1,
      Under (c.openKind kind name).top.ident x ∧ x ≠ (c.openKind kind name).top.ident := by
    intro x hx
    obtain ⟨t, -, ht⟩ := hbody.under x hx
    exact under_of_slotIdent hne ht
  have hopened : (takeSteps strict (c.openKind kind name) body).2.1.outer ≠ [] := by
    intro h
    have houter := hbody.outer
    rw [h] at houter
    cases houter
  have hstack := stack_closeScope hopened
  rw [hbody.outer] at hstack
  obtain ⟨htop, -⟩ := List.cons.inj hstack
  have hsection := congrArg Scope.section_ htop
  have hpending := congrArg Scope.pendingName htop
  rw [UsesOnePart, takeStep_scope]
  refine ⟨staysIn_of_stack hstack rfl, name, ?_, .uses ?_ ?_ hsection hpending⟩
  · rw [pendingNames_eq_name?]
    exact List.sublist_append_right _ _
  · rw [givenBy, Option.elim_some, slotsOf_scope]
    exact List.nodup_cons.mpr ⟨fun hmem => (hinside _ hmem).2 rfl, hbody.nodup⟩
  · intro x hx
    rw [givenBy, Option.elim_some, slotsOf_scope] at hx
    rw [← hident]
    rcases List.mem_cons.mp hx with rfl | hx
    · exact under_refl _
    · exact (hinside x hx).1

mutual

theorem takeStep_usesOnePart {σ : Type} (strict : Bool) (c : Compiler σ) :
    ∀ step, Step.WellNamed step → UsesOnePart strict c step
  | .pass, h => usesOnePart_setter rfl h
  | .setTag _, h => usesOnePart_setter rfl h
  | .setName _, h => usesOnePart_setter rfl h
  | .setSection _, h => usesOnePart_setter rfl h
  | .setStages _, h => usesOnePart_setter rfl h
  | .setPasses _, h => usesOnePart_setter rfl h
  | .setApplicability _, h => usesOnePart_setter rfl h
  | .setRequirement _, h => usesOnePart_setter rfl h
  | .setPrefixNames _, h => usesOnePart_setter rfl h
  | .identifier, _ => usesOnePart_identifier strict c
  | .skip reason quiet, _ => usesOnePart_skip strict c reason quiet
  | .create applicability requirement title, _ =>
    usesOnePart_make (takesRule_create strict c applicability requirement title)
      fun _ _ => slotsOf_create ..
  | .createPresence applicability, _ =>
    usesOnePart_make (takesRule_createPresence strict c applicability)
      fun _ _ => slotsOf_createPresence ..
  | .fail fault, _ => usesOnePart_fail strict c fault
  | .stop, _ => usesOnePart_stop strict c
  | .scope kind name body, h => by
    rw [Step.WellNamed] at h
    exact usesOnePart_scope (takeSteps_numbers strict (c.openKind kind name) body h.1 h.2)

/-- The identifiers given by a program are under parts that were still to come, and differ. -/
theorem takeSteps_numbers {σ : Type} (strict : Bool) (c : Compiler σ) :
    ∀ steps, ProperNames (pendingNames c.top.pendingName ++ namesOf steps) →
      EachWellNamed steps → Numbers strict c steps
  | [], _, _ => numbers_nil strict c
  | step :: steps, hnames, h => by
    rw [EachWellNamed] at h
    exact numbers_cons (takeStep_usesOnePart strict c step h.1)
      (fun d hd => takeSteps_numbers strict d steps hd h.2) hnames

end

end Compiler

end Eir
