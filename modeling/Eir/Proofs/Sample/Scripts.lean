import Eir.Proofs.Lists
import Eir.Proofs.Sample.Mutations
import Eir.Sample.Model

/-!
# What scripts do

A script takes its targets in turn and begins again behind the last, so that its
`i`th step is for the target at `i` modulo their number (`RoundRobin.next?_after`).
It succeeds when each target that it comes to is there (`steps_succeed_iff`). Then
each sample is what its own steps make of it, whatever is done to others in between
(`getElem?_samples_steps`), and the records tell what each step found
(`exists_records_steps`).

A script changes only the samples at its targets. A sample that is still meant to pass
after it has the attributes and the codes that it had (`Struck`): a step that changes
one of them says that the sample no longer passes.
-/

namespace Eir

/-! ## Taking turns -/

/-- A cursor over so many positions after `k` steps. -/
def RoundRobin.after (size k : Nat) : RoundRobin := ⟨size, k % size, k / size⟩

theorem RoundRobin.next?_after (size k : Nat) :
    (after size k).next? = if size = 0 then none else some (k % size, after size (k + 1)) := by
  unfold next? after
  split
  · rfl
  · have hwraps : (if (k + 1) % size = 0 then k / size + 1 else k / size) = (k + 1) / size := by
      rw [Nat.succ_div]
      simp only [Nat.dvd_iff_mod_eq_zero]
      split <;> rfl
    simp only [Nat.mod_add_mod, hwraps]

/-- The place that the `i`th step of a script is for. -/
def target? (targets : List Nat) (i : Nat) : Option Nat := targets[i % targets.length]?

theorem exists_target {targets : List Nat} (h : 0 < targets.length) (i : Nat) :
    ∃ t, target? targets i = some t :=
  ⟨_, List.getElem?_eq_getElem (Nat.mod_lt i h)⟩

theorem length_pos_of_target {targets : List Nat} {i t : Nat} (h : target? targets i = some t) :
    0 < targets.length :=
  Nat.lt_of_le_of_lt (Nat.zero_le _) (List.getElem?_eq_some_iff.mp h).1

/-- Steps are for places of one sort when there are none, or when there are targets and those that
the steps come to are of this sort. -/
theorem forall_target_iff {targets : List Nat} {n : Nat} {P : Nat → Prop} :
    (∀ i < n, ∃ t, target? targets i = some t ∧ P t) ↔
      n = 0 ∨ 0 < targets.length ∧ ∀ i < n, ∀ t, target? targets i = some t → P t := by
  constructor
  · intro h
    rcases Nat.eq_zero_or_pos n with hzero | hpos
    · exact .inl hzero
    obtain ⟨t, ht, -⟩ := h 0 hpos
    refine .inr ⟨length_pos_of_target ht, fun i hi t ht => ?_⟩
    obtain ⟨t', ht', hP⟩ := h i hi
    rw [ht] at ht'
    cases ht'
    exact hP
  · rintro (rfl | ⟨hpos, h⟩) i hi
    · cases hi
    · obtain ⟨t, ht⟩ := exists_target hpos i
      exact ⟨t, ht, h i hi t ht⟩

/-- The steps that are for the place `j`, of a script that begins with the `k`th step. -/
def ownSteps (targets : List Nat) (k : Nat) (script : List CorruptionStep) (j : Nat) :
    List CorruptionStep :=
  ((script.zipIdx k).filter fun (_, i) => target? targets i = some j).map (·.1)

theorem ownSteps_cons (targets : List Nat) (k : Nat) (s : CorruptionStep)
    (rest : List CorruptionStep) (j : Nat) :
    ownSteps targets k (s :: rest) j =
      if target? targets k = some j then s :: ownSteps targets (k + 1) rest j
      else ownSteps targets (k + 1) rest j := by
  rw [ownSteps, List.zipIdx_cons, List.filter_cons]
  by_cases htarget : target? targets k = some j <;> simp [htarget, ownSteps]

/-! ## Steps on one sample -/

namespace CorruptionStep

/-- The values after several steps on them. -/
def mutateAll (steps : List CorruptionStep) (v : ValueSet) : ValueSet :=
  steps.foldl (fun v s => s.mutation.apply v) v

/-- Those of several steps on the values that report a change. -/
def reporting : List CorruptionStep → ValueSet → List CorruptionStep
  | [], _ => []
  | s :: rest, v =>
    (if s.mutation.reports v then [s] else []) ++ reporting rest (s.mutation.apply v)

end CorruptionStep

open CorruptionStep

/-- The sample after several steps on it. It is meant to pass if it was and none of them reported a
change, and it is about the rules of those that did. -/
def Sample.afterSteps (x : Sample) (steps : List CorruptionStep) : Sample :=
  { x with
    values := mutateAll steps x.values
    conforming := x.conforming && (reporting steps x.values).isEmpty
    tags := x.tags ++ (reporting steps x.values).filterMap (·.tag) }

@[simp]
theorem Sample.afterSteps_nil (x : Sample) : x.afterSteps [] = x := by
  simp [afterSteps, mutateAll, reporting]

theorem Sample.afterSteps_cons (x : Sample) (s : CorruptionStep) (steps : List CorruptionStep) :
    x.afterSteps (s :: steps) = (s.strike x).afterSteps steps := by
  rw [strike_eq]
  cases hreports : s.mutation.reports x.values <;> cases htag : s.tag <;>
    simp [afterSteps, mutateAll, reporting, hreports, htag]

/-! ## Steps on several samples -/

namespace CorruptionRun

variable {targets : List Nat} {k t j : Nat} {run : CorruptionRun} {s : CorruptionStep}
  {rest script : List CorruptionStep} {x : Sample}

theorem steps_cons (targets : List Nat) (k : Nat) (run : CorruptionRun) (s : CorruptionStep)
    (rest : List CorruptionStep) :
    steps targets (.after targets.length k) run (s :: rest) =
      match target? targets k with
      | none => (run, some (.fixture "corruption script has no targets"))
      | some t =>
        match run.samples[t]? with
        | none => (run, some (.fixture ("corruption target " ++ Text.decimal t ++ " out of range")))
        | some x => steps targets (.after targets.length (k + 1)) (run.strike s t x) rest := by
  rw [steps, RoundRobin.next?_after, target?]
  by_cases hempty : targets.length = 0
  · rw [if_pos hempty, List.eq_nil_of_length_eq_zero hempty]
    rfl
  · have hslot : k % targets.length < targets.length := Nat.mod_lt _ (Nat.pos_of_ne_zero hempty)
    have hplace : targets.getD (k % targets.length) 0 = targets[k % targets.length] := by
      rw [List.getD_eq_getElem?_getD, List.getElem?_eq_getElem hslot, Option.getD_some]
    rw [if_neg hempty]
    cases hx : run.samples[targets[k % targets.length]]? <;>
      simp only [hplace, List.getElem?_eq_getElem hslot, hx]

/-- A script that succeeds has a target for its first step, does this step and then the others. -/
theorem exists_of_steps_cons
    (h : (steps targets (.after targets.length k) run (s :: rest)).2 = none) :
    ∃ t x, target? targets k = some t ∧ run.samples[t]? = some x ∧
      steps targets (.after targets.length k) run (s :: rest) =
        steps targets (.after targets.length (k + 1)) (run.strike s t x) rest := by
  rw [steps_cons] at h ⊢
  cases htarget : target? targets k with
  | none =>
    rw [htarget] at h
    cases h
  | some t =>
    rw [htarget] at h
    dsimp only at h
    cases hx : run.samples[t]? with
    | none =>
      rw [hx] at h
      cases h
    | some x => exact ⟨t, x, rfl, hx, by simp only [hx]⟩

theorem steps_succeed_iff :
    (steps targets (.after targets.length k) run script).2 = none ↔
      ∀ i < script.length, ∃ t, target? targets (k + i) = some t ∧ t < run.samples.length := by
  induction script generalizing k run with
  | nil => exact iff_of_true rfl fun i hi => absurd hi (Nat.not_lt_zero i)
  | cons s rest ih =>
    rw [steps_cons, List.length_cons, Nat.forall_lt_succ_left]
    cases htarget : target? targets k with
    | none =>
      refine iff_of_false (fun h => by cases h) ?_
      rintro ⟨⟨t, ht, -⟩, -⟩
      cases ht
    | some t =>
      simp only [Option.some.injEq, exists_eq_left']
      cases hx : run.samples[t]? with
      | none =>
        have hout : ¬ t < run.samples.length := Nat.not_lt.mpr (List.getElem?_eq_none_iff.mp hx)
        exact iff_of_false (fun h => by cases h) fun h => hout h.1
      | some x =>
        have hin : t < run.samples.length := (List.getElem?_eq_some_iff.mp hx).1
        have hlength : (run.strike s t x).samples.length = run.samples.length :=
          List.length_set
        simp only [ih, hlength, hin, true_and, Nat.add_right_comm k 1, Nat.add_assoc]

/-- A step that is done changes the sample at its target as it is to be changed, and no other. -/
theorem getElem?_samples_strike (htarget : target? targets k = some t)
    (hx : run.samples[t]? = some x) (s : CorruptionStep) (rest : List CorruptionStep) (j : Nat) :
    (run.strike s t x).samples[j]?.map (·.afterSteps (ownSteps targets (k + 1) rest j)) =
      run.samples[j]?.map (·.afterSteps (ownSteps targets k (s :: rest) j)) := by
  rw [strike, ownSteps_cons, htarget]
  by_cases hj : t = j
  · subst hj
    rw [if_pos rfl, List.getElem?_set_self (List.getElem?_eq_some_iff.mp hx).1, hx,
      Option.map_some, Option.map_some, Sample.afterSteps_cons]
  · rw [if_neg fun h => hj (Option.some.inj h), List.getElem?_set_ne hj]

/-- After a script that succeeds, each sample is what its own steps make of it. -/
theorem getElem?_samples_steps
    (h : (steps targets (.after targets.length k) run script).2 = none) (j : Nat) :
    (steps targets (.after targets.length k) run script).1.samples[j]? =
      run.samples[j]?.map (·.afterSteps (ownSteps targets k script j)) := by
  induction script generalizing k run with
  | nil => simp [steps, ownSteps]
  | cons s rest ih =>
    obtain ⟨t, x, htarget, hx, hsteps⟩ := exists_of_steps_cons h
    rw [hsteps] at h ⊢
    rw [ih h, getElem?_samples_strike htarget hx]

/-- A script that succeeds makes a record of each step: what it was to do, and to which sample, as
this was after its own steps before. -/
theorem exists_records_steps
    (h : (steps targets (.after targets.length k) run script).2 = none) :
    ∃ records,
      (steps targets (.after targets.length k) run script).1.records = run.records ++ records ∧
      records.length = script.length ∧
      ∀ i s, script[i]? = some s → ∃ t y, target? targets (k + i) = some t ∧
        run.samples[t]?.map (·.afterSteps (ownSteps targets k (script.take i) t)) = some y ∧
        records[i]? = some (s.recordAt t y) := by
  induction script generalizing k run with
  | nil => exact ⟨[], (List.append_nil _).symm, rfl, fun i s hs => by cases hs⟩
  | cons s rest ih =>
    obtain ⟨t, x, htarget, hx, hsteps⟩ := exists_of_steps_cons h
    rw [hsteps] at h ⊢
    obtain ⟨records, hrecords, hlength, hall⟩ := ih h
    refine ⟨s.recordAt t x :: records, ?_, ?_, ?_⟩
    · rw [hrecords, strike, List.append_assoc, List.singleton_append]
    · rw [List.length_cons, hlength, List.length_cons]
    · rintro (_ | i) s' hs'
      · cases hs'
        refine ⟨t, x, htarget, ?_, rfl⟩
        simp [hx, ownSteps]
      · -- the rest found its samples after this step, which is one of theirs where it was aimed
        obtain ⟨t', y, htarget', hy, hrecord⟩ := hall i s' hs'
        rw [getElem?_samples_strike htarget hx] at hy
        refine ⟨t', y, ?_, hy, hrecord⟩
        rwa [Nat.add_right_comm, Nat.add_assoc] at htarget'

end CorruptionRun

/-! ## Scripts -/

theorem corrupt_eq (samples : List Sample) (targets : List Nat) (script : List CorruptionStep) :
    let steps := CorruptionRun.steps targets (.after targets.length 0) ⟨samples, [], []⟩ script
    (corrupt samples targets script).2 = steps.2 ∧
      (corrupt samples targets script).1.samples = steps.1.samples ∧
      (corrupt samples targets script).1.records = steps.1.records := by
  intro steps
  have hstart : RoundRobin.ofSize targets.length = .after targets.length 0 := by
    simp [RoundRobin.ofSize, RoundRobin.after]
  rw [corrupt, hstart]
  rcases hsteps : steps with ⟨run, _ | fault⟩
  · simp only [steps] at hsteps
    rw [hsteps]
    dsimp only
    split <;> exact ⟨rfl, rfl, rfl⟩
  · simp only [steps] at hsteps
    rw [hsteps]
    exact ⟨rfl, rfl, rfl⟩

/-- Steps that no target leads to are of no sample. -/
theorem ownSteps_eq_nil {targets : List Nat} {script : List CorruptionStep} {j : Nat}
    (h : ∀ i < script.length, target? targets i ≠ some j) : ownSteps targets 0 script j = [] := by
  rw [ownSteps, List.map_eq_nil_iff, List.filter_eq_nil_iff]
  rintro ⟨s, i⟩ hmem htarget
  have hi : i < script.length := by
    have hlt := List.snd_lt_of_mem_zipIdx hmem
    omega
  exact h i hi (of_decide_eq_true htarget)

/-- **A script does what its steps say, in turn.** It succeeds when it is empty, or there are targets
and each that it comes to is the place of a sample. Then each sample is what its own steps make of it,
one after the other, and those at which no step is aimed stay as they are; and the record of a step
tells its place, what the sample there was called just before it, and whether the step reported a
change of what the sample's own steps before had left. -/
theorem corrupt_in_turn (samples : List Sample) (targets : List Nat)
    (script : List CorruptionStep) :
    let result := corrupt samples targets script
    (result.2 = none ↔ script = [] ∨ 0 < targets.length ∧
      ∀ i < script.length, ∀ t, target? targets i = some t → t < samples.length) ∧
    (result.2 = none →
      result.1.samples = samples.mapIdx (fun j x => x.afterSteps (ownSteps targets 0 script j)) ∧
      (∀ j, (∀ i < script.length, target? targets i ≠ some j) →
        result.1.samples[j]? = samples[j]?) ∧
      result.1.records.length = script.length ∧
      ∀ i s, script[i]? = some s → ∃ t x, target? targets i = some t ∧ samples[t]? = some x ∧
        let before := x.afterSteps (ownSteps targets 0 (script.take i) t)
        result.1.records[i]? = some {
          instance_ := t
          name := before.name
          description := s.description
          tag := s.tag
          changed := s.mutation.reports before.values }) := by
  intro result
  obtain ⟨hfault, hsamples, hrecords⟩ := corrupt_eq samples targets script
  refine ⟨?_, fun hsucceeds => ?_⟩
  · rw [hfault, CorruptionRun.steps_succeed_iff]
    simp only [Nat.zero_add, forall_target_iff, List.length_eq_zero_iff]
  · have hsteps := hfault.symm.trans hsucceeds
    have hall : ∀ j : Nat, result.1.samples[j]? =
        samples[j]?.map (·.afterSteps (ownSteps targets 0 script j)) := fun j => by
      rw [hsamples, CorruptionRun.getElem?_samples_steps hsteps]
    obtain ⟨records, hlog, hlength, hrecord⟩ := CorruptionRun.exists_records_steps hsteps
    rw [List.nil_append] at hlog
    refine ⟨?_, fun j hj => ?_, ?_, fun i s hs => ?_⟩
    · refine List.ext_getElem? fun j => ?_
      rw [hall, List.getElem?_mapIdx]
    · rw [hall, ownSteps_eq_nil hj]
      cases samples[j]? <;> simp
    · rw [hrecords, hlog, hlength]
    · obtain ⟨t, y, ht, hy, hrec⟩ := hrecord i s hs
      obtain ⟨x, hx, rfl⟩ := Option.map_eq_some_iff.mp hy
      rw [Nat.zero_add] at ht
      exact ⟨t, x, ht, hx, by rw [hrecords, hlog, hrec]; rfl⟩

/-- Three spaces of a storey. -/
def threeSpaces : List Sample :=
  ["00-01A", "00-01C", "00-01D"].map (.named "IfcSpace" "00-01")

/-- A name is left blank, and a description removed. -/
def twoSteps : List CorruptionStep :=
  [⟨"Blank name", .blank (.attr "Name"), some "05_02"⟩,
    ⟨"No description", .remove (.attr "Description"), some "05_05"⟩]

/-- The script ends before the target at which no sample is. -/
theorem corrupt_threeSpaces :
    (corrupt threeSpaces [2, 2, 9] twoSteps).2 = none ∧
      (corrupt threeSpaces [2, 2, 9] twoSteps).1.samples =
        threeSpaces.mapIdx fun j x => if j = 2 then x.afterSteps twoSteps else x := by
  have hsucceeds : (corrupt threeSpaces [2, 2, 9] twoSteps).2 = none := by decide +kernel
  obtain ⟨hsamples, -⟩ := (corrupt_in_turn threeSpaces [2, 2, 9] twoSteps).2 hsucceeds
  refine ⟨hsucceeds, hsamples.trans ?_⟩
  decide +kernel

/-! ## What scripts leave alone -/

/-- The two are objects of one type in one container, both of them are meant to pass or neither is,
and they have the same attributes, identifiers apart, and the same codes. -/
structure Sample.Shows (y x : Sample) : Prop where
  entity : y.entity = x.entity
  container : y.container = x.container
  conforming : y.conforming = x.conforming
  attributes : ∀ n, n ≠ "GlobalId" → y.values.get? (.attr n) = x.values.get? (.attr n)
  classifications : ∀ system,
    y.values.get? (.classification system) = x.values.get? (.classification system)

namespace Sample.Shows

variable {x y z : Sample}

theorem refl (x : Sample) : x.Shows x := ⟨rfl, rfl, rfl, fun _ _ => rfl, fun _ => rfl⟩

theorem trans (h : z.Shows y) (h' : y.Shows x) : z.Shows x :=
  ⟨h.entity.trans h'.entity, h.container.trans h'.container, h.conforming.trans h'.conforming,
    fun n hn => (h.attributes n hn).trans (h'.attributes n hn),
    fun system => (h.classifications system).trans (h'.classifications system)⟩

theorem name (h : y.Shows x) : y.name = x.name := by
  rw [Sample.name, Sample.name, h.attributes "Name" (by decide)]

end Sample.Shows

/-- A sample that is still meant to pass after a step shows what it did. -/
theorem CorruptionStep.shows_strike {step : CorruptionStep} {x : Sample}
    (h : (step.strike x).conforming = true) : (step.strike x).Shows x := by
  rw [strike] at h ⊢
  split at h
  · cases h
  · rename_i hreports
    rw [if_neg hreports]
    have hsame := Mutation.get?_apply_of_not_reports (Bool.eq_false_iff.mpr hreports)
    exact ⟨rfl, rfl, rfl, fun n _ => hsame (.attr n), fun system => hsame (.classification system)⟩

/-- Of the samples, only those at the targets are changed, and one that is still meant to pass shows
what it did. -/
structure Struck (targets : List Nat) (before after : List Sample) : Prop where
  untouched : ∀ j : Nat, j ∉ targets → after[j]? = before[j]?
  passing : ∀ (j : Nat) (y : Sample), after[j]? = some y → y.conforming = true →
    ∃ x, before[j]? = some x ∧ y.Shows x

namespace Struck

variable {targets later : List Nat} {a b c : List Sample}

theorem refl (targets : List Nat) (a : List Sample) : Struck targets a a :=
  ⟨fun _ _ => rfl, fun _ y hy _ => ⟨y, hy, .refl y⟩⟩

theorem trans (h : Struck targets a b) (h' : Struck later b c) : Struck (targets ++ later) a c where
  untouched j hj := by
    rw [List.mem_append, not_or] at hj
    rw [h'.untouched j hj.2, h.untouched j hj.1]
  passing j z hz hpasses := by
    obtain ⟨y, hy, hzy⟩ := h'.passing j z hz hpasses
    obtain ⟨x, hx, hyx⟩ := h.passing j y hy (hzy.conforming ▸ hpasses)
    exact ⟨x, hx, hzy.trans hyx⟩

theorem mono (h : Struck targets a b) (hsub : targets ⊆ later) : Struck later a b :=
  ⟨fun j hj => h.untouched j fun hmem => hj (hsub hmem), h.passing⟩

theorem strike (step : CorruptionStep) {index : Nat} (hindex : index ∈ targets) {x : Sample}
    (hx : a[index]? = some x) : Struck targets a (a.set index (step.strike x)) where
  untouched j hj := by
    have hne : index ≠ j := fun heq => hj (heq ▸ hindex)
    rw [List.getElem?_set_ne hne]
  passing j y hy hpasses := by
    by_cases hj : index = j
    · subst hj
      rw [List.getElem?_set_self (List.getElem?_eq_some_iff.mp hx).1] at hy
      obtain rfl := Option.some.inj hy
      exact ⟨x, hx, CorruptionStep.shows_strike hpasses⟩
    · rw [List.getElem?_set_ne hj] at hy
      exact ⟨y, hy, .refl y⟩

end Struck

theorem struck_steps (targets : List Nat) (k : Nat) (run : CorruptionRun)
    (script : List CorruptionStep) :
    Struck targets run.samples
      (CorruptionRun.steps targets (.after targets.length k) run script).1.samples := by
  induction script generalizing k run with
  | nil => exact .refl _ _
  | cons step script ih =>
    rw [CorruptionRun.steps_cons]
    split
    · exact .refl _ _
    · rename_i t htarget
      split
      · exact .refl _ _
      · rename_i x hx
        have hmem : t ∈ targets := List.mem_of_getElem? htarget
        have hstruck := (Struck.strike step hmem hx).trans (ih (k + 1) (run.strike step t x))
        exact hstruck.mono (List.append_subset.mpr ⟨List.Subset.refl _, List.Subset.refl _⟩)

theorem struck_corrupt (samples : List Sample) (targets : List Nat) (script : List CorruptionStep) :
    Struck targets samples (corrupt samples targets script).1.samples := by
  rw [(corrupt_eq samples targets script).2.1]
  exact struck_steps targets 0 ⟨samples, [], []⟩ script

namespace SampleModel

variable {m m' : SampleModel}

/-- A script on a model changes the samples at its targets. -/
theorem struck_corrupted {targets : List Nat} {script : List CorruptionStep}
    (h : m.corrupted targets script = .ok m') : Struck targets m.samples m'.samples := by
  have hstruck := struck_corrupt m.samples targets script
  rw [corrupted, corrupt] at h
  rcases hrun : Eir.corrupt m.samples targets script with ⟨run, _ | fault⟩ <;> rw [hrun] at h hstruck
  · cases h
    exact hstruck
  · cases h

/-- Identifiers change nothing that samples show. -/
theorem shows_stamped (m : SampleModel) : List.Forall₂ Sample.Shows m.stamped.samples m.samples := by
  refine List.forall₂_iff_get.mpr ⟨List.length_mapIdx, fun i hi hi' => ?_⟩
  simp only [stamped, List.get_eq_getElem, List.getElem_mapIdx]
  split
  · exact .refl _
  · refine ⟨rfl, rfl, rfl, fun n hn => ?_, fun system => ?_⟩
    · rw [ValueSet.get?_set, if_neg fun heq => hn (Field.attr.inj heq).symm]
    · rw [ValueSet.get?_set, if_neg nofun]

end SampleModel

end Eir
