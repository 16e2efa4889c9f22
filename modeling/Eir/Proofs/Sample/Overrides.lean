import Eir.Proofs.Sample.Values
import Eir.Sample.Baseline

/-!
# Overridden values

A sample that is built from a baseline has the values of the baseline, save in the
fields that were overridden. Of all that was asked for a field only the last counts
(`overrides_callAll`), and the overrides of other fields leave it alone
(`get?_build`), so that it does not matter in which order different fields were
overridden (`build_reads_last_calls`).
-/

namespace Eir

/-- Values that are given in turn leave no set of properties without properties. -/
theorem Baseline.pruned_ofFields (name : String) (fields : List (Field × String)) :
    (ofFields name fields).values.Pruned := by
  rw [ofFields]
  generalize hv : ValueSet.empty = v
  have h : v.Pruned := hv ▸ ValueSet.pruned_empty
  clear hv
  induction fields generalizing v with
  | nil => exact h
  | cons p fields ih => exact ih _ (h.set p.1 p.2)

namespace SampleBuilder

variable {v : ValueSet} {f : Field} {overrides : List (Field × Option String)}

/-! ## Overrides one after the other -/

theorem get?_override (v : ValueSet) (f g : Field) (value : Option String) :
    (override v f value).get? g = if f = g then value.map f.shown else v.get? g := by
  cases value with
  | some value => exact v.get?_set f g value
  | none => exact v.get?_remove f g

theorem pruned_override (h : v.Pruned) (f : Field) (value : Option String) :
    (override v f value).Pruned := by
  cases value with
  | some value => exact h.set f value
  | none => exact h.remove f

/-- The values with several overrides, one after the other. -/
def overrideAll (v : ValueSet) (overrides : List (Field × Option String)) : ValueSet :=
  overrides.foldl (fun v (f, value) => override v f value) v

theorem get?_overrideAll_of_ne (h : ∀ p ∈ overrides, p.1 ≠ f) :
    (overrideAll v overrides).get? f = v.get? f := by
  induction overrides generalizing v with
  | nil => rfl
  | cons p overrides ih =>
    obtain ⟨hp, hrest⟩ := List.forall_mem_cons.mp h
    rw [overrideAll, List.foldl_cons]
    exact (ih hrest).trans ((get?_override v p.1 f p.2).trans (if_neg hp))

/-- A field that is overridden once has the new value. -/
theorem get?_overrideAll_of_mem {value : Option String}
    (hdistinct : overrides.Pairwise fun p q => p.1 ≠ q.1) (h : (f, value) ∈ overrides) :
    (overrideAll v overrides).get? f = value.map f.shown := by
  induction overrides generalizing v with
  | nil => cases h
  | cons p overrides ih =>
    obtain ⟨hp, hrest⟩ := List.pairwise_cons.mp hdistinct
    rw [overrideAll, List.foldl_cons]
    rcases List.mem_cons.mp h with rfl | h
    · refine (get?_overrideAll_of_ne fun q hq => (hp q hq).symm).trans ?_
      rw [get?_override, if_pos rfl]
    · exact ih hrest h

theorem pruned_overrideAll (h : v.Pruned) (overrides : List (Field × Option String)) :
    (overrideAll v overrides).Pruned := by
  induction overrides generalizing v with
  | nil => exact h
  | cons p overrides ih => exact ih (pruned_override h p.1 p.2)

/-! ## What is built -/

theorem getElem?_overrides_set (b : SampleBuilder) (f g : Field) (value : String) :
    (b.set f value).overrides[g]? = if f = g then some (some value) else b.overrides[g]? := by
  simp only [set, Std.ExtTreeMap.getElem?_insert, Std.LawfulEqCmp.compare_eq_iff_eq]

theorem build_eq (b : SampleBuilder) : b.build = overrideAll b.baseline.values b.overrides.toList :=
  rfl

/-- A field that is overridden has the value that was given, or none; any other has the value of the
baseline. -/
theorem get?_build (b : SampleBuilder) (f : Field) :
    b.build.get? f = match b.overrides[f]? with
      | some value => value.map f.shown
      | none => b.baseline.values.get? f := by
  rw [build_eq]
  cases hf : b.overrides[f]? with
  | some value =>
    -- the overrides are listed in the order of their fields, but each field is there only once
    refine get?_overrideAll_of_mem ?_ (Std.ExtTreeMap.mem_toList_iff_getElem?_eq_some.mpr hf)
    refine Std.ExtTreeMap.distinct_keys_toList.imp fun hne heq => hne ?_
    rw [heq]
    exact Std.ReflCmp.compare_self
  | none =>
    refine get?_overrideAll_of_ne ?_
    rintro ⟨g, value⟩ hmem rfl
    rw [Std.ExtTreeMap.mem_toList_iff_getElem?_eq_some.mp hmem] at hf
    cases hf

/-! ## Calls -/

/-- The builder after a field was given a value, or was removed. -/
def call (b : SampleBuilder) : Field × Option String → SampleBuilder
  | (f, some value) => b.set f value
  | (f, none) => b.remove f

/-- The builder after several calls. -/
def callAll (b : SampleBuilder) (calls : List (Field × Option String)) : SampleBuilder :=
  calls.foldl call b

/-- What the last of the calls on a field asked for, if there was one. -/
def lastCall? (calls : List (Field × Option String)) (f : Field) : Option (Option String) :=
  calls.reverse.lookup f

theorem call_eq (b : SampleBuilder) (p : Field × Option String) :
    b.call p = ⟨b.baseline, b.overrides.insert p.1 p.2⟩ := by
  obtain ⟨f, _ | value⟩ := p <;> rfl

theorem baseline_callAll (b : SampleBuilder) (calls : List (Field × Option String)) :
    (b.callAll calls).baseline = b.baseline := by
  induction calls generalizing b with
  | nil => rfl
  | cons p calls ih => exact (ih (b.call p)).trans (by rw [call_eq])

theorem overrides_callAll (b : SampleBuilder) (calls : List (Field × Option String)) (f : Field) :
    (b.callAll calls).overrides[f]? = (lastCall? calls f).or b.overrides[f]? := by
  induction calls generalizing b with
  | nil => rfl
  | cons p calls ih =>
    obtain ⟨g, value⟩ := p
    -- the first call is the last on its field only if none of the others is on it
    have hlast : lastCall? ((g, value) :: calls) f =
        (lastCall? calls f).or ([(g, value)].lookup f) := by
      rw [lastCall?, List.reverse_cons, List.lookup_append, lastCall?]
    have hfirst : (b.call (g, value)).overrides[f]? =
        ([(g, value)].lookup f).or b.overrides[f]? := by
      simp only [call_eq, Std.ExtTreeMap.getElem?_insert, Std.LawfulEqCmp.compare_eq_iff_eq,
        List.lookup_cons, List.lookup_nil]
      cases hfield : f == g with
      | true => simp [eq_of_beq hfield]
      | false => simp [Ne.symm (beq_eq_false_iff_ne.mp hfield)]
    rw [callAll, List.foldl_cons, ← callAll, ih, hfirst, hlast, Option.or_assoc]

theorem getElem?_overrides_of (baseline : Baseline) (calls : List (Field × Option String))
    (f : Field) : ((of baseline).callAll calls).overrides[f]? = lastCall? calls f := by
  rw [overrides_callAll, of, Std.ExtTreeMap.getElem?_empty, Option.or_none]

/-- **Overrides change the fields that they are about, and nothing else.** In what is built from a
baseline each field has what the last call on it asked for, and if there was none what it has in the
baseline. Calls that come to the same for each field build the same values, in whatever order they
are made. No set of properties is left without properties, if there was none in the baseline. -/
theorem build_reads_last_calls (baseline : Baseline) (calls : List (Field × Option String)) :
    let built := ((of baseline).callAll calls).build
    (∀ f, built.get? f = match lastCall? calls f with
      | some (some value) => some (f.shown value)
      | some none => none
      | none => baseline.values.get? f) ∧
    (∀ others, (∀ f, lastCall? others f = lastCall? calls f) →
      ((of baseline).callAll others).build = built) ∧
    (baseline.values.Pruned → built.Pruned) := by
  intro built
  refine ⟨fun f => ?_, fun others hsame => ?_, fun h => ?_⟩
  · rw [get?_build, getElem?_overrides_of, baseline_callAll, of]
    rcases lastCall? calls f with _ | _ | value <;> rfl
  · have hoverrides : ((of baseline).callAll others).overrides =
        ((of baseline).callAll calls).overrides := by
      refine Std.ExtTreeMap.ext_getElem? fun f => ?_
      rw [getElem?_overrides_of, getElem?_overrides_of, hsame]
    simp only [built, build_eq, baseline_callAll, hoverrides]
  · simp only [built, build_eq, baseline_callAll]
    exact pruned_overrideAll h _

/-- A door that has a name and a model. -/
def doorBaseline : Baseline :=
  .ofFields "Door" [(.attr "Name", "D001"), (.property "COBie_Type" "ModelNumber", "M-1")]

/-- The door gets another name, loses its model and then its name. -/
def doorCalls : List (Field × Option String) :=
  [(.attr "Name", some "D002"), (.property "COBie_Type" "ModelNumber", none), (.attr "Name", some "")]

theorem build_of_doorBaseline :
    doorBaseline.values.Pruned ∧ (∀ f, lastCall? doorCalls.tail.reverse f = lastCall? doorCalls f) ∧
      ((of doorBaseline).callAll doorCalls.tail.reverse).build =
        ((of doorBaseline).callAll doorCalls).build ∧
      ((of doorBaseline).callAll doorCalls).build.Pruned := by
  have hpruned : doorBaseline.values.Pruned := Baseline.pruned_ofFields _ _
  have hlast (f : Field) : lastCall? doorCalls.tail.reverse f = lastCall? doorCalls f := by
    simp only [lastCall?, doorCalls, List.tail_cons, List.reverse_cons, List.reverse_nil,
      List.nil_append, List.cons_append, List.lookup_cons, List.lookup_nil]
    by_cases hname : f = .attr "Name"
    · subst hname
      rfl
    · simp [beq_eq_false_iff_ne.mpr hname]
  obtain ⟨-, hsame, hkept⟩ := build_reads_last_calls doorBaseline doorCalls
  exact ⟨hpruned, hlast, hsame _ hlast, hkept hpruned⟩

end SampleBuilder

end Eir
