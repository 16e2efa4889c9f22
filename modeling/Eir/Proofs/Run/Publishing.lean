import Eir.Proofs.Compiler.OneGroup
import Eir.Proofs.Files.Contents
import Eir.Proofs.Files.Place
import Eir.Run.Basic

/-!
# Steps of a run on the tree

What a step that succeeds leaves at each place of the tree: of the files that a folder
is taken away with (`read?_removed`), and of a file that is written (`read?_written`).
A place with the ending of a document is told by its last step (`IsIdsPlace`), which is
the last of the path as it is written, wherever the path leads.

A run for a stage and a pass writes everything first (`Publisher.publish`), and looks at
what it has written then (`Publisher.runBundle_eq`).
-/

namespace Eir

/-- The place has the ending of a document. -/
def IsIdsPlace (way : List String) : Prop := ∃ stem, way.getLast? = some (stem ++ ".ids")

namespace Path

variable {p : Path} {front : String}

theorem isIdsPlace_of_text (h : p.text = front ++ ".ids") : IsIdsPlace p.place :=
  exists_getLast?_place h (by decide) (by decide)

/-- A name that is joined gives its ending to the place. -/
theorem isIdsPlace_join (p : Path) (name : String) : IsIdsPlace (p.join (name ++ ".ids")).place := by
  obtain ⟨front, htext⟩ := p.exists_text_join (name ++ ".ids")
  rw [← String.append_assoc] at htext
  exact isIdsPlace_of_text htext

/-- A file with the ending of a bundle document is at no place of a document. -/
theorem not_isIdsPlace_json (p : Path) : ¬ IsIdsPlace (p.withEnding "json").place := by
  rintro ⟨stem, hids⟩
  obtain ⟨front, htext⟩ := p.parent.exists_text_join ((splitEnding p.fileName).1 ++ "." ++ "json")
  rw [← String.append_assoc] at htext
  obtain ⟨stem', hjson⟩ := exists_getLast?_place (p := p.withEnding "json") htext
    (by decide) (by decide)
  rw [hids] at hjson
  have hchars := congrArg String.toList (Option.some.inj hjson)
  rw [String.toList_append, String.toList_append] at hchars
  have hlast := congrArg List.getLast? hchars
  rw [List.getLast?_append_of_ne_nil _ (by decide), List.getLast?_append_of_ne_nil _ (by decide)]
    at hlast
  exact absurd hlast (by decide)

/-- A name with the ending of a document ends with it. -/
theorem exists_of_splitEnding {name : String} (h : (splitEnding name).2 = some "ids") :
    ∃ stem, name = stem ++ ".ids" := by
  simp only [splitEnding] at h
  split at h
  · cases h
  · rename_i hstem
    have hending := Option.some.inj h
    have hsplit := List.takeWhile_append_dropWhile (p := (· ≠ '.')) (l := name.toList.reverse)
    cases hrest : name.toList.reverse.dropWhile (· ≠ '.') with
    | nil =>
      rw [hrest] at hstem
      exact absurd rfl hstem
    | cons c rest =>
      have hpoint : c = '.' := by
        have hhead := List.head?_dropWhile_not (· ≠ '.') name.toList.reverse
        rw [hrest] at hhead
        simpa using hhead
      subst hpoint
      refine ⟨String.ofList rest.reverse, String.toList_inj.mp ?_⟩
      have htaken := congrArg String.toList hending
      rw [String.toList_ofList] at htaken
      rw [hrest] at hsplit
      rw [← List.reverse_reverse name.toList, ← hsplit, List.reverse_append, List.reverse_cons,
        htaken, String.toList_append, String.toList_ofList]
      simp

end Path

/-- Documents below a place have its steps, and the ending of documents. -/
theorem of_mem_idsFilesBelow {t : FileTree} {way w : List String} (h : w ∈ idsFilesBelow t way) :
    way <+: w ∧ IsIdsPlace w := by
  simp only [idsFilesBelow, List.mem_mergeSort, List.mem_filter, List.mem_map] at h
  obtain ⟨⟨⟨w', content⟩, hmem, rfl⟩, hids⟩ := h
  refine ⟨FileTree.prefix_of_mem_filesBelow hmem, ?_⟩
  obtain ⟨stem, hstem⟩ := Path.exists_of_splitEnding (by simpa using hids)
  cases hlast : w'.getLast? with
  | none =>
    rw [hlast, Option.getD_none] at hstem
    exact absurd (congrArg String.toList hstem) (by simp [String.toList_append])
  | some name =>
    rw [hlast, Option.getD_some] at hstem
    exact ⟨stem, hlast.trans (congrArg some hstem)⟩

namespace Publishing

variable {α β : Type} {t u : FileTree} {path : Path} {content : String}

/-- After a step that succeeds the next one goes on with the tree. -/
theorem run_bind (x : Publishing α) (f : α → Publishing β) (t : FileTree) :
    (x >>= f).run.run t = match x.run.run t with
      | (.ok a, m) => (f a).run.run m
      | (.error e, m) => (.error e, m) := by
  show (ExceptT.bind x f).run.run t = _
  rw [ExceptT.bind, ExceptT.run_mk]
  show (ExceptT.bindCont f (x.run.run t).1).run (x.run.run t).2 = _
  rcases x.run.run t with ⟨_ | a, m⟩ <;> rfl

/-- Steps one after the other succeed only if each of them does. -/
theorem exists_of_bind {x : Publishing α} {f : α → Publishing β} {b : β}
    (h : (x >>= f).run.run t = (.ok b, u)) :
    ∃ a m, x.run.run t = (.ok a, m) ∧ (f a).run.run m = (.ok b, u) := by
  rw [run_bind] at h
  rcases hx : x.run.run t with ⟨_ | a, m⟩
  · rw [hx] at h
    cases h
  · rw [hx] at h
    exact ⟨a, m, rfl, h⟩

theorem of_change {f : FileTree → Except RunError FileTree} {a : Unit}
    (h : (change f).run.run t = (.ok a, u)) : f t = .ok u := by
  obtain ⟨t', m, hget, h⟩ := exists_of_bind h
  obtain ⟨rfl, rfl⟩ : t = t' ∧ t = m := by
    cases hget
    exact ⟨rfl, rfl⟩
  obtain ⟨next, m, hchange, hset⟩ := exists_of_bind h
  cases hf : f t with
  | error e =>
    rw [hf] at hchange
    cases hchange
  | ok s =>
    rw [hf] at hchange
    cases hchange
    cases hset
    rfl

/-- A folder that is taken away is gone with all in it, and nothing else changes. -/
theorem read?_removed (h : removed path t = .ok u) (hplace : path.place ≠ []) (w : List String) :
    u.read? w = if path.place <+: w then none else t.read? w := by
  rw [removed] at h
  split at h
  · rename_i hnone
    obtain rfl := Except.ok.inj h
    split
    · rename_i hw
      exact FileTree.read?_of_find?_eq_none hnone hw
    · rfl
  · obtain rfl := Except.ok.inj h
    exact FileTree.read?_erase hplace t w
  · cases h

/-- A file that is written is there, and all others are as they were. -/
theorem read?_written (h : written path content t = .ok u) (w : List String) :
    u.read? w = if w = path.place then some content else t.read? w := by
  rw [written] at h
  split at h
  · rename_i hwrite
    obtain rfl := Except.ok.inj h
    exact FileTree.read?_write? hwrite w
  · split at h <;> cases h

end Publishing

/-! ## A stage and a pass -/

namespace Publisher

open Publishing

/-- Where the bundle goes. -/
def bundlePath (p : Publisher) (stage : Stage) (pass : PassSet) : Path :=
  p.layout.bundlePath (p.settings.bundleFileName stage pass)

/-- Where the bundle document goes, if there is to be one. -/
def jsonPath (p : Publisher) (stage : Stage) (pass : PassSet) : Option Path :=
  if p.settings.output.writes .json then some ((p.bundlePath stage pass).withEnding "json") else none

/-- All rules in one group, in the order of their identifiers. -/
def bundleGroup (rules : CompiledRules) : SpecGroup :=
  ⟨rules.root, Specification.sorted rules.specifications⟩

/-- How many rules there are in all groups. -/
def total (rules : CompiledRules) : Nat :=
  rules.groups.foldl (fun n g => n + g.specifications.length) 0

/-- Takes the documents of scopes away if there is just one. -/
def tidy (p : Publisher) (stage : Stage) (rules : CompiledRules) : Publishing Unit :=
  if p.settings.output.oneFilePerScope && rules.groups.length ≤ 1 then
    change (removed (p.layout.groupFolder stage))
  else pure ()

/-- Writes the bundle document, if there is to be one. -/
def writeJson (p : Publisher) (stage : Stage) (pass : PassSet) (rules : CompiledRules) :
    Publishing Unit :=
  match p.jsonPath stage pass with
  | some path =>
    write path (Json.encode (BundleDocument.of (p.bundle stage pass rules) stage pass.label)).pretty
  | none => pure ()

/-- Writes everything for a stage and a pass, without a look at what was written. -/
def publish (p : Publisher) (stage : Stage) (pass : PassSet) :
    Publishing (CompiledRules × List Path) := do
  clear p.layout stage
  let (rules, written) ← p.compile stage pass
  p.tidy stage rules
  write (p.bundlePath stage pass) (bundleGroup rules).document
  p.writeJson stage pass rules
  return (rules, written)

/-- Counts the documents that are refused, if they are to be checked. -/
def check (p : Publisher) (stage : Stage) (pass : PassSet) (rules : CompiledRules)
    (written : List Path) (t : FileTree) : Except RunError Nat :=
  if p.settings.output.validate then
    invalidDocuments t (p.bundlePath stage pass).place (total rules)
      (p.placesToCheck stage t written (p.bundlePath stage pass))
  else .ok 0

def report (p : Publisher) (stage : Stage) (pass : PassSet) (rules : CompiledRules)
    (invalidFiles : Nat) : BundleReport where
  stage := stage
  pass := pass
  path := p.bundlePath stage pass
  json := p.jsonPath stage pass
  specifications := total rules
  groups := rules.groups.length
  fingerprint := (p.bundle stage pass rules).fingerprint
  invalidFiles := invalidFiles

/-- A run writes everything first, and checks it then. -/
theorem runBundle_eq (p : Publisher) (stage : Stage) (pass : PassSet) :
    p.runBundle stage pass = do
      let (rules, written) ← p.publish stage pass
      let invalidFiles ← (p.check stage pass rules written (← get) : Except RunError Nat)
      return p.report stage pass rules invalidFiles := by
  unfold runBundle publish
  simp only [bind_assoc]
  refine bind_congr fun _ => bind_congr fun (rules, written) => ?_
  have hgroup : (p.bundle stage pass rules).groups.head? = some (bundleGroup rules) := rfl
  -- What is written does not depend on whether it is checked, so the choices can be made apart.
  have hzero (f : Nat → Publishing BundleReport) :
      (liftM (Except.ok 0 : Except RunError Nat) : Publishing Nat) >>= f = f 0 := rfl
  cases htidy : p.settings.output.oneFilePerScope && decide (rules.groups.length ≤ 1) <;>
    cases hjson : p.settings.output.writes .json <;>
    cases hvalidate : p.settings.output.validate <;>
    simp only [hgroup, tidy, writeJson, jsonPath, check, report, bundlePath, total, htidy, hjson,
      hvalidate, if_true, if_false, Bool.false_eq_true, pure_bind, hzero]

end Publisher

end Eir
