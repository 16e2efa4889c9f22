import Eir.Proofs.Compiler.Acceptable
import Eir.Proofs.Files.DocumentNames
import Eir.Proofs.Lists
import Eir.Proofs.Rulebook.Selective
import Eir.Proofs.Run.Publishing
import Eir.Proofs.Sample.Presence

/-!
# A run accepts its own documents

A run reads back what it has written, and counts the documents that a model checker
would refuse. There are none: the folders of the stage are renewed, so all that is
checked was written by the run (`Accepts`), and all that is written can be accepted.
-/

namespace Eir

open Publishing

/-- Each document in the tree is accepted, unless it was there before, outside of the folders; and
so is each one that is still there of those written at the paths. -/
structure Accepts (folders : List (List String)) (before : FileTree) (paths : List Path)
    (t : FileTree) : Prop where
  renewed : ∀ way content, IsIdsPlace way → t.read? way = some content → IsAccepted content ∨
    before.read? way = some content ∧ ∀ folder ∈ folders, ¬ folder <+: way
  written : ∀ path ∈ paths, IsIdsPlace path.place ∧
    ∀ content, t.read? path.place = some content → IsAccepted content

section Accepts

variable {folders : List (List String)} {before t u : FileTree} {paths : List Path} {path : Path}
  {content : String}

/-- A document that is accepted may be written, wherever it goes. -/
theorem Accepts.write (h : Accepts folders before paths t)
    (hwritten : Publishing.written path content t = .ok u) (hids : IsIdsPlace path.place)
    (haccepted : IsAccepted content) : Accepts folders before (path :: paths) u := by
  have hread := read?_written hwritten
  refine ⟨fun way c hway hc => ?_, List.forall_mem_cons.mpr ⟨⟨hids, fun c hc => ?_⟩,
    fun q hq => ⟨(h.written q hq).1, fun c hc => ?_⟩⟩⟩
  · rw [hread] at hc
    split at hc
    · obtain rfl := Option.some.inj hc
      exact .inl haccepted
    · exact h.renewed way c hway hc
  · rw [hread, if_pos rfl] at hc
    rwa [← Option.some.inj hc]
  · rw [hread] at hc
    split at hc
    · rwa [← Option.some.inj hc]
    · exact (h.written q hq).2 c hc

/-- A file that is written where no document would be leaves the documents as they are. -/
theorem read?_writtenOther (hwritten : Publishing.written path content t = .ok u)
    (hids : ¬ IsIdsPlace path.place) {way : List String} (hway : IsIdsPlace way) :
    u.read? way = t.read? way := by
  rw [read?_written hwritten, if_neg]
  rintro rfl
  exact hids hway

theorem Accepts.writeOther (h : Accepts folders before paths t)
    (hwritten : Publishing.written path content t = .ok u) (hids : ¬ IsIdsPlace path.place) :
    Accepts folders before paths u := by
  have hread {way : List String} (hway : IsIdsPlace way) := read?_writtenOther hwritten hids hway
  refine ⟨fun way c hway hc => h.renewed way c hway (hread hway ▸ hc), fun q hq => ?_⟩
  obtain ⟨hq, haccepted⟩ := h.written q hq
  exact ⟨hq, fun c hc => haccepted c (hread hq ▸ hc)⟩

/-- A folder may be taken away. -/
theorem Accepts.remove (h : Accepts folders before paths t) (hremoved : removed path t = .ok u)
    (hplace : path.place ≠ []) : Accepts folders before paths u := by
  have hread {way : List String} {c : String} (hc : u.read? way = some c) :
      t.read? way = some c := by
    rw [read?_removed hremoved hplace] at hc
    split at hc
    · cases hc
    · exact hc
  exact ⟨fun way c hway hc => h.renewed way c hway (hread hc),
    fun q hq => ⟨(h.written q hq).1, fun c hc => (h.written q hq).2 c (hread hc)⟩⟩

end Accepts

namespace Layout

/-- The folders of a stage. -/
def folders (l : Layout) (stage : Stage) : List (List String) :=
  [(l.stageFolder stage).place, (l.groupFolder stage).place]

theorem isIdsPlace_specificationPath (l : Layout) (location : SpecLocation) (name : String) :
    IsIdsPlace (l.specificationPath location name).place :=
  Path.isIdsPlace_join (l.scopeFolder location) _

theorem isIdsPlace_groupPath (l : Layout) (stage : Stage) (name : String) :
    IsIdsPlace (l.groupPath stage name).place :=
  Path.isIdsPlace_join (l.groupFolder stage) _

theorem place_stage_ne_nil (base : Path) (stage : Stage) : (base.join stage.name).place ≠ [] := by
  rw [Path.place_join (properName_stage stage)]
  simp

end Layout

variable {before t u : FileTree}

/-- When the folders of a stage have been taken away, nothing is left in them. -/
theorem accepts_clear {l : Layout} {stage : Stage} {a : Unit}
    (h : (clear l stage).run.run before = (.ok a, t)) :
    Accepts (l.folders stage) before [] t := by
  obtain ⟨_, m, hfirst, hsecond⟩ := exists_of_bind h
  refine ⟨fun way content hway hc => .inr ?_, fun _ hpath => absurd hpath List.not_mem_nil⟩
  rw [read?_removed (of_change hsecond) (Layout.place_stage_ne_nil _ stage)] at hc
  split at hc
  · cases hc
  · rename_i hgroup
    rw [read?_removed (of_change hfirst) (Layout.place_stage_ne_nil _ stage)] at hc
    split at hc
    · cases hc
    · rename_i hstage
      exact ⟨hc, List.forall_mem_cons.mpr ⟨hstage, List.forall_mem_singleton.mpr hgroup⟩⟩

/-! ## Compiling -/

namespace PublishedFiles

/-- What was written so far is accepted. -/
def Accepted (folders : List (List String)) (before : FileTree) (f : PublishedFiles) : Prop :=
  Accepts folders before f.reversed f.tree

theorem Accepted.add {folders : List (List String)} {before : FileTree} {f : PublishedFiles}
    (h : f.Accepted folders before) {path : Path} {content : String}
    (hids : IsIdsPlace path.place) (haccepted : IsAccepted content) :
    (f.add path content).1.Accepted folders before := by
  rw [PublishedFiles.add]
  split
  · rename_i hwritten
    exact h.write hwritten hids haccepted
  · exact h

/-- The sink writes accepted documents if it is asked for what can be accepted. -/
theorem keeps_sink (l : Layout) (folders : List (List String)) (before : FileTree) :
    (sink l).Keeps (Accepted folders before) := by
  refine ⟨fun location m x f hf hgroup => ?_, fun stage g f hf hgroup => ?_⟩
  · change Accepted folders before
      (f.add (l.specificationPath location x.name) (SpecGroup.mk m [x]).document).1
    have hids := l.isIdsPlace_specificationPath location x.name
    exact hf.add hids hgroup.accepted
  · change Accepted folders before (f.add (l.groupPath stage g.name) g.document).1
    exact hf.add (l.isIdsPlace_groupPath stage g.name) hgroup.accepted

end PublishedFiles

theorem Settings.titled_rootMetadata (s : Settings) (stage : Stage) (pass : PassSet) (date : Date) :
    Titled (s.rootMetadata stage pass date).name := by
  have hname : Titled "Information Model RIBA " := by decide
  exact ((hname.append_left stage.name).append_left " Assurance for ").append_left s.project.name

theorem Compiler.snd_run {σ : Type} (c : Compiler σ) (steps : List Step) :
    (c.run steps).2 = (takeSteps true c steps).2.1 := by
  rw [run]
  split
  · rename_i heq
    rw [heq]
  · rename_i heq
    rw [heq]

/-- A compilation of the rulebook asks the sink only for what can be accepted, and gives only such
rules. -/
theorem Inputs.accepting_compile {σ : Type} {sink : Sink σ} {Q : σ → Prop} (hkeeps : sink.Keeps Q)
    (i : Inputs) (date : Date) (stage : Stage) (pass : PassSet) {st : σ} (hst : Q st) :
    Q (i.compile date stage pass sink st).2 ∧
      ∀ rules, (i.compile date stage pass sink st).1 = .ok rules →
        (∀ g ∈ rules.groups, g.Acceptable) ∧ Titled rules.root.name := by
  rw [compile]
  dsimp only
  split
  · exact ⟨hst, fun _ hrules => by cases hrules⟩
  · rename_i c hc
    have hstart := Compiler.accepting_start hkeeps
      (i.settings.titled_rootMetadata stage pass date) hst hc
    have hrun : Compiler.Accepting Q (c.run (i.rulebook c).program).2 := by
      rw [Compiler.snd_run]
      exact hstart.takeSteps true (i.rulebook c).selective_program
    split
    · rename_i heq
      rw [heq] at hrun
      exact ⟨hrun.state, fun _ hrules => by cases hrules⟩
    · rename_i d heq
      rw [heq] at hrun
      refine ⟨hrun.finish.state, fun rules hrules => ?_⟩
      cases hfinish : d.finish.1 with
      | error f =>
        rw [hfinish] at hrules
        cases hrules
      | ok found =>
        rw [hfinish] at hrules
        obtain rfl : found = rules := Except.ok.inj hrules
        exact hrun.of_finish hfinish

/-! ## The check -/

/-- Nothing is wrong with an accepted document, unless it is the bundle and does not hold what it
should. -/
theorem documentProblems_eq_nil {t : FileTree} {bundle way : List String} {expected : Nat}
    (haccepted : ∀ content, t.read? way = some content → IsAccepted content)
    (hbundle : way = bundle → ∀ content d, t.read? way = some content →
      DocumentSummary.read content = .ok d → d.specifications.length = expected) :
    documentProblems t bundle expected way = .ok [] := by
  rw [documentProblems]
  cases hcontent : t.read? way with
  | none => rfl
  | some content =>
    obtain ⟨d, hread, hd⟩ := haccepted content hcontent
    simp only [hread]
    show Except.ok (d.problems ++ _) = _
    have hheld : ¬ (way = bundle ∧ d.specifications.length ≠ expected) :=
      fun h => h.2 (hbundle h.1 content d hcontent hread)
    rw [DocumentSummary.problems_eq_nil.mpr hd, if_neg hheld, List.nil_append]

theorem invalidDocuments_eq_zero {t : FileTree} {bundle : List String} {expected : Nat}
    {ways : List (List String)}
    (h : ∀ way ∈ ways, documentProblems t bundle expected way = .ok []) :
    invalidDocuments t bundle expected ways = .ok 0 := by
  have hall : ways.mapM (documentProblems t bundle expected) = .ok (ways.map fun _ => []) := by
    induction ways with
    | nil => rfl
    | cons way ways ih =>
      rw [List.mapM_cons, h way List.mem_cons_self,
        ih fun w hw => h w (List.mem_cons_of_mem way hw)]
      rfl
  rw [invalidDocuments, hall]
  show Except.ok (List.countP _ (ways.map fun _ => [])) = _
  rw [List.countP_map]
  simp

theorem mem_placesToCheck {p : Publisher} {stage : Stage} {t : FileTree} {written : List Path}
    {bundle : Path} {way : List String} (h : way ∈ p.placesToCheck stage t written bundle) :
    way ∈ idsFilesBelow t (p.layout.stageFolder stage).place ∨
      (∃ path ∈ written, path.place = way) ∨ way = bundle.place := by
  have hothers (places : List (List String)) (below : List (List String))
      (hway : way ∈ places.foldl (fun ways way =>
        if ways.contains way then ways else ways ++ [way]) below) :
      way ∈ below ∨ way ∈ places := by
    induction places generalizing below with
    | nil => exact .inl hway
    | cons place places ih =>
      rcases ih _ hway with hway | hway
      · dsimp only at hway
        split at hway
        · exact .inl hway
        · rcases List.mem_append.mp hway with hway | hway
          · exact .inl hway
          · exact .inr (List.mem_cons.mpr (.inl (List.mem_singleton.mp hway)))
      · exact .inr (List.mem_cons_of_mem place hway)
  rcases List.mem_append.mp h with h | h
  · rcases hothers _ _ h with h | h
    · exact .inl h
    · exact .inr (.inl (List.mem_map.mp h))
  · exact .inr (.inr (List.mem_singleton.mp h))

/-- Nothing is wrong with what is checked after documents were written in renewed folders. -/
theorem Accepts.nothing_invalid {p : Publisher} {stage : Stage} {t before : FileTree}
    {written : List Path} {bundle : Path} {content : String} {d : DocumentSummary}
    (h : Accepts (p.layout.folders stage) before (bundle :: written) t)
    (hcontent : t.read? bundle.place = some content) (hread : DocumentSummary.read content = .ok d) :
    invalidDocuments t bundle.place d.specifications.length
      (p.placesToCheck stage t written bundle) = .ok 0 := by
  refine invalidDocuments_eq_zero fun way hway => documentProblems_eq_nil (fun c hc => ?_) ?_
  · rcases mem_placesToCheck hway with hbelow | ⟨path, hpath, rfl⟩ | rfl
    · obtain ⟨hfront, hids⟩ := of_mem_idsFilesBelow hbelow
      rcases h.renewed way c hids hc with haccepted | ⟨-, hout⟩
      · exact haccepted
      · exact absurd hfront (hout _ List.mem_cons_self)
    · exact (h.written path (List.mem_cons_of_mem bundle hpath)).2 c hc
    · exact (h.written bundle List.mem_cons_self).2 c hc
  · rintro rfl c d' hc hread'
    rw [hcontent] at hc
    obtain rfl := Option.some.inj hc
    rw [hread] at hread'
    rw [Except.ok.inj hread']

/-! ## The run -/

namespace Publisher

/-- A compilation on the tree is one with the sink that writes to it. -/
theorem of_compile {p : Publisher} {stage : Stage} {pass : PassSet} {rules : CompiledRules}
    {written : List Path} (h : (p.compile stage pass).run.run t = (.ok (rules, written), u)) :
    ∃ files : PublishedFiles, p.inputs.compile p.date stage pass (PublishedFiles.sink p.layout)
      ⟨t, []⟩ = (.ok rules, files) ∧ files.tree = u ∧ files.reversed.reverse = written := by
  obtain ⟨t', m, hget, h⟩ := exists_of_bind h
  obtain ⟨rfl, rfl⟩ : t = t' ∧ t = m := by
    cases hget
    exact ⟨rfl, rfl⟩
  rcases hcompile : p.inputs.compile p.date stage pass (PublishedFiles.sink p.layout)
    ⟨t, []⟩ with ⟨result, files⟩
  rw [hcompile] at h
  obtain ⟨_, m, hset, h⟩ := exists_of_bind h
  obtain rfl : files.tree = m := by
    cases hset
    rfl
  cases result with
  | error e => cases h
  | ok found =>
    cases h
    exact ⟨files, rfl, rfl, rfl⟩

variable {p : Publisher} {stage : Stage} {pass : PassSet} {rules : CompiledRules}
  {written : List Path}

theorem acceptable_bundleGroup (hgroups : ∀ g ∈ rules.groups, g.Acceptable)
    (htitled : Titled rules.root.name) : (bundleGroup rules).Acceptable := by
  refine ⟨htitled, fun s hs => ?_⟩
  have hmem := (Specification.perm_sorted rules.specifications).subset hs
  obtain ⟨g, hg, hsg⟩ := List.mem_flatMap.mp hmem
  exact (hgroups g hg).rules s hsg

theorem length_bundleGroup (rules : CompiledRules) :
    (bundleGroup rules).specifications.length = total rules := by
  have hsum (gs : List SpecGroup) (n : Nat) :
      gs.foldl (fun n g => n + g.specifications.length) n =
        n + (gs.flatMap (·.specifications)).length := by
    induction gs generalizing n with
    | nil => rfl
    | cons g gs ih =>
      rw [List.foldl_cons, ih, List.flatMap_cons, List.length_append, Nat.add_assoc]
  rw [bundleGroup, (Specification.perm_sorted _).length_eq, total, hsum, Nat.zero_add]
  rfl

/-- The document of the bundle holds the rules of all groups. -/
theorem exists_read_bundle (rules : CompiledRules) :
    ∃ d, DocumentSummary.read (bundleGroup rules).document = .ok d ∧
      d.specifications.length = total rules := by
  obtain ⟨d, hd, hspecs, -⟩ := (bundleGroup rules).exists_read_document
  exact ⟨d, hd, by rw [hspecs, List.length_map, length_bundleGroup]⟩

theorem isIdsPlace_bundlePath (p : Publisher) (stage : Stage) (pass : PassSet) :
    IsIdsPlace (p.bundlePath stage pass).place :=
  Path.isIdsPlace_join p.layout.base _

theorem not_isIdsPlace_jsonPath (p : Publisher) {path : Path}
    (h : p.jsonPath stage pass = some path) : ¬ IsIdsPlace path.place := by
  rw [jsonPath] at h
  split at h
  · obtain rfl := Option.some.inj h
    exact Path.not_isIdsPlace_json _
  · cases h

section Steps

variable {folders : List (List String)} {before t u : FileTree} {paths : List Path} {a : Unit}

/-- A compilation writes accepted documents, and gives rules that can be accepted. -/
theorem accepts_compile (h : Accepts folders before [] t)
    (hcompile : (p.compile stage pass).run.run t = (.ok (rules, written), u)) :
    Accepts folders before written u ∧ (bundleGroup rules).Acceptable := by
  obtain ⟨files, heq, rfl, rfl⟩ := of_compile hcompile
  have hstart : PublishedFiles.Accepted folders before ⟨t, []⟩ := h
  obtain ⟨hfiles, hrules⟩ := Inputs.accepting_compile
    (PublishedFiles.keeps_sink p.layout folders before) p.inputs p.date stage pass hstart
  rw [heq] at hfiles hrules
  obtain ⟨hgroups, htitled⟩ := hrules rules rfl
  exact ⟨⟨hfiles.renewed, fun path hpath => hfiles.written path (List.mem_reverse.mp hpath)⟩,
    acceptable_bundleGroup hgroups htitled⟩

theorem accepts_tidy (h : Accepts folders before paths t)
    (htidy : (p.tidy stage rules).run.run t = (.ok a, u)) : Accepts folders before paths u := by
  rw [tidy] at htidy
  split at htidy
  · exact h.remove (of_change htidy) (Layout.place_stage_ne_nil _ stage)
  · cases htidy
    exact h

/-- The file of the bundle is no document. -/
theorem accepts_writeJson (h : Accepts folders before paths t)
    (hjson : (p.writeJson stage pass rules).run.run t = (.ok a, u)) :
    Accepts folders before paths u ∧ ∀ way, IsIdsPlace way → u.read? way = t.read? way := by
  rw [writeJson] at hjson
  split at hjson
  · rename_i path hpath
    have hother := p.not_isIdsPlace_jsonPath hpath
    exact ⟨h.writeOther (of_change hjson) hother,
      fun way => read?_writtenOther (of_change hjson) hother⟩
  · cases hjson
    exact ⟨h, fun _ _ => rfl⟩

end Steps

/-- All that a run writes is accepted, and the bundle is in its place. -/
theorem accepts_publish (h : (p.publish stage pass).run.run before = (.ok (rules, written), t)) :
    Accepts (p.layout.folders stage) before (p.bundlePath stage pass :: written) t ∧
      t.read? (p.bundlePath stage pass).place = some (bundleGroup rules).document := by
  obtain ⟨_, t₁, hclear, h⟩ := exists_of_bind h
  obtain ⟨⟨found, paths⟩, t₂, hcompile, h⟩ := exists_of_bind h
  obtain ⟨_, t₃, htidy, h⟩ := exists_of_bind h
  obtain ⟨_, t₄, hwrite, h⟩ := exists_of_bind h
  obtain ⟨_, t₅, hjson, h⟩ := exists_of_bind h
  obtain ⟨rfl, rfl, rfl⟩ : found = rules ∧ paths = written ∧ t₅ = t := by
    cases h
    exact ⟨rfl, rfl, rfl⟩
  have hids := p.isIdsPlace_bundlePath stage pass
  obtain ⟨hcompiled, hbundle⟩ := accepts_compile (accepts_clear hclear) hcompile
  have hbundled := (accepts_tidy hcompiled htidy).write (of_change hwrite) hids hbundle.accepted
  obtain ⟨haccepts, hread⟩ := accepts_writeJson hbundled hjson
  refine ⟨haccepts, ?_⟩
  rw [hread _ hids, read?_written (of_change hwrite), if_pos rfl]

/-- Of what a run has written, nothing is refused. -/
theorem check_publish (h : (p.publish stage pass).run.run before = (.ok (rules, written), t)) :
    invalidDocuments t (p.bundlePath stage pass).place (total rules)
      (p.placesToCheck stage t written (p.bundlePath stage pass)) = .ok 0 := by
  obtain ⟨haccepts, hread⟩ := accepts_publish h
  obtain ⟨d, hd, hlength⟩ := exists_read_bundle rules
  rw [← hlength]
  exact haccepts.nothing_invalid hread hd

/-- A run that can write everything succeeds, whether it checks that or not. -/
theorem runBundle_of_publish
    (h : (p.publish stage pass).run.run before = (.ok (rules, written), t)) :
    (p.runBundle stage pass).run.run before = (.ok (p.report stage pass rules 0), t) := by
  have hcheck : p.check stage pass rules written t = .ok 0 := by
    rw [check, check_publish h, ite_self]
  have hget : (get : Publishing FileTree).run.run t = (.ok t, t) := rfl
  rw [runBundle_eq, run_bind, h]
  simp only
  rw [run_bind, hget]
  simp only
  rw [hcheck]
  rfl

/-- **A run accepts its own documents.** A run that succeeds, with any settings, counts no document
that would be refused, and would count none if it were told to check. Each document that it has
written and not taken away again is accepted, so is each that is in the folders of the stage, and
the bundle holds as many specifications as the report says. -/
theorem own_documents_accepted (p : Publisher) (stage : Stage) (pass : PassSet)
    (before after : FileTree) (report : BundleReport)
    (hrun : (p.runBundle stage pass).run.run before = (.ok report, after)) :
    report.invalidFiles = 0 ∧
      ∃ rules written, (p.publish stage pass).run.run before = (.ok (rules, written), after) ∧
        invalidDocuments after report.path.place report.specifications
          (p.placesToCheck stage after written report.path) = .ok 0 ∧
        (∀ path ∈ report.path :: written, ∀ content, after.read? path.place = some content →
          IsAccepted content) ∧
        (∀ way content, IsIdsPlace way → after.read? way = some content → IsAccepted content ∨
          before.read? way = some content ∧
            ∀ folder ∈ p.layout.folders stage, ¬ folder <+: way) ∧
        ∃ content d, after.read? report.path.place = some content ∧
          DocumentSummary.read content = .ok d ∧
          d.specifications.length = report.specifications := by
  have hpublished := hrun
  rw [runBundle_eq] at hpublished
  obtain ⟨⟨rules, written⟩, m, hpublish, -⟩ := exists_of_bind hpublished
  rw [runBundle_of_publish hpublish] at hrun
  obtain ⟨hreport, rfl⟩ := Prod.mk.inj hrun
  obtain rfl := Except.ok.inj hreport
  obtain ⟨haccepts, hread⟩ := accepts_publish hpublish
  obtain ⟨d, hd, hlength⟩ := exists_read_bundle rules
  simp only [report]
  exact ⟨trivial, rules, written, hpublish, check_publish hpublish,
    fun path hpath => (haccepts.written path hpath).2, haccepts.renewed, _, d, hread, hd, hlength⟩

/-- Publishes the rules of a house, with a document for each of them, and checks what it wrote. -/
def ofHouse : Publisher where
  inputs := { Inputs.ofHouse with
    settings := { (default : Settings) with
      output := ⟨true, true, true, [.ids], true⟩ } }
  date := default
  layout := ⟨⟨"out"⟩⟩

theorem published_of_house :
    ((ofHouse.publish .stage3 .complexOnly).run.run .empty).1.toOption.map
      (fun (rules, written) => (total rules, written.length)) = some (1, 2) := by
  decide +kernel

theorem own_documents_of_house : ∃ report after,
    (ofHouse.runBundle .stage3 .complexOnly).run.run .empty = (.ok report, after) ∧
      report.specifications = 1 ∧ report.invalidFiles = 0 ∧
      ∃ content d, after.read? report.path.place = some content ∧
        DocumentSummary.read content = .ok d ∧ d.specifications.length = 1 := by
  have hpublished := published_of_house
  rcases hpublish : (ofHouse.publish .stage3 .complexOnly).run.run .empty with
    ⟨_ | ⟨rules, written⟩, after⟩
  · rw [hpublish] at hpublished
    cases hpublished
  · rw [hpublish] at hpublished
    have htotal : total rules = 1 := (Prod.mk.inj (Option.some.inj hpublished)).1
    have hrun := runBundle_of_publish hpublish
    obtain ⟨hnone, -, -, -, -, -, -, content, d, hcontent, hread, hlength⟩ :=
      own_documents_accepted ofHouse .stage3 .complexOnly .empty after _ hrun
    exact ⟨_, after, hrun, htotal, hnone, content, d, hcontent, hread, hlength.trans htotal⟩

end Publisher

end Eir
