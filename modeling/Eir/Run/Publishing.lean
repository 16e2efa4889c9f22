import Eir.Compiler.Sink
import Eir.Fault
import Eir.Files.Tree
import Eir.Ids.Document
import Eir.Ids.Summary
import Eir.Layout

/-!
# Publishing

Steps of a run that change the file tree: clearing the folders of a stage,
writing documents, and reading them back. A step that fails leaves the tree as
far as it had come.
-/

namespace Eir

/-- A step on a file tree. -/
abbrev Publishing (α : Type) := ExceptT RunError (StateM FileTree) α

namespace Publishing

/-- A failure with its reason and what was being done. -/
def refuse {α : Type} (activity reason : String) : Except RunError α :=
  during activity (.error (.plain reason))

/-- Writes a file into a tree, with the folders on the way. -/
def written (path : Path) (content : String) (t : FileTree) : Except RunError FileTree :=
  match FileTree.write? content path.place t with
  | some t => .ok t
  | none =>
    if FileTree.admitsFolder path.parent.place t then
      refuse ("Writing " ++ path.text) "a folder is in the way"
    else refuse ("Creating " ++ path.parent.text) "a file is in the way"

/-- Takes a folder out of a tree, if it is there. -/
def removed (path : Path) (t : FileTree) : Except RunError FileTree :=
  match FileTree.find? path.place t with
  | none => .ok t
  | some (.folder _) => .ok (FileTree.erase path.place t)
  | some (.file _) => refuse ("Removing " ++ path.text) "it is not a folder"

/-- Changes the tree, unless that fails. -/
def change (f : FileTree → Except RunError FileTree) : Publishing Unit := do
  set (← (f (← get) : Except RunError FileTree))

/-- Writes a file. -/
def write (path : Path) (content : String) : Publishing Unit := change (written path content)

/-- Takes away the folders of a stage. -/
def clear (l : Layout) (stage : Stage) : Publishing Unit := do
  change (removed (l.stageFolder stage))
  change (removed (l.groupFolder stage))

end Publishing

/-- The file tree while rules are compiled, and the documents written to it. -/
structure PublishedFiles where
  tree : FileTree
  /-- The documents, the last one first. -/
  reversed : List Path

namespace PublishedFiles

/-- Writes a document and keeps its path. -/
def add (path : Path) (content : String) (f : PublishedFiles) : PublishedFiles × Option Fault :=
  match Publishing.written path content f.tree with
  | .ok tree => (⟨tree, path :: f.reversed⟩, none)
  | .error e => (f, some (.sink e.message))

/-- Writes a document for each specification and for each group that comes. -/
def sink (l : Layout) : Sink PublishedFiles where
  writeSpecification location metadata spec f :=
    f.add (l.specificationPath location spec.name) (SpecGroup.mk metadata [spec]).document
  writeGroup stage group f := f.add (l.groupPath stage group.name) group.document

end PublishedFiles

/-- A document that could not be read, as an error of a run. -/
def Unreadable.runError : Unreadable → RunError
  | malformed _ => .unreadable
  | notIds => .plain "not an IDS document: no ids root element"

/-- The files below a place whose names end in `.ids`, in order. -/
def idsFilesBelow (t : FileTree) (way : List String) : List (List String) :=
  let isIds (way : List String) : Bool :=
    (Path.splitEnding (way.getLast?.getD "")).2 == some "ids"
  ((t.filesBelow way).map (·.1)).filter isIds |>.mergeSort fun a b =>
    !List.lex b a fun x y => decide (x < y)

/-- What a model checker would refuse the document at a place for; nothing is there to be
refused where there is no file. The document at `bundle` has to hold `expected`
specifications. -/
def documentProblems (t : FileTree) (bundle : List String) (expected : Nat) (way : List String) :
    Except RunError (List String) :=
  match t.read? way with
  | none => .ok []
  | some content => do
    let summary ← during ("Parsing " ++ "/".intercalate way)
      ((DocumentSummary.read content).mapError Unreadable.runError)
    let held := summary.specifications.length
    return summary.problems ++
      if way = bundle ∧ held ≠ expected then
        ["holds " ++ Text.decimal held ++ " specifications, expected " ++ Text.decimal expected]
      else []

/-- How many of the documents at the places have problems. -/
def invalidDocuments (t : FileTree) (bundle : List String) (expected : Nat)
    (ways : List (List String)) : Except RunError Nat := do
  return (← ways.mapM (documentProblems t bundle expected)).countP (!·.isEmpty)

end Eir
