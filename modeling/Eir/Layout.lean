import Eir.Compiler.Sink
import Eir.Files.Path

/-!
# Layout of published files

Where the documents of a run go: the document of a single specification below
the folder of its stage, in a folder for each scope around it; the document of a
scope below `Group`; all rules of a stage and a pass into one file at the top.
Names come from free text, so what no file system takes is replaced in them.
-/

namespace Eir

/-- A character that does not stand in the name of a file. -/
def isForbiddenInNames (c : Char) : Bool :=
  ['<', '>', ':', '"', '/', '\\', '|', '?', '*'].contains c || Text.isControl c

/-- A point or a blank. -/
def isPointOrBlank (c : Char) : Bool := c = '.' || Text.isBlank c

/-- The text as the name of a file: hyphens for what does not stand in one, and neither blanks
at the start nor blanks and points at the end. -/
def safeFileName (name : String) : String :=
  let cs := name.toList.map fun c => if isForbiddenInNames c then '-' else c
  String.ofList (Text.dropEndWhile isPointOrBlank (cs.dropWhile Text.isBlank))

/-- The folder that everything is published in. -/
structure Layout where
  base : Path
  deriving DecidableEq, Repr, Inhabited

namespace Layout

/-- The folder of the documents of single specifications. -/
def stageFolder (l : Layout) (stage : Stage) : Path := l.base.join stage.name

/-- The folder of the documents of scopes. -/
def groupFolder (l : Layout) (stage : Stage) : Path := (l.base.join "Group").join stage.name

/-- The folder of sample models. -/
def sampleFolder (l : Layout) : Path := l.base.join "Fixtures"

/-- The folder of the documents of a scope's specifications. -/
def scopeFolder (l : Layout) (location : SpecLocation) : Path :=
  (Text.parts Path.isSlash location.fullPrefix).foldl Path.join (l.stageFolder location.stage)

/-- The document of a single specification. -/
def specificationPath (l : Layout) (location : SpecLocation) (name : String) : Path :=
  (l.scopeFolder location).join
    (Text.decimal location.stage.number ++ "_" ++ safeFileName name ++ ".ids")

/-- The document of a scope. -/
def groupPath (l : Layout) (stage : Stage) (name : String) : Path :=
  (l.groupFolder stage).join (safeFileName name ++ ".ids")

/-- The document of all rules of a stage and a pass. -/
def bundlePath (l : Layout) (fileName : String) : Path := l.base.join fileName

end Layout

end Eir
