import Eir.Json.Printer
import Eir.Rulebook.Sections
import Eir.Settings
import Eir.Specification

/-!
# Inputs of a run

The settings and the tables that a run works from, the compilation of the
rulebook from them, and the header and the file name that the rules of one stage
and pass are published under.
-/

namespace Eir.Settings

/-- The version of what is published on a day: the revision, the year and the day in it. -/
def versionOn (s : Settings) (date : Date) : String :=
  s.publication.revision ++ "." ++ Json.number date.year ++ "." ++ Text.decimal date.ordinal

/-- The header of the rules of a stage and a pass. -/
def rootMetadata (s : Settings) (stage : Stage) (pass : PassSet) (date : Date) :
    GroupMetadata where
  name := "Information Model RIBA " ++ stage.name ++ " Assurance for " ++ s.project.name
  description := "Assurance of IFC-SPF deliverables against " ++ pass.label ++
    " DfE's information requirements"
  author := s.publication.author
  version := s.versionOn date
  milestone := stage.description
  purpose := s.publication.purpose
  copyright := s.publication.copyright
  date := some date.text

/-- The name of the file with all rules of a stage and a pass. -/
def bundleFileName (s : Settings) (stage : Stage) (pass : PassSet) : String :=
  s.publication.documentPrefix ++ "-" ++ Text.zeroPadded 4 s.publication.version ++
    "-Information Model " ++ stage.name ++ " Assurance" ++
    (if s.output.groupByApplicability then " Grouped" else "") ++ "-" ++ s.publication.status ++
    "-" ++ s.publication.revision ++ pass.fileSuffix ++ ".ids"

end Eir.Settings

/-! ## Inputs -/

namespace Eir

/-- What a run works from. -/
structure Inputs where
  settings : Settings
  catalog : Catalog
  codes : CodeTable
  subKindNames : SubKindNames
  content : Content

namespace Inputs

/-- The tables that names are made from. -/
def namer (i : Inputs) : Namer := ⟨i.codes, .standard, i.subKindNames⟩

/-- The settings of the compilation for a stage and a pass. -/
def compilerSettings (i : Inputs) (stage : Stage) (pass : PassSet) : CompilerSettings where
  stage := stage
  pass := pass
  oneFilePerSpecification := i.settings.output.oneFilePerSpecification
  oneFilePerScope := i.settings.output.oneFilePerScope
  groupByApplicability := i.settings.output.groupByApplicability
  target := i.settings.schema.target
  supported := i.settings.schema.supportedSet
  useInferredTypes := i.settings.schema.useInferredTypes

/-- The rulebook for a compilation. -/
def rulebook {σ : Type} (i : Inputs) (c : Compiler σ) : Rulebook where
  project := i.settings.project
  content := i.content
  namer := i.namer
  policy := i.settings.undefinedSubKind
  stage := c.settings.stage
  schema := c.schema
  occurrenceSchema := c.occurrenceSchema

/-- Compiles the rules for a stage and a pass into a sink. Gives the state of the sink also
where the compilation fails. -/
def compile {σ : Type} (i : Inputs) (date : Date) (stage : Stage) (pass : PassSet) (sink : Sink σ)
    (state : σ) : Except RunError CompiledRules × σ :=
  let header := i.settings.rootMetadata stage pass date
  match Compiler.start (i.compilerSettings stage pass) i.catalog header sink state with
  | .error f => (.error (.fault f), state)
  | .ok c =>
    let label := stage.name ++ " " ++ pass.label
    match c.run (i.rulebook c).program with
    | (.error f, c) => (during ("Compiling " ++ label) (.error (.fault f)), c.sinkState)
    | (.ok (), c) =>
      let (rules, c) := c.finish
      (during ("Closing " ++ label) (asRun rules), c.sinkState)

/-- All rules of a stage, in one group. -/
def allRules (i : Inputs) (date : Date) (stage : Stage) : Except RunError CompiledRules := do
  let settings := { i.compilerSettings stage .all with
    oneFilePerSpecification := false
    oneFilePerScope := false
    groupByApplicability := false }
  let c ← asRun (Compiler.start settings i.catalog (i.settings.rootMetadata stage .all date)
    Sink.null ())
  let (result, c) := c.run (i.rulebook c).program
  asRun result
  asRun c.finish.1

end Inputs

end Eir
