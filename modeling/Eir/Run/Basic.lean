import Eir.BundleDocument
import Eir.Inputs
import Eir.Run.Publishing
import Eir.Run.Report
import Eir.Sample.MetadataModel
import Eir.Sample.SpatialModel

/-!
# Runs

A run compiles the rulebook once for each pass and stage, publishes the
documents, and makes the sample models. The documents of single specifications
and of scopes are written while the compilation goes on, and the bundle of all
rules after it.
-/

namespace Eir

/-- What runs: the inputs, the day of issue, and where to publish. -/
structure Publisher where
  inputs : Inputs
  date : Date
  layout : Layout

namespace Publisher

def settings (p : Publisher) : Settings := p.inputs.settings

/-- Compiles the rules, with the documents that are written on the way. -/
def compile (p : Publisher) (stage : Stage) (pass : PassSet) :
    Publishing (CompiledRules × List Path) := do
  let (rules, files) := p.inputs.compile p.date stage pass (PublishedFiles.sink p.layout)
    ⟨← get, []⟩
  set files.tree
  return (← rules, files.reversed.reverse)

/-- All rules of a stage and a pass in one group. -/
def bundle (p : Publisher) (stage : Stage) (pass : PassSet) (rules : CompiledRules) : Bundle :=
  let project := p.settings.project
  Bundle.flatten
    { name := pass.label ++ " DfE EIR model checks for " ++ project.name ++ " at " ++ stage.name
      project := ⟨project.name, project.description⟩
      stages := [stage.description]
      groups := rules.groups }
    rules.root

/-- The places of the documents to be read back: those below the folder of the stage, the others
that were written, and the bundle. -/
def placesToCheck (p : Publisher) (stage : Stage) (t : FileTree) (written : List Path)
    (bundle : Path) : List (List String) :=
  let below := idsFilesBelow t (p.layout.stageFolder stage).place
  let others := (written.map Path.place).foldl (fun ways way =>
    if ways.contains way then ways else ways ++ [way]) below
  others ++ [bundle.place]

/-- Publishes the rules of a stage and a pass. -/
def runBundle (p : Publisher) (stage : Stage) (pass : PassSet) : Publishing BundleReport := do
  let output := p.settings.output
  Publishing.clear p.layout stage
  let (rules, written) ← p.compile stage pass
  let total := rules.groups.foldl (fun n g => n + g.specifications.length) 0
  if output.oneFilePerScope && rules.groups.length ≤ 1 then
    Publishing.change (Publishing.removed (p.layout.groupFolder stage))
  let bundle := p.bundle stage pass rules
  let path := p.layout.bundlePath (p.settings.bundleFileName stage pass)
  if let some group := bundle.groups.head? then
    Publishing.write path group.document
  let json := if output.writes .json then some (path.withEnding "json") else none
  if let some jsonPath := json then
    Publishing.write jsonPath (Json.encode (BundleDocument.of bundle stage pass.label)).pretty
  let t ← get
  let invalidFiles ←
    if output.validate then
      invalidDocuments t path.place total (p.placesToCheck stage t written path)
    else pure 0
  return {
    stage, pass, path, json, invalidFiles
    specifications := total
    groups := rules.groups.length
    fingerprint := bundle.fingerprint }

/-- The sample models, each with the stage whose rules it is about. -/
def sampleModels : List (Stage × (SampleSources → Except RunError SampleModel)) :=
  [(.stage3, SampleSources.spatialModel), (.stage5, SampleSources.metadataModel)]

/-- Publishes a sample model. -/
def runModel (p : Publisher) (stage : Stage)
    (build : SampleSources → Except RunError SampleModel) : Publishing SampleReport := do
  let sources ← SampleSources.ofStage p.inputs p.date stage
  let model ← build sources
  let path := p.layout.sampleFolder.join model.fileName
  Publishing.write path (Json.encode model).pretty
  return {
    name := model.name
    stage, path
    samples := model.samples.length
    failing := (model.samples.filter (!·.conforming)).length
    corruptions := model.corruptions.length }

/-- The stages that are run. -/
def stages (p : Publisher) (o : RunOptions) : List Stage := o.stages.getD p.settings.stages

/-- The folders that a run takes away, to make them anew. -/
def clearedFolders (p : Publisher) (o : RunOptions) : List Path :=
  if o.skipRules then []
  else (p.stages o).flatMap fun s => [p.layout.stageFolder s, p.layout.groupFolder s]

/-- Runs all passes over all stages, and then the sample models. -/
def run (p : Publisher) (o : RunOptions) : Publishing RunReport := do
  let passes ← match o.passes with
    | some passes => pure passes
    | none => p.settings.generationPasses
  let bundles ←
    if o.skipRules then pure []
    else (passes.flatMap fun pass => (p.stages o).map (pass, ·)).mapM fun (pass, stage) =>
      p.runBundle stage pass
  let models ←
    if p.settings.fixtures.enabled && !o.skipSamples then
      sampleModels.mapM fun (stage, build) => p.runModel stage build
    else pure []
  return ⟨bundles, models⟩

end Publisher

end Eir
