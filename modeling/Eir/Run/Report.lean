import Eir.Files.Path
import Eir.Json.Codec
import Eir.Stage

/-!
# Reports of a run

What a run is narrowed down to, and what it tells about the files that it has
written.
-/

namespace Eir

/-- What is run. Stages and passes are those of the settings if none are given. -/
structure RunOptions where
  stages : Option (List Stage)
  passes : Option (List PassSet)
  skipRules : Bool
  skipSamples : Bool
  deriving DecidableEq, Repr, Inhabited

/-- What was written for a stage and a pass. -/
structure BundleReport where
  stage : Stage
  pass : PassSet
  /-- The document with all rules. -/
  path : Path
  /-- The bundle document, if one was written. -/
  json : Option Path
  specifications : Nat
  groups : Nat
  fingerprint : String
  /-- How many of the documents a model checker would refuse. -/
  invalidFiles : Nat
  deriving DecidableEq, Repr, Inhabited

/-- What was written of a sample model. -/
structure SampleReport where
  name : String
  stage : Stage
  path : Path
  samples : Nat
  failing : Nat
  corruptions : Nat
  deriving DecidableEq, Repr, Inhabited

instance : Json.Encode BundleReport where
  encode r := .obj [("stage", Json.encode r.stage), ("pass", Json.encode r.pass.bits),
    ("path", .str r.path.text), ("json", Json.encode (r.json.map Path.text)),
    ("specifications", Json.encode r.specifications), ("groups", Json.encode r.groups),
    ("fingerprint", .str r.fingerprint), ("invalid_files", Json.encode r.invalidFiles)]

instance : Json.Encode SampleReport where
  encode r := .arr [.str r.name, Json.encode r.stage, .str r.path.text, Json.encode r.samples,
    Json.encode r.failing, Json.encode r.corruptions]

/-- What a run has done. -/
structure RunReport where
  bundles : List BundleReport
  models : List SampleReport
  deriving DecidableEq, Repr, Inhabited

/-- How many documents a model checker would refuse. -/
def RunReport.invalidFiles (r : RunReport) : Nat :=
  r.bundles.foldl (fun n b => n + b.invalidFiles) 0

end Eir
