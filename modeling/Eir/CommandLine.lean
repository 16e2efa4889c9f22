import Eir.Configuration
import Eir.Run.Basic

/-!
# The command line

What can be asked of a run on the command line, and what it answers: a line for
each bundle and each sample model, or why it failed.
-/

namespace Eir

/-- Options that take a value. -/
inductive ValueOption where
  | configFolder | output | stage | pass
  deriving DecidableEq, Repr

/-- Options that stand alone. -/
inductive Flag where
  | noSamples | samplesOnly | fingerprints
  deriving DecidableEq, Repr

/-- Why a command line is refused. -/
inductive UsageError where
  /-- The option does not take the value, for the reason. -/
  | rejected (option value reason : String)
  | missingValue (option : String)
  | repeated (option : String)
  | unexpected (argument : String)
  | conflict
  deriving DecidableEq, Repr

/-- What a command line asks for. -/
structure Invocation where
  /-- The folder with the documents of the settings and the tables. -/
  configFolder : Option String
  /-- Where to publish, instead of the place that the settings name. -/
  output : Option String
  stages : List Stage
  passes : List PassSet
  noSamples : Bool
  samplesOnly : Bool
  fingerprints : Bool
  /-- Nothing but the options themselves is to be told. -/
  help : Bool
  deriving DecidableEq, Repr, Inhabited

namespace ValueOption

def name : ValueOption → String
  | configFolder => "--config-dir"
  | output => "--output"
  | stage => "--stage"
  | pass => "--pass"

def all : List ValueOption := [configFolder, output, stage, pass]

end ValueOption

namespace Flag

def name : Flag → String
  | noSamples => "--no-fixtures"
  | samplesOnly => "--fixtures-only"
  | fingerprints => "--fingerprint"

def all : List Flag := [noSamples, samplesOnly, fingerprints]

end Flag

namespace UsageError

def message : UsageError → String
  | rejected option value reason =>
    "error: invalid value '" ++ value ++ "' for '" ++ option ++ "': " ++ reason
  | missingValue option => "error: a value is required for '" ++ option ++ "' but none was supplied"
  | repeated option => "error: the argument '" ++ option ++ "' cannot be used multiple times"
  | unexpected argument => "error: unexpected argument '" ++ argument ++ "' found"
  | conflict =>
    "error: the argument '" ++ Flag.noSamples.name ++ "' cannot be used with '" ++
      Flag.samplesOnly.name ++ "'"

/-- The reason for which a value was rejected. -/
def reason? : UsageError → Option String
  | rejected _ _ reason => some reason
  | _ => none

end UsageError

/-- A stage by its number or its name, in which blanks do not count. -/
def targetStage (value : String) : Except String Stage :=
  let name :=
    if value.toList.all Char.isDigit then "Stage" ++ value
    else String.ofList (value.toList.filter (· ≠ ' '))
  match Stage.ofName? name with
  | none => .error ("unknown stage '" ++ value ++ "'")
  | some stage =>
    if stage.isTarget then .ok stage else .error (stage.name ++ " cannot be a target stage")

/-- Passes by their label. -/
def labelledPass (value : String) : Except String PassSet :=
  match PassSet.ofLabel? value with
  | some pass => .ok pass
  | none => .error ("unknown pass '" ++ value ++ "'")

namespace Invocation

/-- Sets an option that stands once, to a path. -/
def path (option : ValueOption) (old : Option String) (value : String) :
    Except UsageError (Option String) :=
  if old.isSome then .error (.repeated option.name)
  else if value.isEmpty then .error (.missingValue option.name)
  else .ok (some value)

/-- Gives an option its value. -/
def assign (i : Invocation) (option : ValueOption) (value : String) :
    Except UsageError Invocation :=
  match option with
  | .configFolder => return { i with configFolder := ← path option i.configFolder value }
  | .output => return { i with output := ← path option i.output value }
  | .stage => do
    let stage ← (targetStage value).mapError (.rejected option.name value)
    return { i with stages := i.stages ++ [stage] }
  | .pass => do
    let pass ← (labelledPass value).mapError (.rejected option.name value)
    return { i with passes := i.passes ++ [pass] }

/-- Sets a flag, which stands once. -/
def raise (i : Invocation) (f : Flag) : Except UsageError Invocation :=
  let given := match f with
    | .noSamples => i.noSamples
    | .samplesOnly => i.samplesOnly
    | .fingerprints => i.fingerprints
  if given then .error (.repeated f.name)
  else
    .ok (match f with
      | .noSamples => { i with noSamples := true }
      | .samplesOnly => { i with samplesOnly := true }
      | .fingerprints => { i with fingerprints := true })

/-- An option that has been named, with its value if that has been given. -/
abbrev Pending := Option (ValueOption × Option String)

/-- Gives the option that has been named last its value. -/
def settle (i : Invocation) : Pending → Except UsageError Invocation
  | none => .ok i
  | some (option, none) => .error (.missingValue option.name)
  | some (option, some value) => i.assign option value

end Invocation

/-- What an argument is. -/
inductive Argument where
  | option (o : ValueOption) (value : Option String)
  | flag (f : Flag)
  | help
  /-- Nothing that begins with a hyphen, or the hyphen alone. -/
  | word
  /-- All arguments after it are words. -/
  | wordsOnly
  | unknown
  deriving DecidableEq, Repr

namespace Argument

/-- What an argument with two hyphens is; `value` is what stands behind an equals sign. -/
def ofLong (name : String) (value : Option String) : Argument :=
  match ValueOption.all.find? (·.name == name), Flag.all.find? (·.name == name), value with
  | some o, _, value => option o value
  | none, some f, none => flag f
  | none, none, none => if name = "--help" then help else unknown
  | _, _, some _ => unknown

/-- What an argument with one hyphen is. -/
def ofShort : List Char → Argument
  | 'o' :: [] => option .output none
  | 'o' :: '=' :: value => option .output (some (String.ofList value))
  | 'o' :: value => option .output (some (String.ofList value))
  | 'h' :: _ => help
  | _ => unknown

/-- What an argument is. -/
def ofText (text : String) : Argument :=
  match text.toList with
  | ['-', '-'] => wordsOnly
  | '-' :: '-' :: _ =>
    match Text.cutAround? ['='] text.toList with
    | some (name, value) => ofLong (String.ofList name) (some (String.ofList value))
    | none => ofLong text none
  | ['-'] => word
  | '-' :: cs => ofShort cs
  | _ => word

end Argument

namespace Invocation

/-- Reads arguments. An argument that is not known is refused before a value that stands right
before it. -/
def readFrom (i : Invocation) (pending : Pending) : List String → Except UsageError Invocation
  | [] => i.settle pending
  | text :: texts =>
    match Argument.ofText text with
    | .option o (some value) => do
      let i ← i.settle pending
      (← i.assign o value).readFrom none texts
    | .option o none => do
      let i ← i.settle pending
      i.readFrom (some (o, none)) texts
    | .flag f => do
      let i ← i.settle pending
      (← i.raise f).readFrom none texts
    | .help => do
      let i ← i.settle pending
      return { i with help := true }
    | .word =>
      match pending with
      | some (o, none) => i.readFrom (some (o, some text)) texts
      | _ => .error (.unexpected text)
    | .wordsOnly =>
      match texts with
      | [] => i.settle pending
      | text :: _ => .error (.unexpected text)
    | .unknown => .error (.unexpected text)

/-- Reads a command line. -/
def read (arguments : List String) : Except UsageError Invocation := do
  let i ← (default : Invocation).readFrom none arguments
  if i.noSamples && i.samplesOnly && !i.help then throw .conflict
  return i

/-- What to run. -/
def options (i : Invocation) : RunOptions where
  stages := if i.stages.isEmpty then none else some i.stages
  passes := if i.passes.isEmpty then none else some i.passes
  skipRules := i.samplesOnly
  skipSamples := i.noSamples

/-- Makes a run ready. What has no date of issue is issued on the day given. -/
def publisher (i : Invocation) (c : Configuration) (today : Date) :
    Except RunError Publisher := do
  let inputs ← c.inputs
  let settings := inputs.settings
  settings.validate
  if i.samplesOnly && !settings.fixtures.enabled then
    throw (.plain "--fixtures-only given but fixtures are disabled in the configuration")
  return {
    inputs
    date := settings.publication.date.getD today
    layout := ⟨⟨i.output.getD settings.publication.basePath⟩⟩ }

end Invocation

namespace BundleReport

/-- The line about a bundle. -/
def line (r : BundleReport) : String :=
  (if r.invalidFiles = 0 then "OK" else "WARN") ++ " " ++ r.stage.name ++ " " ++
    Text.padRight ' ' 8 r.pass.label ++ " " ++
    Text.padLeft ' ' 5 (Text.decimal r.specifications) ++ " specs  " ++ r.path.text

end BundleReport

namespace SampleReport

/-- The line about a sample model. -/
def line (r : SampleReport) : String :=
  "OK " ++ r.stage.name ++ " " ++ Text.padLeft ' ' 5 (Text.decimal r.samples) ++ " samples (" ++
    Text.decimal r.failing ++ " failing, " ++ Text.decimal r.corruptions ++ " corruptions)  " ++
    r.path.text

end SampleReport

/-- The lines about a run. -/
def RunReport.lines (r : RunReport) (fingerprints : Bool) : List String :=
  (r.bundles.flatMap fun b => b.line :: if fingerprints then ["   " ++ b.fingerprint] else []) ++
    r.models.map SampleReport.line

/-- What a program says at its end, line by line. -/
structure Answer where
  code : UInt32
  output : List String
  errors : List String
  deriving DecidableEq, Repr, Inhabited

namespace Answer

/-- What is said about the options. -/
def usage : List String := [
  "Compile the DfE EIR rulebook into IDS files and sample fixtures",
  "",
  "Usage: eir [OPTIONS]",
  "",
  "Options:",
  "      --config-dir <CONFIG_DIR>  Folder holding generator.yaml and the static tables",
  "  -o, --output <OUTPUT>          Output folder, overrides publication.base_path",
  "      --stage <STAGES>           Target stage (3 or Stage3); repeat for several",
  "      --pass <PASSES>            Generation pass: core, complex (naming) or all",
  "      --no-fixtures              Skip the fixture models",
  "      --fixtures-only            Only write the fixture models",
  "      --fingerprint              Print the content fingerprint of each bundle",
  "  -h, --help                     Print help"]

/-- A command line that is refused. -/
def ofUsageError (e : UsageError) : Answer := ⟨2, [], [e.message]⟩

/-- A run that has come to an end. Documents that a model checker would refuse make it fail. -/
def ofRun (fingerprints : Bool) : Except RunError RunReport → Answer
  | .ok r => ⟨if r.invalidFiles = 0 then 0 else 1, r.lines fingerprints, []⟩
  | .error e => ⟨1, [], ("error: " ++ e.message).splitOn "\n"⟩

end Answer

/-- Does what is asked for. -/
def Invocation.answer (i : Invocation) (c : Configuration) (today : Date) (t : FileTree) :
    Answer × FileTree :=
  if i.help then (⟨0, Answer.usage, []⟩, t)
  else
    match i.publisher c today with
    | .error e => (.ofRun i.fingerprints (.error e), t)
    | .ok p =>
      let (result, t) := (p.run i.options).run t
      (.ofRun i.fingerprints result, t)

end Eir
