import Eir.CommandLine
import Std.Time.DateTime.Timestamp

/-!
# The program

Reads the documents of the configuration, does what the command line asks for,
and writes the files.
-/

namespace Eir.Program

/-- The content of a file, if it can be read. -/
def content? (path : String) : IO (Option String) := do
  try return some (← IO.FS.readFile path)
  catch _ => return none

/-- The documents in a folder. -/
def configuration (folder : String) : IO Configuration := do
  let found ← Configuration.files.filterMapM fun file => do
    return (← content? ((Path.mk folder).join file).text).map (file, ·)
  return ⟨found⟩

/-- The day of today. -/
def today : IO Date := do
  let seconds := (← Std.Time.Timestamp.now).toSecondsSinceUnixEpoch
  return .ofDays (seconds.val / 86400)

/-- Takes a folder away, if it is there. -/
def remove (folder : Path) : IO Unit := do
  try IO.FS.removeDirAll folder.text
  catch _ => pure ()

/-- Writes a file, with the folders on the way. -/
def write (path : Path) (content : String) : IO Unit := do
  IO.FS.createDirAll path.parent.text
  IO.FS.writeFile path.text content

/-- The path of a place in a file tree. -/
def pathOf (way : List String) : Path :=
  match way with
  | "/" :: way => ⟨"/" ++ "/".intercalate way⟩
  | way => ⟨"./" ++ "/".intercalate way⟩

/-- Does what is asked for, with the files on the disk. -/
def answer (i : Invocation) (folder : String) : IO Answer := do
  let c ← configuration folder
  let day ← today
  if let .ok p := i.publisher c day then
    for cleared in p.clearedFolders i.options do
      remove cleared
  let (answer, tree) := i.answer c day .empty
  for (way, content) in tree.files do
    write (pathOf way) content
  return answer

/-- Says how it went. -/
def tell (a : Answer) : IO UInt32 := do
  for line in a.output do IO.println line
  for line in a.errors do IO.eprintln line
  return a.code

end Eir.Program

/-- Runs the program. The folder of the configuration is `config` unless another is given. -/
def main (arguments : List String) : IO UInt32 := do
  match Eir.Invocation.read arguments with
  | .error e => Eir.Program.tell (.ofUsageError e)
  | .ok i =>
    let named ← IO.getEnv "IDS_CONFIG_DIR"
    let folder := (i.configFolder <|> named).getD "config"
    Eir.Program.tell (← Eir.Program.answer i folder)
