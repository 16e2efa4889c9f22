import Eir.Json.Basic
import Eir.Yaml.Basic

/-!
# Shapes of table documents

What is expected at the places of a document. A shape reads a document as a JSON
value: where a text is expected, a bare word or number is one.
-/

namespace Eir.Yaml

/-- What is expected at a place of a document. -/
inductive Shape where
  | text
  /-- A word of an enumeration. -/
  | word
  | natural
  | boolean
  /-- Nothing, or what the shape says. -/
  | maybe (s : Shape)
  | list (s : Shape)
  /-- A mapping with any keys. -/
  | dict (s : Shape)
  /-- A mapping with these keys, of which any may be absent; others do not count. -/
  | record (fields : List (String × Shape))
  deriving Inhabited

namespace Shape

/-- The entries of a mapping, whose keys are texts. -/
def entries (anchored : Anchored) : Yaml → Reader (List (String × Yaml))
  | .map entries _ => entries.mapM fun (k, v) => do
      let key : String ← (← k.target anchored).text?
      return (key, v)
  | y => if y.isBlank then return [] else failure

mutual

/-- Reads a value of the shape, in a document with these anchors. -/
def read (anchored : Anchored) : Shape → Yaml → Reader Json
  | s, y => do
    let y ← y.target anchored
    match s with
    | .text => y.text?.map Json.str
    | .word => y.word?.map Json.str
    | .natural => ((y.meaningText? integerTag).bind naturalOf?).map fun n => Json.num n
    | .boolean => ((y.meaningText? booleanTag).bind booleanOf?).map Json.bool
    | .maybe s => if ← y.isPresent? then read anchored s y else return .null
    | .list s =>
      match y with
      | .seq items _ => return .arr (← items.mapM (read anchored s))
      | y => if y.isBlank then return .arr [] else failure
    | .dict s =>
      let ms ← (← entries anchored y).mapM fun (key, y) => do
        return (key, ← read anchored s y)
      return .obj (ms.foldl (fun acc m => Json.put m.1 m.2 acc) [])
    | .record fields => return .obj (← readFields anchored fields (← entries anchored y))

/-- Reads the fields of a record. A key must not stand twice. -/
def readFields (anchored : Anchored) :
    List (String × Shape) → List (String × Yaml) → Reader (List (String × Json))
  | [], _ => return []
  | (key, s) :: fields, entries =>
    match entries.filter (·.1 == key) with
    | [] => readFields anchored fields entries
    | [(_, y)] => do
      let value ← read anchored s y
      let rest ← readFields anchored fields entries
      return (key, value) :: rest
    | _ => failure

end

/-- How many references a document may have followed for each mark it is written with. -/
def referencesPerMark : Nat := 100

/-- Reads a document of the shape. -/
def ofDocument? (s : Shape) (y : Yaml) : Option Json :=
  ((s.read (y.collect []) y).run (referencesPerMark * y.marks)).map (·.1)

end Shape

end Eir.Yaml
