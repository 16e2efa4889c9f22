import Eir.Json.Codec
import Eir.Pattern.Escape
import Eir.Text.Digits

/-!
# Shapes of component names

How the components of a kind are named. A shape says under which key names are
counted, how a name is written with its number, and which pattern all such names
match.
-/

namespace Eir

/-- The pattern of space names: a storey, if there is one, a number and a letter. -/
def spaceNamePattern : String :=
  "((EX|00|01|02|03|RF|R2|ZZ|M0|M1|B1|B2)-)?[0-9]+[A-Za-z]?"

/-- The letters that tell the spaces of a storey apart. -/
def spaceLetters : String := "ACDEFHIJKLMNOPQRSTUVWXYZ"

/-- The sub-kind of components whose kind was never chosen. -/
def undefinedSubKind : String := "NOTDEFINED"

/-- The shape of the names of a kind of component. -/
inductive NamingDecision where
  /-- Numbered within each space: `00-01A-D003`. -/
  | spatial (code : String)
  /-- Numbered through the project: `PMP-00012`. -/
  | sequence (code : String)
  /-- The start of a storey's name and a letter: `00-01C`. -/
  | spaceLetter
  /-- A label and a number, for kinds without a code. -/
  | fallback (label : String)
  deriving DecidableEq, Repr, Inhabited

/-- What a pattern has to match where the name of the container stands. -/
inductive ContainerPattern where
  | literal (name : String)
  /-- Any name of a space. -/
  | convention
  deriving DecidableEq, Repr

/-- The start of the name of a storey that its spaces share. -/
def spaceStem (container : String) : String := String.ofList (container.toList.take 5)

/-- The letter of the `n`th space with one stem. -/
def spaceLetter (n : Nat) : Char :=
  let letters := spaceLetters.toList
  letters.getD (n % letters.length) 'A'

namespace NamingDecision

/-- The key under which names in the container are counted. -/
def counterKey (d : NamingDecision) (container : String) : String :=
  match d with
  | spatial code => container ++ "-" ++ code
  | sequence code => code ++ "-"
  | spaceLetter => spaceStem container
  | fallback label => label

/-- The name with number `n` under the key. -/
def render (d : NamingDecision) (key : String) (n : Nat) : String :=
  match d with
  | spatial _ => key ++ Text.zeroPadded 3 n
  | sequence _ | fallback _ => key ++ Text.zeroPadded 5 n
  | spaceLetter => key ++ String.singleton (Eir.spaceLetter n)

/-- The letters have been used up when the `n`th name is given out. -/
def reusesLetter (d : NamingDecision) (n : Nat) : Bool :=
  d == spaceLetter && spaceLetters.toList.length < n

/-- The pattern that every name of this shape matches. -/
def pattern (d : NamingDecision) (container : ContainerPattern) : String :=
  match d, container with
  | spatial code, .literal c => Pattern.escape c ++ "-" ++ Pattern.escape code ++ "\\d\x7b2,\x7d"
  | spatial code, .convention => spaceNamePattern ++ "-" ++ Pattern.escape code ++ "\\d\x7b2,\x7d"
  | sequence code, _ => Pattern.escape code ++ "-" ++ "\\d\x7b2,\x7d"
  | spaceLetter, .literal c => Pattern.escape (spaceStem c) ++ "[" ++ spaceLetters ++ "]"
  | spaceLetter, .convention => spaceNamePattern
  | fallback label, _ => Pattern.escape label ++ "\\d\x7b5,\x7d"

/-- There is a rule for the names of this shape in the whole project. -/
def hasConvention : NamingDecision → Bool
  | fallback _ => false
  | _ => true

instance : Json.Encode NamingDecision where
  encode
    | spatial code => .obj [("spatial", .str code)]
    | sequence code => .obj [("sequence", .str code)]
    | spaceLetter => .str "space_letter"
    | fallback label => .obj [("fallback", .str label)]

end NamingDecision

end Eir
