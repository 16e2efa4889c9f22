import Eir.Pattern.Property.Age
import Eir.Pattern.Property.Break
import Eir.Pattern.Property.Script

/-!
# Character properties

The properties of the characters of Unicode, under the names by which a pattern
asks for them.
-/

namespace Eir.Pattern.Property

/-- The part of a name that counts: its ASCII characters in lower case, without blanks, hyphens
and underscores. -/
def significant (cs : List Char) : List Char :=
  (cs.filter fun c => c.toNat < 0x80 && c != ' ' && c != '_' && c != '-').map Char.toLower

/-- A name as the tables write it. The word `is` in front does not count, unless only a `c`
follows it. -/
def normalize (name : List Char) : String :=
  let cs := match name with
    | i :: s :: rest =>
      if i.toLower == 'i' && s.toLower == 's' then
        match significant rest with
        | ['c'] => ['i', 's', 'c']
        | cs => cs
      else significant name
    | _ => significant name
  String.ofList cs

/-- The characters of a property that stands alone: one that a character has or has not, a
category or a script. -/
def ofName? (name : List Char) : Option Ranges :=
  let name := normalize name
  match binary? name, category? name with
  | some r, _ => some r
  | none, some r => some r
  | none, none => script? name

/-- The characters that have a value of a property. -/
def ofValue? (name value : List Char) : Option Ranges :=
  let value := normalize value
  match normalize name with
  | "gc" | "generalcategory" => category? value
  | "sc" | "script" => script? value
  | "scx" | "scriptextensions" => scriptExtension? value
  | "age" => age? value
  | "gcb" | "graphemeclusterbreak" => graphemeBreak? value
  | "wb" | "wordbreak" => wordBreak? value
  | "sb" | "sentencebreak" => sentenceBreak? value
  | _ => none

end Eir.Pattern.Property
