import Eir.Text.Digits
import Eir.Yaml.Token

/-!
# Table documents

The documents that tables and settings are written in: scalars, sequences and
mappings, and references to values that stand elsewhere in the document. A
scalar is only text; what it means is up to the place where it stands.
-/

namespace Eir

/-- What can be said about a value in front of it. -/
structure Yaml.Properties where
  /-- The number by which the value is referred to. -/
  anchor : Option Nat := none
  tag : Option String := none
  deriving Repr, DecidableEq, Inhabited

/-- A value of a table document. -/
inductive Yaml where
  /-- The value with the number. -/
  | repeated (anchor : Nat)
  | scalar (text : String) (style : Yaml.Style) (about : Yaml.Properties)
  | seq (items : List Yaml) (about : Yaml.Properties)
  | map (entries : List (Yaml × Yaml)) (about : Yaml.Properties)
  deriving Inhabited, Repr

namespace Yaml

/-- What is there when nothing stands in a place. -/
def nothing : Yaml := scalar "" .plain {}

/-- Values by the numbers of their anchors, the last one first. -/
abbrev Anchored := List (Nat × Yaml)

/-- A value under its number. -/
def Properties.anchored (about : Properties) (y : Yaml) (rest : Anchored) : Anchored :=
  match about.anchor with
  | some n => (n, y) :: rest
  | none => rest

mutual

/-- The values with a number, in front of those of `rest`. -/
def collect (rest : Anchored) : Yaml → Anchored
  | repeated _ => rest
  | scalar t style about => about.anchored (scalar t style about) rest
  | seq items about => collectItems (about.anchored (seq items about) rest) items
  | map entries about => collectEntries (about.anchored (map entries about) rest) entries

/-- `collect` over the items of a sequence. -/
def collectItems (rest : Anchored) : List Yaml → Anchored
  | [] => rest
  | y :: ys => collectItems (collect rest y) ys

/-- `collect` over the entries of a mapping. -/
def collectEntries (rest : Anchored) : List (Yaml × Yaml) → Anchored
  | [] => rest
  | (k, v) :: es => collectEntries (collect (collect rest k) v) es

end

mutual

/-- How many marks a value is written with: one for each scalar and each reference, two for what
holds several things. -/
def marks : Yaml → Nat
  | repeated _ | scalar .. => 1
  | seq items _ => marksOfItems items + 2
  | map entries _ => marksOfEntries entries + 2

/-- `marks` over the items of a sequence. -/
def marksOfItems : List Yaml → Nat
  | [] => 0
  | y :: ys => y.marks + marksOfItems ys

/-- `marks` over the entries of a mapping. -/
def marksOfEntries : List (Yaml × Yaml) → Nat
  | [] => 0
  | (k, v) :: es => k.marks + v.marks + marksOfEntries es

end

/-- Reading, with the number of references that may still be followed. -/
abbrev Reader := StateT Nat Option

/-- The value that is meant: that of the number, for a value that is repeated. -/
def target (anchored : Anchored) : Yaml → Reader Yaml
  | repeated n => do
    match ← get with
    | 0 => failure
    | left + 1 =>
      set left
      anchored.lookup n
  | y => pure y

/-- Nothing stands there. What is expected to hold several things holds none of them then. -/
def isBlank : Yaml → Bool
  | scalar text .plain _ => text.isEmpty
  | _ => false

/-- A text that stands for nothing. -/
def isNullText (text : String) : Bool := ["", "~", "null", "Null", "NULL"].contains text

/-- Tags of the kinds of scalars. -/
def nullTag : String := "tag:yaml.org,2002:null"
def integerTag : String := "tag:yaml.org,2002:int"
def booleanTag : String := "tag:yaml.org,2002:bool"

/-- The text of a scalar that may stand for something else than itself: one without quotes, or
one written by lines under the tag of its kind. -/
def meaningText? (kind : String) : Yaml → Option String
  | scalar text .plain _ => some text
  | scalar text .lines about => if about.tag = some kind then some text else none
  | _ => none

/-- The natural number that a text writes, in base ten if it says no other. -/
def naturalOf? (text : String) : Option Nat :=
  let digits := match text.toList with
    | '+' :: ds => ds
    | ds => ds
  match digits with
  | ['0'] => some 0
  | '0' :: 'x' :: ds => Text.number? 16 ds
  | '0' :: 'o' :: ds => Text.number? 8 ds
  | '0' :: 'b' :: ds => Text.number? 2 ds
  | '0' :: _ => none
  | ds => Text.number? 10 ds

/-- The truth value that a text writes. -/
def booleanOf? (text : String) : Option Bool :=
  if ["true", "True", "TRUE"].contains text then some true
  else if ["false", "False", "FALSE"].contains text then some false
  else none

/-- The text of a scalar. -/
def text? : Yaml → Option String
  | scalar text _ _ => some text
  | _ => none

/-- The word of an enumeration: a text, or a tag of the document's own with nothing behind it. -/
def word? : Yaml → Option String
  | scalar text style about =>
    match about.tag.map String.toList with
    | some ('!' :: name) =>
      if style = .plain && isNullText text then some (String.ofList name) else none
    | _ => some text
  | _ => none

/-- Whether a value is there where there may be none. The tag of null allows none but null. -/
def isPresent? : Yaml → Option Bool
  | scalar text .plain about =>
    match about.tag with
    | none => some !isNullText text
    | some tag =>
      if tag ≠ nullTag then some true
      else if text ≠ "" && isNullText text then some false
      else none
  | _ => some true

end Yaml

end Eir
