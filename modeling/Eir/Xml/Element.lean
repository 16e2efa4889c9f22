import Eir.Xml.Reference

/-!
# Elements

A document is a tree of elements. It is written with a line for each tag, two
blanks of indentation a level, and the text of an element between its tags on
one line.
-/

namespace Eir.Xml

/-- The name of an attribute and its value. -/
abbrev Attribute := String × String

/-- An element of a document. -/
inductive Element where
  /-- An element that holds text. -/
  | text (name content : String)
  /-- An element that holds nothing. -/
  | single (name : String) (attributes : List Attribute)
  /-- An element that holds elements. -/
  | parent (name : String) (attributes : List Attribute) (children : List Element)
  deriving Inhabited, Repr

/-- An attribute as it stands behind the name of a tag. -/
def writtenAttribute (a : Attribute) : String := " " ++ a.1 ++ "=\"" ++ escape a.2 ++ "\""

/-- What stands between the brackets of a tag. -/
def tagContent (name : String) (attributes : List Attribute) : String :=
  name ++ String.join (attributes.map writtenAttribute)

/-- The blanks before a tag at `depth`. -/
def indentation (depth : Nat) : String := String.ofList (List.replicate (2 * depth) ' ')

namespace Element

mutual

/-- The element as it is written at `depth`, line by line. -/
def lines (depth : Nat) : Element → List String
  | text name content =>
    [indentation depth ++ "<" ++ name ++ ">" ++ escape content ++ "</" ++ name ++ ">"]
  | single name attributes => [indentation depth ++ "<" ++ tagContent name attributes ++ "/>"]
  | parent name attributes children =>
    (indentation depth ++ "<" ++ tagContent name attributes ++ ">") ::
      linesOfAll (depth + 1) children ++ [indentation depth ++ "</" ++ name ++ ">"]

/-- Elements as they are written at `depth`, one after the other. -/
def linesOfAll (depth : Nat) : List Element → List String
  | [] => []
  | e :: es => lines depth e ++ linesOfAll depth es

end

end Element

/-- The first line of a document. -/
def declaration : String := "<?xml version=\"1.0\" encoding=\"UTF-8\"?>"

/-- The text of a document, without a line break at its end. -/
def document (root : Element) : String := "\n".intercalate (declaration :: root.lines 0)

end Eir.Xml
