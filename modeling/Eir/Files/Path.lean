import Eir.Text.Affix
import Eir.Text.Blank

/-!
# Paths

Paths of files and folders as they are written, with slashes between the names.
A path is put together from a folder and what lies in it, and nothing is
simplified on the way; the place it leads to is another matter.
-/

namespace Eir

/-- A path as it is written. -/
structure Path where
  text : String
  deriving DecidableEq, Repr, Inhabited

namespace Path

def isSlash (c : Char) : Bool := c = '/'

/-- The path from the top of all folders. -/
def isAbsolute (p : Path) : Bool := p.text.toList.head?.any isSlash

/-- What `name` stands for in the folder. An absolute path stands for itself. -/
def join (p : Path) (name : String) : Path :=
  if (Path.mk name).isAbsolute then ⟨name⟩
  else if p.text.toList.getLast?.all isSlash then ⟨p.text ++ name⟩
  else ⟨p.text ++ "/" ++ name⟩

/-- What follows the last slash. -/
def fileName (p : Path) : String :=
  String.ofList (p.text.toList.reverse.takeWhile (!isSlash ·)).reverse

/-- What stands before the last slash; empty if there is none. -/
def parent (p : Path) : Path :=
  ⟨String.ofList ((p.text.toList.reverse.dropWhile (!isSlash ·)).drop 1).reverse⟩

/-- The name of a file before its last point, and what follows that point. A point at the start
of a name begins no ending. -/
def splitEnding (name : String) : String × Option String :=
  let reversed := name.toList.reverse
  let stem := (reversed.dropWhile (· ≠ '.')).drop 1
  if stem.isEmpty then (name, none)
  else
    (String.ofList stem.reverse, some (String.ofList (reversed.takeWhile (· ≠ '.')).reverse))

/-- The ending of the name of the file. -/
def ending? (p : Path) : Option String := (splitEnding p.fileName).2

/-- The path of the file with another ending of its name. -/
def withEnding (p : Path) (ending : String) : Path :=
  p.parent.join ((splitEnding p.fileName).1 ++ "." ++ ending)

/-- Goes one step along a path; `done` is the way so far, the last step first. -/
def step (done : List String) (name : String) : List String :=
  if name = "." then done
  else if name = ".." then done.drop 1
  else name :: done

/-- The names of the folders on the way, and of what is there. An absolute path begins with a
slash for the top of all folders. -/
def place (p : Path) : List String :=
  let way := ((Text.parts isSlash p.text).foldl step []).reverse
  if p.isAbsolute then "/" :: way else way

end Path

end Eir
