/-!
# File trees

Folders of files with their contents. A file cannot be written where a folder
stands, nor below another file; the folders on the way to it come into being.
-/

namespace Eir

/-- A file, or a folder with what is in it by name. -/
inductive FileTree where
  | file (content : String)
  | folder (entries : List (String × FileTree))
  deriving Inhabited

namespace FileTree

/-- A folder with nothing in it. -/
def empty : FileTree := folder []

/-- Puts something under a name: in the place of what had the name, or behind all else. -/
def put (name : String) (tree : FileTree) : List (String × FileTree) → List (String × FileTree)
  | [] => [(name, tree)]
  | e :: es => if e.1 = name then (name, tree) :: es else e :: put name tree es

/-- What is at a place. -/
def find? : List String → FileTree → Option FileTree
  | [], t => some t
  | _ :: _, file _ => none
  | name :: rest, folder entries =>
    match entries.lookup name with
    | some t => find? rest t
    | none => none

/-- The content of the file at a place. -/
def read? (t : FileTree) (way : List String) : Option String :=
  match t.find? way with
  | some (file content) => some content
  | _ => none

/-- Something is at the place. -/
def contains (t : FileTree) (way : List String) : Bool := (t.find? way).isSome

/-- A file with a content, below folders with nothing else in them. -/
def only (content : String) : List String → FileTree
  | [] => file content
  | name :: rest => folder [(name, only content rest)]

/-- Writes a file, unless a folder stands there or another file in the way. -/
def write? (content : String) : List String → FileTree → Option FileTree
  | [], file _ => some (file content)
  | [], folder _ => none
  | _ :: _, file _ => none
  | name :: rest, folder entries =>
    match entries.lookup name with
    | some t => (write? content rest t).map fun t => folder (put name t entries)
    | none => some (folder (put name (only content rest) entries))

/-- No file stands at the place or on the way to it. -/
def admitsFolder : List String → FileTree → Bool
  | _, file _ => false
  | [], folder _ => true
  | name :: rest, folder entries =>
    match entries.lookup name with
    | some t => admitsFolder rest t
    | none => true

/-- Takes away what is at a place. -/
def erase : List String → FileTree → FileTree
  | [], t => t
  | _ :: _, file content => file content
  | [name], folder entries => folder (entries.filter (·.1 ≠ name))
  | name :: rest, folder entries =>
    match entries.lookup name with
    | some t => folder (put name (erase rest t) entries)
    | none => folder entries

mutual

/-- The files with the ways to them from `way`, and their contents. -/
def filesFrom (way : List String) : FileTree → List (List String × String)
  | file content => [(way, content)]
  | folder entries => filesOf way entries

/-- The files of the entries of a folder. -/
def filesOf (way : List String) : List (String × FileTree) → List (List String × String)
  | [] => []
  | (name, t) :: es => filesFrom (way ++ [name]) t ++ filesOf way es

end

/-- The files with the ways to them, and their contents. -/
def files (t : FileTree) : List (List String × String) := filesFrom [] t

/-- The files below a place, with the whole ways to them. -/
def filesBelow (t : FileTree) (way : List String) : List (List String × String) :=
  match t.find? way with
  | some t => filesFrom way t
  | none => []

end FileTree

end Eir
