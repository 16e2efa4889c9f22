import Eir.Text.Blank
import Std.Data.TreeMap

/-!
# Names of sub-kinds

The words in which sub-kinds stand in names: `SolarCollector` for
`SOLARCOLLECTOR`.
-/

namespace Eir

/-- The words under the sub-kinds. -/
structure SubKindNames where
  names : Std.TreeMap String String

namespace SubKindNames

instance : Inhabited SubKindNames := ⟨⟨{}⟩⟩

/-- Reads rows of a sub-kind and its words. Blanks around them do not count, and the first
row of a sub-kind is the one that holds. -/
def ofRows (rows : List (String × String)) : SubKindNames :=
  ⟨rows.foldl (fun t (key, words) => t.insertIfNew (Text.trim key) (Text.trim words)) {}⟩

def get? (n : SubKindNames) (subKind : String) : Option String := n.names[subKind]?

/-- The words for a sub-kind; the sub-kind itself if there are none. -/
def display (n : SubKindNames) (subKind : String) : String := (n.get? subKind).getD subKind

end SubKindNames

end Eir
