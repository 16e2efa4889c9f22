import Eir.Pattern.Ranges

/-!
# Values of properties

A property sorts the characters by its values. Each value has names, written
without what does not count in a name, and a table of the characters that have
it.
-/

namespace Eir.Pattern.Property

/-- A value of a property: its names, and the table of its characters. -/
structure Value where
  names : List String
  rows : List String

/-- The characters that have the value. -/
def Value.extent (v : Value) : Ranges := .ofRows v.rows

/-- The value of a name. -/
def find? (values : List Value) (name : String) : Option Value :=
  values.find? fun v => v.names.contains name

/-- The characters that have the value of a name. -/
def extent? (values : List Value) (name : String) : Option Ranges :=
  (find? values name).map Value.extent

/-- The characters that have the value of a name; none if there is no such value. -/
def extentOf (values : List Value) (name : String) : Ranges := (extent? values name).getD .empty

end Eir.Pattern.Property
