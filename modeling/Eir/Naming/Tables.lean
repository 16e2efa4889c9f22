import Eir.Json.Printer
import Eir.Naming.Codes
import Eir.Naming.SubKindNames
import Eir.Yaml.Reader
import Eir.Yaml.Shape

/-!
# Reading naming tables

The documents in which short codes and the words of sub-kinds are written. JSON
text is such a document too, and is read by the rules of table documents.
-/

namespace Eir

namespace CodeTable

/-- A document of codes under their labels. -/
def shape : Yaml.Shape :=
  .record [("codes", .dict (.record [("code", .text), ("strategy", .word),
    ("overrides", .dict .text)]))]

/-- Reads a document of codes. -/
def ofYaml? (y : Yaml) : Option CodeTable := do
  Json.required (← shape.ofDocument? y) "codes"

/-- Reads codes from the text of their JSON form. -/
def ofJson? (codes : Json) : Option CodeTable :=
  (Yaml.ofText? (Json.obj [("codes", codes)]).compact).bind ofYaml?

end CodeTable

namespace SubKindNames

/-- A document of rows. -/
def shape : Yaml.Shape :=
  .record [("sub_kinds", .list (.record [("key", .text), ("proper_case", .text)]))]

/-- One row: a sub-kind and its words. -/
def ofRow? (j : Json) : Option (String × String) := do
  return (← Json.required j "key", ← Json.required j "proper_case")

/-- Reads a document of rows. -/
def ofYaml? (y : Yaml) : Option SubKindNames := do
  let rows : List Json ← Json.required (← shape.ofDocument? y) "sub_kinds"
  return ofRows (← rows.mapM ofRow?)

/-- Reads rows from the text of their JSON form. -/
def ofJson? (rows : List (Json × Json)) : Option SubKindNames :=
  let row (r : Json × Json) : Json := .obj [("key", r.1), ("proper_case", r.2)]
  (Yaml.ofText? (Json.obj [("sub_kinds", .arr (rows.map row))]).compact).bind ofYaml?

end SubKindNames

end Eir
