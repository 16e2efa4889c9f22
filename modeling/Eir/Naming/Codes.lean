import Eir.Json.Codec
import Std.Data.ExtTreeMap
import Std.Data.TreeMap

/-!
# Short codes

The codes that stand for kinds of components in their names, each with the way
in which the components are numbered.
-/

namespace Eir

/-- How components are numbered: through the whole project, or within each space. -/
inductive NamingStrategy where
  | sequence | spatial
  deriving DecidableEq, Repr, Inhabited

namespace NamingStrategy

def name : NamingStrategy → String
  | sequence => "SEQUENCE"
  | spatial => "SPATIAL"

/-- The strategy of that name. -/
def ofName? (text : String) : Option NamingStrategy :=
  [sequence, spatial].find? fun s => s.name == text

instance : Json.Encode NamingStrategy := ⟨fun s => .str s.name⟩
instance : Json.Decode NamingStrategy := ⟨Json.constant? false ofName?⟩

end NamingStrategy

/-- The code of a kind of component, and other codes for some of its sub-kinds. -/
structure TypeCode where
  code : String
  strategy : NamingStrategy
  overrides : Std.ExtTreeMap String String
  deriving DecidableEq

namespace TypeCode

instance : Inhabited TypeCode := ⟨⟨"", .sequence, {}⟩⟩

/-- A code that numbers through the whole project. -/
def plain (code : String) : TypeCode := ⟨code, .sequence, {}⟩

def spatial (t : TypeCode) : TypeCode := { t with strategy := .spatial }

def override (t : TypeCode) (subKind code : String) : TypeCode :=
  { t with overrides := t.overrides.insert subKind code }

def hasOverrides (t : TypeCode) : Bool := !t.overrides.isEmpty

/-- The code of a sub-kind, or else of the kind. -/
def codeFor (t : TypeCode) (subKind : Option String) : String :=
  (subKind.bind fun s => t.overrides[s]?).getD t.code

instance : Json.Encode TypeCode where
  encode t := .obj [("code", .str t.code), ("strategy", Json.encode t.strategy),
    ("overrides", Json.ofStringMembers t.overrides.toList)]

instance : Json.Decode TypeCode where
  decode? j := do
    let j ← j.record? ["code", "strategy", "overrides"]
    let overrides : Json ← Json.orElse j "overrides" (Json.obj [])
    return {
      code := ← Json.required j "code"
      strategy := ← Json.orElse j "strategy" .sequence
      overrides := .ofList (← overrides.stringMembers?) }

end TypeCode

/-- The codes under the labels of the kinds of components. -/
structure CodeTable where
  codes : Std.TreeMap String TypeCode

namespace CodeTable

instance : Inhabited CodeTable := ⟨⟨{}⟩⟩

def insert (t : CodeTable) (label : String) (code : TypeCode) : CodeTable :=
  ⟨t.codes.insert label code⟩

def get? (t : CodeTable) (label : String) : Option TypeCode := t.codes[label]?

def size (t : CodeTable) : Nat := t.codes.size

instance : Json.Decode CodeTable where
  decode? j := do
    let rows ← (← j.members?).mapM fun (label, row) => (Json.decode? row).map (label, ·)
    return ⟨.ofList rows⟩

end CodeTable

end Eir
