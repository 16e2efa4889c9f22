import Eir.Json.Codec
import Eir.Text.Digits

/-!
# Value constraints

The values that one field of a facet accepts: a single value, those that match
a pattern, those of a list, a numeric range or a range of lengths.
-/

namespace Eir

/-- Numeric bounds, kept as they were written so that facets stay comparable. -/
structure Bounds where
  min : Option String
  minInclusive : Bool
  max : Option String
  maxInclusive : Bool
  deriving DecidableEq, Repr, Inhabited

namespace Bounds

/-- Everything above `min`. -/
def above (min : String) (inclusive : Bool) : Bounds := ⟨some min, inclusive, none, false⟩

/-- The lower bound in short: `>=1`. -/
def lowerText (b : Bounds) : Option String :=
  b.min.map fun m => (if b.minInclusive then ">=" else ">") ++ m

/-- The upper bound in short: `<10`. -/
def upperText (b : Bounds) : Option String :=
  b.max.map fun m => (if b.maxInclusive then "<=" else "<") ++ m

/-- The bounds in short: `>=1 and <10`. -/
def short (b : Bounds) : String :=
  match b.lowerText, b.upperText with
  | some l, some u => l ++ " and " ++ u
  | some l, none => l
  | none, some u => u
  | none, none => "any"

instance : Json.Encode Bounds where
  encode b := .obj [("min", Json.encode b.min), ("min_inclusive", Json.encode b.minInclusive),
    ("max", Json.encode b.max), ("max_inclusive", Json.encode b.maxInclusive)]

instance : Json.Decode Bounds where
  decode? j := do
    let j ← j.record? ["min", "min_inclusive", "max", "max_inclusive"]
    return {
      min := ← Json.optional j "min"
      minInclusive := ← Json.required j "min_inclusive"
      max := ← Json.optional j "max"
      maxInclusive := ← Json.required j "max_inclusive" }

end Bounds

/-- The accepted values of one field. -/
inductive Constraint where
  | exact (value : String)
  /-- The whole value matches the pattern. -/
  | pattern (text : String)
  | list (values : List String)
  | range (bounds : Bounds)
  | length (min max : Nat)
  deriving DecidableEq, Repr, Inhabited

namespace Constraint

/-- The one accepted value. -/
def single? : Constraint → Option String
  | exact v => some v
  | _ => none

/-- A text between single quotes. -/
def quote (s : String) : String := "'" ++ s ++ "'"

/-- The constraint in short, as facets describe themselves with it. -/
def short : Constraint → String
  | exact v => quote v
  | pattern p => "/" ++ p ++ "/"
  | list vs => "[" ++ ",".intercalate (vs.map quote) ++ "]"
  | range b => b.short
  | length lo hi => "length " ++ Text.decimal lo ++ ".." ++ Text.decimal hi

/-- The word for the kind of constraint in JSON. -/
def kind : Constraint → String
  | exact _ => "exact"
  | pattern _ => "pattern"
  | list _ => "list"
  | range _ => "range"
  | length .. => "length"

/-- What stands beside the kind in JSON. -/
def content : Constraint → Json
  | exact v => .str v
  | pattern p => .str p
  | list vs => Json.encode vs
  | range b => Json.encode b
  | length lo hi => .obj [("min", Json.encode lo), ("max", Json.encode hi)]

instance : Json.Encode Constraint where
  encode c := .obj [("kind", .str c.kind), ("value", c.content)]

/-- Reads the content that belongs to a kind. -/
def ofContent? (kind : String) (content : Json) : Option Constraint :=
  match kind with
  | "exact" => (Json.decode? content).map exact
  | "pattern" => (Json.decode? content).map pattern
  | "list" => (Json.decode? content).map list
  | "range" => (Json.decode? content).map range
  | "length" => do
    let lo ← Json.required content "min"
    let hi ← Json.required content "max"
    return length lo hi
  | _ => none

/-- Reads a constraint: an object with a kind and a content, or an array of the two. -/
def read? (withinTagged : Bool) (j : Json) : Option Constraint := do
  let j ← j.record? ["kind", "value"]
  let kind ← Json.requiredBy (Json.constant? withinTagged some) j "kind"
  ofContent? kind (← j.get? "value")

instance : Json.Decode Constraint := ⟨read? false⟩

end Constraint

end Eir
