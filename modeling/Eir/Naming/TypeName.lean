import Eir.Json.Codec
import Eir.Pattern.Escape
import Eir.Text.Digits

/-!
# Shapes of type names

The name of a type object: the label of the entity, the sub-kind and a number,
`Door_Gate_Type01`.
-/

namespace Eir

/-- Words that begin with a capital letter, put together. -/
def properCaseWords : String := "([A-Z][a-z]+)+"

/-- The shape of the names of a type object's types. -/
inductive TypeNameConvention where
  /-- The sub-kind stands in the name, in these words. -/
  | enumerated (entity display : String)
  /-- Any words stand for the sub-kind. -/
  | userDefined (entity : String)
  /-- A sub-kind may stand in the name. -/
  | unenumerated (entity : String)
  deriving DecidableEq, Repr, Inhabited

namespace TypeNameConvention

/-- The pattern of the label; any words if the label is free. -/
def entityPattern (entity : String) (freeLabel : Bool) : String :=
  if freeLabel then properCaseWords else Pattern.escape entity

/-- The pattern that names of this shape match. -/
def pattern (c : TypeNameConvention) (freeLabel : Bool) : String :=
  match c with
  | enumerated entity display =>
    entityPattern entity freeLabel ++ "_" ++ Pattern.escape display ++ "_Type\\d\x7b2,4\x7d"
  | userDefined entity =>
    entityPattern entity freeLabel ++ "_(([A-Z][a-z]+)+_)Type\\d\x7b2,4\x7d"
  | unenumerated entity =>
    entityPattern entity freeLabel ++ "_(([A-Z][a-z]+)+_)?Type\\d\x7b2,4\x7d"

/-- The name of the type with number `variant`. -/
def sampleName (c : TypeNameConvention) (variant : Nat) : String :=
  match c with
  | enumerated entity display =>
    entity ++ "_" ++ display ++ "_Type" ++ Text.zeroPadded 2 variant
  | userDefined entity => entity ++ "_SomeUserDefined_Type" ++ Text.zeroPadded 3 variant
  | unenumerated entity => entity ++ "_Type" ++ Text.zeroPadded 4 variant

instance : Json.Encode TypeNameConvention where
  encode
    | enumerated entity display => .obj [("enumerated", Json.encode [entity, display])]
    | userDefined entity => .obj [("user_defined", .str entity)]
    | unenumerated entity => .obj [("unenumerated", .str entity)]

end TypeNameConvention

end Eir
