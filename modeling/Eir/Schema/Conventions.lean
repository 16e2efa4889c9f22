import Eir.Schema.View
import Eir.Text.Affix

/-!
# Type conventions

How the name of a type object leads to the type of its occurrences and to the
label that stands in names and titles: `IfcDoorStyle` describes an `IfcDoor`,
labelled `Door`.
-/

namespace Eir

/-- A name that ends with `suffix` has `replacement` instead. -/
structure SuffixRule where
  suffix : String
  replacement : String
  deriving DecidableEq, Repr, Inhabited

instance : Json.Encode SuffixRule where
  encode r := .obj [("suffix", .str r.suffix), ("replacement", .str r.replacement)]

instance : Json.Decode SuffixRule where
  decode? j := do
    let j ← j.record? ["suffix", "replacement"]
    return {
      suffix := ← Json.required j "suffix"
      replacement := ← Json.orElse j "replacement" "" }

/-- The conventions of a schema. -/
structure TypeConventions where
  /-- The beginning of every name, which labels drop. -/
  headText : String
  /-- The first rule that fits is applied. -/
  suffixRules : List SuffixRule
  /-- The occurrences of type objects that no suffix rule leads to. -/
  instanceOverrides : List (String × String)
  /-- The occurrence where nothing better is known. -/
  proxyType : String
  /-- The names, without their beginning, of type objects whose sub-kinds are not in names. -/
  enumerationExceptions : List String
  /-- Parts of names of types that any word can be the label of. -/
  freeLabelEntities : List String
  deriving DecidableEq, Repr

namespace TypeConventions

/-- The conventions of the schema as it is published. -/
def standard : TypeConventions where
  headText := "Ifc"
  suffixRules := [⟨"TypeObject", "Object"⟩, ⟨"TypeProduct", "Product"⟩, ⟨"Type", ""⟩,
    ⟨"Style", ""⟩]
  instanceOverrides := [("IfcGasTerminalType", "IfcFlowTerminal"),
    ("IfcElectricHeaterType", "IfcFlowTerminal")]
  proxyType := "IfcBuildingElementProxy"
  enumerationExceptions := ["Door", "DiscreteAccessory", "Fastener", "Furniture",
    "MechanicalFastener", "ReinforcingMesh", "SystemFurnitureElement", "TendonAnchor", "Window",
    "DoorStyle", "DoorType", "WindowStyle", "WindowType"]
  freeLabelEntities := ["BuildingElementProxy"]

instance : Inhabited TypeConventions := ⟨standard⟩

instance : Json.Encode TypeConventions where
  encode c := .obj [("prefix", .str c.headText), ("suffix_rules", Json.encode c.suffixRules),
    ("instance_overrides", Json.ofStringMembers c.instanceOverrides),
    ("proxy_type", .str c.proxyType),
    ("enumeration_exceptions", Json.encode c.enumerationExceptions),
    ("free_label_entities", Json.encode c.freeLabelEntities)]

instance : Json.Decode TypeConventions where
  decode? j := do
    let j ← j.record? ["prefix", "suffix_rules", "instance_overrides", "proxy_type",
      "enumeration_exceptions", "free_label_entities"]
    return {
      headText := ← Json.required j "prefix"
      suffixRules := ← Json.required j "suffix_rules"
      instanceOverrides := ← (j.get? "instance_overrides").bind Json.stringMembers?
      proxyType := ← Json.required j "proxy_type"
      enumerationExceptions := ← Json.required j "enumeration_exceptions"
      freeLabelEntities := ← Json.required j "free_label_entities" }

/-- The name without its beginning: `PumpType` of `IfcPumpType`. -/
def unprefixed (c : TypeConventions) (name : String) : String :=
  (Text.stripPrefix? c.headText name).getD name

/-- Applies the first suffix rule that fits. -/
def stripSuffix? (c : TypeConventions) (name : String) : Option String :=
  c.suffixRules.findSome? fun rule =>
    (Text.stripSuffix? rule.suffix name).map fun stem => stem ++ rule.replacement

/-- The label of a type: `Door` of `IfcDoorStyle`. -/
def entityLabel (c : TypeConventions) (name : String) : String :=
  (c.stripSuffix? (c.unprefixed name)).getD (c.unprefixed name)

/-- The sub-kinds of the type object stand in the names of its types. -/
def enumeratesSubKinds (c : TypeConventions) (typeName : String) : Bool :=
  !c.enumerationExceptions.contains (c.unprefixed typeName)

/-- Any word can be the label of the type. -/
def hasFreeLabel (c : TypeConventions) (name : String) : Bool :=
  c.freeLabelEntities.any fun entity => Text.occursIn entity name

/-- The name of the occurrences of a type object, before it is looked up. -/
def instanceName? (c : TypeConventions) (typeName : String) : Option String :=
  match c.instanceOverrides.lookup typeName with
  | some name => some name
  | none => c.stripSuffix? typeName

/-- The type of the occurrences of a type object: `IfcSensor` of `IfcSensorType`, or the
proxy. -/
def logicalInstance (c : TypeConventions) (v : SchemaView) (typeName : String) :
    Except Fault EntityType :=
  match (c.instanceName? typeName).bind v.find? with
  | some t => .ok t
  | none => v.require c.proxyType

/-- The type that stands for occurrences of `logical` in the view: itself if it is valid
there, its host in IFC2X3, or the proxy. -/
def schemaInstance (c : TypeConventions) (v : SchemaView) (logical : EntityType) :
    Except Fault EntityType :=
  let itself := if logical.dialects.supports v.dialect then v.find? logical.name else none
  let host := if v.dialect = .ifc2x3 then logical.host.bind v.find? else none
  match itself.or host with
  | some t => .ok t
  | none => v.require c.proxyType

end TypeConventions

end Eir
