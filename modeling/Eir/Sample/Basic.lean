import Eir.Sample.Values

/-!
# Samples

A sample is an object that the rules can be tried on, together with whether it
is meant to pass them and the identifiers of the rules that it is about.
-/

namespace Eir

/-- One object. -/
structure Sample where
  /-- The entity type of the object in the schema that it is written in. -/
  entity : String
  /-- The entity type that it stands for. -/
  logicalEntity : String
  subKind : Option String
  /-- The name of its type. -/
  typeName : Option String
  container : String
  /-- The identifiers of the rules that it is about. -/
  tags : List String
  conforming : Bool
  domain : String
  values : ValueSet
  deriving DecidableEq, Inhabited

namespace Sample

/-- A conforming sample that has a name and nothing else. -/
def named (entity container name : String) : Sample where
  entity := entity
  logicalEntity := entity
  subKind := none
  typeName := none
  container := container
  tags := []
  conforming := true
  domain := ""
  values := ValueSet.empty.set (.attr "Name") name

/-- The value of `Name`, or the empty text. -/
def name (s : Sample) : String := (s.values.get? (.attr "Name")).getD ""

/-- The sample is about one more rule. -/
def addTag (s : Sample) (tag : Option String) : Sample :=
  { s with tags := s.tags ++ tag.toList }

instance : Json.Encode Sample where
  encode s := .obj ([("entity", .str s.entity), ("logical_entity", .str s.logicalEntity)] ++
    Json.ifSome "sub_kind" s.subKind ++ Json.ifSome "type_name" s.typeName ++
    [("container", .str s.container), ("tags", Json.encode s.tags),
      ("conforming", .bool s.conforming), ("domain", .str s.domain),
      ("values", Json.encode s.values)])

instance : Json.Decode Sample where
  decode? j := do
    let j ← j.record? ["entity", "logical_entity", "sub_kind", "type_name", "container", "tags",
      "conforming", "domain", "values"]
    return {
      entity := ← Json.required j "entity"
      logicalEntity := ← Json.required j "logical_entity"
      subKind := ← Json.optional j "sub_kind"
      typeName := ← Json.optional j "type_name"
      container := ← Json.required j "container"
      tags := ← Json.orElse j "tags" []
      conforming := ← Json.required j "conforming"
      domain := ← Json.orElse j "domain" ""
      values := ← Json.required j "values" }

end Sample

/-- The samples of a list that are meant to pass. -/
def conformingSamples (samples : List Sample) : List Sample := samples.filter (·.conforming)

/-- The identifiers of all rules that samples are about, in order and each once. -/
def sampleTags (samples : List Sample) : List String :=
  ((samples.flatMap (·.tags)).mergeSort fun a b => decide (a ≤ b)).eraseReps

/-- The positions of the conforming samples of a logical entity type, whose name may be in
any case. -/
def conformingIndices (samples : List Sample) (logicalEntity : String) : List Nat :=
  (samples.zipIdx.filter fun (s, _) =>
    s.conforming && s.logicalEntity.toLower == logicalEntity.toLower).map (·.2)

end Eir
