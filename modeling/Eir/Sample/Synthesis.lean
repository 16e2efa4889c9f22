import Eir.Naming.Resolver
import Eir.RuleIndex
import Eir.Sample.Basic
import Eir.Schema.Conventions

/-!
# Synthesis

Makes a sample that passes and one that fails for each concrete type below some
roots and each of its sub-kinds. Objects of the undefined sub-kind only ever
fail. The samples carry the identifiers of the naming rules that they are about.
-/

namespace Eir

/-- What breaks a name of any shape when it stands before it. -/
def invalidNameStart : String := "BAD-"

/-- The tables that samples are made from. -/
structure Synthesizer where
  /-- The types that samples stand for. -/
  logical : SchemaView
  /-- The types that samples are written as. -/
  target : SchemaView
  namer : Namer
  index : RuleIndex
  policy : UndefinedPolicy
  /-- The space that holds what is right. -/
  passContainer : String
  /-- The space that holds what is wrong. -/
  failContainer : String

/-- A type object with the type of its occurrences, and the type that they are written as. -/
structure Occurrence where
  typeObject : EntityType
  logical : EntityType
  concrete : EntityType

namespace Synthesizer

/-- Makes samples between these spaces by default. -/
def standard (logical target : SchemaView) (namer : Namer) (index : RuleIndex) : Synthesizer :=
  ⟨logical, target, namer, index, default, "00-01A", "00-02A"⟩

/-- The order by domain, and by name within one. -/
def precedes (a b : EntityType) : Bool :=
  decide (a.domain < b.domain) || (a.domain == b.domain && decide (a.name ≤ b.name))

/-- The concrete types at and below the roots, by domain and name, each once. -/
def typesBelow (s : Synthesizer) (roots : List String) : Except Fault (List EntityType) := do
  let found ← roots.mapM s.logical.concreteSubtypes
  return SchemaView.dedupNames (found.flatten.mergeSort precedes)

/-- What the occurrences of a type object are. -/
def occurrence (s : Synthesizer) (t : EntityType) : Except Fault Occurrence := do
  let logical ← s.namer.conventions.logicalInstance s.logical t.name
  return ⟨t, logical, ← s.namer.conventions.schemaInstance s.target logical⟩

/-- The rule about the names of the occurrences, or else about those of the types. -/
def namingTag (s : Synthesizer) (o : Occurrence) (subKind : Option String) : Option String :=
  let lookup (t : EntityType) :=
    s.index.lookup? (.of t.name subKind .attributeMatchesPattern "Name")
  (lookup o.logical).or (lookup o.typeObject)

/-- A sample of an occurrence, not yet about any rule. -/
def sample (o : Occurrence) (subKind : Option String) (container name typeName : String)
    (conforming : Bool) : Sample :=
  let named := ValueSet.empty.set (.attr "Name") name
  let values := match subKind with
    | none => named
    | some k =>
      let kinded := named.set (.attr "PredefinedType") k
      if k = "USERDEFINED" then kinded.set (.attr "ObjectType") "SomeUserDefined" else kinded
  { entity := o.concrete.name
    logicalEntity := o.logical.name
    subKind, typeName := some typeName, container, tags := [], conforming
    domain := o.logical.domain
    values }

/-- The sample of a sub-kind that passes and its twin that fails, as variant `variant` of their
type. -/
def twins (s : Synthesizer) (o : Occurrence) (subKind : Option String) (variant : Nat) :
    StateM Counters (List Sample) := do
  let typeName := (s.namer.typeConvention o.typeObject.name subKind).1.sampleName variant
  let tag := s.namingTag o subKind
  let allocate (container : String) : StateM Counters String := fun counters =>
    let (resolved, _, counters) :=
      s.namer.resolve counters o.logical.name subKind container (some typeName)
    (resolved.name, counters)
  let good ← allocate s.passContainer
  let bad ← allocate s.failContainer
  return [(sample o subKind s.passContainer good typeName true).addTag tag,
    (sample o subKind s.failContainer (invalidNameStart ++ bad) typeName false).addTag tag]

/-- The failing sample of the undefined sub-kind. -/
def undefinedSample (s : Synthesizer) (o : Occurrence) : StateM Counters Sample := fun counters =>
  let typeName := (s.namer.typeConvention o.typeObject.name none).1.sampleName 0
  let (resolved, _, counters) := s.namer.resolve counters o.logical.name (some undefinedSubKind)
    s.failContainer (some typeName)
  let tag := s.index.lookup? (.of o.typeObject.name none .attributeHasValue "PredefinedType")
  ((sample o (some undefinedSubKind) s.failContainer resolved.name typeName false).addTag tag,
    counters)

/-- The samples of the sub-kinds of a type. The first that is defined is variant `variant`. -/
def samplesOfKinds (s : Synthesizer) (o : Occurrence) (variant : Nat) :
    List (Option String) → StateM Counters (List Sample)
  | [] => return []
  | subKind :: rest => do
    if subKind = some undefinedSubKind then
      let undefined ← if s.policy.fixtureOccurrences then
          (fun sample => [sample]) <$> s.undefinedSample o
        else pure []
      return undefined ++ (← samplesOfKinds s o variant rest)
    else
      let pair ← s.twins o subKind variant
      return pair ++ (← samplesOfKinds s o (variant + 1) rest)

/-- The sub-kinds of a type; one that has no name if there are none. -/
def kindsOf (t : EntityType) : List (Option String) :=
  match t.subKinds with
  | [] => [none]
  | kinds => kinds.map some

/-- The samples of a type. -/
def samplesOf (s : Synthesizer) (t : EntityType) :
    StateT Counters (Except Fault) (List Sample) := do
  let o ← s.occurrence t
  fun counters => return (s.samplesOfKinds o 1 (kindsOf t)).run counters

/-- The samples of the concrete types at and below the roots. -/
def synthesize (s : Synthesizer) (roots : List String) :
    StateT Counters (Except Fault) (List Sample) := do
  let types ← s.typesBelow roots
  return (← types.mapM s.samplesOf).flatten

end Synthesizer

end Eir
