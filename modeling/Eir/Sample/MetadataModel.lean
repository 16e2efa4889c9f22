import Eir.Rulebook.Occurrences
import Eir.Sample.Breakage
import Eir.Sample.Places
import Eir.Sample.Synthesis

/-!
# The metadata model

Two storeys and four rooms at stage 5. The rooms of the upper storey hold what
should pass, those of the basement what should fail: a well named and a badly
named type for each type object and sub-kind, their occurrences, and types and
doors of which one value each is broken.
-/

namespace Eir.SampleSources

open ProductData

def metadataModelName : String := "DfE-Metadata-Stage5"

/-- The spaces that hold the occurrences. -/
def goodElementRoom : String := "00-02G"
def badElementRoom : String := "01-02B"

/-- A room of a zone, with its class and its sheet. -/
def roomSample (room storey description spaceClass sheet zone : String) : Sample :=
  sampleOf "IfcSpace" storey (withFields (described room description) [
    (.classification spaceSystem, spaceClass),
    (.classification sheetSystem, sheet),
    (.property "COBie_Space" "Roomtag", "n/a"),
    (.property "BaseQuantities" "Height", "2400"),
    (.property "BaseQuantities" "GrossFloorArea", "200"),
    (.property "BaseQuantities" "NetFloorArea", "190"),
    (.membership zone, "")])

/-- The room of the good and of the bad, for types and for elements. -/
def containerSamples (s : SampleSources) (basement ground teaching other : String) :
    List Sample :=
  let f := s.inputs.settings.fixtures
  let good (room description : String) :=
    roomSample room ground description "SL_25_10_14" "CLA12" teaching
  let bad (room description : String) :=
    roomSample room basement description "SL_25_10_76" "CLA62" other
  [good f.passContainer "The Good Place (Types)",
    good goodElementRoom "The Good Place (Elements)",
    bad f.failContainer "The Bad Place (Types)",
    bad badElementRoom "The Bad Place (Elements)"]

/-- What makes the occurrences, and orders the types. -/
def synthesizer (s : SampleSources) : Synthesizer where
  logical := s.logicalView
  target := s.inputs.catalog.view s.dialect
  namer := s.inputs.namer
  index := s.index
  policy := s.inputs.settings.undefinedSubKind
  passContainer := goodElementRoom
  failContainer := badElementRoom

/-- The values that a type of an entity type has whatever its name. -/
def typeBaseline (s : SampleSources) (t : EntityType) : Baseline :=
  if s.isA t.name Rulebook.productTypes then productType t.domain else plainType t.domain

/-- The name of an entity type as it stands in descriptions. -/
def descriptiveLabel (name : String) : String := Text.stripRepeated "Ifc" name

/-- A type of a sub-kind, not yet about any rule. -/
def typeSample (s : SampleSources) (t : EntityType) (subKind : Option String)
    (name container : String) (conforming : Bool) : Sample :=
  let label := descriptiveLabel t.name
  let description := match subKind with
    | some k => (s.inputs.namer.display label k).1 ++ " " ++ label
    | none => label
  let b := ((SampleBuilder.of (s.typeBaseline t)).set (.attr "Name") name).set
    (.attr "Description") description
  let b := match subKind with
    | none => b
    | some k =>
      let b := b.set (.attr "PredefinedType") k
      if k = "USERDEFINED" then b.set (.attr "ElementType") "SomeUserDefined" else b
  { sampleOf t.name container b.build with subKind, domain := t.domain, conforming }

/-- The types of the sub-kinds. The first that is defined is variant `variant`. -/
def typesOfKinds (s : SampleSources) (t : EntityType) (variant : Nat) :
    List (Option String) → List Sample
  | [] => []
  | subKind :: rest =>
    let f := s.inputs.settings.fixtures
    if subKind = some undefinedSubKind then
      let name := (s.inputs.namer.typeConvention t.name none).1.sampleName 0
      let tag := s.tag t.name none .attributeHasValue "PredefinedType"
      let undefined := (s.typeSample t subKind name f.failContainer false).addTag tag
      (if s.inputs.settings.undefinedSubKind.fixtureOccurrences then [undefined] else []) ++
        typesOfKinds s t variant rest
    else
      let name := (s.inputs.namer.typeConvention t.name subKind).1.sampleName variant
      let tag := s.tag t.name subKind .attributeMatchesPattern "Name"
      (s.typeSample t subKind name f.passContainer true).addTag tag ::
        (s.typeSample t subKind (name ++ "-BAD") f.failContainer false).addTag tag ::
        typesOfKinds s t (variant + 1) rest

/-- The types of the type objects. -/
def typeSamples (s : SampleSources) (types : List EntityType) : List Sample :=
  types.flatMap fun t => s.typesOfKinds t 1 (Synthesizer.kindsOf t)

/-- The key under which serial numbers are counted. -/
def serialKey : String := "COBie.SerialNumber"

/-- The data of the next component. -/
def nextComponent : StateM Counters Baseline := fun counters =>
  let (sequence, counters) := counters.next serialKey
  (component sequence, counters)

/-- The rating of doors that are not broken. -/
def fireRating : String := "30"

/-- An occurrence with its description, and with the data of a component if it is one. -/
def furnished (s : SampleSources) (sample : Sample) : StateM Counters Sample := do
  let description := sample.typeName.getD (descriptiveLabel sample.logicalEntity)
  let values := sample.values.set (.attr "Description") description
  let values ← if s.isA sample.entity Rulebook.componentTypes then do
      let data ← nextComponent
      pure (withFields data.values (values.attributes.toList.map fun (n, t) => (.attr n, t)))
    else pure values
  let values := if sample.entity.toLower == "ifcdoor" then
      values.set (.property doorSet "FireRating") fireRating
    else values
  return { sample with values }

/-- The occurrences of the types below the roots. -/
def occurrenceSamples (s : SampleSources) (roots : List String) :
    StateT Counters (Except Fault) (List Sample) := do
  let samples ← s.synthesizer.synthesize roots
  fun counters => return (samples.mapM s.furnished).run counters

/-- A broken type of the sub-kind that is broken. -/
def brokenTypeSample (s : SampleSources) (t : EntityType) (values : ValueSet) : Sample :=
  { sampleOf t.name s.inputs.settings.fixtures.failContainer values with
    subKind := some "ELEVATOR"
    conforming := false }

/-- Types of which one value each is broken, and two that share a name. Their numbers begin
where those of other types have ended. -/
def brokenTypeSamples (s : SampleSources) : StateM Counters (List Sample) := do
  match (s.inputs.catalog.view s.dialect).find? brokenType with
  | none => return []
  | some t =>
    let shape := (s.inputs.namer.typeConvention t.name (some "ELEVATOR")).1
    let nextName : StateM Counters String := fun counters =>
      let (sequence, counters) := counters.next brokenType
      (shape.sampleName (50 + sequence), counters)
    let baseline (name : String) : Baseline :=
      ⟨name, withFields (productType t.domain).values [
        (.attr "Name", name),
        (.attr "Description", descriptiveLabel t.name),
        (.attr "PredefinedType", "ELEVATOR")]⟩
    let broken ← s.typeBreakages.mapM fun b => do
      let values := b.apply (baseline (← nextName))
      return { s.brokenTypeSample t values with domain := t.domain }.addTag b.tag
    let duplicate := s.brokenTypeSample t (baseline (← nextName)).values
    return broken ++ [duplicate, duplicate]

/-- Doors of a type of which one value each is broken, and two that share a name. -/
def brokenDoorSamples (s : SampleSources) (typeName : String) :
    StateM Counters (List Sample) := do
  let nextName : StateM Counters String := fun counters =>
    let (resolved, _, counters) :=
      s.inputs.namer.resolve counters "IfcDoor" none badElementRoom none
    (resolved.name, counters)
  let baseline (name : String) : StateM Counters Baseline := do
    let data ← nextComponent
    return { data with values := withFields data.values [
      (.attr "Name", name),
      (.attr "Description", "Door"),
      (.property doorSet "FireRating", fireRating)] }
  let door (values : ValueSet) : Sample :=
    { sampleOf "IfcDoor" badElementRoom values with
      typeName := some typeName
      domain := "SharedBldgElements"
      conforming := false }
  let broken ← s.doorBreakages.mapM fun b => do
    let data ← baseline (← nextName)
    return (door (b.apply data)).addTag b.tag
  let shared ← nextName
  let first ← baseline shared
  let second ← baseline shared
  return broken ++ [door first.values, door second.values]

/-- The name of the first type of doors that is meant to pass. -/
def doorTypeName (samples : List Sample) : Except RunError String :=
  let isDoorType (s : Sample) : Bool :=
    s.conforming && (s.entity == "IfcDoorStyle" || s.entity == "IfcDoorType")
  match samples.find? isDoorType with
  | some s => .ok s.name
  | none => .error (.plain "No door type sampled")

/-- The metadata model. -/
def metadataModel (s : SampleSources) : Except RunError SampleModel := do
  let storeys := s.storeySamples ["B1", "00"]
  let zones := s.zoneSamples ["Basic teaching", "Non-net"]
  let ([basement, ground], [teaching, other]) := (storeys, zones)
    | throw (.plain "Metadata fixture needs two storeys and two zones")
  let places := s.siteSamples .stage5 ++ storeys ++ zones ++
    s.containerSamples basement.name ground.name teaching.name other.name
  let roots := Rulebook.present s.logicalView Rulebook.rootTypes
  let types := s.typeSamples (← asRun (s.synthesizer.typesBelow roots))
  let (occurrences, counters) ← asRun ((s.occurrenceSamples roots).run .fresh)
  let (brokenTypes, counters) := s.brokenTypeSamples.run counters
  let samples := places ++ types ++ occurrences ++ brokenTypes
  let (brokenDoors, _) := (s.brokenDoorSamples (← doorTypeName samples)).run counters
  return ((SampleModel.empty metadataModelName .stage5 s.dialect s.project.name).extend
    (samples ++ brokenDoors)).stamped

end Eir.SampleSources
