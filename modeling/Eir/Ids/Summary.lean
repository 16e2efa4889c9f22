import Eir.Json.Codec
import Eir.Text.Blank
import Eir.Xml.Attributes

/-!
# Summaries of exchanged documents

What a document looks like when it is read back: its header, and of each
specification its name, identifier, versions and the number of its facets. That
is enough to tell whether a model checker would refuse the document.
-/

namespace Eir

/-- What a specification looks like in a document. -/
structure SpecificationSummary where
  name : String
  identifier : Option String
  ifcVersions : List String
  applicabilityFacets : Nat
  requirementFacets : Nat
  deriving DecidableEq, Repr, Inhabited

/-- What a document looks like. -/
structure DocumentSummary where
  title : String
  version : Option String
  milestone : Option String
  specifications : List SpecificationSummary
  deriving DecidableEq, Repr, Inhabited

/-- Why a text could not be read as a document of specifications. -/
inductive Unreadable where
  | malformed (why : Xml.Malformed)
  /-- There is no element that holds a document. -/
  | notIds
  deriving DecidableEq, Repr, Inhabited

namespace SpecificationSummary

/-- What a model checker would refuse the specification for. -/
def problems (s : SpecificationSummary) : List String :=
  (if s.name.isEmpty then ["specification without a name"] else []) ++
    (if s.ifcVersions.isEmpty then [s.name ++ ": no ifcVersion"] else []) ++
    (if s.applicabilityFacets = 0 then [s.name ++ ": empty applicability"] else [])

instance : Json.Encode SpecificationSummary where
  encode s := .arr [.str s.name, Json.encode s.identifier, Json.encode s.ifcVersions,
    Json.encode s.applicabilityFacets, Json.encode s.requirementFacets]

instance : Json.Decode SpecificationSummary where
  decode? j := do
    return {
      name := ← Json.required j "name"
      identifier := ← Json.optional j "identifier"
      ifcVersions := ← Json.required j "ifc_versions"
      applicabilityFacets := ← Json.required j "applicability_facets"
      requirementFacets := ← Json.required j "requirement_facets" }

/-- The specification that a tag begins. -/
def ofTag (tag : Xml.Tag) : Except Xml.Malformed SpecificationSummary := do
  let name ← Xml.attribute? "name" tag.rest
  let identifier ← Xml.attribute? "identifier" tag.rest
  let versions ← Xml.attribute? "ifcVersion" tag.rest
  return ⟨name.getD "", identifier, (versions.map Text.words).getD [], 0, 0⟩

end SpecificationSummary

namespace DocumentSummary

/-- What a model checker would refuse the document for. -/
def problems (d : DocumentSummary) : List String :=
  (if d.title.isEmpty then ["missing title"] else []) ++
    d.specifications.flatMap SpecificationSummary.problems

instance : Json.Encode DocumentSummary where
  encode d := .obj [("title", .str d.title), ("version", Json.encode d.version),
    ("milestone", Json.encode d.milestone), ("len", Json.encode d.specifications.length),
    ("empty", .bool d.specifications.isEmpty),
    ("specifications", Json.encode d.specifications), ("problems", Json.encode d.problems)]

/-- The elements that are facets. -/
def facetNames : List String :=
  ["entity", "attribute", "property", "classification", "partOf", "material"]

/-- A document on the way of being read. -/
structure Reading where
  /-- The names of the open elements, the innermost first. -/
  openNames : List (List Char)
  /-- An element that holds a document has begun. -/
  sawRoot : Bool
  title : String
  version : Option String
  milestone : Option String
  /-- The specifications so far, the last one first. -/
  reversed : List SpecificationSummary
  deriving Inhabited

namespace Reading

def start : Reading := ⟨[], false, "", none, none, []⟩

/-- The local names of the open elements, the innermost first. -/
def path (r : Reading) : List String := r.openNames.map Xml.Tag.localName

/-- Counts a facet that begins in the last specification. -/
def countFacet (r : Reading) (name : String) : Reading :=
  match r.reversed with
  | [] => r
  | s :: before =>
    if !facetNames.contains name then r
    else
      match r.path.head? with
      | some "applicability" =>
        { r with reversed := { s with applicabilityFacets := s.applicabilityFacets + 1 } :: before }
      | some "requirements" =>
        { r with reversed := { s with requirementFacets := s.requirementFacets + 1 } :: before }
      | _ => r

/-- An element begins. -/
def element (r : Reading) (tag : Xml.Tag) : Except Xml.Malformed Reading := do
  let name := Xml.Tag.localName tag.name
  let r ← if name = "specification" then
      (SpecificationSummary.ofTag tag).map fun s => { r with reversed := s :: r.reversed }
    else .ok r
  return r.countFacet name

/-- Keeps a text of the header. Others do not count, but in the header they have to be
readable. -/
def text (r : Reading) (written : List Char) : Except Xml.Malformed Reading :=
  match r.path with
  | name :: "info" :: _ =>
    match Xml.unescapeChars? written with
    | none => .error .reference
    | some cs =>
      let value := String.ofList cs
      .ok (match name with
        | "title" => { r with title := value }
        | "version" => { r with version := some value }
        | "milestone" => { r with milestone := some value }
        | _ => r)
  | _ => .ok r

/-- Goes on with the next part of the document. -/
def next (r : Reading) : Xml.Token → Except Xml.Malformed Reading
  | .opening tag => do
    let r ← r.element tag
    return { r with
      openNames := tag.name :: r.openNames
      sawRoot := r.sawRoot || Xml.Tag.localName tag.name == "ids" }
  | .single tag => r.element tag
  | .closing name =>
    match r.openNames with
    | last :: openNames => if last = name then .ok { r with openNames } else .error .closing
    | [] => .error .closing
  | .text written => r.text written
  | .other => .ok r

/-- What has been read. -/
def summary (r : Reading) : DocumentSummary :=
  ⟨r.title, r.version, r.milestone, r.reversed.reverse⟩

end Reading

/-- Reads a document. Elements that are still open at its end do no harm. -/
def read (document : String) : Except Unreadable DocumentSummary :=
  let cs := match document.toList with
    | '\uFEFF' :: cs => cs
    | cs => cs
  match Xml.tokens cs >>= (·.foldlM Reading.next .start) with
  | .error e => .error (.malformed e)
  | .ok r => if r.sawRoot then .ok r.summary else .error .notIds

end DocumentSummary

end Eir
