import Eir.Digest.Blake3
import Eir.Digest.NameId
import Eir.Fault
import Eir.Json.Printer
import Eir.Specification

/-!
# Bundle documents

A bundle as it is published beside the exchanged document, with identifiers made
from names and a fingerprint of the content. The fingerprint leaves out the dates
of issue and the versions, which hold a date too: a rulebook that has not changed
has the same fingerprint on every day.
-/

namespace Eir

namespace Bundle

/-- The bundle without dates of issue and versions. -/
def undated (b : Bundle) : Bundle :=
  { b with groups := b.groups.map fun g =>
      { g with metadata := { g.metadata with date := none, version := "" } } }

/-- The text that the fingerprint is taken of. -/
def canonicalText (b : Bundle) : String := (Json.encode b.undated).sorted.compact

/-- A fingerprint of the content. -/
def fingerprint (b : Bundle) : String := Digest.Blake3.hashText b.canonicalText

end Bundle

/-- The space of the names of bundles and groups. -/
def bundleSpace : Uuid := .ofNat 0x2b7e51a08c3d4e19a6f20d94c1b87e35

/-- The identifier of a bundle or a group of that name. -/
def nameId (name : String) : Uuid := .ofName bundleSpace name

/-- A group in the table of contents. -/
structure GroupEntry where
  id : Uuid
  name : String
  /-- How many specifications the group has. -/
  specifications : Nat
  deriving DecidableEq, Repr, Inhabited

namespace GroupEntry

def of (g : SpecGroup) : GroupEntry := ⟨nameId g.name, g.name, g.specifications.length⟩

instance : Json.Encode GroupEntry where
  encode e := .obj [("id", Json.encode e.id), ("name", .str e.name),
    ("specifications", Json.encode e.specifications)]

instance : Json.Decode GroupEntry where
  decode? j := do
    let j ← j.record? ["id", "name", "specifications"]
    return {
      id := ← Json.required j "id"
      name := ← Json.required j "name"
      specifications := ← Json.required j "specifications" }

end GroupEntry

/-- A bundle with its table of contents. -/
structure BundleDocument where
  id : Uuid
  stage : Stage
  pass : String
  fingerprint : String
  groups : List GroupEntry
  bundle : Bundle
  deriving DecidableEq, Inhabited

namespace BundleDocument

/-- The document of a bundle. -/
def of (bundle : Bundle) (stage : Stage) (pass : String) : BundleDocument :=
  ⟨nameId bundle.name, stage, pass, bundle.fingerprint, bundle.groups.map GroupEntry.of, bundle⟩

/-- Checks the fingerprint and the numbers of specifications. -/
def verify (d : BundleDocument) : Except RunError Unit :=
  let computed := d.bundle.fingerprint
  let listed := d.groups.foldl (fun n g => n + g.specifications) 0
  let held := d.bundle.specifications.length
  if computed ≠ d.fingerprint then
    .error (.plain ("bundle " ++ d.bundle.name ++ " fingerprint mismatch: recorded " ++
      d.fingerprint ++ ", computed " ++ computed))
  else if listed ≠ held then
    .error (.plain ("bundle " ++ d.bundle.name ++ " lists " ++ Text.decimal listed ++
      " specifications but holds " ++ Text.decimal held))
  else .ok ()

instance : Json.Encode BundleDocument where
  encode d := .obj [("id", Json.encode d.id), ("stage", Json.encode d.stage),
    ("pass", .str d.pass), ("fingerprint", .str d.fingerprint),
    ("groups", Json.encode d.groups), ("bundle", Json.encode d.bundle)]

instance : Json.Decode BundleDocument where
  decode? j := do
    let j ← j.record? ["id", "stage", "pass", "fingerprint", "groups", "bundle"]
    return {
      id := ← Json.required j "id"
      stage := ← Json.required j "stage"
      pass := ← Json.required j "pass"
      fingerprint := ← Json.required j "fingerprint"
      groups := ← Json.required j "groups"
      bundle := ← Json.required j "bundle" }

end BundleDocument

end Eir
