import Eir.Json.Codec

/-!
# Schema dialects

The releases of the building schema that a rule or an entity type is valid in,
and sets of them.
-/

namespace Eir

/-- A release of the schema, older ones first. -/
inductive Dialect where
  | ifc2x3 | ifc4 | ifc4x3
  deriving DecidableEq, Repr, Inhabited, Hashable

namespace Dialect

/-- Every dialect, in order. -/
def all : List Dialect := [ifc2x3, ifc4, ifc4x3]

def name : Dialect → String
  | ifc2x3 => "IFC2X3"
  | ifc4 => "IFC4"
  | ifc4x3 => "IFC4X3"

/-- The dialect of that name. -/
def ofName? (text : String) : Option Dialect := all.find? fun d => d.name == text

instance : Json.Encode Dialect := ⟨fun d => .str d.name⟩
instance : Json.Decode Dialect := ⟨Json.constant? false ofName?⟩

end Dialect

/-- A set of dialects. -/
structure DialectSet where
  ifc2x3 : Bool
  ifc4 : Bool
  ifc4x3 : Bool
  deriving DecidableEq, Repr

namespace DialectSet

def none : DialectSet := ⟨false, false, false⟩
def all : DialectSet := ⟨true, true, true⟩

instance : Inhabited DialectSet := ⟨none⟩

/-- The set contains the dialect. -/
def supports (s : DialectSet) : Dialect → Bool
  | .ifc2x3 => s.ifc2x3
  | .ifc4 => s.ifc4
  | .ifc4x3 => s.ifc4x3

/-- The set of the dialects that satisfy `p`. -/
def ofPred (p : Dialect → Bool) : DialectSet := ⟨p .ifc2x3, p .ifc4, p .ifc4x3⟩

def ofList (ds : List Dialect) : DialectSet := ofPred fun d => ds.contains d

def union (s t : DialectSet) : DialectSet := ofPred fun d => s.supports d || t.supports d

def inter (s t : DialectSet) : DialectSet := ofPred fun d => s.supports d && t.supports d

/-- The members, older ones first. -/
def toList (s : DialectSet) : List Dialect := Dialect.all.filter s.supports

/-- Bits 0, 1 and 2 stand for the dialects in order. -/
def bits (s : DialectSet) : Nat :=
  (if s.ifc2x3 then 1 else 0) + (if s.ifc4 then 2 else 0) + if s.ifc4x3 then 4 else 0

@[simp] theorem supports_ofPred (p : Dialect → Bool) (d : Dialect) :
    (ofPred p).supports d = p d := by
  cases d <;> rfl

theorem mem_toList {s : DialectSet} {d : Dialect} : d ∈ s.toList ↔ s.supports d = true := by
  cases d <;> simp [toList, Dialect.all]

end DialectSet

end Eir
