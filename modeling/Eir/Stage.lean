import Eir.Json.Codec
import Eir.Text.Blank
import Eir.Text.Digits

/-!
# Stages and passes

The seven stages of a building project, and the windows of stages in which a
rule applies. Rules are compiled for one stage at a time.

The naming rules of single types run to hundreds and are published apart from
the rest: the core pass and the complex pass. A rule belongs to a set of passes,
and a compilation emits the rules whose set meets its own.
-/

namespace Eir

/-! ## Stages -/

/-- A stage of the plan of work. -/
inductive Stage where
  | stage1 | stage2 | stage3 | stage4 | stage5 | stage6 | stage7
  deriving DecidableEq, Repr, Inhabited

namespace Stage

/-- Every stage, in order. -/
def all : List Stage := [stage1, stage2, stage3, stage4, stage5, stage6, stage7]

def number : Stage → Nat
  | stage1 => 1
  | stage2 => 2
  | stage3 => 3
  | stage4 => 4
  | stage5 => 5
  | stage6 => 6
  | stage7 => 7

/-- The name used in files and settings, `Stage3`. -/
def name (s : Stage) : String := "Stage" ++ Text.decimal s.number

/-- The name used in running text, `Stage 3`. -/
def shortDescription (s : Stage) : String := "Stage " ++ Text.decimal s.number

/-- The milestone that a stage ends with. -/
def description : Stage → String
  | stage1 => "RIBA Stage 1: Preparation and Brief"
  | stage2 => "RIBA Stage 2: Concept Design"
  | stage3 => "RIBA Stage 3: Spatial Coordination"
  | stage4 => "RIBA Stage 4: Technical Design"
  | stage5 => "RIBA Stage 5: Construction and Manufacturing"
  | stage6 => "RIBA Stage 6: Handover and Close Out"
  | stage7 => "RIBA Stage 7: Use"

/-- Rules can be compiled for every stage before the use of the building. -/
def isTarget (s : Stage) : Bool := s != stage7

/-- The stage of that name. -/
def ofName? (text : String) : Option Stage := all.find? fun s => s.name == text

instance : Json.Encode Stage := ⟨fun s => .str s.name⟩
instance : Json.Decode Stage := ⟨Json.constant? false ofName?⟩

end Stage

/-- A set of stages: bit `n` stands for stage `n`. -/
structure StageWindow where
  mask : BitVec 8
  deriving DecidableEq, Repr

namespace StageWindow

/-- The window that the low bits of `n` describe; bits of no stage are dropped. -/
def ofBits (n : Nat) : StageWindow := ⟨BitVec.ofNat 8 n &&& 0xFE⟩

def bits (w : StageWindow) : Nat := w.mask.toNat

/-- The window of one stage. -/
def single (s : Stage) : StageWindow := ⟨1 <<< s.number⟩

/-- The window of a stage and of all after it. -/
def starting (s : Stage) : StageWindow := ⟨0xFF <<< s.number⟩

/-- The stages of either window. -/
def union (a b : StageWindow) : StageWindow := ⟨a.mask ||| b.mask⟩

/-- The window of all stages, in which a rule applies unless its scope says otherwise. -/
def all : StageWindow := starting .stage1

instance : Inhabited StageWindow := ⟨all⟩

/-- The window contains the stage. -/
def includes (w : StageWindow) (s : Stage) : Bool := w.mask.getLsbD s.number

end StageWindow

/-! ## Passes -/

/-- A set of passes. -/
structure PassSet where
  core : Bool
  complex : Bool
  deriving DecidableEq, Repr

namespace PassSet

def none : PassSet := ⟨false, false⟩
def coreOnly : PassSet := ⟨true, false⟩
def complexOnly : PassSet := ⟨false, true⟩
def all : PassSet := ⟨true, true⟩

/-- A rule belongs to the core pass unless its scope says otherwise. -/
instance : Inhabited PassSet := ⟨coreOnly⟩

/-- Bit 1 stands for the core pass and bit 2 for the complex pass. -/
def bits (p : PassSet) : Nat := (if p.core then 2 else 0) + if p.complex then 4 else 0

/-- The set that bits 1 and 2 of `n` describe. -/
def ofBits (n : Nat) : PassSet := ⟨n.testBit 1, n.testBit 2⟩

/-- Some pass is in both sets. -/
def meets (p q : PassSet) : Bool := (p.core && q.core) || (p.complex && q.complex)

/-- The ending of the name of a bundle's file. -/
def fileSuffix : PassSet → String
  | ⟨true, false⟩ => "-Core"
  | ⟨false, true⟩ => "-Naming"
  | _ => ""

def label : PassSet → String
  | ⟨true, false⟩ => "Core"
  | ⟨false, true⟩ => "Complex"
  | ⟨true, true⟩ => "All"
  | ⟨false, false⟩ => "None"

/-- Reads a label, whatever its case and the blanks around it. -/
def ofLabel? (text : String) : Option PassSet :=
  match (Text.trim text).toLower with
  | "core" => some coreOnly
  | "complex" => some complexOnly
  | "naming" => some complexOnly
  | "all" => some all
  | _ => Option.none

end PassSet

end Eir
