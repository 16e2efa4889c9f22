import Eir.Specification
import Eir.Text.Affix

/-!
# Consolidation

Specifications of one group that select the same objects are merged into one,
which demands the union of what they demand and keeps all their identifiers.

Two specifications are alike when their applicability decodes to the same text
and has the same cardinality. Of each class of alike specifications those that
demand something are merged, if there are at least two; the merged one stands
where the first of them stood.
-/

namespace Eir

namespace Specification

/-- The specification demands something. -/
def isMergeable (s : Specification) : Bool := !s.requirement.isEmpty

/-- What alike specifications have in common. -/
def selection (s : Specification) : String × ApplicabilityCardinality :=
  (s.applicability.decode, s.cardinality)

/-- The description without the label in it. -/
def unlabelled (label : String) (s : Specification) : String :=
  Text.eraseFirst (label ++ " ") s.description

/-- The instructions behind the identifier. -/
def attributedInstructions (s : Specification) : Option String :=
  (s.instructions.filter (· ≠ "")).map fun text => s.identifier ++ ": " ++ text

/-- Merges `first :: rest`, which are in the order of their identifiers. -/
def merge (first : Specification) (rest : List Specification) : Specification :=
  let specs := first :: rest
  let last := specs.getLast (by simp [specs])
  let label := first.applicability.name
  let description := label ++ " " ++ ", and ".intercalate (specs.map (unlabelled label))
  let instructions := specs.filterMap attributedInstructions
  let entries := specs.flatMap fun s => s.requirement.entries
  { identifier := ",".intercalate (specs.map (·.identifier))
    name := first.identifier ++ "-" ++ last.identifier ++ ": " ++ label ++ " (" ++
      Text.decimal specs.length ++ " requirements)"
    description
    instructions := if instructions.isEmpty then none else some (". ".intercalate instructions)
    applicability := first.applicability
    cardinality := first.cardinality
    requirement := entries.foldl (fun g (f, c) => g.pushUnique f c) (.empty label description)
    dialects := (DialectSet.ofList (specs.flatMap (·.dialects))).toList }

/-- Merges specifications in any order; nothing comes of none. -/
def mergeAll (specs : List Specification) : Option Specification :=
  match specs.mergeSort fun s t => decide (s.identifier ≤ t.identifier) with
  | [] => none
  | first :: rest => some (merge first rest)

end Specification

namespace Consolidation

/-- A specification with the text that its applicability decodes to. -/
structure Keyed where
  spec : Specification
  key : String × ApplicabilityCardinality

/-- The members of the class of `key` that demand something, in order. -/
def mergeable (items : List Keyed) (key : String × ApplicabilityCardinality) :
    List Specification :=
  (items.filter fun i => i.spec.isMergeable && i.key == key).map (·.spec)

/-- Walks over the items: each class is replaced where its first mergeable member stands.
`seen` holds the classes that were replaced before. -/
def walk (all : List Keyed) (seen : List (String × ApplicabilityCardinality)) :
    List Keyed → Nat × List Specification
  | [] => (0, [])
  | i :: rest =>
    if i.spec.isMergeable then
      if seen.contains i.key then walk all seen rest
      else
        let members := mergeable all i.key
        match if 2 ≤ members.length then Specification.mergeAll members else none with
        | some merged =>
          let (n, out) := walk all (i.key :: seen) rest
          (n + 1, merged :: out)
        | none =>
          let (n, out) := walk all seen rest
          (n, i.spec :: out)
    else
      let (n, out) := walk all seen rest
      (n, i.spec :: out)

end Consolidation

/-- Merges the alike specifications of a list. Gives the number of merged ones beside the
list. -/
def consolidate (specs : List Specification) : Nat × List Specification :=
  let items := specs.map fun s => Consolidation.Keyed.mk s s.selection
  Consolidation.walk items [] items

namespace SpecGroup

/-- The group with its alike specifications merged, and the number of merged ones. -/
def consolidated (g : SpecGroup) : Nat × SpecGroup :=
  let (n, specs) := consolidate g.specifications
  (n, { g with specifications := specs })

end SpecGroup

end Eir
