import Eir.FacetGroup
import Eir.Stage

/-!
# Scopes

Rules are compiled in a tree of scopes, the sections of the rulebook. A scope
numbers the rules and scopes in it and says in which stages and passes they
apply. Its slots are numbered from 1, unless a slot is given a name.
-/

namespace Eir

/-- Where the rules of a scope are collected. -/
inductive Collection where
  /-- With those of the scope around it. -/
  | around
  /-- In a group of its own, which is made when the first rule comes. -/
  | own (slot : Option Nat)
  deriving DecidableEq, Repr

/-- An open scope. -/
structure Scope where
  /-- The identifier of the scope itself. -/
  ident : String
  /-- The identifiers of the scope and of those around it, separated by slashes. -/
  fullPrefix : String
  /-- The last slot that was used. -/
  section_ : Nat
  /-- The name of the next slot, if it is not to be numbered. -/
  pendingName : String
  tag : String
  stages : StageWindow
  passes : PassSet
  applicability : ApplicabilityCardinality
  requirement : RequirementCardinality
  /-- The names of rules begin with their identifier. -/
  prefixNames : Bool
  collection : Collection
  deriving DecidableEq, Repr

namespace Scope

/-- The scope around all others. Its group is there from the start. -/
def root : Scope where
  ident := ""
  fullPrefix := ""
  section_ := 0
  pendingName := ""
  tag := ""
  stages := .all
  passes := .coreOnly
  applicability := .optional
  requirement := .expected
  prefixNames := true
  collection := .own (some 0)

/-- The name or the number of the current slot. -/
def slotText (s : Scope) : String :=
  if s.pendingName = "" then Text.zeroPadded 2 s.section_ else s.pendingName

/-- The identifier of the current slot. -/
def identifier (s : Scope) : String :=
  if s.ident = "" then s.slotText else s.ident ++ "_" ++ s.slotText

/-- The scope has a group of its own. -/
def ownsGroup (s : Scope) : Bool := s.collection != .around

/-- Uses the next slot. A name that waits for it is used up. -/
def advance (s : Scope) : String × Scope :=
  let s := { s with section_ := s.section_ + 1 }
  (s.identifier, { s with pendingName := "" })

/-- Opens a scope in the next slot, which has the name if it is not empty. Gives the scope
and what becomes of this one. -/
def openChild (s : Scope) (name : String) (collection : Collection) : Scope × Scope :=
  let (identifier, s) := { s with pendingName := name }.advance
  let fullPrefix := if s.fullPrefix = "" then identifier else s.fullPrefix ++ "/" ++ identifier
  ({ s with ident := identifier, fullPrefix, section_ := 0, pendingName := "", collection }, s)

end Scope

end Eir
