import Eir.Dialect
import Eir.Stage

/-!
# Faults

What can go wrong while rules are compiled or sample data is made, and the text
in which it is reported; and why a run failed, with what it was doing at the time.
-/

namespace Eir

/-- Why rules could not be compiled or samples not be made. -/
inductive Fault where
  /-- The schema has no entity type of that name in the dialect. -/
  | unsupportedType (name : String) (dialect : Dialect)
  /-- Rules cannot be compiled for this stage. -/
  | invalidTarget (stage : Stage)
  /-- The text is no pattern. -/
  | invalidPattern (pattern : String)
  /-- The table of entity types is not well-formed. -/
  | catalog (reason : String)
  /-- Sample data could not be put together. -/
  | fixture (reason : String)
  /-- The receiver of compiled rules refused them. -/
  | sink (reason : String)
  /-- A naming table has the wrong shape. -/
  | table
  deriving DecidableEq, Repr, Inhabited

namespace Fault

/-- The kind of the fault, in a word. -/
def kind : Fault → String
  | unsupportedType .. => "UnsupportedType"
  | invalidTarget _ => "InvalidTargetStage"
  | invalidPattern _ => "InvalidPattern"
  | catalog _ => "Catalog"
  | fixture _ => "Fixture"
  | sink _ => "Sink"
  | table => "Yaml"

/-- The text that reports the fault. -/
def message : Fault → String
  | unsupportedType name dialect => "unsupported entity type '" ++ name ++ "' in " ++ dialect.name
  | invalidTarget stage =>
    "invalid target stage " ++ stage.name ++
      ": target must be a single stage from Stage1 to Stage6"
  | invalidPattern pattern => "invalid pattern '" ++ pattern ++ "'"
  | catalog reason => "catalog error: " ++ reason
  | fixture reason => "fixture error: " ++ reason
  | sink reason => "output sink failed: " ++ reason
  | table => "yaml error"

end Fault

/-! ## Errors of a run -/

/-- A cause, and what was being done when it came up. -/
inductive RunError where
  | fault (f : Fault)
  | plain (text : String)
  /-- A document that cannot be read. -/
  | unreadable
  | during (activity : String) (cause : RunError)
  deriving DecidableEq, Repr, Inhabited

namespace RunError

/-- The cause lies in a document that cannot be read. -/
def isUnreadable : RunError → Bool
  | fault f => f == .table
  | plain _ => false
  | unreadable => true
  | during _ cause => cause.isUnreadable

/-- What was being done, the outermost first, and the cause. -/
def chain : RunError → List String
  | fault f => [f.message]
  | plain text => [text]
  | unreadable => []
  | during activity cause => activity :: cause.chain

/-- The whole text of the error. Of an unreadable document it says only what was done with
it. -/
def message (e : RunError) : String :=
  if e.isUnreadable then e.chain.headD "" else ": ".intercalate e.chain

end RunError

/-- Says what was being done when an error came up. -/
def during {α : Type} (activity : String) (x : Except RunError α) : Except RunError α :=
  x.mapError (.during activity)

/-- A fault as an error of a run. -/
def asRun {α : Type} (x : Except Fault α) : Except RunError α := x.mapError .fault

end Eir
