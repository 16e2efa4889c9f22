import Eir.Fault
import Eir.Pattern.Footprint
import Eir.Pattern.Matching
import Eir.Pattern.Parser

/-!
# Matching a whole text

A pattern is put between the start and the end of the text before it is read, so
that the whole text has to match. What it reads as is decided after that: a
parenthesis in it can close the group around it. A pattern that would take too
much memory is refused.
-/

namespace Eir.Pattern

/-- The pattern between the start and the end of the text. -/
def anchored (pattern : String) : List Char :=
  "^(?:".toList ++ pattern.toList ++ ")$".toList

/-- A pattern that was read to match whole texts. -/
structure Compiled where
  node : Node

/-- Reads a pattern that has to match whole texts. -/
def compile (pattern : String) : Except Fault Compiled :=
  match parse? (anchored pattern) with
  | some node => if node.fits then .ok ⟨node⟩ else .error (.invalidPattern pattern)
  | none => .error (.invalidPattern pattern)

def Compiled.accepts (c : Compiled) (text : String) : Bool := c.node.occursIn text

/-- The whole text matches the pattern. -/
def fullMatch (pattern text : String) : Except Fault Bool :=
  (compile pattern).map fun c => c.accepts text

end Eir.Pattern
