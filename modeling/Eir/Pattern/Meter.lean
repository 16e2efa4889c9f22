/-!
# The meter of an automaton

What the states of an automaton take of the memory that it may take, and a table
in which states can be found again. The table has a limited number of places: of
keys that fall on the same place it knows only the last one.
-/

namespace Eir.Pattern

/-- How much memory an automaton may take. -/
def memoryLimit : Nat := 10 * 1024 * 1024

/-- The memory of a state. -/
def stateBytes : Nat := 32

/-- The memory of a way out of a state that is taken on a range of bytes. -/
def transitionBytes : Nat := 8

/-- The memory of a way out of a state that takes no byte. -/
def branchBytes : Nat := 4

/-- How many states an automaton has, and the memory that they take. A state is numbered by how
many there are before it. -/
structure Meter where
  states : Nat
  bytes : Nat
  deriving Repr, DecidableEq, Inhabited

namespace Meter

def zero : Meter := ⟨0, 0⟩

/-- One more state, with memory for the ways out of it. -/
def state (m : Meter) (ways : Nat) : Meter := ⟨m.states + 1, m.bytes + stateBytes + ways⟩

/-- More states, each with at most one way out. -/
def plain (m : Meter) (count : Nat) : Meter := ⟨m.states + count, m.bytes + stateBytes * count⟩

/-- A state with two ways out that take no byte. -/
def fork (m : Meter) : Meter := m.state (2 * branchBytes)

/-- One more way out of a state that takes no byte. -/
def branch (m : Meter) : Meter := { m with bytes := m.bytes + branchBytes }

/-- No more memory is taken than may be. -/
def fits (m : Meter) : Bool := m.bytes ≤ memoryLimit

/-- Charges the same again and again, as long as memory is left. -/
def again (charge : Meter → Meter) : Nat → Meter → Meter
  | 0, m => m
  | n + 1, m => if m.fits then again charge n (charge m) else m

end Meter

/-- States by keys, in a limited number of places. -/
structure Recent where
  places : Array (Option (List Nat × Nat))

namespace Recent

/-- A table with nothing in its places. -/
def empty (size : Nat) : Recent := ⟨Array.replicate size none⟩

/-- A number for a key: each of its parts is mixed in and spread by a prime. -/
def hash (key : List Nat) : UInt64 :=
  key.foldl (fun h x => (h ^^^ x.toUInt64) * 1099511628211) 14695981039346656037

/-- The place of a key. -/
def place (t : Recent) (key : List Nat) : Nat := (hash key).toNat % t.places.size

/-- The state of a key, if it is the last one on its place. -/
def find? (t : Recent) (key : List Nat) : Option Nat :=
  match t.places.getD (t.place key) none with
  | some (k, state) => if k == key then some state else none
  | none => none

/-- Puts a state on the place of its key. -/
def put (t : Recent) (key : List Nat) (state : Nat) : Recent :=
  ⟨t.places.setIfInBounds (t.place key) (some (key, state))⟩

end Recent

end Eir.Pattern
