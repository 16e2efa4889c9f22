import Eir.Pattern.ByteSequence
import Eir.Pattern.Form
import Eir.Pattern.Meter

/-!
# The footprint of a pattern

The memory that the automata of a pattern take: the one that reads a text
forward, and the one that reads it backward. A pattern is refused if one of them
takes more than it may. A rough bound settles nearly all patterns.
-/

namespace Eir.Pattern

/-- The direction in which an automaton reads. -/
inductive Direction where
  | forward | backward
  deriving Repr, DecidableEq, Inhabited

namespace Meter

/-- Charges the states that read the sequences up to the state `target`, from their ends on; states
that lead to the same are shared as long as the table knows them. No sequence has more than
`length` ranges. Gives the state where the sequences begin, too. -/
def sharedEnds (target : Nat) :
    Nat → List (List ByteRange) → Meter → Recent → Nat × Meter × Recent
  | 0, _, m, t => (target, m, t)
  | length + 1, ss, m, t =>
    if ss.all List.isEmpty then (target, m, t)
    else
      let (ways, m, t) := (groupByFirst ss).foldl (fun (ways, m, t) (r, tails) =>
        let (next, m, t) := sharedEnds target length tails m t
        ([next, r.2, r.1] ++ ways, m, t)) (([] : List Nat), m, t)
      let key := ways.reverse
      match t.find? key with
      | some state => (state, m, t)
      | none => (m.states, m.state (transitionBytes * (key.length / 3)), t.put key m.states)

/-- Charges the states that read one sequence backward, behind the state `last`. -/
def sharedStart (last : Nat) : List ByteRange → Meter → Recent → Meter × Recent
  | [], m, t => (m, t)
  | (lo, hi) :: rest, m, t =>
    let key := [last, lo, hi]
    match t.find? key with
    | some state => sharedStart state rest m t
    | none => sharedStart m.states rest (m.plain 1) (t.put key m.states)

/-- Charges the states for a set of characters. -/
def chars (direction : Direction) (r : Ranges) (m : Meter) : Meter :=
  if r.toList.all fun (_, b) => b ≤ 0x7F then
    (m.plain 1).state (transitionBytes * r.toList.length)
  else
    match direction with
    | .forward => (sharedEnds m.states 4 r.byteSequences (m.plain 1) (.empty 10000)).2.1
    | .backward =>
      (r.byteSequences.foldl (fun (n, t) s =>
        let (n, t) := sharedStart (m.states + 1) s n t
        (n.branch, t)) (m.plain 2, Recent.empty 1000)).1

/-- Charges the states for a tree of words whose lengths are less than `fuel`, where the words that
go through a place are given. An end of a word divides the ways out of a place into those before
and those after it. -/
def tree (fuel : Nat) (words : List (List UInt8)) (m : Meter) : Meter :=
  match fuel with
  | 0 => m
  | fuel + 1 =>
    let words := match words with
      | [] :: rest => [] :: rest.dropWhile List.isEmpty
      | words => words
    let chunks := (words.splitOnP List.isEmpty).map byFirstLetter
    let filled := chunks.filter fun chunk => !chunk.isEmpty
    let m := filled.foldl (fun m chunk =>
      let m := chunk.foldl (fun m (_, rests) =>
        if rests.all List.isEmpty then m else tree fuel rests m) m
      m.state (if chunk.length == 1 then 0 else transitionBytes * chunk.length)) m
    m.state (branchBytes * (filled.length + chunks.length - 1))
where
  /-- Sorts words by their first letter, which each of them loses. -/
  byFirstLetter (words : List (List UInt8)) : List (UInt8 × List (List UInt8)) :=
    words.foldl (fun groups word => match word with
      | [] => groups
      | b :: rest =>
        match groups.findIdx? fun group => group.1 == b with
        | some i => groups.modify i fun group => (b, group.2 ++ [rest])
        | none => groups ++ [(b, [rest])]) []

end Meter

namespace Form

/-- The text of a literal. -/
def text? : Form → Option (List Char)
  | literal s => some s
  | _ => none

/-- The bytes of a text in the order in which they are read. -/
def bytesOf (direction : Direction) (text : List Char) : List UInt8 :=
  let bytes := text.flatMap String.utf8EncodeChar
  match direction with
  | .forward => bytes
  | .backward => bytes.reverse

mutual

/-- The length of the shortest text that matches, if one does. -/
def shortest? : Form → Option Nat
  | empty | look _ => some 0
  | nothing => none
  | literal s => some s.length
  | set _ => some 1
  | group f => f.shortest?
  | seq fs => sumOfShortest? fs
  | alt fs => leastShortest? fs
  | times f lo _ => f.shortest?.map (· * lo)

/-- The sum of the shortest lengths. -/
def sumOfShortest? : List Form → Option Nat
  | [] => some 0
  | f :: fs => do return (← f.shortest?) + (← sumOfShortest? fs)

/-- The least of the shortest lengths. -/
def leastShortest? : List Form → Option Nat
  | [] => none
  | [f] => f.shortest?
  | f :: fs => do return min (← f.shortest?) (← leastShortest? fs)

end

/-- Every match takes a character. -/
def takesSomething (f : Form) : Bool := f.shortest?.any (0 < ·)

mutual

/-- Charges the states for a form. -/
def charge (direction : Direction) : Form → Meter → Meter
  | empty, m | nothing, m | look _, m => m.plain 1
  | literal s, m => m.plain (bytesOf direction s).length
  | set r, m => m.chars direction r
  | group f, m => match direction with
    | .forward => (f.charge direction (m.plain 1)).plain 1
    | .backward => f.charge direction m
  | seq fs, m => chargeSeq direction fs m
  | alt fs, m =>
    match fs.mapM text? with
    | some texts =>
      let words := texts.map (bytesOf direction)
      (m.plain 1).tree (words.foldl (fun n w => max n w.length) 0 + 1) words
    | none => chargeAlt direction fs.length 0 fs m
  | times f lo hi, m =>
    let copies (n : Nat) (m : Meter) : Meter := m.again (charge direction f) n
    match lo, hi with
    | 0, none =>
      if f.takesSomething then f.charge direction m.fork
      else (f.charge direction m).fork.fork.plain 1
    | lo, none => (copies lo m).fork
    | 0, some 1 => (f.charge direction m.fork).plain 1
    | lo, some hi =>
      if lo == hi then copies lo m
      else
        let m := (if lo == 0 then m.plain 1 else copies lo m).plain 1
        m.again (fun m => f.charge direction m.fork) (hi - lo)

/-- Charges the states for a sequence, in the order in which it is read. -/
def chargeSeq (direction : Direction) : List Form → Meter → Meter
  | [], m => m
  | f :: fs, m => match direction with
    | .forward => chargeSeq direction fs (f.charge direction m)
    | .backward => f.charge direction (chargeSeq direction fs m)

/-- Charges the states for alternatives, of which there are `count`, behind the first `before`.
The states where they part and meet come behind the second one. -/
def chargeAlt (direction : Direction) (count before : Nat) : List Form → Meter → Meter
  | [], m => m
  | f :: fs, m =>
    let m := f.charge direction m
    let m := if before == 1 then (m.state (branchBytes * count)).plain 1 else m
    chargeAlt direction count (before + 1) fs m

end

end Form

/-- The test of the place where the reading begins. -/
def Direction.edge : Direction → Look
  | .forward => .textStart
  | .backward => .textEnd

namespace Node

/-- Every match is read from the edge of the text. -/
def startsAtEdge (direction : Direction) : Node → Bool
  | look l => l == direction.edge
  | group a => a.startsAtEdge direction
  | times a lo _ => 0 < lo && a.startsAtEdge direction
  | alt a b => a.startsAtEdge direction && b.startsAtEdge direction
  | seq a b =>
    let inA := a.startsAtEdge direction
    let inB := b.startsAtEdge direction
    match direction with
    | .forward => inA || (inB && a.takesNothing)
    | .backward => inB || (inA && b.takesNothing)
  | _ => false

/-- The memory of the automaton of a whole pattern. Unless a match is read from the edge of the
text, anything may be read before it. Forward, the automaton remembers where the match begins and
ends. -/
def footprint (direction : Direction) (n : Node) : Meter :=
  let m := if n.startsAtEdge direction then Meter.zero.plain 1
    else (Meter.zero.fork.plain 1).state transitionBytes
  match direction with
  | .forward => ((Form.ofNode n).charge direction (m.plain 1)).plain 2
  | .backward => ((Form.ofNode n).charge direction m).plain 1

end Node

/-- A bound on the memory for a set that is simple enough to have one. -/
def CharSet.roughBytes? : CharSet → Option Nat
  | range a b => some (if a == b then 512 else 4096)
  | digit | word | blank => some 65536
  | union s t => do return (← s.roughBytes?) + (← t.roughBytes?)
  | empty => some stateBytes
  | _ => none

/-- A bound on the memory for a pattern, if all its sets are simple enough. -/
def Node.roughBytes? : Node → Option Nat
  | empty | look _ => some stateBytes
  | chars s => s.roughBytes?
  | seq a b => do return (← a.roughBytes?) + (← b.roughBytes?)
  | alt a b => do return (← a.roughBytes?) + (← b.roughBytes?) + 4 * stateBytes
  | times a lo hi => do return (max lo (hi.getD 1) + 1) * ((← a.roughBytes?) + 4 * stateBytes)
  | group a => do return (← a.roughBytes?) + 2 * stateBytes

/-- No automaton of the pattern takes more memory than it may. -/
def Node.fits (n : Node) : Bool :=
  n.roughBytes?.any (· + 8 * stateBytes ≤ memoryLimit) ||
    [Direction.forward, .backward].all fun direction => (n.footprint direction).fits

end Eir.Pattern
