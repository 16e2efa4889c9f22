import Eir.Pattern.Basic

/-!
# The normal form of a pattern

What an automaton is made from: characters one after the other are one literal,
alternatives of single characters or of sets are one set, and what all
alternatives begin with stands before them.
-/

namespace Eir.Pattern

/-- A pattern in normal form. -/
inductive Form where
  | empty
  /-- Matches no text. -/
  | nothing
  | literal (text : List Char)
  | set (r : Ranges)
  | look (l : Look)
  | group (f : Form)
  | seq (fs : List Form)
  | alt (fs : List Form)
  | times (f : Form) (min : Nat) (max : Option Nat)
  deriving BEq, Inhabited

namespace Form

/-- A set of characters; a single one is a literal. -/
def ofExtent (r : Ranges) : Form :=
  match r.toList with
  | [] => nothing
  | [(a, b)] => if a == b then literal [Char.ofNat a] else set r
  | _ => set r

/-- Puts a part in front of others. -/
def cons (f : Form) (fs : List Form) : List Form :=
  match f, fs with
  | empty, fs => fs
  | literal s, literal t :: fs => literal (s ++ t) :: fs
  | f, fs => f :: fs

/-- The parts of a sequence. -/
def parts : Form → List Form
  | seq fs => fs
  | f => [f]

/-- The parts one after the other. -/
def ofParts (fs : List Form) : Form :=
  match (fs.flatMap parts).foldr cons [] with
  | [] => empty
  | [f] => f
  | fs => seq fs

/-- The alternatives of a form. -/
def branches : Form → List Form
  | alt fs => fs
  | f => [f]

/-- The character of a literal that has just one. -/
def char? : Form → Option Char
  | literal [c] => some c
  | _ => none

/-- The characters of a set. -/
def extent? : Form → Option Ranges
  | set r => some r
  | nothing => some .empty
  | _ => none

/-- What two lists of parts begin with. -/
def commonParts : List Form → List Form → List Form
  | x :: xs, y :: ys => if x == y then x :: commonParts xs ys else []
  | _, _ => []

/-- What all sequences of a list begin with; nothing if one of the forms is no sequence. -/
def commonStart : List Form → List Form
  | seq fs :: rest => rest.foldl (fun common f => match f with
    | seq gs => commonParts common gs
    | _ => []) fs
  | _ => []

/-- One of several forms, without looking for a common start. -/
def ofBranches (fs : List Form) : Form :=
  match fs.mapM char?, fs.mapM extent? with
  | some cs, _ => ofExtent (.ofList (cs.map fun c => (c.toNat, c.toNat)))
  | none, some rs => ofExtent (.unionAll rs)
  | none, none => alt fs

/-- One of several forms. -/
def ofAlternatives (fs : List Form) : Form :=
  let fs := fs.flatMap branches
  match commonStart fs with
  | [] => ofBranches fs
  | common =>
    let rests := fs.map fun f => ofParts (f.parts.drop common.length)
    ofParts (common ++ [ofBranches (rests.flatMap branches)])

/-- A form repeated. -/
def ofTimes (f : Form) (lo : Nat) (hi : Option Nat) : Form :=
  match lo, hi with
  | 0, some 0 => empty
  | 1, some 1 => f
  | lo, hi => times f lo hi

mutual

/-- The normal form of a pattern. -/
def ofNode (n : Node) : Form :=
  match n with
  | .empty => empty
  | .chars s => ofExtent s.extent
  | .look l => look l
  | .seq a b => ofParts (nodeParts a (nodeParts b []))
  | .alt a b => ofAlternatives (ofNode a :: nodeBranches b)
  | .times a lo hi => ofTimes (ofNode a) lo hi
  | .group a => group (ofNode a)
termination_by (sizeOf n, 0)

/-- The forms of the parts of a sequence, in front of others. -/
def nodeParts (n : Node) (others : List Form) : List Form :=
  match n with
  | .seq a b => nodeParts a (nodeParts b others)
  | n => ofNode n :: others
termination_by (sizeOf n, 1)

/-- The forms of alternatives. -/
def nodeBranches (n : Node) : List Form :=
  match n with
  | .alt a b => ofNode a :: nodeBranches b
  | n => [ofNode n]
termination_by (sizeOf n, 1)

end

end Form

end Eir.Pattern
