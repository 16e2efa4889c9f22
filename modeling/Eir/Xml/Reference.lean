import Eir.Text.Digits

/-!
# Character references

The characters that have a meaning in markup are written as references: `&lt;`
for `<`. Reading knows the five named references and those by number, and
refuses everything else between an ampersand and a semicolon.
-/

namespace Eir.Xml

/-- A character as it is written in text and in the values of attributes. -/
def escapeChar (c : Char) : List Char :=
  if c = '<' then ['&', 'l', 't', ';']
  else if c = '>' then ['&', 'g', 't', ';']
  else if c = '&' then ['&', 'a', 'm', 'p', ';']
  else if c = '\x27' then ['&', 'a', 'p', 'o', 's', ';']
  else if c = '"' then ['&', 'q', 'u', 'o', 't', ';']
  else [c]

/-- Characters as they are written. -/
def escapeChars (cs : List Char) : List Char := cs.flatMap escapeChar

/-- A text as it is written. -/
def escape (s : String) : String := String.ofList (escapeChars s.toList)

/-- The character with a number. There is none with the number 0. -/
def character? (n : Nat) : Option Char :=
  if h : n.isValidChar ∧ n ≠ 0 then some (Char.ofNatAux n h.1) else none

/-- The character that a reference stands for; `name` is what stands between the ampersand and
the semicolon. -/
def referent? (name : List Char) : Option Char :=
  match name with
  | ['l', 't'] => some '<'
  | ['g', 't'] => some '>'
  | ['a', 'm', 'p'] => some '&'
  | ['a', 'p', 'o', 's'] => some '\x27'
  | ['q', 'u', 'o', 't'] => some '"'
  | '#' :: 'x' :: digits => (Text.number? 16 digits).bind character?
  | '#' :: digits => (Text.number? 10 digits).bind character?
  | _ => none

/-- Reads written characters, with what has been read of a reference, the last character
first. -/
def unescapeFrom : Option (List Char) → List Char → Option (List Char)
  | none, [] => some []
  | some _, [] => none
  | none, c :: cs =>
    if c = '&' then unescapeFrom (some []) cs else (unescapeFrom none cs).map (c :: ·)
  | some name, c :: cs =>
    if c = ';' then
      match referent? name.reverse with
      | some x => (unescapeFrom none cs).map (x :: ·)
      | none => none
    else unescapeFrom (some (c :: name)) cs

/-- Reads written characters. -/
def unescapeChars? (cs : List Char) : Option (List Char) := unescapeFrom none cs

theorem unescapeFrom_escapeChar (c : Char) (cs : List Char) :
    unescapeFrom none (escapeChar c ++ cs) = (unescapeFrom none cs).map (c :: ·) := by
  unfold escapeChar
  split
  · subst_vars; rfl
  split
  · subst_vars; rfl
  split
  · subst_vars; rfl
  split
  · subst_vars; rfl
  split
  · subst_vars; rfl
  · rename_i h _ _
    simp [unescapeFrom, h]

/-- Reading gives back what was written. -/
theorem unescapeChars?_escapeChars (cs : List Char) :
    unescapeChars? (escapeChars cs) = some cs := by
  unfold unescapeChars? escapeChars
  induction cs with
  | nil => rfl
  | cons c cs ih => rw [List.flatMap_cons, unescapeFrom_escapeChar, ih]; rfl

end Eir.Xml
