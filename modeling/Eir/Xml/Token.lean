import Eir.Text.Affix
import Eir.Text.Blank
import Eir.Xml.Reference

/-!
# Tokens

A document is read as a list of tags and of the texts between them. Comments,
unparsed sections, instructions and the document type hold nothing of interest;
they only part texts. The attributes of a tag stay unread until one is asked
for.
-/

namespace Eir.Xml

/-- Why a text is no document. -/
inductive Malformed where
  /-- A tag without an end. -/
  | tag
  /-- What begins with `<!` or `<?` and is nothing known, or has no end. -/
  | declaration
  /-- A closing tag that does not belong to the last element opened. -/
  | closing
  /-- What follows the name of a tag is no attribute. -/
  | attr
  /-- A reference to no character. -/
  | reference
  deriving DecidableEq, Repr, Inhabited

/-- A blank of markup. -/
def isBlank (c : Char) : Bool := c = ' ' || c = '\t' || c = '\n' || c = '\r'

/-- A quotation mark around the value of an attribute. -/
def isQuote (c : Char) : Bool := c = '"' || c = '\x27'

/-- The content of a tag: its name, and what follows it. -/
structure Tag where
  name : List Char
  rest : List Char
  deriving DecidableEq, Repr, Inhabited

namespace Tag

/-- The name of a tag ends at the first blank. -/
def ofContent (cs : List Char) : Tag :=
  ⟨cs.takeWhile (!isBlank ·), cs.dropWhile (!isBlank ·)⟩

/-- What follows the first colon of a name; all of it if there is none. -/
def localName (name : List Char) : String :=
  String.ofList (((Text.cutAround? [':'] name).map (·.2)).getD name)

end Tag

/-- A part of a document. -/
inductive Token where
  /-- Text between two tags, without the blanks around it. -/
  | text (written : List Char)
  | opening (tag : Tag)
  /-- A tag that opens an element and closes it. -/
  | single (tag : Tag)
  | closing (name : List Char)
  /-- Something of no interest. -/
  | other
  deriving DecidableEq, Repr, Inhabited

/-- Cuts at the bracket that ends a tag. `quote` is the quotation mark that is open. -/
def cutTag : Option Char → List Char → Option (List Char × List Char)
  | _, [] => none
  | none, c :: cs =>
    if c = '>' then some ([], cs)
    else (cutTag (if isQuote c then some c else none) cs).map fun (l, r) => (c :: l, r)
  | some quote, c :: cs =>
    (cutTag (if c = quote then none else some quote) cs).map fun (l, r) => (c :: l, r)

/-- Cuts at the bracket that belongs to one before the text, with `depth` more open. -/
def cutBalanced : Nat → List Char → Option (List Char × List Char)
  | _, [] => none
  | depth, c :: cs =>
    if c = '>' then
      match depth with
      | 0 => some ([], cs)
      | depth + 1 => (cutBalanced depth cs).map fun (l, r) => (c :: l, r)
    else
      (cutBalanced (if c = '<' then depth + 1 else depth) cs).map fun (l, r) => (c :: l, r)

/-- What follows the end of a comment, of an unparsed section or of a document type; `cs` is
what follows `<!`. -/
def afterDeclaration? (cs : List Char) : Option (List Char) :=
  match cs with
  | '-' :: '-' :: cs => (Text.cutAround? ['-', '-', '>'] cs).map (·.2)
  | '[' :: 'C' :: 'D' :: 'A' :: 'T' :: 'A' :: '[' :: cs =>
    (Text.cutAround? [']', ']', '>'] cs).map (·.2)
  | cs =>
    if (cs.take 7).map Char.toLower = ['d', 'o', 'c', 't', 'y', 'p', 'e'] then
      match cutBalanced 0 (cs.drop 7) with
      | some (name, rest) => if name.all isBlank then none else some rest
      | none => none
    else none

/-- What follows the end of an instruction; `cs` is what follows `<?`. -/
def afterInstruction? (cs : List Char) : Option (List Char) :=
  match cs with
  | '>' :: _ => none
  | cs => (Text.cutAround? ['?', '>'] cs).map (·.2)

/-- The name in a closing tag, without the blanks behind it. -/
def closingName (content : List Char) : List Char :=
  let name := Text.dropEndWhile isBlank content
  if name.isEmpty then content else name

/-- Cuts off the tag that begins a text; `cs` is what follows its `<`. -/
def cutMarkup (cs : List Char) : Except Malformed (Token × List Char) :=
  match cs with
  | '!' :: cs =>
    match afterDeclaration? cs with
    | some rest => .ok (.other, rest)
    | none => .error .declaration
  | '?' :: cs =>
    match afterInstruction? cs with
    | some rest => .ok (.other, rest)
    | none => .error .declaration
  | '/' :: cs =>
    match cutTag none cs with
    | some (content, rest) => .ok (.closing (closingName content), rest)
    | none => .error .tag
  | cs =>
    match cutTag none cs with
    | some (content, rest) =>
      match content.getLast? with
      | some '/' => .ok (.single (.ofContent content.dropLast), rest)
      | _ => .ok (.opening (.ofContent content), rest)
    | none => .error .tag

/-- The text without the blanks around it; nothing if that is all there is. -/
def textToken (cs : List Char) : Token :=
  match Text.dropEndWhile isBlank (cs.dropWhile isBlank) with
  | [] => .other
  | written => .text written

theorem length_cutAround? {mid cs l r : List Char} (h : Text.cutAround? mid cs = some (l, r)) :
    cs.length = l.length + mid.length + r.length := by
  induction cs generalizing l r with
  | nil =>
    simp only [Text.cutAround?] at h
    split at h
    · cases mid <;> simp_all
    · cases h
  | cons c cs ih =>
    simp only [Text.cutAround?] at h
    split at h
    · rename_i rest hp
      have := Text.length_of_isPrefixOf? hp
      simp only [Option.some.injEq, Prod.mk.injEq] at h
      obtain ⟨rfl, rfl⟩ := h
      simp only [List.length_cons, List.length_nil] at *
      omega
    · simp only [Option.map_eq_some_iff, Prod.exists, Prod.mk.injEq] at h
      obtain ⟨l', r', h', rfl, rfl⟩ := h
      have := ih h'
      simp only [List.length_cons]
      omega

theorem length_cutTag {q : Option Char} {cs l r : List Char} (h : cutTag q cs = some (l, r)) :
    r.length < cs.length := by
  induction cs generalizing q l r with
  | nil => cases q <;> simp [cutTag] at h
  | cons c cs ih =>
    cases q with
    | none =>
      simp only [cutTag] at h
      split at h
      · simp only [Option.some.injEq, Prod.mk.injEq] at h
        obtain ⟨-, rfl⟩ := h
        simp
      · simp only [Option.map_eq_some_iff, Prod.exists, Prod.mk.injEq] at h
        obtain ⟨l', r', h', -, rfl⟩ := h
        have := ih h'
        simp only [List.length_cons]
        omega
    | some _ =>
      simp only [cutTag, Option.map_eq_some_iff, Prod.exists, Prod.mk.injEq] at h
      obtain ⟨l', r', h', -, rfl⟩ := h
      have := ih h'
      simp only [List.length_cons]
      omega

theorem length_cutBalanced {n : Nat} {cs l r : List Char} (h : cutBalanced n cs = some (l, r)) :
    r.length < cs.length := by
  induction cs generalizing n l r with
  | nil => simp [cutBalanced] at h
  | cons c cs ih =>
    have step {m : Nat} (h : (cutBalanced m cs).map (fun p => (c :: p.1, p.2)) = some (l, r)) :
        r.length < (c :: cs).length := by
      simp only [Option.map_eq_some_iff, Prod.exists, Prod.mk.injEq] at h
      obtain ⟨l', r', h', -, rfl⟩ := h
      have := ih h'
      simp only [List.length_cons]
      omega
    simp only [cutBalanced] at h
    split at h
    · cases n with
      | zero =>
        simp only [Option.some.injEq, Prod.mk.injEq] at h
        obtain ⟨-, rfl⟩ := h
        simp
      | succ n => exact step h
    · exact step h

theorem length_afterDeclaration? {cs rest : List Char} (h : afterDeclaration? cs = some rest) :
    rest.length ≤ cs.length := by
  unfold afterDeclaration? at h
  split at h
  · simp only [Option.map_eq_some_iff, Prod.exists] at h
    obtain ⟨l, r, h, rfl⟩ := h
    have := length_cutAround? h
    simp only [List.length_cons]
    omega
  · simp only [Option.map_eq_some_iff, Prod.exists] at h
    obtain ⟨l, r, h, rfl⟩ := h
    have := length_cutAround? h
    simp only [List.length_cons]
    omega
  · split at h
    · split at h
      · rename_i hb
        split at h
        · cases h
        · cases h
          have := length_cutBalanced hb
          simp only [List.length_drop] at this
          omega
      · cases h
    · cases h

theorem length_afterInstruction? {cs rest : List Char} (h : afterInstruction? cs = some rest) :
    rest.length ≤ cs.length := by
  unfold afterInstruction? at h
  split at h
  · cases h
  · simp only [Option.map_eq_some_iff, Prod.exists] at h
    obtain ⟨l, r, h, rfl⟩ := h
    have := length_cutAround? h
    omega

theorem length_cutMarkup {cs rest : List Char} {t : Token} (h : cutMarkup cs = .ok (t, rest)) :
    rest.length ≤ cs.length := by
  unfold cutMarkup at h
  split at h
  · split at h <;> cases h
    rename_i h
    exact Nat.le_succ_of_le (length_afterDeclaration? h)
  · split at h <;> cases h
    rename_i h
    exact Nat.le_succ_of_le (length_afterInstruction? h)
  · split at h <;> cases h
    rename_i h
    exact Nat.le_succ_of_le (Nat.le_of_lt (length_cutTag h))
  · split at h
    · rename_i h'
      split at h <;> cases h <;> exact Nat.le_of_lt (length_cutTag h')
    · cases h

/-- Cuts a document into its parts, behind those that have been `seen`, the last one first. -/
def tokensAfter (seen : List Token) (cs : List Char) : Except Malformed (List Token) :=
  match cs with
  | [] => .ok seen.reverse
  | '<' :: cs =>
    match _h : cutMarkup cs with
    | .ok (t, rest) => tokensAfter (t :: seen) rest
    | .error e => .error e
  | c :: cs =>
    tokensAfter (textToken (c :: cs.takeWhile (· ≠ '<')) :: seen) (cs.dropWhile (· ≠ '<'))
termination_by cs.length
decreasing_by
  · have := length_cutMarkup _h
    simp only [List.length_cons]
    omega
  · have := (List.dropWhile_sublist (· ≠ '<') (l := cs)).length_le
    simp only [List.length_cons]
    omega

/-- Cuts a document into its parts. -/
def tokens (cs : List Char) : Except Malformed (List Token) := tokensAfter [] cs

end Eir.Xml
