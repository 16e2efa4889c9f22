import Eir.Pattern.Escape
import Eir.Pattern.FullMatch
import Eir.Proofs.Pattern.Language

/-!
# Reading what is written

How the pieces of a pattern read when they stand side by side: characters,
escapes, classes, groups and repetitions. `Reads` says so of a piece whatever
stands before and behind it, and goes over to pieces put together. A whole
pattern that is put between the start and the end of the text reads as
`Node.whole` of its parts (`parse?_anchored`).

A question mark behind a repetition belongs to it, so `Reads` says nothing of pieces in front of a question mark. What
can itself be repeated reads the same in front of anything (`ReadsAtom`).
-/

namespace Eir.Pattern

/-- Inside `outer` groups, the text reads as a part, whatever stands around it. -/
def ReadsAtom (outer : Nat) (w : List Char) (p : Part) : Prop :=
  ∀ fuel names alts parts rest, (w ++ rest).length < fuel → ∃ fuel', rest.length < fuel' ∧
    parseGroup? fuel .initial outer names alts parts (w ++ rest) =
      parseGroup? fuel' .initial outer names alts (p :: parts) rest

/-- Inside `outer` groups, the text reads as the parts, whatever stands around it. -/
structure Reads (outer : Nat) (w : List Char) (ps : List Part) : Prop where
  opens : w.head? ≠ some '?'
  read : ∀ fuel names alts parts rest, (w ++ rest).length < fuel → rest.head? ≠ some '?' →
    ∃ fuel', rest.length < fuel' ∧
      parseGroup? fuel .initial outer names alts parts (w ++ rest) =
        parseGroup? fuel' .initial outer names alts (ps.reverse ++ parts) rest

/-- Inside `outer` groups, the text up to a closing parenthesis reads as the alternatives. -/
def ReadsBody (outer : Nat) (w : List Char) (qs : List Part) : Prop :=
  ∀ fuel names alts rest, (w ++ ')' :: rest).length < fuel →
    parseGroup? fuel .initial outer names alts [] (w ++ ')' :: rest) =
      some ⟨.alternatives (qs.reverse ++ alts), names, ')' :: rest⟩

variable {outer : Nat} {u v w : List Char} {p : Part} {ps qs : List Part} {c : Char}

theorem ReadsAtom.reads (h : ReadsAtom outer w p) (hopens : w.head? ≠ some '?') :
    Reads outer w [p] :=
  ⟨hopens, fun fuel names alts parts rest hfuel _ => h fuel names alts parts rest hfuel⟩

theorem Reads.nil : Reads outer [] [] :=
  ⟨by simp, fun fuel _ _ _ _ hfuel _ => ⟨fuel, hfuel, rfl⟩⟩

theorem Reads.append (hu : Reads outer u ps) (hv : Reads outer v qs) :
    Reads outer (u ++ v) (ps ++ qs) := by
  have hopens (rest : List Char) (hrest : rest.head? ≠ some '?') :
      (v ++ rest).head? ≠ some '?' := by
    cases v with
    | nil => exact hrest
    | cons c v => exact hv.opens
  refine ⟨?_, fun fuel names alts parts rest hfuel hrest => ?_⟩
  · cases u with
    | nil => exact hv.opens
    | cons c u => exact hu.opens
  · rw [List.append_assoc] at hfuel ⊢
    obtain ⟨fuel', hfuel', hfirst⟩ := hu.read fuel names alts parts (v ++ rest) hfuel
      (hopens rest hrest)
    obtain ⟨fuel'', hfuel'', hsecond⟩ := hv.read fuel' names alts (ps.reverse ++ parts) rest hfuel'
      hrest
    exact ⟨fuel'', hfuel'', by rw [hfirst, hsecond, List.reverse_append, List.append_assoc]⟩

/-! ## Characters, escapes and classes -/

/-- The characters that do more than begin a part. -/
def isMark (c : Char) : Bool := [')', '|', '?', '*', '+', '\x7b', '('].contains c

/-- What begins with no mark is read as an atom. -/
theorem parseGroup?_atom {cs rest : List Char} {fuel : Nat} {names : List (List Char)}
    {alts parts : List Part} (hmark : isMark c = false)
    (hatom : atom? .initial (c :: cs) = some (p, rest)) :
    parseGroup? (fuel + 1) .initial outer names alts parts (c :: cs) =
      parseGroup? fuel .initial outer names alts (p :: parts) rest := by
  have hskip : skip .initial (c :: cs) = c :: cs := rfl
  rw [parseGroup?, hskip]
  split
  case h_1 h => cases h
  case h_9 => rw [hatom]
  all_goals
    rename_i h
    rw [(List.cons.inj h).1] at hmark
    exact absurd hmark (by decide)

theorem readsAtom_of_atom (hmark : isMark c = false)
    (hatom : ∀ rest, atom? .initial (c :: (w ++ rest)) = some (p, rest)) :
    ReadsAtom outer (c :: w) p := by
  intro fuel names alts parts rest hfuel
  cases fuel with
  | zero => exact absurd hfuel (Nat.not_lt_zero _)
  | succ fuel =>
    refine ⟨fuel, ?_, parseGroup?_atom hmark (hatom rest)⟩
    rw [List.length_append, List.length_cons] at hfuel
    omega

/-- The part that is just the character. -/
def Part.char (c : Char) : Part := .plain (.chars (.single c))

/-- A character without a meaning of its own. -/
def isPlain (c : Char) : Bool := !isMark c && !(['\\', '[', '.', '^', '$'].contains c)

theorem readsAtom_plain (h : isPlain c = true) : ReadsAtom outer [c] (.char c) := by
  rw [isPlain, Bool.and_eq_true, Bool.not_eq_true', Bool.not_eq_true'] at h
  refine readsAtom_of_atom h.1 fun rest => ?_
  have hatom := h.2
  rw [List.nil_append, atom?]
  · rfl
  all_goals
    rintro rfl
    exact absurd hatom (by decide)

theorem head?_ne_of_plain {text : List Char} (h : ∀ c ∈ text, isPlain c = true) :
    text.head? ≠ some '?' := by
  intro hopens
  have hmem := h '?' (List.mem_of_mem_head? hopens)
  exact absurd hmem (by decide)

/-- Plain characters read as themselves. -/
theorem reads_text {text : List Char} (h : ∀ c ∈ text, isPlain c = true) :
    Reads outer text (text.map .char) := by
  induction text with
  | nil => exact .nil
  | cons c text ih =>
    have hc := h c List.mem_cons_self
    have hfirst : ∀ d ∈ [c], isPlain d = true := fun d hd => by rwa [List.mem_singleton.mp hd]
    exact ((readsAtom_plain hc).reads (head?_ne_of_plain hfirst)).append
      (ih fun d hd => h d (List.mem_cons_of_mem c hd))

/-- The characters with a meaning of their own. -/
def metaChars : List Char :=
  ['\\', '.', '+', '*', '?', '(', ')', '|', '[', ']', '{', '}', '^', '$', '#', '&', '-', '~']

theorem isMeta_iff : isMeta c = true ↔ c ∈ metaChars := by
  rw [← List.contains_iff_mem]
  rfl

theorem isPlain_of_not_isMeta (h : isMeta c = false) : isPlain c = true := by
  have hmeta : c ∉ metaChars := fun hmem => by rw [isMeta_iff.mpr hmem] at h; cases h
  simp only [metaChars, List.mem_cons, List.not_mem_nil, not_or, or_false] at hmeta
  simp [isPlain, isMark, hmeta]

theorem escape?_meta (h : isMeta c = true) (rest : List Char) :
    escape? .initial (c :: rest) = some (.char c, rest) := by
  have hmeta := isMeta_iff.mp h
  simp only [metaChars, List.mem_cons, List.not_mem_nil, or_false] at hmeta
  rcases hmeta with rfl | rfl | rfl | rfl | rfl | rfl | rfl | rfl | rfl | rfl | rfl | rfl | rfl |
    rfl | rfl | rfl | rfl | rfl <;> rfl

theorem readsAtom_escaped (h : isMeta c = true) : ReadsAtom outer ['\\', c] (.char c) := by
  refine readsAtom_of_atom (by decide) fun rest => ?_
  rw [List.singleton_append, atom?, escape?_meta h]
  rfl

theorem reads_escapeChar (c : Char) : Reads outer (escapeChar c) [.char c] := by
  rw [escapeChar]
  by_cases h : isMeta c = true
  · rw [if_pos h]
    exact (readsAtom_escaped h).reads (by simp)
  · rw [if_neg h]
    have hc : ∀ d ∈ [c], isPlain d = true := fun d hd => by
      rw [List.mem_singleton.mp hd]
      exact isPlain_of_not_isMeta (by simpa using h)
    exact reads_text hc

/-- An escaped text reads as its characters. -/
theorem reads_escape (s : String) : Reads outer (escape s).toList (s.toList.map .char) := by
  rw [escape, String.toList_ofList]
  induction s.toList with
  | nil => exact .nil
  | cons c cs ih => exact (reads_escapeChar c).append ih

theorem readsAtom_digit : ReadsAtom outer ['\\', 'd'] (.plain (.chars .digit)) :=
  readsAtom_of_atom (by decide) fun _ => rfl

/-- The part that is a character of one of the sets. -/
def Part.oneOf (sets : List CharSet) : Part :=
  ⟨some (.chars (.unionAll sets)), depthOf (sets.map fun _ => 0) + 1⟩

theorem readsAtom_decimal : ReadsAtom outer "[0-9]".toList (.oneOf [.range '0' '9']) :=
  readsAtom_of_atom (w := "0-9]".toList) (by decide) fun _ => rfl

theorem readsAtom_letter :
    ReadsAtom outer "[A-Za-z]".toList (.oneOf [.range 'a' 'z', .range 'A' 'Z']) :=
  readsAtom_of_atom (w := "A-Za-z]".toList) (by decide) fun _ => rfl

/-! ## Repetitions -/

/-- The part repeated. -/
def Part.repeated (n : Node) (depth lo : Nat) (hi : Option Nat) : Part :=
  ⟨some (n.repeated lo hi), depth + 1⟩

/-- The text repeats the part before it. -/
def Repeats (outer : Nat) (t : List Char) (lo : Nat) (hi : Option Nat) : Prop :=
  ∀ fuel names alts n depth parts rest, rest.head? ≠ some '?' →
    parseGroup? (fuel + 1) .initial outer names alts (⟨some n, depth⟩ :: parts) (t ++ rest) =
      parseGroup? fuel .initial outer names alts (.repeated n depth lo hi :: parts) rest

theorem skipLazy_of_head {rest : List Char} (h : rest.head? ≠ some '?') : skipLazy rest = rest := by
  rw [skipLazy]
  rintro cs rfl
  exact h rfl

theorem repeats_optional : Repeats outer ['?'] 0 (some 1) := by
  intro fuel names alts n depth parts rest hrest
  have hstep : parseGroup? (fuel + 1) .initial outer names alts (⟨some n, depth⟩ :: parts)
      ('?' :: rest) = parseGroup? fuel .initial outer names alts
        (.repeated n depth 0 (some 1) :: parts) (skipLazy rest) := rfl
  rwa [skipLazy_of_head hrest] at hstep

theorem repeats_some : Repeats outer ['+'] 1 none := by
  intro fuel names alts n depth parts rest hrest
  have hstep : parseGroup? (fuel + 1) .initial outer names alts (⟨some n, depth⟩ :: parts)
      ('+' :: rest) = parseGroup? fuel .initial outer names alts
        (.repeated n depth 1 none :: parts) (skipLazy rest) := rfl
  rwa [skipLazy_of_head hrest] at hstep

theorem repeats_braces {t : List Char} {lo : Nat} {hi : Option Nat}
    (h : ∀ rest, braces? .initial (t ++ rest) = some (lo, hi, rest)) :
    Repeats outer ('\x7b' :: t) lo hi := by
  intro fuel names alts n depth parts rest hrest
  have hskip (cs : List Char) : skip .initial cs = cs := rfl
  rw [List.cons_append, parseGroup?, hskip]
  simp only [h, hskip, skipLazy_of_head hrest]
  rfl

/-- A count of at least `2` or `5`, as names of components have them. -/
theorem repeats_from_two : Repeats outer "\x7b2,\x7d".toList 2 none :=
  repeats_braces (t := ['2', ',', '\x7d']) fun _ => rfl

theorem repeats_from_five : Repeats outer "\x7b5,\x7d".toList 5 none :=
  repeats_braces (t := ['5', ',', '\x7d']) fun _ => rfl

theorem Repeats.reads {t : List Char} {lo depth : Nat} {hi : Option Nat} {n : Node}
    (ht : Repeats outer t lo hi) (h : ReadsAtom outer w ⟨some n, depth⟩)
    (hopens : w.head? ≠ some '?') (hnil : w ≠ []) (htnil : t ≠ []) :
    Reads outer (w ++ t) [.repeated n depth lo hi] := by
  refine ⟨?_, fun fuel names alts parts rest hfuel hrest => ?_⟩
  · rwa [List.head?_append_of_ne_nil w hnil]
  · rw [List.append_assoc] at hfuel ⊢
    obtain ⟨fuel', hfuel', hatom⟩ := h fuel names alts parts (t ++ rest) hfuel
    have hpos := List.length_pos_iff.mpr htnil
    rw [List.length_append] at hfuel'
    cases fuel' with
    | zero => exact absurd hfuel' (Nat.not_lt_zero _)
    | succ fuel' => exact ⟨fuel', by omega, by rw [hatom, ht _ _ _ _ _ _ _ hrest]; rfl⟩

/-! ## Groups -/

theorem parseGroup?_close {fuel : Nat} {names : List (List Char)} {alts parts : List Part}
    {rest : List Char} (hfuel : 0 < fuel) :
    parseGroup? fuel .initial outer names alts parts (')' :: rest) =
      some ⟨.alternatives (.seq parts :: alts), names, ')' :: rest⟩ := by
  cases fuel with
  | zero => cases hfuel
  | succ fuel => rfl

theorem Reads.body (h : Reads outer w ps) : ReadsBody outer w [.seq ps.reverse] := by
  intro fuel names alts rest hfuel
  obtain ⟨fuel', hfuel', heq⟩ := h.read fuel names alts [] (')' :: rest) hfuel (by simp)
  rw [heq, parseGroup?_close (Nat.zero_lt_of_lt hfuel'), List.append_nil]
  rfl

theorem Reads.or (h : Reads outer w ps) (hu : ReadsBody outer u qs) :
    ReadsBody outer (w ++ '|' :: u) (.seq ps.reverse :: qs) := by
  intro fuel names alts rest hfuel
  rw [List.append_assoc] at hfuel ⊢
  obtain ⟨fuel', hfuel', heq⟩ := h.read fuel names alts [] ('|' :: u ++ ')' :: rest) hfuel (by simp)
  cases fuel' with
  | zero => exact absurd hfuel' (Nat.not_lt_zero _)
  | succ fuel' =>
    have hor : parseGroup? (fuel' + 1) .initial outer names alts (ps.reverse ++ [])
        ('|' :: u ++ ')' :: rest) =
        parseGroup? fuel' .initial outer names (.seq (ps.reverse ++ []) :: alts) []
          (u ++ ')' :: rest) := rfl
    rw [heq, hor, hu fuel' names _ rest (by simpa using hfuel'), List.append_nil,
      List.reverse_cons, List.append_assoc]
    rfl

/-- Texts of plain characters, separated by bars, read as alternatives. -/
theorem readsBody_texts {t : List Char} {ts : List (List Char)}
    (h : ∀ u ∈ t :: ts, ∀ c ∈ u, isPlain c = true) :
    ReadsBody outer (['|'].intercalate (t :: ts))
      ((t :: ts).map fun u => .seq (u.map .char).reverse) := by
  have ht : Reads outer t (t.map .char) := reads_text (h t List.mem_cons_self)
  induction ts generalizing t with
  | nil =>
    have htext : ['|'].intercalate [t] = t := by simp [List.intercalate]
    rw [htext]
    exact ht.body
  | cons u ts ih =>
    have htext : ['|'].intercalate (t :: u :: ts) = t ++ '|' :: ['|'].intercalate (u :: ts) := by
      simp [List.intercalate]
    have hrest : ∀ v ∈ u :: ts, ∀ c ∈ v, isPlain c = true := fun v hv =>
      h v (List.mem_cons_of_mem t hv)
    rw [htext]
    exact ht.or (ih hrest (reads_text (hrest u List.mem_cons_self)))

/-- The part in parentheses. -/
def Part.grouped (p : Part) : Part := ⟨p.node.map .group, p.depth + 1⟩

theorem groupStart?_of_head {cs : List Char} (h : cs.head? ≠ some '?') :
    groupStart? .initial cs = some (.remembered none, cs) := by
  have hskip : skip .initial cs = cs := rfl
  rw [groupStart?, hskip]
  split
  all_goals first | rfl | exact absurd rfl h

theorem ReadsBody.group (h : ReadsBody (outer + 1) w qs) (hopens : w.head? ≠ some '?')
    (houter : outer < nestLimit) :
    ReadsAtom outer ('(' :: w ++ [')']) (Part.alternatives qs.reverse).grouped := by
  intro fuel names alts parts rest hfuel
  have hlength : w.length + rest.length + 2 < fuel := by simp at hfuel; omega
  have hhead : (w ++ ')' :: rest).head? ≠ some '?' := by
    cases w with
    | nil => simp
    | cons c w => exact hopens
  cases fuel with
  | zero => exact absurd hfuel (Nat.not_lt_zero _)
  | succ fuel =>
    have hinside := h fuel names [] rest (by simp; omega)
    have htext : '(' :: w ++ [')'] ++ rest = '(' :: (w ++ ')' :: rest) := by simp
    have hskip (cs : List Char) : skip .initial cs = cs := rfl
    refine ⟨fuel, by omega, ?_⟩
    rw [htext, parseGroup?, hskip]
    simp only [groupStart?_of_head hhead, Option.any_none, Bool.false_eq_true, if_false,
      Option.toList_none, List.nil_append, if_neg (Nat.not_le.mpr houter), hinside, List.append_nil]
    rfl

/-! ## Whole patterns -/

/-- A pattern that is put between the start and the end of the text reads as that. -/
theorem parse?_anchored {n : Node} {depth : Nat} (h : ReadsBody 1 w qs)
    (hpart : Part.alternatives qs.reverse = ⟨some n, depth⟩) (hdepth : depth + 2 ≤ nestLimit)
    {pattern : String} (hpattern : pattern.toList = w) :
    parse? (anchored pattern) = some n.whole := by
  have htext : anchored pattern = '^' :: '(' :: '?' :: ':' :: (w ++ [')', '$']) := by
    rw [anchored, hpattern]
    rfl
  have hlength : (anchored pattern).length + 1 = w.length + 7 := by
    rw [htext]
    simp
  have hinside := h (w.length + 5) [] [] ['$'] (by simp)
  rw [List.append_nil, hpart] at hinside
  have hskip (cs : List Char) : skip .initial cs = cs := rfl
  -- The group between the start and the end of the text.
  have hgroup (parts : List Part) :
      parseGroup? (w.length + 6) .initial 0 [] [] parts ('(' :: '?' :: ':' :: (w ++ [')', '$'])) =
        parseGroup? (w.length + 5) .initial 0 [] [] (⟨some n, depth + 1⟩ :: parts) ['$'] := by
    have hstart : groupStart? .initial ('?' :: ':' :: (w ++ [')', '$'])) =
        some (.plain .initial, w ++ [')', '$']) := rfl
    rw [parseGroup?, hskip]
    simp only [hstart, if_neg (by decide : ¬ (0 ≥ nestLimit)), hinside]
    rfl
  have hparse : parseGroup? ((anchored pattern).length + 1) .initial 0 [] [] [] (anchored pattern) =
      some ⟨⟨some n.whole, depthOf [0, depth + 1, 0]⟩, [], []⟩ := by
    rw [hlength, htext]
    have hfirst : parseGroup? (w.length + 7) .initial 0 [] [] []
        ('^' :: '(' :: '?' :: ':' :: (w ++ [')', '$'])) =
        parseGroup? (w.length + 6) .initial 0 [] [] [.plain (.look .textStart)]
          ('(' :: '?' :: ':' :: (w ++ [')', '$'])) := parseGroup?_atom (by decide) rfl
    rw [hfirst, hgroup]
    rfl
  rw [parse?, hparse]
  have hle : depthOf [0, depth + 1, 0] ≤ nestLimit := by
    simp [depthOf]
    omega
  exact if_pos hle

end Eir.Pattern
