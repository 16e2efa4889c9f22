import Eir.Proofs.Pattern.Written

/-!
# Refused patterns

What is charged for a part of a pattern never gives memory back
(`Form.bytes_le_charge`), and a literal costs a state for each of its bytes. So
a pattern is refused that begins with an escaped text of too many bytes
(`fullMatch_large`).
-/

namespace Eir.Pattern

/-! ## Charging takes memory -/

namespace Meter

/-- What each step of a loop only lets grow has grown at the end. -/
theorem le_foldl {α β : Type} (size : β → Nat) {step : β → α → β}
    (h : ∀ b a, size b ≤ size (step b a)) (xs : List α) (b : β) :
    size b ≤ size (xs.foldl step b) := by
  induction xs generalizing b with
  | nil => exact Nat.le_refl _
  | cons x xs ih => exact Nat.le_trans (h b x) (ih (step b x))

variable (m : Meter)

theorem bytes_le_state (ways : Nat) : m.bytes ≤ (m.state ways).bytes := by
  simp only [state]
  omega

theorem bytes_le_plain (count : Nat) : m.bytes ≤ (m.plain count).bytes := Nat.le_add_right _ _

theorem bytes_le_fork : m.bytes ≤ m.fork.bytes := m.bytes_le_state _

theorem bytes_le_again {charge : Meter → Meter} (h : ∀ m, m.bytes ≤ (charge m).bytes) (n : Nat) :
    m.bytes ≤ (again charge n m).bytes := by
  induction n generalizing m with
  | zero => exact Nat.le_refl _
  | succ n ih =>
    rw [again]
    split
    · exact Nat.le_trans (h m) (ih _)
    · exact Nat.le_refl _

theorem bytes_le_sharedEnds (target length : Nat) (ss : List (List ByteRange)) (t : Recent) :
    m.bytes ≤ (sharedEnds target length ss m t).2.1.bytes := by
  induction length generalizing ss m t with
  | zero => exact Nat.le_refl _
  | succ length ih =>
    rw [sharedEnds]
    split
    · exact Nat.le_refl _
    · let step (b : List Nat × Meter × Recent) (a : ByteRange × List (List ByteRange)) :
          List Nat × Meter × Recent :=
        let r := sharedEnds target length a.2 b.2.1 b.2.2
        ([r.1, a.1.2, a.1.1] ++ b.1, r.2)
      have hways : m.bytes ≤ ((groupByFirst ss).foldl step ([], m, t)).2.1.bytes :=
        le_foldl (fun b : List Nat × Meter × Recent => b.2.1.bytes)
          (fun b (a : ByteRange × List (List ByteRange)) => ih b.2.1 a.2 b.2.2) _ ([], m, t)
      dsimp only
      split
      · exact hways
      · exact Nat.le_trans hways (bytes_le_state _ _)

theorem bytes_le_chars (r : Ranges) : m.bytes ≤ (m.chars .forward r).bytes := by
  rw [chars]
  split
  · exact Nat.le_trans (m.bytes_le_plain 1) (bytes_le_state _ _)
  · exact Nat.le_trans (m.bytes_le_plain 1) (bytes_le_sharedEnds _ _ _ _ _)

theorem bytes_le_tree (fuel : Nat) (words : List (List UInt8)) :
    m.bytes ≤ (m.tree fuel words).bytes := by
  induction fuel generalizing words m with
  | zero => exact Nat.le_refl _
  | succ fuel ih =>
    unfold tree
    refine Nat.le_trans (le_foldl Meter.bytes (fun m chunk => ?_) _ m)
      (bytes_le_state _ _)
    refine Nat.le_trans (le_foldl Meter.bytes (fun m ⟨_, rests⟩ => ?_) _ m)
      (bytes_le_state _ _)
    dsimp only
    split
    · exact Nat.le_refl _
    · exact ih m rests

end Meter

namespace Form

open Meter

mutual

/-- Charging a form never gives memory back. -/
theorem bytes_le_charge : ∀ (f : Form) (m : Meter), m.bytes ≤ (f.charge .forward m).bytes
  | empty, m | nothing, m | look _, m => by
    rw [charge]
    exact m.bytes_le_plain 1
  | literal s, m => by
    rw [charge]
    exact m.bytes_le_plain _
  | set r, m => by
    rw [charge]
    exact m.bytes_le_chars r
  | group f, m => by
    rw [charge]
    exact Nat.le_trans (m.bytes_le_plain 1)
      (Nat.le_trans (bytes_le_charge f _) (bytes_le_plain _ 1))
  | seq fs, m => by
    rw [charge]
    exact bytes_le_chargeSeq fs m
  | alt fs, m => by
    rw [charge]
    split
    · exact Nat.le_trans (m.bytes_le_plain 1) (bytes_le_tree _ _ _)
    · exact bytes_le_chargeAlt fs.length 0 fs m
  | times f lo hi, m => by
    have hf := bytes_le_charge f
    have hfork (m : Meter) : m.bytes ≤ (f.charge .forward m.fork).bytes :=
      Nat.le_trans m.bytes_le_fork (hf _)
    have hcopies := m.bytes_le_again hf
    unfold charge
    dsimp only
    split
    · split
      · exact hfork m
      · exact Nat.le_trans (hf m) (Nat.le_trans (bytes_le_fork _)
          (Nat.le_trans (bytes_le_fork _) (bytes_le_plain _ 1)))
    · exact Nat.le_trans (hcopies _) (bytes_le_fork _)
    · exact Nat.le_trans (hfork m) (bytes_le_plain _ 1)
    · split
      · exact hcopies _
      · refine Nat.le_trans ?_ (bytes_le_again _ hfork _)
        refine Nat.le_trans ?_ (bytes_le_plain _ 1)
        split
        · exact m.bytes_le_plain 1
        · exact hcopies _

theorem bytes_le_chargeSeq :
    ∀ (fs : List Form) (m : Meter), m.bytes ≤ (chargeSeq .forward fs m).bytes
  | [], m => by
    rw [chargeSeq]
  | f :: fs, m => by
    rw [chargeSeq]
    exact Nat.le_trans (bytes_le_charge f m) (bytes_le_chargeSeq fs _)

theorem bytes_le_chargeAlt (count before : Nat) :
    ∀ (fs : List Form) (m : Meter), m.bytes ≤ (chargeAlt .forward count before fs m).bytes
  | [], m => by
    rw [chargeAlt]
  | f :: fs, m => by
    rw [chargeAlt]
    refine Nat.le_trans ?_ (bytes_le_chargeAlt count (before + 1) fs _)
    refine Nat.le_trans (bytes_le_charge f m) ?_
    split
    · exact Nat.le_trans (bytes_le_state _ _) (bytes_le_plain _ 1)
    · exact Nat.le_refl _

end

/-! ## Literals -/

/-- How many bytes of text a form that is a literal has. -/
def textBytes : Form → Nat
  | literal s => (bytesOf .forward s).length
  | _ => 0

/-- How many bytes of text the literals among forms have. -/
def textBytesOf : List Form → Nat
  | [] => 0
  | f :: fs => f.textBytes + textBytesOf fs

theorem bytesOf_append (s t : List Char) :
    bytesOf .forward (s ++ t) = bytesOf .forward s ++ bytesOf .forward t := List.flatMap_append

/-- Joining literals keeps their bytes. -/
theorem textBytesOf_cons (f : Form) (fs : List Form) :
    textBytesOf (cons f fs) = f.textBytes + textBytesOf fs := by
  unfold cons
  split
  · exact (Nat.zero_add _).symm
  · simp only [textBytesOf, textBytes, bytesOf_append, List.length_append, Nat.add_assoc]
  · rfl

theorem textBytesOf_foldr_cons (fs : List Form) : textBytesOf (fs.foldr cons []) = textBytesOf fs := by
  induction fs with
  | nil => rfl
  | cons f fs ih =>
    rw [List.foldr_cons, textBytesOf_cons, ih]
    rfl

theorem textBytesOf_append (fs gs : List Form) :
    textBytesOf (fs ++ gs) = textBytesOf fs + textBytesOf gs := by
  induction fs with
  | nil => exact (Nat.zero_add _).symm
  | cons f fs ih => rw [List.cons_append, textBytesOf, textBytesOf, ih, Nat.add_assoc]

theorem textBytesOf_le_parts (fs : List Form) : textBytesOf fs ≤ textBytesOf (fs.flatMap parts) := by
  induction fs with
  | nil => exact Nat.le_refl _
  | cons f fs ih =>
    have hf : f.textBytes ≤ textBytesOf f.parts := by
      cases f with
      | seq gs => exact Nat.zero_le _
      | _ => exact Nat.le_refl _
    rw [List.flatMap_cons, textBytesOf_append]
    exact Nat.add_le_add hf ih

theorem textBytes_le_charge (f : Form) (m : Meter) :
    m.bytes + stateBytes * f.textBytes ≤ (f.charge .forward m).bytes := by
  cases f with
  | literal s =>
    rw [charge]
    exact Nat.le_refl _
  | _ => exact bytes_le_charge _ m

theorem textBytesOf_le_chargeSeq (fs : List Form) (m : Meter) :
    m.bytes + stateBytes * textBytesOf fs ≤ (chargeSeq .forward fs m).bytes := by
  induction fs generalizing m with
  | nil =>
    rw [chargeSeq]
    exact Nat.le_refl _
  | cons f fs ih =>
    have hf := f.textBytes_le_charge m
    have hfs := ih (f.charge .forward m)
    rw [chargeSeq]
    rw [textBytesOf, Nat.mul_add]
    omega

/-- The literals among the parts of a sequence cost a state for each of their bytes. -/
theorem textBytesOf_le_ofParts (fs : List Form) (m : Meter) :
    m.bytes + stateBytes * textBytesOf fs ≤ ((ofParts fs).charge .forward m).bytes := by
  have hfs := textBytesOf_le_parts fs
  rw [← textBytesOf_foldr_cons (fs.flatMap parts)] at hfs
  have hle := Nat.mul_le_mul_left stateBytes hfs
  refine Nat.le_trans (Nat.add_le_add_left hle _) ?_
  unfold ofParts
  split
  case h_1 hnil =>
    rw [hnil]
    exact bytes_le_charge _ m
  case h_2 f hone =>
    rw [hone]
    exact f.textBytes_le_charge m
  case h_3 =>
    rw [charge]
    exact textBytesOf_le_chargeSeq _ m

theorem ofNode_char (c : Char) : ofNode (.chars (.single c)) = literal [c] := by
  have hextent : (CharSet.single c).extent.toList = [(c.toNat, c.toNat)] := by
    rw [CharSet.single, CharSet.extent, Ranges.between, if_pos (Nat.le_refl _)]
    rfl
  rw [ofNode, ofExtent, hextent]
  simp only [beq_self_eq_true, if_pos, Char.ofNat_toNat]

theorem textBytesOf_le_nodeParts (n : Node) (others : List Form) :
    textBytesOf others ≤ textBytesOf (nodeParts n others) := by
  induction n generalizing others with
  | seq a b iha ihb =>
    rw [nodeParts]
    exact Nat.le_trans (ihb others) (iha _)
  | _ =>
    rw [nodeParts]
    · exact Nat.le_add_left _ _
    all_goals simp

theorem nodeParts_foldl (ns : List Node) (n : Node) (others : List Form) :
    nodeParts (ns.foldl .seq n) others = nodeParts n (ns.foldr nodeParts others) := by
  induction ns generalizing n with
  | nil => rfl
  | cons m ns ih => rw [List.foldl_cons, ih, nodeParts, List.foldr_cons]

/-- The characters of a text, each as a pattern. -/
def charNodes (text : List Char) : List Node := text.map fun c => .chars (.single c)

/-- Characters in a row are literals with their bytes. -/
theorem textBytesOf_charNodes (text : List Char) (others : List Form) :
    textBytesOf ((charNodes text).foldr nodeParts others) =
      (bytesOf .forward text).length + textBytesOf others := by
  induction text with
  | nil => exact (Nat.zero_add _).symm
  | cons c text ih =>
    have hbytes : bytesOf .forward (c :: text) = bytesOf .forward [c] ++ bytesOf .forward text :=
      bytesOf_append [c] text
    rw [charNodes, List.map_cons, List.foldr_cons, nodeParts, ofNode_char, hbytes,
      List.length_append, Nat.add_assoc, ← ih]
    · rfl
    · simp

end Form

/-! ## Long texts -/

namespace Node

variable {c : Char} {text : List Char} {ns : List Node} {n : Node} {b : Nat}

theorem roughBytes?_seq {a : Node} (h : (seq a n).roughBytes? = some b) :
    ∃ x y, a.roughBytes? = some x ∧ n.roughBytes? = some y ∧ x + y = b := by
  rw [roughBytes?] at h
  cases ha : a.roughBytes? with
  | none => simp [ha] at h
  | some x =>
    cases hn : n.roughBytes? with
    | none => simp [ha, hn] at h
    | some y =>
      refine ⟨x, y, rfl, rfl, ?_⟩
      simpa [ha, hn] using h

theorem roughBytes?_foldl (h : (ns.foldl .seq n).roughBytes? = some b) :
    ∃ x ≤ b, n.roughBytes? = some x := by
  induction ns generalizing n with
  | nil => exact ⟨b, Nat.le_refl b, h⟩
  | cons m ns ih =>
    obtain ⟨x, hx, hseq⟩ := ih h
    obtain ⟨y, z, hy, -, rfl⟩ := roughBytes?_seq hseq
    exact ⟨y, by omega, hy⟩

/-- A pattern with a long text has no small rough bound. -/
theorem roughBytes?_charNodes
    (h : ((Form.charNodes text ++ ns).foldl .seq n).roughBytes? = some b) :
    ∃ x, n.roughBytes? = some x ∧ x + 512 * text.length ≤ b := by
  induction text generalizing n with
  | nil =>
    obtain ⟨x, hx, hn⟩ := roughBytes?_foldl h
    exact ⟨x, hn, hx⟩
  | cons c text ih =>
    obtain ⟨x, hseq, hx⟩ := ih h
    obtain ⟨y, z, hy, hz, rfl⟩ := roughBytes?_seq hseq
    obtain rfl : 512 = z := Option.some.inj ((roughBytes?_single c).symm.trans hz)
    refine ⟨y, hy, ?_⟩
    rw [List.length_cons]
    omega

theorem length_le_bytesOf (text : List Char) :
    text.length ≤ (Form.bytesOf .forward text).length := by
  induction text with
  | nil => exact Nat.le_refl _
  | cons c text ih =>
    have hchar : 1 ≤ (String.utf8EncodeChar c).length := by
      rw [String.length_utf8EncodeChar]
      exact c.utf8Size_pos
    have hbytes : Form.bytesOf .forward (c :: text) =
        String.utf8EncodeChar c ++ Form.bytesOf .forward text := rfl
    rw [hbytes, List.length_append, List.length_cons]
    omega

theorem length_bytesOf_le (text : List Char) :
    (Form.bytesOf .forward text).length ≤ 4 * text.length := by
  induction text with
  | nil => exact Nat.le_refl _
  | cons c text ih =>
    have hchar : (String.utf8EncodeChar c).length ≤ 4 := by
      rw [String.length_utf8EncodeChar]
      exact c.utf8Size_le_four
    have hbytes : Form.bytesOf .forward (c :: text) =
        String.utf8EncodeChar c ++ Form.bytesOf .forward text := rfl
    rw [hbytes, List.length_append, List.length_cons]
    omega

/-- Reading forward, an automaton has a state for each byte of the text that the pattern begins
with. -/
theorem length_le_footprint
    (hn : (Form.charNodes text ++ ns).foldl .seq (.chars (.single c)) = n) :
    stateBytes * (Form.bytesOf .forward (c :: text)).length ≤
      (n.whole.footprint .forward).bytes := by
  let last := Form.nodeParts (.look .textEnd) []
  have hparts : Form.ofNode n.whole =
      Form.ofParts (Form.nodeParts (.look .textStart) (Form.nodeParts n last)) := by
    rw [whole, Form.ofNode, Form.nodeParts]
  have htext : (Form.bytesOf .forward (c :: text)).length ≤
      Form.textBytesOf (Form.nodeParts n last) := by
    have hchars := Form.textBytesOf_charNodes (c :: text) (ns.foldr Form.nodeParts last)
    rw [← hn, Form.nodeParts_foldl, List.foldr_append]
    exact Nat.le_trans (Nat.le_add_right _ _) hchars.ge
  have hstart := Form.textBytesOf_le_nodeParts (.look .textStart) (Form.nodeParts n last)
  have hcharge (m : Meter) : stateBytes * (Form.bytesOf .forward (c :: text)).length ≤
      ((Form.ofNode n.whole).charge .forward m).bytes := by
    rw [hparts]
    calc stateBytes * (Form.bytesOf .forward (c :: text)).length
        ≤ stateBytes * Form.textBytesOf
            (Form.nodeParts (.look .textStart) (Form.nodeParts n last)) :=
          Nat.mul_le_mul_left _ (Nat.le_trans htext hstart)
      _ ≤ _ := Nat.le_trans (Nat.le_add_left _ _) (Form.textBytesOf_le_ofParts _ m)
  exact Nat.le_trans (hcharge _) (Meter.bytes_le_plain _ 2)

/-- A pattern that begins with a long text takes too much memory. -/
theorem not_fits_long
    (hn : (Form.charNodes text ++ ns).foldl .seq (.chars (.single c)) = n)
    (hlarge : memoryLimit < stateBytes * (Form.bytesOf .forward (c :: text)).length) :
    n.whole.fits = false := by
  have hbytes := length_bytesOf_le (c :: text)
  rw [List.length_cons] at hbytes
  have hrough : n.whole.roughBytes?.any (· + 8 * stateBytes ≤ memoryLimit) = false := by
    rw [whole, roughBytes?, roughBytes?, roughBytes?, roughBytes?]
    cases hb : n.roughBytes? with
    | none => rfl
    | some b =>
      obtain ⟨x, -, hle⟩ := roughBytes?_charNodes (hn ▸ hb)
      simp [memoryLimit, stateBytes] at hlarge ⊢
      omega
  have hforward : (n.whole.footprint .forward).fits = false := by
    rw [Meter.fits, decide_eq_false_iff_not, Nat.not_le]
    exact Nat.lt_of_lt_of_le hlarge (length_le_footprint hn)
  rw [fits, hrough, List.all_cons, hforward]
  rfl

end Node

/-- A pattern is refused that begins with an escaped text of too many bytes. -/
theorem fullMatch_large {s : String} {v : List Char} {L : Language Char} {deep bytes : Nat}
    (hv : Writes 1 deep v L bytes) (hdeep : deep ≤ 100) {pattern : String}
    (hpattern : pattern.toList = (escape s).toList ++ v)
    (hlarge : memoryLimit < stateBytes * (Form.bytesOf .forward s.toList).length)
    (text : String) : fullMatch pattern text = .error (.invalidPattern pattern) := by
  obtain ⟨ps, hreads, hspell⟩ := hv
  obtain ⟨n, depth, hseq, -, hparse⟩ := ((spell_text deep s.toList).append hspell).parse? hdeep
    ((reads_escape s).append hreads) hpattern
  have hfits : n.whole.fits = false := by
    cases htext : s.toList with
    | nil =>
      rw [htext] at hlarge
      exact absurd hlarge (by decide)
    | cons c cs =>
      rw [htext] at hlarge hseq
      have hnodes : (((c :: cs).map Part.char ++ ps).reverse.reverse.filterMap Part.node) =
          .chars (.single c) :: (Form.charNodes cs ++ ps.filterMap Part.node) := by
        rw [List.reverse_reverse, List.filterMap_append, List.filterMap_map]
        simp [Function.comp_def, Part.char, Part.plain, Form.charNodes]
      have hnode := congrArg Part.node hseq
      simp only [Part.seq, hnodes, Option.some.injEq] at hnode
      exact Node.not_fits_long hnode hlarge
  rw [fullMatch, compile, hparse]
  simp only [hfits]
  rfl

end Eir.Pattern
