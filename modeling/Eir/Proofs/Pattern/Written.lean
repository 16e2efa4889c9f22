import Eir.Proofs.Pattern.Reading

/-!
# Written patterns

What a pattern means that is put together from pieces. `Writes` says of a text
which words its parts match, one after the other, and how much memory they take
at most; it goes over to texts put together. A whole text matches such a pattern
just when it is one of the words. Only a pattern that takes too much memory is
refused (`Writes.fullMatch`).
-/

namespace Eir.Pattern

/-- The pattern tests no places, matches the words of `L` and takes at most so much memory. -/
structure Node.Spells (n : Node) (L : Language Char) (bytes : Nat) : Prop where
  lookFree : n.lookFree = true
  takes : n.takesNothing = true → ∀ w ∈ L, w = []
  language : n.language = L
  bytes : ∃ b ≤ bytes, n.roughBytes? = some b

section Spells

variable {a b n : Node} {L M : Language Char} {s : CharSet} {lo x y : Nat}

theorem Node.Spells.mono (h : a.Spells L x) (hle : x ≤ y) : a.Spells L y := by
  obtain ⟨hfree, htakes, hlanguage, i, hi, hx⟩ := h
  exact ⟨hfree, htakes, hlanguage, i, Nat.le_trans hi hle, hx⟩

theorem spells_empty : Node.empty.Spells 1 stateBytes :=
  ⟨rfl, fun _ _ hw => hw, rfl, stateBytes, Nat.le_refl _, rfl⟩

theorem roughBytes?_single (c : Char) : (CharSet.single c).roughBytes? = some 512 :=
  congrArg some (if_pos (beq_self_eq_true c))

theorem spells_chars (h : s.roughBytes? = some x) : (Node.chars s).Spells s.language x :=
  ⟨rfl, (nomatch ·), rfl, x, Nat.le_refl x, h⟩

theorem Node.Spells.seq (ha : a.Spells L x) (hb : b.Spells M y) :
    (Node.seq a b).Spells (L * M) (x + y) := by
  obtain ⟨hfree, htakes, rfl, i, hi, hx⟩ := ha
  obtain ⟨hfree', htakes', rfl, j, hj, hy⟩ := hb
  refine ⟨?_, fun hnothing => ?_, rfl, i + j, Nat.add_le_add hi hj, ?_⟩
  · rw [Node.lookFree, hfree, hfree']
    rfl
  · rw [Node.takesNothing, Bool.and_eq_true] at hnothing
    rintro _ ⟨u, hu, v, hv, rfl⟩
    rw [htakes hnothing.1 u hu, htakes' hnothing.2 v hv]
    rfl
  · rw [Node.roughBytes?, hx, hy]
    rfl

theorem Node.Spells.alt (ha : a.Spells L x) (hb : b.Spells M y) :
    (Node.alt a b).Spells (L + M) (x + y + 4 * stateBytes) := by
  obtain ⟨hfree, htakes, rfl, i, hi, hx⟩ := ha
  obtain ⟨hfree', htakes', rfl, j, hj, hy⟩ := hb
  refine ⟨?_, fun hnothing => ?_, rfl, i + j + 4 * stateBytes, by omega, ?_⟩
  · rw [Node.lookFree, hfree, hfree']
    rfl
  · rw [Node.takesNothing, Bool.and_eq_true] at hnothing
    rintro w (hw | hw)
    · exact htakes hnothing.1 w hw
    · exact htakes' hnothing.2 w hw
  · rw [Node.roughBytes?, hx, hy]
    rfl

theorem Node.Spells.group (h : a.Spells L x) : (Node.group a).Spells L (x + 2 * stateBytes) := by
  obtain ⟨hfree, htakes, hlanguage, i, hi, hx⟩ := h
  refine ⟨hfree, htakes, hlanguage, i + 2 * stateBytes, Nat.add_le_add_right hi _, ?_⟩
  rw [Node.roughBytes?, hx]
  rfl

/-- The words of `L` put together, at least `lo` and at most `hi` of them. -/
def timesOf (L : Language Char) (lo : Nat) (hi : Option Nat) : Language Char :=
  {w | ∃ k, lo ≤ k ∧ (∀ n ∈ hi, k ≤ max lo n) ∧ w ∈ L ^ k}

theorem timesOf_zero_one (L : Language Char) : timesOf L 0 (some 1) = 1 + L := by
  ext w
  rw [Language.mem_add]
  constructor
  · rintro ⟨k, -, hk, hw⟩
    rcases Nat.le_one_iff_eq_zero_or_eq_one.mp (hk 1 rfl) with rfl | rfl
    · exact .inl (by rwa [pow_zero] at hw)
    · exact .inr (by rwa [pow_one] at hw)
  · rintro (hw | hw)
    · exact ⟨0, Nat.le_refl 0, by simp, by rwa [pow_zero]⟩
    · exact ⟨1, Nat.zero_le 1, by simp, by rwa [pow_one]⟩

theorem mem_timesOf_language {hi : Option Nat} {w : List Char} : w ∈ timesOf s.language lo hi ↔
    lo ≤ w.length ∧ (∀ n ∈ hi, w.length ≤ max lo n) ∧ ∀ c ∈ w, s.contains c = true := by
  constructor
  · rintro ⟨k, hlo, hhi, hw⟩
    obtain ⟨rfl, hall⟩ := CharSet.mem_language_pow.mp hw
    exact ⟨hlo, hhi, hall⟩
  · rintro ⟨hlo, hhi, hall⟩
    exact ⟨w.length, hlo, hhi, CharSet.mem_language_pow.mpr ⟨rfl, hall⟩⟩

theorem Node.Spells.takesNothing_eq_false (h : a.Spells L x) {w : List Char} (hw : w ∈ L)
    (hne : w ≠ []) : a.takesNothing = false := by
  rw [← Bool.not_eq_true]
  exact fun hnothing => hne (h.takes hnothing w hw)

theorem Node.Spells.repeated (h : a.Spells L x) (hsome : a.takesNothing = false) (lo : Nat)
    {hi : Option Nat} (hhi : hi ≠ some 0) : (a.repeated lo hi).Spells (timesOf L lo hi)
      ((max lo (hi.getD 1) + 1) * (x + 4 * stateBytes)) := by
  obtain ⟨hfree, -, rfl, i, hle, hx⟩ := h
  rw [Node.repeated, hsome]
  refine ⟨hfree, fun hnothing => ?_, rfl, (max lo (hi.getD 1) + 1) * (i + 4 * stateBytes),
    Nat.mul_le_mul_left _ (Nat.add_le_add_right hle _), ?_⟩
  · simp [Node.takesNothing, hsome, hhi] at hnothing
  · simp [Node.roughBytes?, hx]

theorem spells_repeated (h : s.roughBytes? = some x) :
    ((Node.chars s).repeated lo none).Spells
      {w | lo ≤ w.length ∧ ∀ c ∈ w, s.contains c = true}
      ((max lo 1 + 1) * (x + 4 * stateBytes)) := by
  have hwords : timesOf s.language lo none =
      {w | lo ≤ w.length ∧ ∀ c ∈ w, s.contains c = true} := by
    ext w
    exact mem_timesOf_language.trans ⟨fun h => ⟨h.1, h.2.2⟩, fun h => ⟨h.1, nofun, h.2⟩⟩
  exact hwords ▸ (spells_chars h).repeated rfl lo nofun

end Spells

/-! ## Parts -/

/-- Parts that nest no deeper than `deep`. Together they match the words of `L`, one part after the
other, and take at most so much memory. -/
inductive Spell (deep : Nat) : List Part → Language Char → Nat → Prop where
  | nil : Spell deep [] 1 0
  | cons {n : Node} {depth : Nat} {ps : List Part} {L M : Language Char} {x y : Nat}
      (hn : n.Spells L x) (hdepth : depth ≤ deep) (hps : Spell deep ps M y) :
      Spell deep (⟨some n, depth⟩ :: ps) (L * M) (x + y)

/-- Parts that nest no deeper than `deep`. As alternatives they match the words of `L` and take at
most so much memory. -/
inductive Branches (deep : Nat) : List Part → Language Char → Nat → Prop where
  | single {n : Node} {depth : Nat} {L : Language Char} {x : Nat} (hn : n.Spells L x)
      (hdepth : depth ≤ deep) : Branches deep [⟨some n, depth⟩] L x
  | cons {n : Node} {depth : Nat} {ps : List Part} {L M : Language Char} {x y : Nat}
      (hn : n.Spells L x) (hdepth : depth ≤ deep) (hps : Branches deep ps M y) :
      Branches deep (⟨some n, depth⟩ :: ps) (L + M) (x + y + 4 * stateBytes)

section Parts

variable {deep deep' depth x y : Nat} {n : Node} {ps qs : List Part} {L M : Language Char}

theorem depthOf_le {ds : List Nat} (h : ∀ d ∈ ds, d ≤ deep) : depthOf ds ≤ deep + 1 := by
  have hmax (ds : List Nat) (start : Nat) (hstart : start ≤ deep) (h : ∀ d ∈ ds, d ≤ deep) :
      ds.foldl max start ≤ deep := by
    induction ds generalizing start with
    | nil => exact hstart
    | cons d ds ih =>
      exact ih (max start d) (Nat.max_le.mpr ⟨hstart, h d List.mem_cons_self⟩) fun e he =>
        h e (List.mem_cons_of_mem d he)
  unfold depthOf
  split
  · exact Nat.zero_le _
  · exact Nat.le_succ_of_le (h _ List.mem_cons_self)
  · exact Nat.succ_le_succ (hmax ds 0 (Nat.zero_le deep) h)

theorem depthOf_reverse_le (h : ∀ p ∈ ps, p.depth ≤ deep) :
    depthOf (ps.reverse.map Part.depth) ≤ deep + 1 := by
  refine depthOf_le fun d hd => ?_
  obtain ⟨p, hp, rfl⟩ := List.mem_map.mp hd
  exact h p (List.mem_reverse.mp hp)

namespace Spell

theorem single (h : n.Spells L x) (hdepth : depth ≤ deep) : Spell deep [⟨some n, depth⟩] L x := by
  have hone := Spell.cons h hdepth .nil
  rwa [mul_one, Nat.add_zero] at hone

theorem mono (h : Spell deep ps L x) (hle : deep ≤ deep') : Spell deep' ps L x := by
  induction h with
  | nil => exact .nil
  | cons hn hdepth _ ih => exact .cons hn (Nat.le_trans hdepth hle) ih

theorem append (h : Spell deep ps L x) (h' : Spell deep qs M y) :
    Spell deep (ps ++ qs) (L * M) (x + y) := by
  induction h with
  | nil => rwa [one_mul, Nat.zero_add]
  | cons hn hdepth _ ih =>
    rw [mul_assoc, Nat.add_assoc]
    exact .cons hn hdepth ih

theorem foldl (hn : n.Spells L x) (h : Spell deep ps M y) :
    ((ps.filterMap Part.node).foldl .seq n).Spells (L * M) (x + y) := by
  induction h generalizing n L x with
  | nil => rwa [mul_one, Nat.add_zero]
  | cons hfirst _ _ ih =>
    rw [← mul_assoc, ← Nat.add_assoc]
    exact ih (hn.seq hfirst)

theorem depth_le (h : Spell deep ps L x) : ∀ p ∈ ps, p.depth ≤ deep := by
  induction h with
  | nil => simp
  | cons _ hdepth _ ih => exact List.forall_mem_cons.mpr ⟨hdepth, ih⟩

/-- Parts put together are a part that matches their words. -/
theorem seq (h : Spell deep ps L x) :
    ∃ n depth, Part.seq ps.reverse = ⟨some n, depth⟩ ∧ n.Spells L (x + stateBytes) ∧
      depth ≤ deep + 1 := by
  have hdepth := depthOf_reverse_le h.depth_le
  refine ⟨_, _, rfl, ?_, hdepth⟩
  rw [List.reverse_reverse]
  cases h with
  | nil => exact spells_empty
  | cons hn _ hps => exact (hps.foldl hn).mono (Nat.le_add_right ..)

end Spell

namespace Branches

theorem depth_le (h : Branches deep ps L x) : ∀ p ∈ ps, p.depth ≤ deep := by
  induction h with
  | single _ hdepth => simpa using hdepth
  | cons _ hdepth _ ih => exact List.forall_mem_cons.mpr ⟨hdepth, ih⟩

theorem foldl (h : Branches deep ps L x) :
    ∃ k ks, ps.reverse.filterMap Part.node = k :: ks ∧
      (ks.foldl (fun later earlier => .alt earlier later) k).Spells L x := by
  induction h with
  | single hn _ => exact ⟨_, [], rfl, hn⟩
  | @cons n depth ps L M x y hn _ _ ih =>
    obtain ⟨k, ks, hnodes, hspells⟩ := ih
    refine ⟨k, ks ++ [n], ?_, ?_⟩
    · rw [List.reverse_cons, List.filterMap_append, hnodes]
      rfl
    · rw [List.foldl_append]
      exact hn.alt hspells

/-- Alternatives are a part that matches their words. -/
theorem alternatives (h : Branches deep ps L x) :
    ∃ n depth, Part.alternatives ps.reverse = ⟨some n, depth⟩ ∧ n.Spells L x ∧
      depth ≤ deep + 1 := by
  obtain ⟨k, ks, hnodes, hspells⟩ := h.foldl
  refine ⟨_, _, ?_, hspells, depthOf_reverse_le h.depth_le⟩
  simp only [Part.alternatives, hnodes]

end Branches

theorem singleton_mul_singleton (u v : List Char) :
    ({u} : Language Char) * {v} = {u ++ v} := by
  ext w
  rw [Language.mem_mul]
  constructor
  · rintro ⟨_, rfl, _, rfl, rfl⟩
    rfl
  · rintro rfl
    exact ⟨u, rfl, v, rfl, rfl⟩

/-- Characters match the text that they make up. -/
theorem spell_text (deep : Nat) (text : List Char) :
    Spell deep (text.map .char) {text} (512 * text.length) := by
  induction text with
  | nil => exact .nil
  | cons c text ih =>
    have hchar : (Node.chars (.single c)).Spells (CharSet.single c).language 512 :=
      spells_chars (roughBytes?_single c)
    have htext := Spell.cons hchar (Nat.zero_le deep) ih
    rw [CharSet.language_single, singleton_mul_singleton] at htext
    rw [List.length_cons, Nat.mul_succ, Nat.add_comm]
    exact htext

/-- The language of some words. -/
def anyOf (ts : List (List Char)) : Language Char := {w | w ∈ ts}

/-- What alternative texts take at most. -/
def textsBytes : List (List Char) → Nat
  | [] => 0
  | t :: ts => 512 * t.length + 5 * stateBytes + textsBytes ts

/-- Alternative texts match just themselves. -/
theorem branches_texts (t : List Char) (ts : List (List Char)) :
    Branches 1 ((t :: ts).map fun u => .seq (u.map .char).reverse) (anyOf (t :: ts))
      (textsBytes (t :: ts)) := by
  obtain ⟨n, depth, hseq, hspells, hdepth⟩ := (spell_text 0 t).seq
  rw [List.map_cons, hseq, textsBytes]
  induction ts generalizing t n depth with
  | nil =>
    have hwords : anyOf [t] = {t} := by
      ext w
      exact List.mem_singleton
    rw [hwords]
    exact .single (hspells.mono (by simp [stateBytes, textsBytes])) hdepth
  | cons u ts ih =>
    obtain ⟨m, depth', hseq', hspells', hdepth'⟩ := (spell_text 0 u).seq
    have hwords : anyOf (t :: u :: ts) = {t} + anyOf (u :: ts) := by
      ext w
      exact List.mem_cons
    have hbranches := Branches.cons hspells hdepth (ih u m depth' hseq' hspells' hdepth')
    rw [hwords, List.map_cons, hseq', textsBytes]
    have hbytes (i j : Nat) : i + stateBytes + j + 4 * stateBytes = i + 5 * stateBytes + j := by
      omega
    rwa [hbytes] at hbranches

end Parts

/-! ## Texts -/

/-- Inside `outer` groups, the text matches the words of `L`. Its parts nest no deeper than `deep`
and take at most so much memory. -/
def Writes (outer deep : Nat) (w : List Char) (L : Language Char) (bytes : Nat) : Prop :=
  ∃ ps, Reads outer w ps ∧ Spell deep ps L bytes

/-- Inside `outer` groups, the text is one part that matches the words of `L` and that can be
repeated. -/
structure WritesAtom (outer deep : Nat) (w : List Char) (L : Language Char) (bytes : Nat) :
    Prop where
  opens : w.head? ≠ some '?'
  nonempty : w ≠ []
  reads : ∃ n depth, ReadsAtom outer w ⟨some n, depth⟩ ∧ n.Spells L bytes ∧ depth ≤ deep

section Writes

variable {outer deep deep' depth lo x y bytes : Nat} {u v w : List Char} {L M : Language Char}
  {s : CharSet}

theorem Writes.mono (h : Writes outer deep w L x) (hle : deep ≤ deep') :
    Writes outer deep' w L x := by
  obtain ⟨ps, hps, hspell⟩ := h
  exact ⟨ps, hps, hspell.mono hle⟩

theorem Writes.append (hu : Writes outer deep u L x) (hv : Writes outer deep v M y) :
    Writes outer deep (u ++ v) (L * M) (x + y) := by
  obtain ⟨ps, hps, hspell⟩ := hu
  obtain ⟨qs, hqs, hspell'⟩ := hv
  exact ⟨ps ++ qs, hps.append hqs, hspell.append hspell'⟩

theorem WritesAtom.writes (h : WritesAtom outer deep w L x) : Writes outer deep w L x := by
  obtain ⟨hopens, -, n, depth, hreads, hspells, hdepth⟩ := h
  exact ⟨_, hreads.reads hopens, .single hspells hdepth⟩

theorem WritesAtom.mono (h : WritesAtom outer deep w L x) (hle : deep ≤ deep') :
    WritesAtom outer deep' w L x := by
  obtain ⟨hopens, hnil, n, depth, hreads, hspells, hdepth⟩ := h
  exact ⟨hopens, hnil, n, depth, hreads, hspells, Nat.le_trans hdepth hle⟩

/-- An escaped text matches just itself. -/
theorem writes_escape (s : String) :
    Writes outer deep (escape s).toList {s.toList} (512 * s.toList.length) :=
  ⟨_, reads_escape s, spell_text deep s.toList⟩

/-- Plain characters match just themselves. -/
theorem writes_text (h : w.all isPlain = true) :
    Writes outer deep w {w} (512 * w.length) :=
  ⟨_, reads_text (List.all_eq_true.mp h), spell_text deep w⟩

theorem Writes.group (h : Writes (outer + 1) deep w L x) (houter : outer < nestLimit) :
    WritesAtom outer (deep + 3) ('(' :: w ++ [')']) L (x + 3 * stateBytes) := by
  obtain ⟨ps, hreads, hspell⟩ := h
  obtain ⟨n, depth, hseq, hspells, hdepth⟩ := hspell.seq
  have hgroup := hreads.body.group hreads.opens houter
  rw [hseq] at hgroup
  exact ⟨by simp, by simp, .group n, depth + 1, hgroup, hspells.group, by omega⟩

/-- Texts separated by bars match just themselves. -/
theorem writesAtom_texts {ts : List (List Char)} (hts : ts ≠ [])
    (h : ts.all (·.all isPlain) = true)
    (hopens : (['|'].intercalate ts).head? ≠ some '?') (houter : outer < nestLimit) :
    WritesAtom outer 3 ('(' :: ['|'].intercalate ts ++ [')']) (anyOf ts)
      (textsBytes ts + 2 * stateBytes) := by
  obtain ⟨t, ts, rfl⟩ := List.exists_cons_of_ne_nil hts
  obtain ⟨n, depth, halternatives, hspells, hdepth⟩ := (branches_texts t ts).alternatives
  have hplain : ∀ u ∈ t :: ts, ∀ c ∈ u, isPlain c = true := fun u hu =>
    List.all_eq_true.mp (List.all_eq_true.mp h u hu)
  have hgroup := (readsBody_texts hplain).group hopens houter
  rw [halternatives] at hgroup
  exact ⟨by simp, by simp, .group n, depth + 1, hgroup, hspells.group, by omega⟩

/-- What matches some text that is not empty can be repeated. -/
theorem WritesAtom.repeated (h : WritesAtom outer deep w L x) (hu : u ∈ L) (hne : u ≠ [])
    {t : List Char} {hi : Option Nat} (ht : Repeats outer t lo hi) (hhi : hi ≠ some 0)
    (htnil : t ≠ []) :
    Writes outer (deep + 1) (w ++ t) (timesOf L lo hi)
      ((max lo (hi.getD 1) + 1) * (x + 4 * stateBytes)) := by
  obtain ⟨hopens, hnil, n, depth, hreads, hspells, hdepth⟩ := h
  exact ⟨_, ht.reads hreads hopens hnil htnil,
    .single (hspells.repeated (hspells.takesNothing_eq_false hu hne) lo hhi)
      (Nat.succ_le_succ hdepth)⟩

/-- It may also be there or not. -/
theorem WritesAtom.optional (h : WritesAtom outer deep w L x) (hu : u ∈ L) (hne : u ≠ []) :
    Writes outer (deep + 1) (w ++ ['?']) (1 + L) (2 * (x + 4 * stateBytes)) :=
  timesOf_zero_one L ▸ h.repeated hu hne repeats_optional (by simp) (by simp)

theorem writesAtom_set (h : ReadsAtom outer w ⟨some (.chars s), depth⟩)
    (hopens : w.head? ≠ some '?') (hnil : w ≠ []) (hbytes : s.roughBytes? = some x) :
    WritesAtom outer depth w s.language x :=
  ⟨hopens, hnil, .chars s, depth, h, spells_chars hbytes, Nat.le_refl depth⟩

/-- A set repeated matches the texts of so many of its characters or more. -/
theorem writes_repeated {t : List Char} (h : ReadsAtom outer w ⟨some (.chars s), depth⟩)
    (hopens : w.head? ≠ some '?') (hnil : w ≠ []) (hbytes : s.roughBytes? = some x)
    (ht : Repeats outer t lo none) (htnil : t ≠ []) :
    Writes outer (depth + 1) (w ++ t) {v | lo ≤ v.length ∧ ∀ c ∈ v, s.contains c = true}
      ((max lo 1 + 1) * (x + 4 * stateBytes)) :=
  ⟨_, ht.reads h hopens hnil htnil, .single (spells_repeated hbytes) (Nat.le_refl _)⟩

/-- The texts of so many digits or more. -/
def digits (lo : Nat) : Language Char := {w | lo ≤ w.length ∧ ∀ c ∈ w, isDigit c = true}

theorem writes_digits {t : List Char} (ht : Repeats outer t lo none) (hnil : t ≠ []) :
    Writes outer 1 (['\\', 'd'] ++ t) (digits lo) ((max lo 1 + 1) * (65536 + 4 * stateBytes)) :=
  writes_repeated readsAtom_digit (by simp) (by simp) rfl ht hnil

/-- What reads as parts that do not nest deep is a pattern of these parts. -/
theorem Spell.parse? {ps : List Part} (h : Spell deep ps L bytes) (hdeep : deep ≤ 100)
    (hreads : Reads 1 w ps) {pattern : String} (hpattern : pattern.toList = w) :
    ∃ n depth, Part.seq ps.reverse = ⟨some n, depth⟩ ∧ n.Spells L (bytes + stateBytes) ∧
      Pattern.parse? (anchored pattern) = some n.whole := by
  obtain ⟨n, depth, hseq, hspells, hdepth⟩ := h.seq
  have hpart : Part.alternatives [Part.seq ps.reverse].reverse = ⟨some n, depth⟩ := by
    rw [hseq]
    rfl
  have hlimit : depth + 2 ≤ nestLimit := by
    rw [nestLimit]
    omega
  exact ⟨n, depth, hseq, hspells, parse?_anchored hreads.body hpart hlimit hpattern⟩

/-- A text fits the pattern as a whole just when it is one of the words, unless the pattern is
refused; that is so only if it may take too much memory. -/
theorem Writes.fullMatch (h : Writes 1 deep w L bytes) (hdeep : deep ≤ 100) {pattern : String}
    (hpattern : pattern.toList = w) (text : String) :
    (∃ b, fullMatch pattern text = .ok b ∧ (b = true ↔ text.toList ∈ L)) ∨
      (fullMatch pattern text = .error (.invalidPattern pattern) ∧
        memoryLimit < bytes + 11 * stateBytes) := by
  obtain ⟨ps, hreads, hspell⟩ := h
  obtain ⟨n, -, -, ⟨hfree, -, rfl, b, hb, hrough⟩, hparse⟩ := hspell.parse? hdeep hreads hpattern
  have hwhole : n.whole.roughBytes? = some (stateBytes + b + stateBytes) := by
    simp only [Node.whole, Node.roughBytes?, hrough]
    rfl
  rw [Pattern.fullMatch, compile, hparse]
  by_cases hfits : n.whole.fits = true
  · left
    refine ⟨_, by simp only [if_pos hfits]; rfl, ?_⟩
    exact Node.occursIn_whole hfree text
  · right
    refine ⟨by simp only [if_neg hfits]; rfl, ?_⟩
    rw [Node.fits, hwhole] at hfits
    simp only [Option.any_some, Bool.or_eq_true, decide_eq_true_eq, not_or] at hfits
    omega

/-- The whole text matches what the pattern reads as, however much memory that takes. -/
def Matches (pattern text : String) : Prop :=
  ∃ n, parse? (anchored pattern) = some n ∧ n.occursIn text = true

/-- The texts that match are the words, also where the pattern is refused. -/
theorem Writes.matches_iff (h : Writes 1 deep w L bytes) (hdeep : deep ≤ 100) {pattern : String}
    (hpattern : pattern.toList = w) (text : String) :
    Matches pattern text ↔ text.toList ∈ L := by
  obtain ⟨ps, hreads, hspell⟩ := h
  obtain ⟨n, -, -, ⟨hfree, -, rfl, -⟩, hparse⟩ := hspell.parse? hdeep hreads hpattern
  rw [← Node.occursIn_whole hfree text, Matches, hparse]
  simp only [Option.some.injEq, exists_eq_left']

/-- What a match answers is whether the text matches. -/
theorem matches_of_fullMatch {pattern text : String} {answer : Bool}
    (h : Pattern.fullMatch pattern text = .ok answer) : answer = true ↔ Matches pattern text := by
  rw [Pattern.fullMatch, compile] at h
  rw [Matches]
  cases hparse : parse? (anchored pattern) with
  | none =>
    rw [hparse] at h
    cases h
  | some n =>
    rw [hparse] at h
    by_cases hfits : n.fits = true
    · simp only [if_pos hfits] at h
      cases h
      simp only [Option.some.injEq, exists_eq_left']
      rfl
    · simp only [if_neg hfits] at h
      cases h

end Writes

end Eir.Pattern
