import Eir.Naming.TypeName
import Eir.Proofs.Naming.Matching

/-!
# What the patterns of type names match

The names that the pattern of a shape of type names stands for
(`TypeNameConvention.names`): a label, words for the sub-kind where the shape has
some, and a number of two to four digits. A sample with a number of up to four
digits is named by one of them (`sampleName_mem_names`), and by none of them with
`-BAD` behind (`suffixed_not_mem_names`). As among other patterns, only long ones
are refused.
-/

namespace Eir

open Pattern

/-! ## Words -/

/-- The letters that words begin with. -/
def capital : CharSet := .unionAll [.range 'A' 'Z']

/-- The letters that words go on with. -/
def small : CharSet := .unionAll [.range 'a' 'z']

/-- Some small letters. -/
def smallLetters : Language Char := {w | 1 ≤ w.length ∧ ∀ c ∈ w, small.contains c = true}

/-- A capital letter with small letters behind it. -/
def properWord : Language Char := capital.language * smallLetters

/-- Words that begin with a capital letter, put together. -/
def properWords : Language Char := timesOf properWord 1 none

theorem mem_properWord {c : Char} {w : List Char} (hc : capital.contains c = true) (hne : w ≠ [])
    (hw : w.all small.contains = true) : c :: w ∈ properWord :=
  ⟨[c], ⟨c, hc, rfl⟩, w, ⟨List.length_pos_iff.mpr hne, List.all_eq_true.mp hw⟩, rfl⟩

/-- Some words are put together. -/
theorem flatten_mem_properWords (ws : List (List Char)) (hne : ws ≠ [])
    (h : ∀ w ∈ ws, w ∈ properWord) : ws.flatten ∈ properWords := by
  refine ⟨ws.length, List.length_pos_iff.mpr hne, nofun, ?_⟩
  clear hne
  induction ws with
  | nil => exact rfl
  | cons w ws ih =>
    rw [List.length_cons, pow_succ']
    exact Language.append_mem_mul (h w List.mem_cons_self)
      (ih fun v hv => h v (List.mem_cons_of_mem w hv))

theorem someWord_mem : ['A', 'a'] ∈ properWords :=
  flatten_mem_properWords [['A', 'a']] (by decide)
    (List.forall_mem_singleton.mpr (mem_properWord (by decide) (by decide) (by decide)))

theorem someWords_mem : "SomeUserDefined".toList ∈ properWords := by
  have hwords : "SomeUserDefined".toList = ["Some".toList, "User".toList, "Defined".toList].flatten :=
    rfl
  rw [hwords]
  refine flatten_mem_properWords _ (by decide) ?_
  simp only [List.forall_mem_cons]
  exact ⟨mem_properWord (by decide) (by decide) (by decide),
    mem_properWord (by decide) (by decide) (by decide),
    mem_properWord (by decide) (by decide) (by decide), List.forall_mem_nil _⟩

theorem readsAtom_capital {outer : Nat} :
    ReadsAtom outer "[A-Z]".toList (.oneOf [.range 'A' 'Z']) :=
  readsAtom_of_atom (w := "A-Z]".toList) (by decide) fun _ => rfl

theorem readsAtom_small {outer : Nat} :
    ReadsAtom outer "[a-z]".toList (.oneOf [.range 'a' 'z']) :=
  readsAtom_of_atom (w := "a-z]".toList) (by decide) fun _ => rfl

/-- The pattern of words put together. -/
theorem writes_properWords {outer : Nat} (houter : outer < nestLimit) :
    Writes outer 6 properCaseWords.toList properWords 25728 := by
  have hcapital : Writes (outer + 1) 2 "[A-Z]".toList capital.language 4128 :=
    ((writesAtom_set readsAtom_capital (by decide) (by decide) rfl).mono (by decide)).writes
  have hsmall : Writes (outer + 1) 2 ("[a-z]".toList ++ ['+']) smallLetters 8512 :=
    (writes_repeated readsAtom_small (by decide) (by decide) rfl repeats_some
      (by decide)).mono (by decide)
  have hword : ['A', 'a'] ∈ properWord := mem_properWord (by decide) (by decide) (by decide)
  exact ((hcapital.append hsmall).group houter).repeated hword (by simp) repeats_some (by simp)
    (by simp)

/-! ## Numbers -/

/-- A count of two to four, as names of types have it. -/
theorem repeats_two_to_four {outer : Nat} : Repeats outer "\x7b2,4\x7d".toList 2 (some 4) :=
  repeats_braces (t := ['2', ',', '4', '\x7d']) fun _ => rfl

/-- The texts of two to four digits. -/
def shortNumbers : Language Char :=
  {w | 2 ≤ w.length ∧ w.length ≤ 4 ∧ ∀ c ∈ w, isDigit c = true}

theorem timesOf_digit : timesOf CharSet.digit.language 2 (some 4) = shortNumbers := by
  ext w
  refine mem_timesOf_language.trans ?_
  constructor
  · rintro ⟨hlo, hhi, hall⟩
    exact ⟨hlo, hhi 4 rfl, hall⟩
  · rintro ⟨hlo, hhi, hall⟩
    refine ⟨hlo, fun n hn => ?_, hall⟩
    obtain rfl := Option.mem_some.mp hn
    exact hhi

theorem writes_shortNumbers {outer : Nat} :
    Writes outer 1 "\\d\x7b2,4\x7d".toList shortNumbers 328320 := by
  have hdigit : WritesAtom outer 0 ['\\', 'd'] CharSet.digit.language 65536 :=
    writesAtom_set readsAtom_digit (by simp) (by simp) rfl
  have hnumbers := hdigit.repeated (u := ['0']) ⟨'0', by decide, rfl⟩ (by simp)
    repeats_two_to_four (by simp) (by simp)
  rwa [timesOf_digit] at hnumbers

/-! ## The names of a shape -/

namespace TypeNameConvention

/-- The label in the names of the shape. -/
def entity : TypeNameConvention → String
  | enumerated entity _ | userDefined entity | unenumerated entity => entity

/-- The pattern of what stands behind the label. -/
def tailPattern : TypeNameConvention → String
  | enumerated _ display => "_" ++ Pattern.escape display ++ "_Type\\d\x7b2,4\x7d"
  | userDefined _ => "_(([A-Z][a-z]+)+_)Type\\d\x7b2,4\x7d"
  | unenumerated _ => "_(([A-Z][a-z]+)+_)?Type\\d\x7b2,4\x7d"

/-- What can stand for the label: the label itself, or any words if it is free. -/
def labels (entity : String) (freeLabel : Bool) : Language Char :=
  if freeLabel then properWords else {entity.toList}

/-- What can stand behind the label. -/
def tails : TypeNameConvention → Language Char
  | enumerated _ display => {['_']} * {display.toList} * ({"_Type".toList} * shortNumbers)
  | userDefined _ => {['_']} * (properWords * {['_']}) * {"Type".toList} * shortNumbers
  | unenumerated _ => {['_']} * (1 + properWords * {['_']}) * {"Type".toList} * shortNumbers

/-- The names that the pattern of a shape stands for. -/
def names (c : TypeNameConvention) (freeLabel : Bool) : Language Char :=
  labels c.entity freeLabel * c.tails

variable (c : TypeNameConvention) (freeLabel : Bool)

theorem pattern_eq : c.pattern freeLabel = entityPattern c.entity freeLabel ++ c.tailPattern := by
  cases c with
  | enumerated entity display => simp only [pattern, tailPattern, TypeNameConvention.entity,
      String.append_assoc]
  | userDefined entity => rfl
  | unenumerated entity => rfl

theorem writes_entityPattern (entity : String) :
    ∃ bytes, Writes 1 10 (entityPattern entity freeLabel).toList (labels entity freeLabel) bytes ∧
      bytes ≤ 512 * (entityPattern entity freeLabel).length + 25728 := by
  cases freeLabel with
  | true => exact ⟨_, (writes_properWords (by decide)).mono (by decide), Nat.le_add_left _ _⟩
  | false =>
    have hlength : entity.toList.length ≤ (Pattern.escape entity).length :=
      NamingDecision.length_le_escape entity
    refine ⟨_, writes_escape entity, ?_⟩
    simp only [entityPattern, Bool.false_eq_true, if_false]
    omega

/-- Words in a group, with an underscore behind. -/
theorem writesAtom_words :
    WritesAtom 1 9 ('(' :: (properCaseWords.toList ++ ['_']) ++ [')']) (properWords * {['_']})
      26336 :=
  ((writes_properWords (by decide)).append (writes_text (by decide))).group (by decide)

theorem writes_tailPattern :
    ∃ bytes, Writes 1 10 c.tailPattern.toList c.tails bytes ∧
      bytes ≤ 512 * c.tailPattern.length + 400000 := by
  have hline : Writes 1 10 ['_'] {['_']} 512 := writes_text (by decide)
  have htype : Writes 1 10 "Type".toList {"Type".toList} 2048 := writes_text (by decide)
  have hnumber : Writes 1 10 "\\d\x7b2,4\x7d".toList shortNumbers 328320 :=
    writes_shortNumbers.mono (by decide)
  cases c with
  | enumerated entity display =>
    have hlineType : Writes 1 10 "_Type".toList {"_Type".toList} 2560 := writes_text (by decide)
    have hsuffix : Writes 1 10 "_Type\\d\x7b2,4\x7d".toList ({"_Type".toList} * shortNumbers) _ :=
      hlineType.append hnumber
    have hlength : display.toList.length ≤ (Pattern.escape display).length :=
      NamingDecision.length_le_escape display
    rw [tailPattern, String.toList_append, String.toList_append]
    refine ⟨_, (hline.append (writes_escape display)).append hsuffix, ?_⟩
    simp only [String.length_append]
    omega
  | userDefined entity =>
    have hwords := writesAtom_words.writes.mono (show 9 ≤ 10 by decide)
    have hpattern : (userDefined entity).tailPattern.toList = ['_'] ++
        ('(' :: (properCaseWords.toList ++ ['_']) ++ [')']) ++ "Type".toList ++
          "\\d\x7b2,4\x7d".toList := by
      rw [tailPattern]
      decide
    rw [hpattern]
    exact ⟨_, ((hline.append hwords).append htype).append hnumber, by omega⟩
  | unenumerated entity =>
    have hwords := writesAtom_words.optional (u := ['A', 'a', '_'])
      ⟨['A', 'a'], someWord_mem, ['_'], rfl, rfl⟩ (by simp)
    have hpattern : (unenumerated entity).tailPattern.toList = ['_'] ++
        ('(' :: (properCaseWords.toList ++ ['_']) ++ [')'] ++ ['?']) ++ "Type".toList ++
          "\\d\x7b2,4\x7d".toList := by
      rw [tailPattern]
      decide
    rw [hpattern]
    refine ⟨_, ((hline.append hwords).append htype).append hnumber, ?_⟩
    rw [stateBytes]
    omega

/-- The names are what matches the pattern, and so a match answers unless the pattern is refused. -/
theorem decides_pattern {text : String} {answer : Bool}
    (h : answer = true ↔ text.toList ∈ c.names freeLabel) :
    Decides (c.pattern freeLabel) text answer := by
  obtain ⟨x, hentity, hx⟩ := writes_entityPattern freeLabel c.entity
  obtain ⟨y, htail, hy⟩ := c.writes_tailPattern
  have hwrites : Writes 1 10 (c.pattern freeLabel).toList (c.names freeLabel) (x + y) := by
    rw [pattern_eq, String.toList_append]
    exact hentity.append htail
  refine ⟨(hwrites.matches_iff (by decide) rfl text).trans h.symm, ?_⟩
  rcases hwrites.fullMatch (by decide) rfl text with ⟨b, hb, hiff⟩ | ⟨hrefused, hlarge⟩
  · left
    rw [hb, Bool.eq_iff_iff.mpr (hiff.trans h.symm)]
  · refine .inr ⟨hrefused, ?_⟩
    simp only [memoryLimit, stateBytes] at hlarge
    rw [pattern_eq, String.length_append, safeLength]
    omega

/-! ## The names of samples -/

theorem zeroPadded_mem_shortNumbers {variant : Nat} (width : Nat) (hlo : 2 ≤ width) (hhi : width ≤ 4)
    (hvariant : variant ≤ 9999) : (Text.zeroPadded width variant).toList ∈ shortNumbers :=
  ⟨Nat.le_trans hlo (Text.le_length_zeroPadded width variant),
    Text.length_zeroPadded_le hhi (by decide) (by omega),
    fun _ hc => isDigit_of_isDigit (Text.isDigit_of_mem_zeroPadded hc)⟩

/-- A sample is named by one of the names, if its label is made of words where any words can
stand for it. -/
theorem sampleName_mem_names {variant : Nat} (h : variant ≤ 9999)
    (hlabel : freeLabel = true → c.entity.toList ∈ properWords) :
    (c.sampleName variant).toList ∈ c.names freeLabel := by
  have hlabel : c.entity.toList ∈ labels c.entity freeLabel := by
    cases freeLabel with
    | true => exact hlabel rfl
    | false => exact rfl
  cases c with
  | enumerated entity display =>
    have hnumber := zeroPadded_mem_shortNumbers 2 (by decide) (by decide) h
    simp only [sampleName, String.toList_append, List.append_assoc]
    exact ⟨_, hlabel, _, ⟨_, ⟨_, rfl, _, rfl, rfl⟩, _,
      ⟨_, rfl, _, hnumber, rfl⟩, rfl⟩, by simp [TypeNameConvention.entity]⟩
  | userDefined entity =>
    have hnumber := zeroPadded_mem_shortNumbers 3 (by decide) (by decide) h
    have hwords : "_SomeUserDefined_Type".toList =
        ['_'] ++ ("SomeUserDefined".toList ++ ['_']) ++ "Type".toList := by decide
    simp only [sampleName, String.toList_append, hwords, List.append_assoc]
    exact ⟨_, hlabel, _, ⟨_, ⟨_, ⟨_, rfl, _, ⟨_, someWords_mem, _, rfl, rfl⟩, rfl⟩, _, rfl, rfl⟩, _,
      hnumber, rfl⟩, by simp [TypeNameConvention.entity]⟩
  | unenumerated entity =>
    have hnumber := zeroPadded_mem_shortNumbers 4 (by decide) (by decide) h
    have hwords : "_Type".toList = ['_'] ++ [] ++ "Type".toList := by decide
    simp only [sampleName, String.toList_append, hwords, List.append_assoc]
    exact ⟨_, hlabel, _, ⟨_, ⟨_, ⟨_, rfl, [], .inl rfl, rfl⟩, _, rfl, rfl⟩, _,
      hnumber, rfl⟩, by simp [TypeNameConvention.entity]⟩

/-- Behind the label the names end with a digit. -/
theorem exists_of_mem_tails {w : List Char} (h : w ∈ c.tails) :
    ∃ u v, v ∈ shortNumbers ∧ w = u ++ v := by
  cases c with
  | enumerated entity display =>
    obtain ⟨u, -, _, ⟨v, -, n, hn, rfl⟩, rfl⟩ := h
    exact ⟨u ++ v, n, hn, (List.append_assoc u v n).symm⟩
  | userDefined entity =>
    obtain ⟨u, -, n, hn, rfl⟩ := h
    exact ⟨u, n, hn, rfl⟩
  | unenumerated entity =>
    obtain ⟨u, -, n, hn, rfl⟩ := h
    exact ⟨u, n, hn, rfl⟩

/-- With `-BAD` behind, nothing is one of the names. -/
theorem suffixed_not_mem_names (name : String) : (name ++ "-BAD").toList ∉ c.names freeLabel := by
  rintro ⟨label, -, tail, htail, heq⟩
  obtain ⟨u, v, ⟨hlo, -, hdigits⟩, rfl⟩ := c.exists_of_mem_tails htail
  have hne : v ≠ [] := List.ne_nil_of_length_pos (by omega)
  have hlast := congrArg List.getLast? heq
  simp only [String.toList_append] at hlast
  rw [← List.append_assoc, List.getLast?_append_of_ne_nil _ hne,
    List.getLast?_append_of_ne_nil _ (by decide)] at hlast
  have hdigit := hdigits 'D' (List.mem_of_getLast? hlast)
  exact absurd hdigit (by decide +kernel)

/-- A sample matches the pattern, and does not with `-BAD` behind its name. -/
theorem decides_sampleName {variant : Nat} (h : variant ≤ 9999)
    (hlabel : freeLabel = true → c.entity.toList ∈ properWords) :
    Decides (c.pattern freeLabel) (c.sampleName variant) true ∧
      Decides (c.pattern freeLabel) (c.sampleName variant ++ "-BAD") false :=
  ⟨c.decides_pattern freeLabel (iff_of_true rfl (c.sampleName_mem_names freeLabel h hlabel)),
    c.decides_pattern freeLabel (iff_of_false nofun (c.suffixed_not_mem_names freeLabel _))⟩

end TypeNameConvention

end Eir
