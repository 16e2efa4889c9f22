import Eir.Layout
import Eir.Proofs.Files.Place
import Eir.Proofs.Text.Delimited

/-!
# Names of documents

Titles and tags are free text, and a name of a file keeps little of them. But an
identifier of plain characters stands in the name as it is, and what follows it
there cannot be taken for a part of it. So documents of different rules have
different names (`specificationPath_injective`), and so have the documents of
different scopes (`safeFileName_scope_injective`). The document of the outermost scope has
free text for a name; that of a scope in it has the same text with more in front
(`length_safeFileName_scope`).
-/

namespace Eir

open Text

/-- A letter, a digit, an underscore or a hyphen, all of ASCII. -/
def isPlain (c : Char) : Bool := c.isAlphanum || c = '_' || c = '-'

/-- A text of plain characters. -/
def PlainText (s : String) : Prop := ∀ c ∈ s.toList, isPlain c = true

instance (s : String) : Decidable (PlainText s) :=
  decidable_of_iff (s.toList.all isPlain = true) List.all_eq_true

/-- Identifiers of plain characters, with slashes between them. -/
def PlainPrefix (s : String) : Prop := ∀ c ∈ s.toList, c = '/' ∨ isPlain c = true

variable {c : Char} {xs ys : List Char} {i j t u : String}

/-! ## Plain characters -/

theorem toNat_of_isPlain (h : isPlain c = true) : 45 ≤ c.toNat ∧ c.toNat ≤ 122 := by
  have hletter : c.isAlpha = (decide (c.val ≥ 'A'.val ∧ c.val ≤ 'Z'.val) ||
      decide (c.val ≥ 'a'.val) && decide (c.val ≤ 'z'.val)) := rfl
  simp only [isPlain, Char.isAlphanum, hletter, Char.isDigit,
    Bool.or_eq_true, Bool.and_eq_true, decide_eq_true_eq, ge_iff_le, UInt32.le_iff_toNat_le] at h
  rcases h with (((⟨h, h'⟩ | ⟨h, h'⟩) | ⟨h, h'⟩) | rfl) | rfl
  · exact ⟨Nat.le_trans (by decide) h, Nat.le_trans h' (by decide)⟩
  · exact ⟨Nat.le_trans (by decide) h, h'⟩
  · exact ⟨Nat.le_trans (by decide) h, Nat.le_trans h' (by decide)⟩
  · decide
  · decide

theorem isBlank_of_isPlain (h : isPlain c = true) : isBlank c = false := by
  obtain ⟨hlow, hhigh⟩ := toNat_of_isPlain h
  simp only [isBlank, Bool.or_eq_false_iff, Bool.and_eq_false_iff, decide_eq_false_iff_not,
    beq_eq_false_iff_ne]
  omega

theorem ne_of_isPlain {d : Char} (h : isPlain c = true) (hd : isPlain d = false) : c ≠ d := by
  rintro rfl
  rw [h] at hd
  cases hd

theorem isForbidden_of_isPlain (h : isPlain c = true) : isForbiddenInNames c = false := by
  obtain ⟨hlow, hhigh⟩ := toNat_of_isPlain h
  have hcontrol : isControl c = false := by
    simp only [isControl, Bool.or_eq_false_iff, Bool.and_eq_false_iff, decide_eq_false_iff_not]
    omega
  rw [isForbiddenInNames, hcontrol, Bool.or_false, List.contains_eq_mem, decide_eq_false_iff_not]
  simp only [List.mem_cons, List.not_mem_nil, or_false, not_or]
  refine ⟨?_, ?_, ?_, ?_, ?_, ?_, ?_, ?_, ?_⟩ <;> exact ne_of_isPlain h (by decide)

theorem isPlain_of_isDigit (h : c.isDigit = true) : isPlain c = true := by
  simp [isPlain, Char.isAlphanum, h]

/-! ## Trimming -/

theorem dropEndWhile_append (p : Char → Bool) (xs ys : List Char) :
    dropEndWhile p (xs ++ ys) =
      if (dropEndWhile p ys).isEmpty then dropEndWhile p xs else xs ++ dropEndWhile p ys := by
  simp only [dropEndWhile, List.reverse_append, List.dropWhile_append, List.isEmpty_reverse]
  split
  · rfl
  · rw [List.reverse_append, List.reverse_reverse]

/-- Trimming stops at a character that stays. -/
theorem dropEndWhile_append_of_stay {p : Char → Bool} (hc : p c = false) (xs ys : List Char) :
    dropEndWhile p (xs ++ [c] ++ ys) = xs ++ [c] ++ dropEndWhile p ys := by
  rw [dropEndWhile_append]
  split
  · rename_i hempty
    rw [List.isEmpty_iff.mp hempty, List.append_nil, dropEndWhile, List.reverse_append,
      List.reverse_singleton, List.singleton_append, List.dropWhile_cons_of_neg (by simp [hc]),
      List.reverse_cons, List.reverse_reverse]
  · rfl

/-- Trimming at the front as well leaves no more. -/
theorem length_dropEndWhile_dropWhile (p q : Char → Bool) (xs : List Char) :
    (dropEndWhile p (xs.dropWhile q)).length ≤ (dropEndWhile p xs).length := by
  conv_rhs => rw [← List.takeWhile_append_dropWhile (p := q) (l := xs)]
  rw [dropEndWhile_append]
  split
  · rename_i hempty
    rw [List.isEmpty_iff.mp hempty]
    exact Nat.zero_le _
  · rw [List.length_append]
    exact Nat.le_add_left _ _

/-! ## Safe names -/

/-- Hyphens for what does not stand in names. -/
def cleaned (cs : List Char) : List Char := cs.map fun c => if isForbiddenInNames c then '-' else c

theorem toList_safeFileName (name : String) :
    (safeFileName name).toList =
      dropEndWhile isPointOrBlank ((cleaned name.toList).dropWhile isBlank) := by
  rw [safeFileName, String.toList_ofList]
  rfl

theorem cleaned_append (xs ys : List Char) : cleaned (xs ++ ys) = cleaned xs ++ cleaned ys :=
  List.map_append

theorem cleaned_of_isPlain (h : ∀ c ∈ xs, isPlain c = true) : cleaned xs = xs := by
  conv_rhs => rw [← List.map_id xs]
  refine List.map_congr_left fun c hc => ?_
  rw [if_neg (by simp [isForbidden_of_isPlain (h c hc)]), id]

theorem slash_not_mem_safeFileName (name : String) : '/' ∉ (safeFileName name).toList := by
  rw [toList_safeFileName, dropEndWhile, List.mem_reverse]
  intro hmem
  have hcleaned : '/' ∈ cleaned name.toList :=
    (List.dropWhile_sublist _).subset
      (List.mem_reverse.mp ((List.dropWhile_sublist _).subset hmem))
  obtain ⟨c, -, hc⟩ := List.mem_map.mp hcleaned
  split at hc
  · cases hc
  · rename_i hallowed
    subst hc
    exact hallowed (by decide)

/-- A name that begins with a plain character, up to a character that stays: all of it stays, and
what follows is trimmed. -/
theorem safeFileName_of_front {name : String} {d : Char} (hc : isPlain c = true)
    (hd : isPointOrBlank (if isForbiddenInNames d then '-' else d) = false)
    (hname : name.toList = c :: xs ++ [d] ++ ys) :
    (safeFileName name).toList =
      cleaned (c :: xs ++ [d]) ++ dropEndWhile isPointOrBlank (cleaned ys) := by
  have hfirst : cleaned (c :: xs ++ [d] ++ ys) = c :: cleaned (xs ++ [d] ++ ys) := by
    simp [cleaned, isForbidden_of_isPlain hc]
  have hfront : cleaned (c :: xs ++ [d] ++ ys) =
      cleaned (c :: xs) ++ [if isForbiddenInNames d then '-' else d] ++ cleaned ys := by
    simp only [cleaned_append]
    rfl
  rw [toList_safeFileName, hname, hfirst, List.dropWhile_cons_of_neg (by simp [isBlank_of_isPlain hc]),
    ← hfirst, hfront, dropEndWhile_append_of_stay hd, cleaned_append (c :: xs)]
  rfl

/-! ## Rules -/

/-- In the name of a rule's document the identifier is what stands before the first blank. -/
theorem safeFileName_rule (hi : PlainText i) (hne : i ≠ "") (title : String) :
    ∃ r, (safeFileName (i ++ " : " ++ title)).toList = i.toList ++ ' ' :: r := by
  cases hlist : i.toList with
  | nil => exact absurd (String.toList_inj.mp hlist) hne
  | cons c cs =>
    have hfirst : isPlain c = true := hi c (by rw [hlist]; exact List.mem_cons_self)
    have hname : (i ++ " : " ++ title).toList = c :: (cs ++ [' ']) ++ [':'] ++ ' ' :: title.toList := by
      rw [String.toList_append, String.toList_append, hlist]
      simp
    have hclean : cleaned (c :: cs) = c :: cs := by
      rw [← hlist]
      exact cleaned_of_isPlain hi
    rw [safeFileName_of_front hfirst (by decide) hname]
    refine ⟨'-' :: dropEndWhile isPointOrBlank (cleaned (' ' :: title.toList)), ?_⟩
    rw [show c :: (cs ++ [' ']) ++ [':'] = (c :: cs) ++ [' ', ':'] by simp, cleaned_append, hclean,
      show cleaned [' ', ':'] = [' ', '-'] by decide]
    simp

theorem space_not_mem (hi : PlainText i) : ' ' ∉ i.toList :=
  fun hmem => absurd (hi ' ' hmem) (by decide)

/-! ## Scopes -/

/-- The name of the group of a scope in another one, for a stage with a number. -/
def scopeName (n : Nat) (ident tag bundle : String) : String :=
  decimal n ++ "_" ++ ident ++ " " ++ tag ++ " - " ++ bundle

/-- The part of the name of a group that stands before the name of the bundle. -/
def scopeFront (n : Nat) (ident tag : String) : List Char :=
  cleaned ((decimal n).toList ++ '_' :: (ident.toList ++ ' ' :: (tag.toList ++ [' ', '-'])))

theorem safeFileName_scope (n : Nat) (ident tag bundle : String) :
    (safeFileName (scopeName n ident tag bundle)).toList =
      scopeFront n ident tag ++
        dropEndWhile isPointOrBlank (cleaned (' ' :: bundle.toList)) := by
  cases hdigits : (decimal n).toList with
  | nil =>
    rw [toList_decimal] at hdigits
    exact absurd hdigits Nat.toDigits_ne_nil
  | cons c cs =>
    have hfirst : isPlain c = true :=
      isPlain_of_isDigit (isDigit_of_mem_decimal (n := n) (by rw [hdigits]; exact List.mem_cons_self))
    have hname : (scopeName n ident tag bundle).toList =
        c :: (cs ++ '_' :: (ident.toList ++ ' ' :: (tag.toList ++ [' ']))) ++ ['-'] ++
          ' ' :: bundle.toList := by
      simp only [scopeName, String.toList_append, hdigits]
      simp
    rw [safeFileName_of_front hfirst (by decide) hname, scopeFront, hdigits]
    simp

/-- In the name of a scope's document the identifier stands between the first underscore and the
first blank. -/
theorem scopeFront_eq (hi : PlainText i) (n : Nat) (tag : String) :
    ∃ r, scopeFront n i tag = (decimal n).toList ++ '_' :: (i.toList ++ ' ' :: r) := by
  have hdigits : cleaned (decimal n).toList = (decimal n).toList :=
    cleaned_of_isPlain fun c hc => isPlain_of_isDigit (isDigit_of_mem_decimal hc)
  refine ⟨cleaned (tag.toList ++ [' ', '-']), ?_⟩
  rw [scopeFront, cleaned_append, hdigits,
    show '_' :: (i.toList ++ ' ' :: (tag.toList ++ [' ', '-'])) =
      ['_'] ++ (i.toList ++ ([' '] ++ (tag.toList ++ [' ', '-']))) by simp,
    cleaned_append, cleaned_append, cleaned_of_isPlain hi, cleaned_append,
    show cleaned ['_'] = ['_'] by decide, show cleaned [' '] = [' '] by decide]
  simp

theorem safeFileName_scope_injective {n : Nat} {tag tag' bundle : String} (hi : PlainText i)
    (hj : PlainText j)
    (h : safeFileName (scopeName n i tag bundle) = safeFileName (scopeName n j tag' bundle)) :
    i = j := by
  obtain ⟨r, hr⟩ := scopeFront_eq hi n tag
  obtain ⟨s, hs⟩ := scopeFront_eq hj n tag'
  have hlist := congrArg String.toList h
  rw [safeFileName_scope, safeFileName_scope, hr, hs] at hlist
  simp only [List.append_assoc, List.cons_append] at hlist
  have hrest := (List.cons.inj (List.append_cancel_left hlist)).2
  exact String.toList_inj.mp (closed_cancel (space_not_mem hi) (space_not_mem hj) hrest).1

/-- A scope in another one has a longer name than the outermost one. -/
theorem length_safeFileName_scope (n : Nat) (ident tag bundle : String) :
    (safeFileName bundle).toList.length <
      (safeFileName (scopeName n ident tag bundle)).toList.length := by
  have htrim := length_dropEndWhile_dropWhile isPointOrBlank isBlank (cleaned bundle.toList)
  have hlonger : (dropEndWhile isPointOrBlank (cleaned bundle.toList)).length ≤
      (dropEndWhile isPointOrBlank (cleaned (' ' :: bundle.toList))).length := by
    rw [show cleaned (' ' :: bundle.toList) = [' '] ++ cleaned bundle.toList from rfl,
      dropEndWhile_append]
    split
    · rename_i hempty
      rw [List.isEmpty_iff.mp hempty]
      exact Nat.zero_le _
    · rw [List.length_append]
      exact Nat.le_add_left _ _
  have hfront : 0 < (scopeFront n ident tag).length := by simp [scopeFront, cleaned]
  rw [toList_safeFileName, safeFileName_scope, List.length_append]
  omega

/-! ## Paths -/

namespace Layout

variable {l : Layout} {stage : Stage} {location location' : SpecLocation} {name name' : String}

theorem properName_stage (stage : Stage) : Path.ProperName stage.name := by
  cases stage <;> exact Path.properName_of_length (by decide) (by decide)

theorem properName_ids {file : String} (h : '/' ∉ file.toList) :
    Path.ProperName (file ++ ".ids") := by
  refine Path.properName_of_length ?_ ?_
  · rw [String.toList_append, List.mem_append]
    rintro (hmem | hmem)
    · exact h hmem
    · exact absurd hmem (by decide)
  · rw [String.toList_append, List.length_append]
    exact Nat.lt_of_lt_of_le (by decide) (Nat.le_add_left _ _)

/-- The name of the document of a single specification. -/
def specificationFile (stage : Stage) (name : String) : String :=
  decimal stage.number ++ "_" ++ safeFileName name ++ ".ids"

theorem properName_specificationFile (stage : Stage) (name : String) :
    Path.ProperName (specificationFile stage name) := by
  refine properName_ids ?_
  rw [String.toList_append, String.toList_append, List.mem_append, List.mem_append]
  rintro ((hmem | hmem) | hmem)
  · exact absurd (isDigit_of_mem_decimal hmem) (by decide)
  · exact absurd hmem (by decide)
  · exact slash_not_mem_safeFileName name hmem

/-- Folders for the scopes go down. -/
theorem properName_of_mem_parts {s part : String} (hs : PlainPrefix s)
    (hpart : part ∈ parts Path.isSlash s) : Path.ProperName part := by
  obtain ⟨w, hw, rfl⟩ := List.mem_map.mp hpart
  obtain ⟨hne, hmem⟩ := of_mem_partsFrom hw
  have hplain : ∀ c ∈ w, isPlain c = true := by
    intro c hc
    rcases hmem c hc with h | ⟨h, hslash⟩
    · cases h
    · exact (hs c h).resolve_left fun he => by simp [Path.isSlash, he] at hslash
  refine ⟨?_, ?_, ?_, ?_⟩
  · rw [String.toList_ofList]
    exact fun h => absurd (hplain _ h) (by decide)
  all_goals
    intro he
    have hlist := congrArg String.toList he
    rw [String.toList_ofList] at hlist
    subst hlist
  · exact hne rfl
  · exact absurd (hplain '.' (by decide)) (by decide)
  · exact absurd (hplain '.' (by decide)) (by decide)

theorem place_specificationPath (h : PlainPrefix location.fullPrefix) (l : Layout)
    (name : String) :
    (l.specificationPath location name).place =
      l.base.place ++ location.stage.name :: parts Path.isSlash location.fullPrefix ++
        [specificationFile location.stage name] := by
  rw [specificationPath, ← specificationFile,
    Path.place_join (properName_specificationFile location.stage name), scopeFolder,
    Path.place_foldl_join (fun _ hpart => properName_of_mem_parts h hpart), stageFolder,
    Path.place_join (properName_stage location.stage)]
  simp

theorem place_groupPath (l : Layout) (stage : Stage) (name : String) :
    (l.groupPath stage name).place =
      l.base.place ++ ["Group", stage.name, safeFileName name ++ ".ids"] := by
  rw [groupPath, Path.place_join (properName_ids (slash_not_mem_safeFileName name)), groupFolder,
    Path.place_join (properName_stage stage),
    Path.place_join (Path.properName_of_length (by decide) (by decide))]
  simp

/-- Documents of rules with different identifiers are in different places. -/
theorem specificationPath_injective (hstage : location.stage = location'.stage)
    (hi : PlainText i) (hj : PlainText j) (hine : i ≠ "") (hjne : j ≠ "")
    (hfront : PlainPrefix location.fullPrefix) (hfront' : PlainPrefix location'.fullPrefix)
    (h : (l.specificationPath location (i ++ " : " ++ t)).place =
      (l.specificationPath location' (j ++ " : " ++ u)).place) : i = j := by
  have hlast := congrArg List.getLast? h
  rw [place_specificationPath hfront, place_specificationPath hfront', List.getLast?_concat,
    List.getLast?_concat, ← hstage] at hlast
  have hfile := congrArg String.toList (Option.some.inj hlast)
  obtain ⟨r, hr⟩ := safeFileName_rule hi hine t
  obtain ⟨s, hs⟩ := safeFileName_rule hj hjne u
  simp only [specificationFile, String.toList_append, hr, hs, List.append_assoc,
    List.append_cancel_left_eq, List.cons_append] at hfile
  exact String.toList_inj.mp (closed_cancel (space_not_mem hi) (space_not_mem hj) hfile).1

/-- The documents of groups are in different places if their names are different as names of
files. -/
theorem groupPath_injective (h : (l.groupPath stage name).place = (l.groupPath stage name').place) :
    safeFileName name = safeFileName name' := by
  have hlast := congrArg List.getLast? h
  rw [place_groupPath, place_groupPath] at hlast
  simp only [List.getLast?_append, List.getLast?_cons_cons, List.getLast?_singleton,
    Option.some_or, Option.some.injEq] at hlast
  have hfile := congrArg String.toList hlast
  rw [String.toList_append, String.toList_append] at hfile
  exact String.toList_inj.mp (List.append_cancel_right hfile)

/-- The documents of rules and of groups are in different folders. -/
theorem specificationPath_ne_groupPath (hfront : PlainPrefix location.fullPrefix) :
    (l.specificationPath location name).place ≠ (l.groupPath stage name').place := by
  intro h
  rw [place_specificationPath hfront, place_groupPath, List.append_assoc] at h
  have hfolder := (List.cons.inj (List.append_cancel_left h)).1
  cases hstage : location.stage <;> rw [hstage] at hfolder <;> exact absurd hfolder (by decide)

end Layout

end Eir
