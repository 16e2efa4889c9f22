import Eir.Proofs.Files.DocumentNames
import Mathlib.Data.List.DropRight

/-!
# Safe names

A name is safe (`IsSafeName`) if no character in it is forbidden in names of files, no
blank is at an end of it, and no point at its end. The safe names are just those
that `safeFileName` leaves as they are (`safeFileName_eq_self_iff`), and all that it
gives is safe (`isSafeName_safeFileName`).

So a published document lies in the folder that was chosen for it, whatever its name
was made of: not only does its path lead there, the text of the path is that of the folder
with one name more (`Path.parent_join`, `safe_names_stay_in_their_folder`).
-/

namespace Eir

open Text

variable {p q : Char → Bool} {c : Char} {xs ys : List Char} {name part : String}

/-! ## Texts without what is at their ends -/

namespace Text

theorem dropEndWhile_eq_self_iff :
    dropEndWhile p xs = xs ↔ ∀ c ∈ xs.getLast?, p c = false := by
  refine (List.rdropWhile_eq_self_iff (p := p) (l := xs)).trans ?_
  rcases List.eq_nil_or_concat' xs with rfl | ⟨ys, c, rfl⟩ <;> simp

theorem dropWhile_eq_self_iff : xs.dropWhile p = xs ↔ ∀ c ∈ xs.head?, p c = false := by
  refine (List.dropWhile_eq_self_iff (p := p) (l := xs)).trans ?_
  cases xs <;> simp

/-- What is left begins with a character that stays, also when more is taken off the end. -/
theorem head?_dropEndWhile_dropWhile (hc : c ∈ (dropEndWhile p (xs.dropWhile q)).head?) :
    q c = false := by
  obtain ⟨dropped, heq⟩ := List.rdropWhile_prefix p (l := xs.dropWhile q)
  have hfirst : (xs.dropWhile q).head? = some c := by
    rw [← heq, List.head?_append, show (List.rdropWhile p (xs.dropWhile q)).head? = some c from hc,
      Option.some_or]
  have hstop := List.head?_dropWhile_not q xs
  rwa [hfirst] at hstop

/-- What is left ends with a character that stays. -/
theorem getLast?_dropEndWhile (hc : c ∈ (dropEndWhile p xs).getLast?) : p c = false := by
  have hsame : dropEndWhile p (dropEndWhile p xs) = dropEndWhile p xs :=
    List.rdropWhile_idempotent p xs
  exact dropEndWhile_eq_self_iff.mp hsame c hc

/-- The parts of a text are the segments between the separators, without the empty ones. -/
theorem partsFrom_eq_segments (part xs : List Char) :
    partsFrom p part xs =
      ((List.splitOnP p xs).modifyHead (part.reverse ++ ·)).filter (!·.isEmpty) := by
  induction xs generalizing part with
  | nil => cases part <;> simp [partsFrom]
  | cons x xs ih =>
    rw [partsFrom, List.splitOnP_cons_eq_if_modifyHead]
    split
    · rw [ih, List.modifyHead_cons, List.append_nil, List.filter_cons]
      cases part <;> cases List.splitOnP p xs <;> simp
    · rw [ih, List.modifyHead_modifyHead]
      congr 2
      funext w
      simp

theorem parts_eq_segments (s : String) :
    parts p s = ((List.splitOnP p s.toList).filter (!·.isEmpty)).map String.ofList := by
  rw [parts, partsFrom_eq_segments]
  congr 2
  cases List.splitOnP p s.toList <;> rfl

end Text

/-! ## Safe names -/

/-- A name that stands as it is for a file: nothing in it is forbidden in the names of files, no
blank is at an end, and no point at the end. -/
structure IsSafeName (name : String) : Prop where
  noMark : ∀ c ∈ name.toList, c ∉ ['<', '>', ':', '"', '/', '\\', '|', '?', '*']
  noControl : ∀ c ∈ name.toList, isControl c = false
  begins : ∀ c ∈ name.toList.head?, isBlank c = false
  ends : ∀ c ∈ name.toList.getLast?, isBlank c = false ∧ c ≠ '.'

theorem isForbiddenInNames_eq_false_iff :
    isForbiddenInNames c = false ↔
      c ∉ ['<', '>', ':', '"', '/', '\\', '|', '?', '*'] ∧ isControl c = false := by
  rw [isForbiddenInNames, Bool.or_eq_false_iff, List.contains_eq_mem, decide_eq_false_iff_not]

theorem isPointOrBlank_eq_false_iff : isPointOrBlank c = false ↔ isBlank c = false ∧ c ≠ '.' := by
  rw [isPointOrBlank, Bool.or_eq_false_iff, decide_eq_false_iff_not, and_comm]

theorem isForbidden_of_mem_cleaned (hc : c ∈ cleaned xs) : isForbiddenInNames c = false := by
  obtain ⟨d, -, rfl⟩ := List.mem_map.mp hc
  split
  · decide
  · rename_i hallowed
    exact Bool.not_eq_true _ ▸ hallowed

theorem cleaned_eq_self (h : ∀ c ∈ xs, isForbiddenInNames c = false) : cleaned xs = xs := by
  refine (List.map_congr_left fun c hc => ?_).trans (List.map_id' xs)
  rw [if_neg (by simp [h c hc])]

/-- Whatever it is made of, a safe name is safe: what is taken off one end leaves no blank at the
other. -/
theorem isSafeName_safeFileName (name : String) : IsSafeName (safeFileName name) := by
  have hallowed : ∀ c ∈ (safeFileName name).toList, isForbiddenInNames c = false := by
    intro c hc
    rw [toList_safeFileName] at hc
    exact isForbidden_of_mem_cleaned
      ((List.dropWhile_sublist _).subset ((List.rdropWhile_prefix _ _).subset hc))
  constructor
  case noMark => exact fun c hc => (isForbiddenInNames_eq_false_iff.mp (hallowed c hc)).1
  case noControl => exact fun c hc => (isForbiddenInNames_eq_false_iff.mp (hallowed c hc)).2
  case begins =>
    rw [toList_safeFileName]
    exact fun c hc => head?_dropEndWhile_dropWhile hc
  case ends =>
    rw [toList_safeFileName]
    exact fun c hc => isPointOrBlank_eq_false_iff.mp (getLast?_dropEndWhile hc)

theorem IsSafeName.safeFileName_eq (h : IsSafeName name) : safeFileName name = name := by
  have hcleaned : cleaned name.toList = name.toList :=
    cleaned_eq_self fun c hc => isForbiddenInNames_eq_false_iff.mpr ⟨h.noMark c hc, h.noControl c hc⟩
  have hfront : name.toList.dropWhile isBlank = name.toList := dropWhile_eq_self_iff.mpr h.begins
  have hend : dropEndWhile isPointOrBlank name.toList = name.toList :=
    dropEndWhile_eq_self_iff.mpr fun c hc => isPointOrBlank_eq_false_iff.mpr (h.ends c hc)
  rw [← String.toList_inj, toList_safeFileName, hcleaned, hfront, hend]

/-- The safe names are the names that are left as they are. -/
theorem safeFileName_eq_self_iff : safeFileName name = name ↔ IsSafeName name :=
  ⟨fun h => h ▸ isSafeName_safeFileName name, IsSafeName.safeFileName_eq⟩

/-! ## Folders -/

namespace Path

variable {p : Path} {names : List String}

/-- A name, or one of the two ways of naming a folder that are not names: what stands between two
slashes. -/
structure Segment (name : String) : Prop where
  noSlash : '/' ∉ name.toList
  ne_empty : name ≠ ""

theorem ProperName.segment (h : ProperName name) : Segment name := ⟨h.noSlash, h.ne_empty⟩

theorem Segment.isSlash_eq_false (h : Segment name) : ∀ c ∈ name.toList, isSlash c = false :=
  fun _ hc => decide_eq_false fun he => h.noSlash (he ▸ hc)

theorem Segment.toList_ne_nil (h : Segment name) : name.toList ≠ [] :=
  fun hnil => h.ne_empty (String.toList_inj.mp hnil)

/-- The path ends with a name, not with a slash. -/
def EndsWithName (p : Path) : Prop := ∃ c, p.text.toList.getLast? = some c ∧ isSlash c = false

theorem endsWithName_join (h : Segment name) (p : Path) : (p.join name).EndsWithName := by
  obtain ⟨front, hfront⟩ := exists_text_join p name
  have hlast := List.getLast?_eq_some_getLast h.toList_ne_nil
  refine ⟨_, ?_, h.isSlash_eq_false _ (List.getLast_mem h.toList_ne_nil)⟩
  rw [hfront, String.toList_append, List.getLast?_append, hlast, Option.some_or]

theorem endsWithName_foldl_join (h : ∀ name ∈ names, Segment name) (hp : p.EndsWithName) :
    (names.foldl join p).EndsWithName := by
  induction names generalizing p with
  | nil => exact hp
  | cons name names ih =>
    exact ih (fun n hn => h n (List.mem_cons_of_mem name hn))
      (endsWithName_join (h name List.mem_cons_self) p)

/-- A segment is put behind a name with a slash between them. -/
theorem toList_join_segment (h : Segment name) (hp : p.EndsWithName) :
    (p.join name).text.toList = p.text.toList ++ '/' :: name.toList := by
  obtain ⟨c, hlast, hc⟩ := hp
  have hrelative : (Path.mk name).isAbsolute = false := by
    rw [isAbsolute, Option.any_eq_false_iff_get]
    exact fun hsome => h.isSlash_eq_false _ (List.mem_of_mem_head? (Option.get_mem hsome))
  rw [join, if_neg (by simp [hrelative]), hlast, if_neg (by simp [hc]), String.toList_append,
    String.toList_append, List.append_assoc]
  rfl

theorem reverse_split (xs : List Char) (hys : ∀ c ∈ ys, isSlash c = false) :
    (xs ++ '/' :: ys).reverse = ys.reverse ++ '/' :: xs.reverse ∧
      ∀ c ∈ ys.reverse, (!isSlash c) = true :=
  ⟨by simp, fun c hc => by simp [hys c (List.mem_reverse.mp hc)]⟩

/-- The folder of what was joined to a folder is that folder, as it was written. -/
theorem parent_join (h : Segment name) (hp : p.EndsWithName) : (p.join name).parent = p := by
  obtain ⟨hsplit, hfree⟩ := reverse_split p.text.toList h.isSlash_eq_false
  rw [parent, toList_join_segment h hp, hsplit, List.dropWhile_append_of_pos hfree,
    List.dropWhile_cons_of_neg (by decide), List.drop_one, List.tail_cons, List.reverse_reverse,
    String.ofList_toList]

/-- What was joined last is the name of the file. -/
theorem fileName_join (h : Segment name) (hp : p.EndsWithName) : (p.join name).fileName = name := by
  obtain ⟨hsplit, hfree⟩ := reverse_split p.text.toList h.isSlash_eq_false
  rw [fileName, toList_join_segment h hp, hsplit, List.takeWhile_append_of_pos hfree,
    List.takeWhile_cons_of_neg (by decide), List.append_nil, List.reverse_reverse,
    String.ofList_toList]

theorem segment_of_mem_parts {s : String} (hpart : part ∈ parts isSlash s) : Segment part := by
  obtain ⟨w, hw, rfl⟩ := List.mem_map.mp hpart
  obtain ⟨hne, hmem⟩ := of_mem_partsFrom hw
  refine ⟨?_, fun he => hne ?_⟩
  · rw [String.toList_ofList]
    intro hslash
    rcases hmem _ hslash with h | ⟨-, h⟩
    · cases h
    · cases h
  · rw [← String.toList_ofList (l := w), he, String.toList_empty]

/-- A document in a folder: the folder is what stands before the last slash of its path, its name
what follows, and its path leads one step down from where the folder is. -/
structure LiesIn (document folder : Path) (file : String) : Prop where
  parent_eq : document.parent = folder
  fileName_eq : document.fileName = file
  place_eq : document.place = folder.place ++ [file]

theorem liesIn_join (h : ProperName name) (hp : p.EndsWithName) : (p.join name).LiesIn p name :=
  ⟨parent_join h.segment hp, fileName_join h.segment hp, place_join h p⟩

end Path

namespace Layout

theorem endsWithName_groupFolder (l : Layout) (stage : Stage) :
    (l.groupFolder stage).EndsWithName :=
  Path.endsWithName_join (properName_stage stage).segment _

theorem endsWithName_scopeFolder (l : Layout) (location : SpecLocation) :
    (l.scopeFolder location).EndsWithName :=
  Path.endsWithName_foldl_join (fun _ hpart => Path.segment_of_mem_parts hpart)
    (Path.endsWithName_join (properName_stage location.stage).segment l.base)

theorem scopeFolder_eq_segments (l : Layout) (location : SpecLocation) :
    l.scopeFolder location =
      (((List.splitOnP (· = '/') location.fullPrefix.toList).filter (!·.isEmpty)).map
        String.ofList).foldl Path.join (l.stageFolder location.stage) := by
  rw [scopeFolder, parts_eq_segments]
  rfl

/-- Names of files are safe whatever they are made of, and are not changed again. So the document
of a group lies in the folder of groups of its stage, and that of a specification in the folder
that the non-empty segments of its location's prefix lead to from the folder of the stage. -/
theorem safe_names_stay_in_their_folder :
    (∀ name, IsSafeName (safeFileName name) ∧
      safeFileName (safeFileName name) = safeFileName name) ∧
    (∀ (l : Layout) stage name,
      (l.groupPath stage name).LiesIn (l.groupFolder stage) (safeFileName name ++ ".ids")) ∧
    ∀ (l : Layout) location name,
      (l.specificationPath location name).LiesIn
        ((((List.splitOnP (· = '/') location.fullPrefix.toList).filter (!·.isEmpty)).map
          String.ofList).foldl Path.join (l.stageFolder location.stage))
        (decimal location.stage.number ++ "_" ++ safeFileName name ++ ".ids") := by
  refine ⟨fun name => ?stable, fun l stage name => ?group, fun l location name => ?specification⟩
  case stable =>
    have hsafe := isSafeName_safeFileName name
    exact ⟨hsafe, hsafe.safeFileName_eq⟩
  case group =>
    exact Path.liesIn_join (properName_ids (slash_not_mem_safeFileName name))
      (l.endsWithName_groupFolder stage)
  case specification =>
    rw [← scopeFolder_eq_segments]
    exact Path.liesIn_join (properName_specificationFile location.stage name)
      (l.endsWithName_scopeFolder location)

-- A name that looks like a way up, with a blank of each kind around it.
example : safeFileName "\u3000 ../..\t. \u00a0." = "..-..-" := by decide

end Layout

end Eir
