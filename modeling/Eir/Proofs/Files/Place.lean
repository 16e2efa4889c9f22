import Eir.Files.Path
import Mathlib.Data.List.Basic

/-!
# Where paths lead

A path is a text, and the place that it leads to is a list of names. A name that
is joined to a path is the next step of the place (`Path.place_join`), as long as
it is a `ProperName`: one step, and not one of the two names for the folder
itself and the folder around it. Whatever is joined, the text of the path ends with
it, and an ending that is long enough is the ending of the last step
(`Path.exists_getLast?_place`).
-/

namespace Eir

namespace Text

variable {p : Char → Bool} {c : Char} {xs ys part w : List Char}

/-- A separator ends a part. -/
theorem partsFrom_append_cons (hc : p c = true) :
    partsFrom p part (xs ++ c :: ys) = partsFrom p part xs ++ partsFrom p [] ys := by
  induction xs generalizing part with
  | nil => simp [partsFrom, hc]
  | cons x xs ih =>
    rw [List.cons_append, partsFrom, partsFrom]
    split
    · rw [ih, List.append_assoc]
    · exact ih

/-- A text without separators is one part. -/
theorem partsFrom_of_forall (h : ∀ c ∈ xs, p c = false) (hne : part ≠ [] ∨ xs ≠ []) :
    partsFrom p part xs = [part.reverse ++ xs] := by
  induction xs generalizing part with
  | nil => simp [partsFrom, hne.resolve_right (fun h => h rfl)]
  | cons x xs ih =>
    rw [partsFrom, if_neg (by simp [h x List.mem_cons_self]),
      ih (fun c hc => h c (List.mem_cons_of_mem x hc)) (.inl (List.cons_ne_nil x part)),
      List.reverse_cons, List.append_assoc, List.singleton_append]

/-- What is free of separators stands at the end of the last part. -/
theorem exists_partsFrom_append (h : ∀ c ∈ ys, p c = false) (hne : ys ≠ []) :
    ∃ parts front, partsFrom p part (xs ++ ys) = parts ++ [front ++ ys] := by
  induction xs generalizing part with
  | nil => exact ⟨[], part.reverse, partsFrom_of_forall h (.inr hne)⟩
  | cons x xs ih =>
    rw [List.cons_append, partsFrom]
    split
    · obtain ⟨parts, front, heq⟩ := @ih []
      rw [heq, ← List.append_assoc]
      exact ⟨_, front, rfl⟩
    · exact ih

/-- Parts are not empty, and hold no separator. -/
theorem of_mem_partsFrom (hw : w ∈ partsFrom p part xs) :
    w ≠ [] ∧ ∀ c ∈ w, c ∈ part ∨ c ∈ xs ∧ p c = false := by
  have hpart {part w : List Char} (hw : w ∈ if part.isEmpty then [] else [part.reverse]) :
      w ≠ [] ∧ ∀ c ∈ w, c ∈ part := by
    split at hw
    · cases hw
    · rename_i hne
      rw [List.mem_singleton.mp hw]
      exact ⟨by simpa using hne, fun c hc => List.mem_reverse.mp hc⟩
  induction xs generalizing part with
  | nil =>
    obtain ⟨hne, hmem⟩ := hpart hw
    exact ⟨hne, fun c hc => .inl (hmem c hc)⟩
  | cons x xs ih =>
    rw [partsFrom] at hw
    split at hw
    · rcases List.mem_append.mp hw with hw | hw
      · obtain ⟨hne, hmem⟩ := hpart hw
        exact ⟨hne, fun c hc => .inl (hmem c hc)⟩
      · obtain ⟨hne, hmem⟩ := ih hw
        refine ⟨hne, fun c hc => ?_⟩
        rcases hmem c hc with h | ⟨h, hp⟩
        · cases h
        · exact .inr ⟨List.mem_cons_of_mem x h, hp⟩
    · rename_i hx
      obtain ⟨hne, hmem⟩ := ih hw
      refine ⟨hne, fun c hc => ?_⟩
      rcases hmem c hc with h | ⟨h, hp⟩
      · rcases List.mem_cons.mp h with rfl | h
        · exact .inr ⟨List.mem_cons_self, by simpa using hx⟩
        · exact .inl h
      · exact .inr ⟨List.mem_cons_of_mem x h, hp⟩

end Text

namespace Path

/-- A name of a file or a folder: one step of a way, which goes down. -/
structure ProperName (name : String) : Prop where
  noSlash : '/' ∉ name.toList
  ne_empty : name ≠ ""
  ne_here : name ≠ "."
  ne_up : name ≠ ".."

variable {name : String} {names : List String}

/-- What has more than two characters is neither of the names with a meaning of their own. -/
theorem properName_of_length (hslash : '/' ∉ name.toList) (hlength : 2 < name.toList.length) :
    ProperName name := by
  refine ⟨hslash, ?_, ?_, ?_⟩ <;> rintro rfl <;> exact absurd hlength (by decide)

theorem ProperName.isSlash_eq_false (h : ProperName name) : ∀ c ∈ name.toList, isSlash c = false :=
  fun _ hc => decide_eq_false fun he => h.noSlash (he ▸ hc)

theorem ProperName.toList_ne_nil (h : ProperName name) : name.toList ≠ [] :=
  fun hnil => h.ne_empty (String.toList_inj.mp hnil)

theorem ProperName.head_not_slash (h : ProperName name) : (Path.mk name).isAbsolute = false := by
  rw [isAbsolute, Option.any_eq_false_iff_get]
  intro hsome
  exact h.isSlash_eq_false _ (List.mem_of_mem_head? (Option.get_mem hsome))

/-- What is joined stands at the end, behind a slash or behind nothing at all. -/
theorem toList_join (h : ProperName name) (p : Path) :
    (∃ before c, p.text.toList = before ++ [c] ∧ isSlash c = true ∧
        (p.join name).text.toList = before ++ c :: name.toList) ∨
      (p.text.toList = [] ∧ (p.join name).text.toList = name.toList) ∨
      (p.text.toList ≠ [] ∧ (p.join name).text.toList = p.text.toList ++ '/' :: name.toList) := by
  rw [join, if_neg (by simp [h.head_not_slash])]
  rcases List.eq_nil_or_concat' p.text.toList with hnil | ⟨before, c, hlast⟩
  · right; left
    rw [hnil, if_pos (by rfl), String.toList_append, hnil, List.nil_append]
    exact ⟨rfl, rfl⟩
  · have hgetLast : p.text.toList.getLast? = some c := by rw [hlast, List.getLast?_concat]
    rw [hgetLast, Option.all_some]
    cases hc : isSlash c with
    | true =>
      left
      refine ⟨before, c, hlast, hc, ?_⟩
      rw [if_pos rfl, String.toList_append, hlast, List.append_assoc, List.singleton_append]
    | false =>
      right; right
      refine ⟨by simp [hlast], ?_⟩
      rw [if_neg (by decide), String.toList_append, String.toList_append, List.append_assoc]
      rfl

theorem parts_join (h : ProperName name) (p : Path) :
    Text.parts isSlash (p.join name).text = Text.parts isSlash p.text ++ [name] := by
  have hone : Text.partsFrom isSlash [] name.toList = [name.toList] :=
    Text.partsFrom_of_forall h.isSlash_eq_false (.inr h.toList_ne_nil)
  have hname : [name] = [name.toList].map String.ofList := by
    rw [List.map_singleton, String.ofList_toList]
  rw [Text.parts, Text.parts, hname, ← List.map_append]
  rcases toList_join h p with ⟨before, c, hp, hc, hjoin⟩ | ⟨hp, hjoin⟩ | ⟨-, hjoin⟩
  · have hend : Text.partsFrom isSlash [] [] = [] := rfl
    rw [hjoin, hp, Text.partsFrom_append_cons hc, Text.partsFrom_append_cons hc, hone, hend,
      List.append_nil]
  · rw [hjoin, hp, hone]
    rfl
  · rw [hjoin, Text.partsFrom_append_cons (by rfl), hone]

theorem isAbsolute_join (h : ProperName name) (p : Path) :
    (p.join name).isAbsolute = p.isAbsolute := by
  rw [isAbsolute, isAbsolute]
  rcases toList_join h p with ⟨before, c, hp, -, hjoin⟩ | ⟨hp, hjoin⟩ | ⟨hne, hjoin⟩
  · rw [hjoin, hp]
    cases before <;> rfl
  · have habsolute := h.head_not_slash
    rw [isAbsolute] at habsolute
    rw [hjoin, hp, habsolute]
    rfl
  · rw [hjoin, List.head?_append_of_ne_nil _ hne]

/-- A name that is joined to a path is the next step. -/
theorem place_join (h : ProperName name) (p : Path) : (p.join name).place = p.place ++ [name] := by
  have hstep (done : List String) : step done name = name :: done := by
    rw [step, if_neg h.ne_here, if_neg h.ne_up]
  rw [place, place, isAbsolute_join h, parts_join h, List.foldl_append]
  simp only [List.foldl_cons, List.foldl_nil, hstep, List.reverse_cons]
  split <;> rfl

theorem place_foldl_join (h : ∀ name ∈ names, ProperName name) (p : Path) :
    (names.foldl join p).place = p.place ++ names := by
  induction names generalizing p with
  | nil => exact (List.append_nil _).symm
  | cons name names ih =>
    rw [List.foldl_cons, ih (fun n hn => h n (List.mem_cons_of_mem name hn)),
      place_join (h name List.mem_cons_self), List.append_assoc, List.singleton_append]

/-- The text of a path ends with what was joined last, whatever that is. -/
theorem exists_text_join (p : Path) (name : String) :
    ∃ front, (p.join name).text = front ++ name := by
  rw [join]
  split
  · exact ⟨"", (String.empty_append).symm⟩
  · split
    · exact ⟨p.text, rfl⟩
    · exact ⟨p.text ++ "/", rfl⟩

/-- The ending of a path is that of the last step of its place. -/
theorem exists_getLast?_place {p : Path} {front ending : String} (htext : p.text = front ++ ending)
    (hslash : '/' ∉ ending.toList) (hlength : 2 < ending.toList.length) :
    ∃ stem, p.place.getLast? = some (stem ++ ending) := by
  have hfree : ∀ c ∈ ending.toList, isSlash c = false :=
    fun _ hc => decide_eq_false fun he => hslash (he ▸ hc)
  have hne : ending.toList ≠ [] := by
    intro hnil
    rw [hnil] at hlength
    exact absurd hlength (by decide)
  obtain ⟨parts, stem, hparts⟩ : ∃ parts stem, Text.partsFrom isSlash []
      (front.toList ++ ending.toList) = parts ++ [stem ++ ending.toList] :=
    Text.exists_partsFrom_append hfree hne
  have hlast : Text.parts isSlash p.text =
      parts.map String.ofList ++ [String.ofList stem ++ ending] := by
    rw [Text.parts, htext, String.toList_append, hparts, List.map_append, List.map_singleton,
      String.ofList_append, String.ofList_toList]
  have hstep (done : List String) :
      step done (String.ofList stem ++ ending) = (String.ofList stem ++ ending) :: done := by
    have hlonger : 2 < (String.ofList stem ++ ending).toList.length := by
      rw [String.toList_append, List.length_append]
      omega
    rw [step, if_neg, if_neg] <;> intro he <;> rw [he] at hlonger <;> exact absurd hlonger (by decide)
  refine ⟨String.ofList stem, ?_⟩
  rw [place, hlast, List.foldl_append, List.foldl_cons, List.foldl_nil, hstep]
  simp only [List.reverse_cons]
  split
  · rw [← List.cons_append, List.getLast?_concat]
  · rw [List.getLast?_concat]

end Path

end Eir
