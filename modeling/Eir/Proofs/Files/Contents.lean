import Eir.Files.Tree
import Mathlib.Data.List.Basic

/-!
# Contents of file trees

What is read at each place after a step on a tree. A file that is written is there,
and every other one is as it was (`read?_write?`). What is erased is gone with all
below it, and nothing else changes (`read?_erase`). A list of the files below a place
leads to places below it (`prefix_of_mem_filesBelow`).
-/

namespace Eir.FileTree

variable {name content : String} {t u : FileTree} {entries : List (String × FileTree)}
  {way w : List String}

/-! ## Reading -/

theorem read?_file (content : String) (way : List String) :
    (file content).read? way = if way = [] then some content else none := by
  cases way <;> rfl

theorem read?_folder_cons (entries : List (String × FileTree)) (name : String)
    (way : List String) :
    (folder entries).read? (name :: way) = (entries.lookup name).bind (·.read? way) := by
  rw [read?, find?]
  cases entries.lookup name <;> rfl

theorem lookup_cons_eq (e : String × FileTree) (es : List (String × FileTree)) (n : String) :
    (e :: es).lookup n = if n = e.1 then some e.2 else es.lookup n := by
  rw [List.lookup_cons]
  by_cases h : n = e.1
  · rw [if_pos h, beq_iff_eq.mpr h]
  · rw [if_neg h, beq_eq_false_iff_ne.mpr h]

theorem lookup_put (name : String) (t : FileTree) (entries : List (String × FileTree))
    (n : String) :
    (put name t entries).lookup n = if n = name then some t else entries.lookup n := by
  induction entries with
  | nil => exact lookup_cons_eq (name, t) [] n
  | cons e es ih =>
    rw [put]
    split
    · rename_i he
      rw [lookup_cons_eq, lookup_cons_eq, he]
      split <;> rfl
    · rename_i he
      rw [lookup_cons_eq, lookup_cons_eq, ih]
      by_cases h : n = e.1
      · have hne : n ≠ name := fun hn => he (h.symm.trans hn)
        rw [if_pos h, if_neg hne, if_pos h]
      · rw [if_neg h, if_neg h]

theorem find?_append (way rest : List String) (t : FileTree) :
    t.find? (way ++ rest) = (t.find? way).bind (·.find? rest) := by
  induction way generalizing t with
  | nil => rfl
  | cons name way ih =>
    cases t with
    | file old => rfl
    | folder entries =>
      rw [List.cons_append, find?, find?]
      cases entries.lookup name with
      | none => rfl
      | some s => exact ih s

/-- Nothing is below a place where nothing is. -/
theorem read?_of_find?_eq_none (h : t.find? way = none) (hw : way <+: w) : t.read? w = none := by
  obtain ⟨rest, rfl⟩ := hw
  rw [read?, find?_append, h]
  rfl

/-! ## Writing -/

theorem read?_only (content : String) (way w : List String) :
    (only content way).read? w = if w = way then some content else none := by
  induction way generalizing w with
  | nil => exact read?_file content w
  | cons name rest ih =>
    cases w with
    | nil => rfl
    | cons n ws =>
      rw [only, read?_folder_cons, lookup_cons_eq]
      by_cases h : n = name
      · simp [h, ih]
      · simp [h]

/-- A file that is written is there, and all others are as they were. -/
theorem read?_write? (h : write? content way t = some u) (w : List String) :
    u.read? w = if w = way then some content else t.read? w := by
  induction way generalizing t u w with
  | nil =>
    cases t with
    | folder entries => cases h
    | file old =>
      obtain rfl := Option.some.inj h
      rw [read?_file, read?_file]
      split <;> rfl
  | cons name rest ih =>
    cases t with
    | file old => cases h
    | folder entries =>
      rw [write?] at h
      cases hlookup : entries.lookup name with
      | none =>
        rw [hlookup] at h
        obtain rfl := Option.some.inj h
        cases w with
        | nil => rfl
        | cons n ws =>
          rw [read?_folder_cons, read?_folder_cons, lookup_put]
          by_cases hn : n = name
          · simp [hn, hlookup, read?_only]
          · simp [hn]
      | some s =>
        rw [hlookup] at h
        obtain ⟨s', hs', rfl⟩ := Option.map_eq_some_iff.mp h
        cases w with
        | nil => rfl
        | cons n ws =>
          rw [read?_folder_cons, read?_folder_cons, lookup_put]
          by_cases hn : n = name
          · simp [hn, hlookup, ih hs']
          · simp [hn]

/-! ## Erasing -/

theorem lookup_filter_ne (name n : String) (entries : List (String × FileTree)) :
    (entries.filter (·.1 ≠ name)).lookup n = if n = name then none else entries.lookup n := by
  induction entries with
  | nil => simp
  | cons e es ih =>
    by_cases he : e.1 = name
    · rw [List.filter_cons_of_neg (by simp [he]), ih, lookup_cons_eq, he]
      split <;> rfl
    · rw [List.filter_cons_of_pos (by simp [he]), lookup_cons_eq, lookup_cons_eq, ih]
      by_cases h : n = e.1
      · have hne : n ≠ name := fun hn => he (h.symm.trans hn)
        rw [if_pos h, if_neg hne, if_pos h]
      · rw [if_neg h, if_neg h]

/-- What is erased is gone with all below it, and nothing else changes. -/
theorem read?_erase (hway : way ≠ []) (t : FileTree) (w : List String) :
    (erase way t).read? w = if way <+: w then none else t.read? w := by
  induction way generalizing t w with
  | nil => exact absurd rfl hway
  | cons name rest ih =>
    cases t with
    | file old =>
      rw [erase, read?_file]
      cases w with
      | nil => rw [if_pos rfl, if_neg (by simp)]
      | cons n ws => rw [if_neg (List.cons_ne_nil n ws), ite_self]
    | folder entries =>
      cases w with
      | nil =>
        rw [if_neg (by simp)]
        cases rest with
        | nil => rfl
        | cons r rs =>
          rw [erase]
          · cases entries.lookup name <;> rfl
          · exact fun h => List.cons_ne_nil r rs h
      | cons n ws =>
        simp only [List.cons_prefix_cons]
        rw [read?_folder_cons]
        cases rest with
        | nil =>
          rw [erase, read?_folder_cons, lookup_filter_ne]
          by_cases hn : n = name
          · simp [hn]
          · simp [hn, Ne.symm hn]
        | cons r rs =>
          rw [erase]
          · cases hlookup : entries.lookup name with
            | none =>
              by_cases hn : n = name
              · simp [hn, read?_folder_cons, hlookup]
              · simp [Ne.symm hn, read?_folder_cons]
            | some s =>
              rw [read?_folder_cons, lookup_put]
              by_cases hn : n = name
              · simp [hn, hlookup, ih (List.cons_ne_nil r rs)]
              · simp [hn, Ne.symm hn]
          · exact fun h => List.cons_ne_nil r rs h

/-! ## Lists of files -/

mutual

theorem prefix_of_mem_filesFrom {way w : List String} {content : String} :
    ∀ (t : FileTree), (w, content) ∈ filesFrom way t → way <+: w
  | file old, h => by
    rw [filesFrom, List.mem_singleton] at h
    obtain ⟨rfl, -⟩ := Prod.mk.inj h
    exact List.prefix_refl w
  | folder entries, h => by
    rw [filesFrom] at h
    exact prefix_of_mem_filesOf entries h

theorem prefix_of_mem_filesOf {way w : List String} {content : String} :
    ∀ (entries : List (String × FileTree)), (w, content) ∈ filesOf way entries → way <+: w
  | [], h => by cases h
  | (name, t) :: es, h => by
    rw [filesOf, List.mem_append] at h
    rcases h with h | h
    · exact (List.prefix_append way [name]).trans (prefix_of_mem_filesFrom t h)
    · exact prefix_of_mem_filesOf es h

end

/-- The files below a place are at places below it. -/
theorem prefix_of_mem_filesBelow (h : (w, content) ∈ t.filesBelow way) : way <+: w := by
  rw [filesBelow] at h
  cases hfind : t.find? way with
  | none =>
    rw [hfind] at h
    cases h
  | some s =>
    rw [hfind] at h
    exact prefix_of_mem_filesFrom s h

end Eir.FileTree
