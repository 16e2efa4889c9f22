import Eir.Proofs.Naming.Patterns
import Eir.Proofs.Pattern.Refusal

/-!
# Names match their patterns

Every name that is given out is one of the names that its pattern stands for,
whatever stands in the codes, labels and containers. So it matches its own
pattern, and the pattern of the project's rule for its kind
(`resolve_matches`). Only long patterns are refused, and those of very long
containers are (`resolve_long`).
-/

namespace Eir

open Pattern

/-- Whether the whole text matches is `answer`, unless the pattern is refused. Only patterns of
more than `safeLength` characters are. -/
def Pattern.Answers (pattern text : String) (answer : Bool) : Prop :=
  fullMatch pattern text = .ok answer ∨
    (fullMatch pattern text = .error (.invalidPattern pattern) ∧ safeLength < pattern.length)

/-- The text matches just when `answer` says so, and so a match answers unless it refuses the
pattern. -/
def Pattern.Decides (pattern text : String) (answer : Bool) : Prop :=
  (Matches pattern text ↔ answer = true) ∧ Answers pattern text answer

variable {lo width : Nat} {n : Namer} {kind : String} {subKind label : Option String}

theorem zeroPadded_mem_digits (h : lo ≤ width) (number : Nat) :
    (Text.zeroPadded width number).toList ∈ digits lo :=
  ⟨Nat.le_trans h (Text.le_length_zeroPadded width number), fun _ hc =>
    isDigit_of_isDigit (Text.isDigit_of_mem_zeroPadded hc)⟩

theorem contains_unionAll {sets : List CharSet} {c : Char} :
    (CharSet.unionAll sets).contains c = true ↔ ∃ s ∈ sets, s.contains c = true := by
  induction sets with
  | nil => simp [CharSet.unionAll, CharSet.contains]
  | cons s sets ih =>
    rw [CharSet.unionAll, List.foldr_cons, CharSet.contains, Bool.or_eq_true]
    simp only [List.mem_cons, exists_eq_or_imp]
    exact or_congr_right ih

theorem spaceLetter_mem (number : Nat) : spaceLetter number ∈ spaceLetters.toList := by
  have hlt : number % spaceLetters.toList.length < spaceLetters.toList.length :=
    Nat.mod_lt _ (by decide)
  rw [spaceLetter, List.getD_eq_getElem?_getD, List.getElem?_eq_getElem hlt, Option.getD_some]
  exact List.getElem_mem hlt

theorem contains_spaceLetterSet {c : Char} :
    spaceLetterSet.contains c = true ↔ c ∈ spaceLetters.toList := by
  simp only [spaceLetterSet, contains_unionAll, List.mem_map, List.mem_reverse]
  constructor
  · rintro ⟨_, ⟨x, hx, rfl⟩, hc⟩
    rwa [CharSet.contains_single.mp hc]
  · intro hc
    exact ⟨_, ⟨c, hc, rfl⟩, CharSet.contains_single.mpr rfl⟩

namespace NamingDecision

variable {d : NamingDecision} {pattern : ContainerPattern} {text container : String} {number : Nat}

theorem answers_pattern {answer : Bool} (h : answer = true ↔ text.toList ∈ d.names pattern) :
    Answers (d.pattern pattern) text answer := by
  rcases d.fullMatch_pattern pattern text with ⟨b, hb, hiff⟩ | hrefused
  · left
    rw [hb, Bool.eq_iff_iff.mpr (hiff.trans h.symm)]
  · exact .inr hrefused

theorem decides_pattern {answer : Bool} (h : answer = true ↔ text.toList ∈ d.names pattern) :
    Decides (d.pattern pattern) text answer :=
  ⟨(d.matches_pattern pattern text).trans h.symm, answers_pattern h⟩

/-- A container has the name of a space just when it matches the pattern of space names. -/
theorem mem_spaceNames : container.toList ∈ spaceNames ↔
    fullMatch spaceNamePattern container = .ok true := by
  rcases spaceLetter.fullMatch_pattern .convention container with ⟨b, hb, hiff⟩ | ⟨-, hlong⟩
  · have hnames : b = true ↔ container.toList ∈ spaceNames := hiff
    have hmatch : fullMatch spaceNamePattern container = .ok b := hb
    rw [hmatch, ← hnames, Except.ok.injEq]
  · exact absurd hlong (by decide)

/-- The names of a decision are among those that its pattern stands for. -/
theorem render_mem_names (d : NamingDecision) (container : String) (number : Nat) :
    (d.render (d.counterKey container) number).toList ∈ d.names (.literal container) := by
  cases d with
  | spatial code =>
    simp only [render, counterKey, String.toList_append]
    have hdigits := zeroPadded_mem_digits (show 2 ≤ 3 by decide) number
    exact ⟨_, ⟨_, ⟨_, rfl, _, rfl, rfl⟩, _, rfl, rfl⟩, _, hdigits, rfl⟩
  | sequence code =>
    simp only [render, counterKey, String.toList_append]
    have hdigits := zeroPadded_mem_digits (show 2 ≤ 5 by decide) number
    exact ⟨_, ⟨_, rfl, _, rfl, rfl⟩, _, hdigits, rfl⟩
  | spaceLetter =>
    simp only [render, counterKey, String.toList_append]
    have hletter := contains_spaceLetterSet.mpr (spaceLetter_mem number)
    exact ⟨_, rfl, _, ⟨_, hletter, String.toList_singleton _⟩, rfl⟩
  | fallback label =>
    simp only [render, counterKey, String.toList_append]
    exact ⟨_, rfl, _, zeroPadded_mem_digits (Nat.le_refl 5) number, rfl⟩

/-- In a container with the name of a space, a name is among those of the project's rule. -/
theorem render_mem_convention {code : String} (h : container.toList ∈ spaceNames) (number : Nat) :
    ((spatial code).render ((spatial code).counterKey container) number).toList ∈
      (spatial code).names .convention := by
  simp only [render, counterKey, String.toList_append]
  have hdigits := zeroPadded_mem_digits (show 2 ≤ 3 by decide) number
  exact ⟨_, ⟨_, ⟨_, h, _, rfl, rfl⟩, _, rfl, rfl⟩, _, hdigits, rfl⟩

end NamingDecision

namespace Namer

/-- A label only stands in names for which there is no rule. -/
theorem decide_eq_of_hasConvention (h : (n.decide kind subKind label).hasConvention = true) :
    n.decide kind subKind none = n.decide kind subKind label := by
  cases hcode : n.codes.get? (n.conventions.entityLabel kind) with
  | some t => simp only [decide, hcode]
  | none =>
    simp only [decide, hcode] at h ⊢
    by_cases hspace : n.conventions.entityLabel kind = "Space"
    · rw [if_pos hspace, if_pos hspace]
    · rw [if_neg hspace] at h
      cases h

/-- The pattern of the rule for a kind, when the names of the kind have one. -/
theorem eq_of_rulePattern {d : NamingDecision} {rule : String}
    (hdecide : n.decide kind subKind label = d) (hconvention : d.hasConvention = true)
    (h : n.rulePattern? kind subKind = some rule) : rule = d.pattern .convention := by
  subst hdecide
  rw [rulePattern?] at h
  simp only [decide_eq_of_hasConvention hconvention, if_pos hconvention] at h
  exact (Option.some.inj h).symm

/-- Every name that is given out matches its pattern, whatever was given out before. If there is a
rule for names of its kind, a name that is numbered through the project matches the pattern of the
rule, and one that is numbered in its container does so if the container has the name of a space. -/
theorem resolve_matches (n : Namer) (counters : Counters) (kind : String) (subKind : Option String)
    (container : String) (label : Option String) :
    let resolved := (n.resolve counters kind subKind container label).1
    Answers resolved.pattern resolved.name true ∧
      ∀ rule, n.rulePattern? kind subKind = some rule →
        (∀ code, resolved.decision = .sequence code → Answers rule resolved.name true) ∧
        (∀ code, resolved.decision = .spatial code →
          fullMatch spaceNamePattern container = .ok true → Answers rule resolved.name true) := by
  intro resolved
  have hname : resolved.name.toList ∈ resolved.decision.names (.literal container) :=
    resolved.decision.render_mem_names container _
  refine ⟨NamingDecision.answers_pattern (iff_of_true rfl hname), fun rule hrule => ⟨?_, ?_⟩⟩
  · intro code hcode
    have hdecide : n.decide kind subKind label = .sequence code := hcode
    rw [eq_of_rulePattern hdecide rfl hrule]
    rw [hcode] at hname
    exact NamingDecision.answers_pattern (iff_of_true rfl hname)
  · intro code hcode hcontainer
    have hdecide : n.decide kind subKind label = .spatial code := hcode
    have hrender : resolved.name = (NamingDecision.spatial code).render
        ((NamingDecision.spatial code).counterKey container) _ := congrArg (fun d =>
          d.render (d.counterKey container) (counters.next (d.counterKey container)).1) hdecide
    rw [eq_of_rulePattern hdecide rfl hrule, hrender]
    exact NamingDecision.answers_pattern (iff_of_true rfl
      (NamingDecision.render_mem_convention (NamingDecision.mem_spaceNames.mpr hcontainer) _))

/-- Doors are numbered in their containers. -/
def ofDoors : Namer :=
  ⟨(default : CodeTable).insert "Door" (TypeCode.plain "D").spatial, default, default⟩

theorem door_matches_rule :
    ofDoors.rulePattern? "IfcDoor" none = some (spaceNamePattern ++ "-D\\d\x7b2,\x7d") ∧
      (ofDoors.resolve .fresh "IfcDoor" none "00-01A" none).1.decision = .spatial "D" ∧
      fullMatch spaceNamePattern "00-01A" = .ok true ∧
      Answers (spaceNamePattern ++ "-D\\d\x7b2,\x7d")
        (ofDoors.resolve .fresh "IfcDoor" none "00-01A" none).1.name true := by
  have hrule : ofDoors.rulePattern? "IfcDoor" none =
      some (spaceNamePattern ++ "-D\\d\x7b2,\x7d") := by decide +kernel
  have hdecision : (ofDoors.resolve .fresh "IfcDoor" none "00-01A" none).1.decision =
      .spatial "D" := by decide +kernel
  have hcontainer : fullMatch spaceNamePattern "00-01A" = .ok true := by decide +kernel
  have hmatches := resolve_matches ofDoors .fresh "IfcDoor" none "00-01A" none
  exact ⟨hrule, hdecision, hcontainer,
    (hmatches.2 _ hrule).2 "D" hdecision hcontainer⟩

/-! ## Long containers -/

/-- The pattern of names in a container is refused if the container's name is very long. -/
theorem long_is_refused {container : String} (h : 327680 < container.length) (code text : String) :
    fullMatch ((NamingDecision.spatial code).pattern (.literal container)) text =
      .error (.invalidPattern ((NamingDecision.spatial code).pattern (.literal container))) := by
  have hdash : Writes 1 1 "-".toList {['-']} 512 := writes_text (by decide)
  have htwo : Writes 1 1 "\\d\x7b2,\x7d".toList (digits 2) 196992 :=
    writes_digits repeats_from_two (by decide)
  have hrest := (hdash.append (writes_escape code)).append htwo
  have hbytes := Node.length_le_bytesOf container.toList
  have hlarge : memoryLimit < stateBytes * (Form.bytesOf .forward container.toList).length := by
    rw [String.length_toList] at hbytes
    rw [memoryLimit, stateBytes]
    omega
  refine fullMatch_large hrest (by decide) ?_ hlarge text
  rw [NamingDecision.pattern]
  simp only [String.toList_append, List.append_assoc]

/-- So is the pattern that a name in such a container is given out with. -/
theorem resolve_long {code container : String} (h : 327680 < container.length)
    (hdecision : n.decide kind subKind label = .spatial code) (counters : Counters) :
    let resolved := (n.resolve counters kind subKind container label).1
    fullMatch resolved.pattern resolved.name = .error (.invalidPattern resolved.pattern) := by
  intro resolved
  have hpattern : resolved.pattern = (NamingDecision.spatial code).pattern (.literal container) :=
    congrArg (fun d => NamingDecision.pattern d (.literal container)) hdecision
  rw [hpattern]
  exact long_is_refused h code resolved.name

/-- The name of a container that has `330000` letters. -/
def longContainer : String := String.ofList (List.replicate 330000 'A')

theorem door_in_longContainer :
    let resolved := (ofDoors.resolve .fresh "IfcDoor" none longContainer none).1
    fullMatch resolved.pattern resolved.name = .error (.invalidPattern resolved.pattern) := by
  have hlength : longContainer.length = 330000 :=
    String.length_ofList.trans List.length_replicate
  have hdecision : ofDoors.decide "IfcDoor" none none = .spatial "D" := by decide +kernel
  exact resolve_long (by rw [hlength]; decide) hdecision .fresh

end Namer

end Eir
