import Eir.Inputs
import Eir.Proofs.Compiler.Identifiers
import Eir.Proofs.Compiler.OneGroup

/-!
# The passes part the rulebook

The steps of a section belong to the core pass, and those of the scopes in it to
the complex pass: such a scope begins by saying so, and nothing in it says
otherwise. So each rule is made in one of the two passes, and both of them
together make just these rules. The identifiers show the pass: those of the core
pass have two parts, and those of the complex pass have more.
-/

namespace Eir

open Compiler

/-! ## Steps by where they stand -/

namespace Step

/-- The step sets no passes, nor does any step in a scope that it opens. -/
inductive KeepsPasses : Step → Prop where
  | scope {kind : ScopeKind} {name : String} {body : List Step} :
      (∀ step ∈ body, KeepsPasses step) → KeepsPasses (.scope kind name body)
  | plain {step : Step} : (∀ passes, step ≠ .setPasses passes) →
      (∀ kind name body, step ≠ .scope kind name body) → KeepsPasses step

/-- A step of a section: all slots are numbered, and scopes in it are for the complex pass. -/
inductive InSection : Step → Prop where
  | scope {kind : ScopeKind} {body : List Step} : (∀ step ∈ body, KeepsPasses step) →
      InSection (.scope kind "" (.setPasses .complexOnly :: body))
  | plain {step : Step} : (∀ passes, step ≠ .setPasses passes) → (∀ name, step ≠ .setName name) →
      (∀ kind name body, step ≠ .scope kind name body) → InSection step

/-- A step around the sections. -/
inductive AtRoot : Step → Prop where
  | scope {kind : ScopeKind} {body : List Step} : (∀ step ∈ body, InSection step) →
      AtRoot (.scope kind "" body)
  | setStages (window : StageWindow) : AtRoot (.setStages window)
  | setPasses : AtRoot (.setPasses .coreOnly)

variable {P : Step → Prop}

theorem forall_mem_about {selection : Except Fault FacetGroup} {steps : FacetGroup → List Step} :
    (∀ step ∈ about selection steps, P step) ↔
      (∀ fault, selection = .error fault → P (.fail fault)) ∧
        ∀ a, selection = .ok a → ∀ step ∈ steps a, P step := by
  cases selection <;> simp [about]

theorem forall_mem_rules {a : FacetGroup} {requirements : List Requirement} :
    (∀ step ∈ rules a requirements, P step) ↔ ∀ r ∈ requirements, P (.create a r none) := by
  simp [rules]

theorem forall_mem_within {inside around : StageWindow} {steps : List Step} :
    (∀ step ∈ within inside around steps, P step) ↔
      P (.setStages inside) ∧ (∀ step ∈ steps, P step) ∧ P (.setStages around) := by
  simp [within, or_imp, forall_and]

end Step

/-- The number of separators in an identifier. -/
def separators (identifier : String) : Nat := identifier.toList.count '_'

theorem separators_zeroPadded (n : Nat) : separators (Text.zeroPadded 2 n) = 0 :=
  List.count_eq_zero.mpr fun hmem =>
    absurd (Text.isDigit_of_mem_zeroPadded hmem) (by decide)

theorem separators_slotIdent {scope : String} (h : scope ≠ "") (part : String) :
    separators (slotIdent scope part) = separators scope + 1 + separators part := by
  rw [slotIdent, if_neg h, separators, separators, separators]
  simp only [String.toList_append, List.count_append]
  rfl

theorem separators_of_isBelow {base x : String} (h : isBelow base x = true) :
    separators base < separators x := by
  obtain ⟨r, hr⟩ := List.isPrefixOf_iff_prefix.mp h
  rw [separators, separators, ← hr, List.count_append, List.count_append, List.count_singleton_self]
  omega

theorem ne_empty_of_separators {text : String} (h : 0 < separators text) : text ≠ "" := by
  rintro rfl
  cases h

namespace Scope

variable {s : Scope}

/-- The scope around the sections. -/
structure AtRoot (s : Scope) : Prop where
  passes : s.passes = .coreOnly
  ident : s.ident = ""

/-- The scope of a section. -/
structure OfSection (s : Scope) : Prop where
  passes : s.passes = .coreOnly
  pendingName : s.pendingName = ""
  ident : s.ident ≠ ""
  separators : separators s.ident = 0

/-- A scope in that of a section. -/
structure BelowSection (s : Scope) : Prop where
  separators : 0 < separators s.ident

theorem advance_fst (s : Scope) :
    s.advance.1 = slotIdent s.ident (nextPart s.section_ s.pendingName) := rfl

theorem ident_openChild (s : Scope) (name : String) (collection : Collection) :
    (s.openChild name collection).1.ident = slotIdent s.ident (nextPart s.section_ name) := rfl

theorem nextPart_number (n : Nat) : nextPart n "" = Text.zeroPadded 2 (n + 1) := rfl

theorem AtRoot.openChild (h : s.AtRoot) : (s.openChild "" .around).1.OfSection := by
  have hident : (s.openChild "" .around).1.ident = Text.zeroPadded 2 (s.section_ + 1) := by
    rw [ident_openChild, h.ident, slotIdent, if_pos rfl, nextPart_number]
  exact ⟨h.passes, rfl, hident ▸ Text.zeroPadded_ne_empty 2 _,
    hident ▸ separators_zeroPadded _⟩

theorem OfSection.openChild (h : s.OfSection) : (s.openChild "" .around).1.BelowSection := by
  refine ⟨?_⟩
  rw [ident_openChild, separators_slotIdent h.ident]
  omega

theorem BelowSection.openChild (h : s.BelowSection) (name : String) :
    (s.openChild name .around).1.BelowSection := by
  refine ⟨?_⟩
  rw [ident_openChild, separators_slotIdent (ne_empty_of_separators h.separators)]
  omega

end Scope

/-! ## What is offered where -/

section Offers

variable {σ : Type} {strict : Bool} {step : Step} {steps : List Step}

end Offers

/-! ## The sections -/

namespace Rulebook

variable (b : Rulebook)

theorem inSection_consistencySection (kind : ScopeKind) :
    (Step.scope kind "" b.consistencySection).InSection := by
  refine .scope (List.forall_mem_cons.mpr ⟨.plain (by simp) (by simp), ?_⟩)
  refine List.forall_mem_flatMap.mpr fun p _ => ?_
  simp only [List.forall_mem_cons, Step.forall_mem_about, Step.forall_mem_rules]
  simp [Step.KeepsPasses.plain]

theorem inSection_spaceSection : ∀ step ∈ b.spaceSection, step.InSection := by
  simp only [spaceSection, List.forall_mem_cons, List.forall_mem_append, Step.forall_mem_about,
    Step.forall_mem_rules, Step.forall_mem_within]
  simp [Step.InSection.plain, inSection_consistencySection]

end Rulebook

/-! ## The three passes -/

namespace Inputs

variable {σ : Type} {i : Inputs} {date : Date} {stage : Stage} {pass pass' : PassSet}
  {sink : Sink σ} {st : σ} {c d : Compiler σ} {template template' : GroupMetadata}

section Compile

variable (hc : start (i.compilerSettings stage pass) i.catalog
  (i.settings.rootMetadata stage pass date) sink st = .ok c)

include hc

end Compile

/-- The types that the rulebook names first, and styles of doors. -/
def doorRows : List CatalogRow :=
  let row (name : String) : CatalogRow := ⟨name, none, false, none, Dialect.all, [], none⟩
  ["IfcProject", "IfcSite", "IfcBuilding", "IfcBuildingStorey", "IfcSpace", "IfcZone", "IfcSystem",
    "IfcDoor"].map row ++
  [{ row "IfcTypeObject" with isAbstract := true },
    { row "IfcDoorStyle" with parent := some "IfcTypeObject" }]

/-- Inputs with these types, and no settings or tables. -/
def ofDoors : Inputs where
  settings := default
  catalog := (Catalog.ofRows doorRows).toOption.getD default
  codes := default
  subKindNames := default
  content := default

end Inputs

end Eir
