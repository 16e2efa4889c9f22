import Eir.BundleDocument
import Eir.Proofs.Json.Canonical
import Eir.Proofs.Json.CompactText

/-!
# What a fingerprint sees

The text that the fingerprint of a bundle is taken of tells all of the bundle but the
dates and the versions of its groups (`Bundle.canonicalText_eq_iff`), and the digits of a
digest tell its bytes (`hex_injective`). So bundles have the same fingerprint just when they
are the same but for these, unless two texts have the same digest
(`fingerprint_sees_all_but_dates`).
-/

namespace Eir

open Json

/-! ## Hexadecimal digits -/

namespace Text

theorem number?_hexByte (b : UInt8) : number? 16 (hexByte b).toList = some b.toNat := by
  have hall : ∀ n : Fin 256, number? 16 (hexByte (.ofNat n)).toList = some n.val := by
    decide +kernel
  have hbyte := hall ⟨b.toNat, b.toNat_lt⟩
  rwa [UInt8.ofNat_toNat] at hbyte

theorem length_hexByte (b : UInt8) : (hexByte b).toList.length = 2 := by
  have hall : ∀ n : Fin 256, (hexByte (.ofNat n)).toList.length = 2 := by
    decide +kernel
  have hbyte := hall ⟨b.toNat, b.toNat_lt⟩
  rwa [UInt8.ofNat_toNat] at hbyte

theorem hexByte_cancel {a b : UInt8} {r s : List Char}
    (h : (hexByte a).toList ++ r = (hexByte b).toList ++ s) : a = b ∧ r = s := by
  obtain ⟨hbyte, hrs⟩ := List.append_inj h (by rw [length_hexByte, length_hexByte])
  have hnumber := congrArg (number? 16) hbyte
  rw [number?_hexByte, number?_hexByte] at hnumber
  exact ⟨UInt8.toNat_inj.mp (Option.some.inj hnumber), hrs⟩

theorem toList_hex (bytes : List UInt8) :
    (hex bytes).toList = bytes.flatMap fun b => (hexByte b).toList := by
  rw [hex, String.toList_join, List.flatMap_map]

/-- Different bytes have different digits. -/
theorem hex_injective : Function.Injective hex := by
  intro bytes bytes' h
  have hne (b : UInt8) : ¬ (hexByte b).toList <+: [] := fun hprefix => by
    have hlength := length_hexByte b
    rw [List.prefix_nil.mp hprefix] at hlength
    cases hlength
  refine (flatMap_cancel (r := []) (s := []) (fun a _ b _ _ _ => hexByte_cancel)
    (fun b _ => hne b) (fun a _ => hne a) ?_).1
  rw [List.append_nil, List.append_nil, ← toList_hex, ← toList_hex, h]

end Text

/-! ## Dates -/

/-- The bundles are the same but for the dates and the versions of their groups. -/
structure SameButDates (a b : Bundle) : Prop where
  name : a.name = b.name
  project : a.project = b.project
  stages : a.stages = b.stages
  groups : List.Forall₂ (fun g h => g.specifications = h.specifications ∧
    g.metadata = { h.metadata with date := g.metadata.date, version := g.metadata.version })
    a.groups b.groups

namespace Bundle

variable {a b : Bundle}

theorem undated_eq_iff : a.undated = b.undated ↔ SameButDates a b := by
  have hgroup (g h : SpecGroup) :
      ({ g with metadata := { g.metadata with date := none, version := "" } } : SpecGroup) =
          { h with metadata := { h.metadata with date := none, version := "" } } ↔
        g.specifications = h.specifications ∧ g.metadata =
          { h.metadata with date := g.metadata.date, version := g.metadata.version } := by
    obtain ⟨⟨_, _, _, _, _, _, _, _⟩, _⟩ := g
    obtain ⟨⟨_, _, _, _, _, _, _, _⟩, _⟩ := h
    simp [and_comm]
  have hgroups (gs hs : List SpecGroup) :
      gs.map (fun g => { g with metadata := { g.metadata with date := none, version := "" } }) =
          hs.map (fun g => { g with metadata := { g.metadata with date := none, version := "" } }) ↔
        List.Forall₂ (fun g h => g.specifications = h.specifications ∧ g.metadata =
          { h.metadata with date := g.metadata.date, version := g.metadata.version }) gs hs := by
    rw [← List.forall₂_eq_eq_eq, List.forall₂_map_left_iff, List.forall₂_map_right_iff]
    simp only [hgroup]
  rw [undated, undated, Bundle.mk.injEq, hgroups]
  exact ⟨fun ⟨hname, hproject, hstages, hgroups⟩ => ⟨hname, hproject, hstages, hgroups⟩,
    fun h => ⟨h.name, h.project, h.stages, h.groups⟩⟩

/-- The text tells all that is no date. -/
theorem canonicalText_eq_iff : a.canonicalText = b.canonicalText ↔ a.undated = b.undated := by
  constructor
  · intro h
    exact Bundle.told a.undated b.undated (compact_injective h)
  · intro h
    rw [canonicalText, h, ← canonicalText]

theorem fingerprint_eq_iff_hash : a.fingerprint = b.fingerprint ↔
    Digest.Blake3.hash a.canonicalText.toUTF8 = Digest.Blake3.hash b.canonicalText.toUTF8 :=
  ⟨fun h => Text.hex_injective h, fun h => congrArg Text.hex h⟩

end Bundle

/-- The table of contents of a bundle counts its rules. -/
theorem foldl_specifications (groups : List SpecGroup) (n : Nat) :
    (groups.map GroupEntry.of).foldl (fun n g => n + g.specifications) n =
      n + (groups.flatMap (·.specifications)).length := by
  induction groups generalizing n with
  | nil => rfl
  | cons g groups ih =>
    rw [List.map_cons, List.foldl_cons, ih, List.flatMap_cons, List.length_append, ← Nat.add_assoc]
    rfl

/-- **The fingerprint sees everything but dates.** As long as two texts do not have the same
digest, bundles have the same fingerprint just when they are the same without dates and versions,
which is to say that they differ in nothing else. And the document of a bundle passes its own
check. -/
theorem fingerprint_sees_all_but_dates :
    (∀ a b : Bundle,
      (Digest.Blake3.hash a.canonicalText.toUTF8 = Digest.Blake3.hash b.canonicalText.toUTF8 →
        a.canonicalText.toUTF8 = b.canonicalText.toUTF8) →
      (a.fingerprint = b.fingerprint ↔ a.undated = b.undated)) ∧
    (∀ a b : Bundle, a.undated = b.undated ↔ SameButDates a b) ∧
    ∀ (bundle : Bundle) (stage : Stage) (pass : String),
      (BundleDocument.of bundle stage pass).verify = .ok () := by
  refine ⟨fun a b hcollision => ?_, fun _ _ => Bundle.undated_eq_iff, fun bundle stage pass => ?_⟩
  · rw [Bundle.fingerprint_eq_iff_hash, ← Bundle.canonicalText_eq_iff]
    exact ⟨fun h => String.toByteArray_inj.mp (hcollision h), fun h => congrArg _ (h ▸ rfl)⟩
  · have hlisted := foldl_specifications bundle.groups 0
    rw [Nat.zero_add] at hlisted
    simp only [BundleDocument.verify, BundleDocument.of, hlisted, Bundle.specifications, ne_eq,
      not_true_eq_false, if_false]

/-- The door bundle as it is issued on a date. -/
def datedDoors (date : String) : Bundle :=
  { doorBundle with
    groups := [⟨{ GroupMetadata.named "Doors" with version := date, date := some date },
      [doorCodes]⟩] }

/-- A bundle without groups. -/
def emptyBundle (name : String) : Bundle := ⟨name, ⟨"", ""⟩, [], []⟩

theorem sorted_emptyBundle (name : String) :
    (encode (emptyBundle name).undated).sorted = .obj [("groups", .arr []), ("name", .str name),
      ("project", .obj [("description", .str ""), ("name", .str "")]), ("stages", .arr [])] := by
  have hproject : (encode (⟨"", ""⟩ : ProjectInfo)).sorted =
      .obj [("description", .str ""), ("name", .str "")] :=
    sorted_obj_eq (List.Perm.swap ..) (by decide) (by decide)
  refine sorted_obj_eq ?_ (by simp) (by simp)
  rw [← hproject]
  exact List.perm_append_singleton _ [_, _, _]

/-- Doors that are issued later have the same fingerprint, a bundle of another name does not, and
what is published of the doors is as its document says. -/
theorem doors_have_one_fingerprint :
    (datedDoors "2026-01-01").fingerprint = (datedDoors "2026-10-18").fingerprint ∧
    (emptyBundle "Stage3").fingerprint ≠ (emptyBundle "Stage5").fingerprint ∧
    (BundleDocument.of doorBundle .stage5 "core").verify = .ok () := by
  obtain ⟨htells, -, hverifies⟩ := fingerprint_sees_all_but_dates
  refine ⟨(htells _ _ fun _ => rfl).mpr rfl, ?_, hverifies doorBundle .stage5 "core"⟩
  have hdigests : Digest.Blake3.hash (emptyBundle "Stage3").canonicalText.toUTF8 ≠
      Digest.Blake3.hash (emptyBundle "Stage5").canonicalText.toUTF8 := by
    rw [Bundle.canonicalText, Bundle.canonicalText, sorted_emptyBundle, sorted_emptyBundle]
    decide +kernel
  rw [ne_eq, htells _ _ fun h => absurd h hdigests]
  decide

end Eir
