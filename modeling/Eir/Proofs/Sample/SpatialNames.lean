import Eir.Proofs.Naming.Matching
import Eir.Proofs.Rulebook.PlaceRules
import Eir.Proofs.Sample.Presence
import Eir.Proofs.Sample.Scripts
import Eir.Sample.SpatialModel

/-!
# Names in the spatial model

Samples of the spatial model are meant to pass unless a script strikes them, and those
that are left have the names that they were made with (`SampleSources.SpatialParts`).
These are accepted for the storeys of known floors, and for the rooms that have a
number, on storeys that names of spaces can begin with. The others are meant to pass
too: the storey of a code that is not known, and the room `B4D` (`names_left_conforming`).
-/

namespace Eir

open Pattern

/-! ## Names of rooms -/

theorem notMem_of_spaceDigits {w : List Char} (h : ∀ c ∈ w, spaceDigit.contains c = true) :
    '-' ∉ w := fun hmem => absurd (h '-' hmem) (by decide)

theorem notMem_of_mem_suffix {w : List Char} (h : w ∈ 1 + spaceSuffix.language) : '-' ∉ w := by
  rcases h with h | ⟨c, hc, rfl⟩
  · rw [Set.mem_singleton_iff.mp h]
    exact List.not_mem_nil
  · rw [List.mem_singleton]
    rintro rfl
    exact absurd hc (by decide)

/-- The part of a name behind the storey holds no hyphen. -/
theorem notMem_of_mem_numbered {w : List Char} (h : w ∈ spaceNumbers * (1 + spaceSuffix.language)) :
    '-' ∉ w := by
  obtain ⟨number, ⟨-, hdigits⟩, suffix, hsuffix, rfl⟩ := h
  rw [List.mem_append, not_or]
  exact ⟨notMem_of_spaceDigits hdigits, notMem_of_mem_suffix hsuffix⟩

theorem mem_spaceNames_iff {w : List Char} : w ∈ spaceNames ↔
    w ∈ spaceNumbers * (1 + spaceSuffix.language) ∨
      ∃ storey ∈ storeys, ∃ v ∈ spaceNumbers * (1 + spaceSuffix.language),
        w = storey ++ '-' :: v := by
  rw [spaceNames, mul_assoc, add_mul, one_mul, Language.mem_add]
  refine or_congr_right ⟨?_, ?_⟩
  · rintro ⟨_, ⟨storey, hstorey, _, rfl, rfl⟩, v, hv, rfl⟩
    exact ⟨storey, hstorey, v, hv, by simp⟩
  · rintro ⟨storey, hstorey, v, hv, rfl⟩
    exact ⟨_, ⟨storey, hstorey, _, rfl, rfl⟩, v, hv, by simp⟩

/-- A name of a storey and of a room in it is one of a space just if names of spaces can begin with
the storey, and the room has such a name by itself. -/
theorem storey_room_mem_spaceNames {level room : String} (h : '-' ∉ room.toList) :
    (level ++ "-" ++ room).toList ∈ spaceNames ↔
      level.toList ∈ storeys ∧ room.toList ∈ spaceNames := by
  have hroom : room.toList ∈ spaceNames ↔
      room.toList ∈ spaceNumbers * (1 + spaceSuffix.language) := by
    rw [mem_spaceNames_iff, or_iff_left]
    rintro ⟨storey, -, v, -, heq⟩
    exact h (heq ▸ List.mem_append_right _ List.mem_cons_self)
  have hstoreys : ∀ storey ∈ storeys, '-' ∉ storey := by decide
  have htext : (level ++ "-" ++ room).toList = level.toList ++ '-' :: room.toList := by
    simp [String.toList_append]
  rw [hroom, htext, mem_spaceNames_iff]
  constructor
  · rintro (hnumbered | ⟨storey, hstorey, v, hv, heq⟩)
    · exact absurd (List.mem_append_right _ List.mem_cons_self) (notMem_of_mem_numbered hnumbered)
    · obtain ⟨hlevel, -, hrest⟩ := (List.append_cons_inj_of_notMem (hstoreys storey hstorey)
        (notMem_of_mem_numbered hv)).mp heq.symm
      rw [← hlevel, ← hrest]
      exact ⟨hstorey, hv⟩
  · rintro ⟨hlevel, hnumbered⟩
    exact .inr ⟨_, hlevel, _, hnumbered, rfl⟩

/-! ## Samples of storeys and rooms -/

/-- The name of the storey of a floor. -/
def Floor.label (f : Floor) : String := f.name.getD f.code

/-- The sample is the storey of a floor, and is meant to pass. -/
structure Sample.IsStorey (x : Sample) (f : Floor) : Prop where
  entity : x.entity = "IfcBuildingStorey"
  conforming : x.conforming = true
  name : x.values.get? (.attr "Name") = some f.label
  description : x.values.get? (.attr "Description") = some f.description

/-- The name of a room on a storey. -/
def roomName (storey room : String) : String := Text.eraseAll "Level " storey ++ "-" ++ room

/-- The sample is a room on a storey, and is meant to pass. -/
structure Sample.IsRoom (x : Sample) (place : String × String) : Prop where
  entity : x.entity = "IfcSpace"
  conforming : x.conforming = true
  container : x.container = place.1
  name : x.values.get? (.attr "Name") = some (roomName place.1 place.2)

namespace Sample

variable {x y : Sample}

theorem Shows.isStorey (h : y.Shows x) {f : Floor} (hx : x.IsStorey f) : y.IsStorey f :=
  ⟨h.entity.trans hx.entity, h.conforming.trans hx.conforming,
    (h.attributes _ (by decide)).trans hx.name,
    (h.attributes _ (by decide)).trans hx.description⟩

theorem Shows.isRoom (h : y.Shows x) {place : String × String} (hx : x.IsRoom place) :
    y.IsRoom place :=
  ⟨h.entity.trans hx.entity, h.conforming.trans hx.conforming, h.container.trans hx.container,
    (h.attributes _ (by decide)).trans hx.name⟩

theorem IsRoom.name_eq {place : String × String} (h : x.IsRoom place) :
    x.name = roomName place.1 place.2 := by
  rw [Sample.name, h.name, Option.getD_some]

end Sample

namespace SampleSources

variable {s : SampleSources} {m : SampleModel}

/-- The codes of the storeys. -/
def storeyCodes : List String := ["00", "M0", "01", "02", "RF", "BAD"]

/-- The rooms of a storey, and those of a roof. -/
def floorRooms : List String := ["00", "01", "02a", "02b", "03", "B4D"]
def roofRooms : List String := ["04", "05", "06"]

/-- The storeys by name with their rooms. -/
def roomPlaces (s : SampleSources) : List (String × String) :=
  ((s.storeySamples storeyCodes).take 4).flatMap (fun x => floorRooms.map (x.name, ·)) ++
    ((s.storeySamples storeyCodes).drop 4).flatMap fun x => roofRooms.map (x.name, ·)

theorem isStorey_storeySample (s : SampleSources) (level : Nat) (code : String) :
    (s.storeySample level code).IsStorey (s.floorOf code) := by
  have hlabel (f : Floor) (elevation : String) (n : String) (hn : n ≠ "Elevation") :
      (withFields (described (f.name.getD f.code) f.description) [(.attr "Elevation", elevation),
        (.property storeySet "NetHeight", "2800"), (.classification "Floor", f.category)]).get?
          (.attr n) = (described (f.name.getD f.code) f.description).get? (.attr n) := by
    rw [withFields_eq, SampleBuilder.get?_overrideAll_of_ne]
    simp [hn.symm]
  refine ⟨rfl, rfl, (hlabel _ _ _ (by decide)).trans ?_, (hlabel _ _ _ (by decide)).trans ?_⟩ <;>
    simp [described, ValueSet.get?_set, Field.shown, Floor.label]

theorem isRoom_roomSamples {storeys made : List Sample} {rooms : List String}
    (h : s.roomSamples storeys rooms = .ok made) :
    List.Forall₂ Sample.IsRoom made (storeys.flatMap fun x => rooms.map (x.name, ·)) := by
  rw [roomSamples] at h
  extract_lets classes at h
  split at h
  · cases h
  · have hmade : List.Forall₂ (fun x (p : (String × String) × Nat) => x.IsRoom p.1) made
        (storeys.flatMap fun x => rooms.map (x.name, ·)).zipIdx := by
      refine forall₂_of_mapM_ok h fun ((storey, room), i) x hx => ?_
      dsimp only at hx
      split at hx
      · cases hx
        refine ⟨rfl, rfl, rfl, ?_⟩
        rw [sampleOf, withFields_eq, SampleBuilder.get?_overrideAll_of_ne (by simp)]
        simp [described, ValueSet.get?_set, Field.shown, roomName]
      · cases hx
    rw [← List.zipIdx_map_fst 0 (storeys.flatMap fun x => rooms.map (x.name, ·))]
    exact List.forall₂_map_right_iff.mpr hmade

/-- A room in a zone shows what it did. -/
theorem shows_zoned {rooms zones made : List Sample} (h : zoned rooms zones = .ok made) :
    List.Forall₂ Sample.Shows made rooms := by
  rw [zoned] at h
  split at h
  · cases h
  · cases h
    refine List.forall₂_iff_get.mpr ⟨List.length_mapIdx, fun i hi hi' => ?_⟩
    simp only [List.get_eq_getElem, List.getElem_mapIdx]
    exact ⟨rfl, rfl, rfl, fun _ _ => rfl, fun _ => rfl⟩

/-- A sample that some script is for: the storey that is broken, a room on it, or a zone. -/
inductive IsTarget (x : Sample) : Prop where
  | storey : x.entity = "IfcBuildingStorey" → x.name = brokenStorey → IsTarget x
  | room : x.entity.toLower = "ifcspace" → x.container = brokenStorey → IsTarget x
  | zone : x.entity = "IfcZone" → IsTarget x

/-- A storey of another name is no target. -/
theorem not_isTarget_storey {x : Sample} {f : Floor} (h : x.IsStorey f)
    (hlabel : f.label ≠ brokenStorey) : ¬ IsTarget x := by
  rintro (⟨-, hname⟩ | ⟨hentity, -⟩ | hentity)
  · rw [Sample.name, h.name] at hname
    exact hlabel hname
  · rw [h.entity] at hentity
    exact absurd hentity (by decide +kernel)
  · rw [h.entity] at hentity
    exact absurd hentity (by decide)

/-- Nor is a room on one. -/
theorem not_isTarget_room {x : Sample} {place : String × String} (h : x.IsRoom place)
    (hstorey : place.1 ≠ brokenStorey) : ¬ IsTarget x := by
  rintro (⟨hentity, -⟩ | ⟨-, hcontainer⟩ | hentity)
  · rw [h.entity] at hentity
    exact absurd hentity (by decide)
  · exact hstorey (h.container.symm.trans hcontainer)
  · rw [h.entity] at hentity
    exact absurd hentity (by decide)

theorem struck_breakRooms {m' : SampleModel} {rooms : List Nat} (h : s.breakRooms m rooms = .ok m') :
    Struck rooms m.samples m'.samples := by
  cases rooms with
  | nil => cases h
  | cons first rooms =>
    rw [breakRooms] at h
    split at h
    · cases h
    · obtain ⟨next, hnext, h⟩ := exists_of_bind_ok h
      refine ((SampleModel.struck_corrupted hnext).trans (SampleModel.struck_corrupted h)).mono ?_
      exact List.append_subset.mpr ⟨List.Subset.refl _, by simp⟩

theorem struck_breakZones {m' : SampleModel} {zones : List Nat} (h : s.breakZones m zones = .ok m') :
    Struck zones m.samples m'.samples := by
  rw [breakZones] at h
  split at h
  · cases h
    exact .refl _ _
  · exact SampleModel.struck_corrupted h

theorem isTarget_containedIn {t : Nat} (ht : t ∈ m.containedIn "IfcSpace" brokenStorey) {x : Sample}
    (hx : m.samples[t]? = some x) : IsTarget x := by
  rw [SampleModel.containedIn] at ht
  obtain ⟨⟨y, i⟩, hy, rfl⟩ := List.mem_map.mp ht
  obtain ⟨hmem, hfound⟩ := List.mem_filter.mp hy
  obtain rfl : y = x := Option.some.inj ((List.mem_zipIdx_iff_getElem?.mp hmem).symm.trans hx)
  simp only [Bool.and_eq_true, beq_iff_eq] at hfound
  exact .room (hfound.1.trans (by decide +kernel)) hfound.2

/-- The zones of the model. -/
def spatialZones (s : SampleSources) : List Sample :=
  s.zoneSamples ["Basic teaching", "Learning resources", "Halls and dining", "Non-net",
    "Staff and admin"]

/-- The rooms are those of all storeys, in their zones. -/
def MakesRooms (s : SampleSources) (rooms : List Sample) : Prop :=
  ∃ lower upper, s.roomSamples ((s.storeySamples storeyCodes).take 4) floorRooms = .ok lower ∧
    s.roomSamples ((s.storeySamples storeyCodes).drop 4) roofRooms = .ok upper ∧
      zoned (lower ++ upper) s.spatialZones = .ok rooms

/-- All samples with these rooms, before any is struck. -/
def spatialSamples (s : SampleSources) (rooms : List Sample) : List Sample :=
  s.siteSamples .stage3 ++ s.storeySamples storeyCodes ++ rooms ++ s.spatialZones ++
    (rooms.filter fun room => Text.occursIn "00" room.container).flatMap openings

theorem storey_mem_spatialSamples {rooms : List Sample} {x : Sample}
    (h : x ∈ s.storeySamples storeyCodes) : x ∈ s.spatialSamples rooms := by
  simp [spatialSamples, h]

theorem room_mem_spatialSamples {rooms : List Sample} {x : Sample} (h : x ∈ rooms) :
    x ∈ s.spatialSamples rooms := by
  simp [spatialSamples, h]

/-- The samples that the model is made from, those that scripts strike, and what becomes of them. -/
structure SpatialParts (s : SampleSources) (m : SampleModel) (rooms : List Sample)
    (targets : List Nat) (broken : List Sample) : Prop where
  made : s.MakesRooms rooms
  struck : Struck targets (s.spatialSamples rooms) broken
  areTargets : ∀ t ∈ targets, ∀ x, (s.spatialSamples rooms)[t]? = some x → IsTarget x
  stamped : List.Forall₂ Sample.Shows m.samples broken

theorem getElem?_storey (s : SampleSources) (rooms : List Sample) {k : Nat}
    (hk : k < (s.storeySamples storeyCodes).length) :
    (s.spatialSamples rooms)[(s.siteSamples .stage3).length + k]? =
      (s.storeySamples storeyCodes)[k]? := by
  rw [spatialSamples, List.append_assoc, List.append_assoc, List.append_assoc,
    List.getElem?_append_right (Nat.le_add_right _ _), Nat.add_sub_cancel_left,
    List.getElem?_append_left hk]

theorem getElem?_zone (s : SampleSources) (rooms : List Sample) {k : Nat}
    (hk : k < s.spatialZones.length) :
    (s.spatialSamples rooms)[(s.siteSamples .stage3).length +
      (s.storeySamples storeyCodes).length + rooms.length + k]? = s.spatialZones[k]? := by
  rw [spatialSamples, List.append_assoc, ← List.length_append, ← List.length_append,
    List.getElem?_append_right (Nat.le_add_right _ _), Nat.add_sub_cancel_left,
    List.getElem?_append_left hk]

theorem entity_zone (s : SampleSources) : ∀ x ∈ s.spatialZones, x.entity = "IfcZone" := by
  rw [spatialZones, zoneSamples]
  exact List.forall_mem_map.mpr fun _ _ => rfl

theorem entity_storey (s : SampleSources) :
    ∀ x ∈ s.storeySamples storeyCodes, x.entity = "IfcBuildingStorey" := by
  intro x hx
  obtain ⟨i, hi, rfl⟩ := List.mem_mapIdx.mp hx
  rfl

theorem isRoom_of_shows {as bs : List Sample} {places : List (String × String)}
    (h : List.Forall₂ Sample.Shows as bs) (hrooms : List.Forall₂ Sample.IsRoom bs places) :
    List.Forall₂ Sample.IsRoom as places := by
  induction h generalizing places with
  | nil => exact hrooms
  | cons hshows _ ih =>
    cases hrooms with
    | cons hroom hrest => exact .cons (hshows.isRoom hroom) (ih hrest)

theorem MakesRooms.areRooms {rooms : List Sample} (h : s.MakesRooms rooms) :
    List.Forall₂ Sample.IsRoom rooms s.roomPlaces := by
  obtain ⟨lower, upper, hlower, hupper, hzoned⟩ := h
  exact isRoom_of_shows (shows_zoned hzoned)
    (List.rel_append (isRoom_roomSamples hlower) (isRoom_roomSamples hupper))

theorem parts_of_spatialModel (h : s.spatialModel = .ok m) :
    ∃ rooms targets broken, s.SpatialParts m rooms targets broken := by
  rw [spatialModel] at h
  obtain ⟨lower, hlower, h⟩ := exists_of_bind_ok h
  obtain ⟨upper, hupper, h⟩ := exists_of_bind_ok h
  obtain ⟨rooms, hzoned, h⟩ := exists_of_bind_ok h
  extract_lets ground start at h
  have hstart : start.samples = s.spatialSamples rooms := rfl
  split at h
  · rename_i level hlevel
    have hlevel : (s.storeySamples storeyCodes).findIdx? (·.name == brokenStorey) = some level :=
      hlevel
    obtain ⟨storeyBroken, hstorey, h⟩ := exists_of_bind_ok h
    obtain ⟨roomsBroken, hbreak, h⟩ := exists_of_bind_ok h
    obtain ⟨zonesBroken, hzones, h⟩ := exists_of_bind_ok h
    cases h
    refine ⟨rooms, _, zonesBroken.samples, ⟨lower, upper, hlower, hupper, hzoned⟩,
      ((SampleModel.struck_corrupted hstorey).trans (struck_breakRooms hbreak)).trans
        (struck_breakZones hzones), fun t ht x hx => ?_, SampleModel.shows_stamped _⟩
    rcases List.mem_append.mp ht with ht | ht
    · rcases List.mem_append.mp ht with ht | ht
      · obtain ⟨hlt, hname, -⟩ := List.findIdx?_eq_some_iff_getElem.mp hlevel
        rw [List.mem_singleton.mp ht] at hx
        have hfound := (s.getElem?_storey rooms hlt).symm.trans hx
        rw [List.getElem?_eq_getElem hlt] at hfound
        obtain rfl := Option.some.inj hfound
        exact .storey (s.entity_storey _ (List.getElem_mem hlt)) (eq_of_beq hname)
      · exact isTarget_containedIn ht (hstart ▸ hx)
    · obtain ⟨k, hk, rfl⟩ := List.mem_map.mp (List.mem_of_mem_drop ht)
      have hlt : k < s.spatialZones.length := List.mem_range.mp hk
      have hfound := (s.getElem?_zone rooms hlt).symm.trans hx
      rw [List.getElem?_eq_getElem hlt] at hfound
      obtain rfl := Option.some.inj hfound
      exact .zone (s.entity_zone _ (List.getElem_mem hlt))
  · cases h

namespace SpatialParts

variable {rooms broken : List Sample} {targets : List Nat} {x y : Sample}

/-- A sample that is meant to pass shows what it was made with. -/
theorem exists_of_conforming (h : s.SpatialParts m rooms targets broken) (hy : y ∈ m.samples)
    (hconforming : y.conforming = true) : ∃ x ∈ s.spatialSamples rooms, y.Shows x := by
  obtain ⟨z, hz, hyz⟩ := exists_of_mem_left h.stamped hy
  obtain ⟨j, hj⟩ := List.mem_iff_getElem?.mp hz
  obtain ⟨x, hx, hzx⟩ := h.struck.passing j z hj (hyz.conforming ▸ hconforming)
  exact ⟨x, List.mem_of_getElem? hx, hyz.trans hzx⟩

/-- A sample that is no target is still shown. -/
theorem exists_of_mem (h : s.SpatialParts m rooms targets broken) (hx : x ∈ s.spatialSamples rooms)
    (hnone : ¬ IsTarget x) : ∃ y ∈ m.samples, y.Shows x := by
  obtain ⟨j, hj⟩ := List.mem_iff_getElem?.mp hx
  have huntouched := h.struck.untouched j fun ht => hnone (h.areTargets j ht x hj)
  exact exists_of_mem_right h.stamped (List.mem_of_getElem? (huntouched.trans hj))

theorem mem_of_entity (h : s.SpatialParts m rooms targets broken) (hx : x ∈ s.spatialSamples rooms) :
    (x.entity = "IfcBuildingStorey" → x ∈ s.storeySamples storeyCodes) ∧
      (x.entity = "IfcSpace" → x ∈ rooms) := by
  simp only [spatialSamples, siteSamples, List.mem_append, List.mem_cons, List.not_mem_nil,
    or_false] at hx
  rcases hx with (((hsite | hx) | hx) | hx) | hx
  · rcases hsite with rfl | rfl | rfl <;> simp [sampleOf, Sample.named]
  · simp [hx, s.entity_storey x hx]
  · obtain ⟨place, -, hroom⟩ := exists_of_mem_left h.made.areRooms hx
    simp [hx, hroom.entity]
  · simp [s.entity_zone x hx]
  · obtain ⟨room, -, hx⟩ := List.mem_flatMap.mp hx
    simp only [openings, List.mem_cons, List.not_mem_nil, or_false] at hx
    rcases hx with rfl | rfl <;> simp [sampleOf, Sample.named]

/-- The storey of a code is there, unless it is the one that is broken. -/
theorem exists_storey (h : s.SpatialParts m rooms targets broken) {code : String}
    (hcode : code ∈ storeyCodes) (hlabel : (s.floorOf code).label ≠ brokenStorey) :
    ∃ x ∈ m.samples, x.IsStorey (s.floorOf code) := by
  obtain ⟨level, hlevel, rfl⟩ := List.getElem_of_mem hcode
  have hstorey := s.isStorey_storeySample level storeyCodes[level]
  obtain ⟨y, hy, hshows⟩ := h.exists_of_mem
    (storey_mem_spatialSamples (List.mem_mapIdx.mpr ⟨level, hlevel, rfl⟩))
    (not_isTarget_storey hstorey hlabel)
  exact ⟨y, hy, hshows.isStorey hstorey⟩

/-- So are the rooms on it. -/
theorem exists_room (h : s.SpatialParts m rooms targets broken) {place : String × String}
    (hplace : place ∈ s.roomPlaces) (hstorey : place.1 ≠ brokenStorey) :
    ∃ x ∈ m.samples, x.IsRoom place := by
  obtain ⟨x, hx, hroom⟩ := exists_of_mem_right h.made.areRooms hplace
  obtain ⟨y, hy, hshows⟩ := h.exists_of_mem (room_mem_spatialSamples hx)
    (not_isTarget_room hroom hstorey)
  exact ⟨y, hy, hshows.isRoom hroom⟩

end SpatialParts

/-! ## Accepted names -/

/-- A floor that has a name is a storey, with its name and its description. -/
theorem accepts_floor {c : Content} {code name : String} {floor : Floor}
    (h : c.floor? code = some floor) (hname : floor.name = some name) :
    name ∈ c.floorNames ∧ floor.description ∈ c.floorDescriptions := by
  have hmem : (name, floor) ∈ c.storeys :=
    List.mem_filterMap.mpr ⟨floor, List.mem_of_find?_eq_some h, by rw [hname]; rfl⟩
  exact ⟨List.mem_map_of_mem hmem, List.mem_map_of_mem hmem⟩

/-- Names of spaces can begin with the storey, and the room has a number. -/
def hasSpaceName (place : String × String) : Bool :=
  decide ((Text.eraseAll "Level " place.1).toList ∈ storeys) && place.2 != "B4D"

theorem room_of_mem_roomPlaces {place : String × String} (h : place ∈ s.roomPlaces) :
    place.2 ∈ floorRooms ++ roofRooms := by
  rcases List.mem_append.mp h with h | h <;> obtain ⟨x, -, h⟩ := List.mem_flatMap.mp h <;>
    obtain ⟨room, hroom, rfl⟩ := List.mem_map.mp h
  · exact List.mem_append_left _ hroom
  · exact List.mem_append_right _ hroom

theorem rooms_spaceNames : ∀ room ∈ floorRooms ++ roofRooms,
    '-' ∉ room.toList ∧ fullMatch spaceNamePattern room = .ok (room != "B4D") := by
  decide +kernel

/-- The pattern of space names decides on the names of the rooms. -/
theorem decides_roomName {place : String × String} (h : place ∈ s.roomPlaces) :
    Decides spaceNamePattern (roomName place.1 place.2) (hasSpaceName place) := by
  obtain ⟨hfree, hmatch⟩ := rooms_spaceNames _ (room_of_mem_roomPlaces h)
  have hroom : place.2.toList ∈ spaceNames ↔ (place.2 != "B4D") = true := by
    rw [NamingDecision.mem_spaceNames, hmatch, Except.ok.injEq]
  have hnamed : hasSpaceName place = true ↔
      (roomName place.1 place.2).toList ∈ NamingDecision.spaceLetter.names .convention := by
    refine Iff.trans ?_ (storey_room_mem_spaceNames hfree).symm
    rw [hasSpaceName, Bool.and_eq_true, decide_eq_true_iff, hroom]
  have hdecides : Decides (NamingDecision.spaceLetter.pattern .convention)
      (roomName place.1 place.2) (hasSpaceName place) := NamingDecision.decides_pattern hnamed
  exact hdecides

/-- **Names in the spatial model.** When all rules of stage 3 can be compiled and the spatial model
be made with them, rules 04.03, 04.06 and 05.03 are on the names and descriptions of storeys and on
the names of spaces. A storey that is meant to pass is that of a floor, as it was made; it is
accepted if the floor is known and has a name. A space that is meant to pass is one of the rooms,
and its name matches just when names of spaces can begin with the storey and the room has a number.
All storeys and rooms are there and meant to pass, apart from the storey that is broken. -/
theorem names_left_conforming (i : Inputs) (date : Date) (rules : CompiledRules)
    (hrules : i.allRules date .stage3 = .ok rules) (m : SampleModel)
    (hmodel : (SampleSources.mk i rules.index).spatialModel = .ok m) :
    let s := SampleSources.mk i rules.index
    let b := i.stageRulebook .stage3
    (rules.Constrains "04_03" b.storeySelection "Name" (.list i.content.floorNames) ∧
      rules.Constrains "04_06" b.storeySelection "Description"
        (.list i.content.floorDescriptions) ∧
      rules.Constrains "05_03" b.spaceSelection "Name" (.pattern spaceNamePattern)) ∧
    (∀ x ∈ m.samples, x.conforming = true → x.entity = "IfcBuildingStorey" →
      ∃ code ∈ storeyCodes, x.IsStorey (s.floorOf code) ∧
        ∀ floor, i.content.floor? code = some floor → floor.name.isSome = true →
          (s.floorOf code).label ∈ i.content.floorNames ∧
            (s.floorOf code).description ∈ i.content.floorDescriptions) ∧
    (∀ x ∈ m.samples, x.conforming = true → x.entity = "IfcSpace" →
      ∃ place ∈ s.roomPlaces, x.IsRoom place ∧
        Decides spaceNamePattern x.name (hasSpaceName place)) ∧
    (∀ code ∈ storeyCodes, (s.floorOf code).label ≠ brokenStorey →
      ∃ x ∈ m.samples, x.IsStorey (s.floorOf code)) ∧
    ∀ place ∈ s.roomPlaces, place.1 ≠ brokenStorey → ∃ x ∈ m.samples, x.IsRoom place := by
  intro s b
  obtain ⟨rooms, targets, broken, hparts⟩ := parts_of_spatialModel hmodel
  refine ⟨Inputs.constrains_places hrules, fun y hy hconforming hentity => ?_,
    fun y hy hconforming hentity => ?_, fun code => hparts.exists_storey,
    fun place => hparts.exists_room⟩
  · obtain ⟨x, hx, hshows⟩ := hparts.exists_of_conforming hy hconforming
    obtain ⟨level, hlevel, rfl⟩ := List.mem_mapIdx.mp
      ((hparts.mem_of_entity hx).1 (hshows.entity ▸ hentity))
    refine ⟨_, List.getElem_mem hlevel, hshows.isStorey (s.isStorey_storeySample _ _),
      fun floor hfloor hname => ?_⟩
    obtain ⟨name, hname⟩ := Option.isSome_iff_exists.mp hname
    have haccepts := accepts_floor hfloor hname
    rw [floorOf, hfloor, Option.getD_some, Floor.label, hname]
    exact haccepts
  · obtain ⟨x, hx, hshows⟩ := hparts.exists_of_conforming hy hconforming
    obtain ⟨place, hplace, hroom⟩ := exists_of_mem_left hparts.made.areRooms
      ((hparts.mem_of_entity hx).2 (hshows.entity ▸ hentity))
    have hshown := hshows.isRoom hroom
    exact ⟨place, hplace, hshown, hshown.name_eq ▸ decides_roomName hplace⟩

/-- A house with four floors that have names. -/
def ofFloors (index : RuleIndex) : SampleSources where
  inputs := { Inputs.ofHouse with
    content := { Inputs.ofHouse.content with
      floors := [⟨"00", some "Level 00", "Ground floor", ""⟩,
        ⟨"01", some "Level 01", "First floor", ""⟩, ⟨"02", some "Level 02", "Second floor", ""⟩,
        ⟨"RF", some "RF", "Roof", ""⟩] } }
  index := index

theorem spatial_of_floors :
    (((ofFloors .empty).inputs.allRules default .stage3).toOption.any fun rules =>
      (ofFloors rules.index).spatialModel.toOption.any fun m => m.corruptions.length == 15) =
        true := by
  decide +kernel

theorem floorOf_floors (index : RuleIndex) :
    ((ofFloors index).floorOf "00").label = "Level 00" ∧
      ((ofFloors index).floorOf "BAD").label = "Invalid" := by
  have hlabels : ((ofFloors .empty).floorOf "00").label = "Level 00" ∧
      ((ofFloors .empty).floorOf "BAD").label = "Invalid" := by decide +kernel
  exact hlabels

theorem roomPlaces_floors (index : RuleIndex) : ("Level 00", "01") ∈ (ofFloors index).roomPlaces ∧
    ("Level 00", "B4D") ∈ (ofFloors index).roomPlaces := by
  have hplaces : ("Level 00", "01") ∈ (ofFloors .empty).roomPlaces ∧
      ("Level 00", "B4D") ∈ (ofFloors .empty).roomPlaces := by decide +kernel
  exact hplaces

/-- The ground floor of the house and its second room are there, and pass. -/
theorem names_of_floors : ∃ rules m, (ofFloors .empty).inputs.allRules default .stage3 = .ok rules ∧
    (ofFloors rules.index).spatialModel = .ok m ∧
    (∃ x ∈ m.samples, x.IsStorey ((ofFloors rules.index).floorOf "00")) ∧
    ∃ x ∈ m.samples, x.IsRoom ("Level 00", "01") ∧
      ∃ place, x.IsRoom place ∧ Decides spaceNamePattern x.name (hasSpaceName place) := by
  obtain ⟨rules, hrules, hspatial⟩ := exists_ok_of_any spatial_of_floors
  obtain ⟨m, hmodel, -⟩ := exists_ok_of_any hspatial
  obtain ⟨-, -, hrooms, hstorey, hroom⟩ := names_left_conforming (ofFloors .empty).inputs default
    rules hrules m hmodel
  have hlabel : ((ofFloors rules.index).floorOf "00").label ≠ brokenStorey := by
    rw [(floorOf_floors _).1]
    decide
  obtain ⟨x, hx, hisRoom⟩ := hroom ("Level 00", "01") (roomPlaces_floors _).1 (by decide)
  obtain ⟨place, -, hplace, hdecides⟩ := hrooms x hx hisRoom.conforming hisRoom.entity
  exact ⟨rules, m, hrules, hmodel, hstorey "00" (by decide) hlabel, x, hx, hisRoom, place, hplace,
    hdecides⟩

/-- The storey of a code that is not known is meant to pass, and so is a room without a number, but
the rules do not accept their names. -/
theorem unknown_storey_passes :
    ∃ rules m, (ofFloors .empty).inputs.allRules default .stage3 = .ok rules ∧
      (ofFloors rules.index).spatialModel = .ok m ∧
      (∃ x ∈ m.samples, x.conforming = true ∧ x.entity = "IfcBuildingStorey" ∧ x.name = "Invalid") ∧
      (rules.Constrains "04_03" ((ofFloors .empty).inputs.stageRulebook .stage3).storeySelection
        "Name" (.list (ofFloors .empty).inputs.content.floorNames) ∧
        "Invalid" ∉ (ofFloors .empty).inputs.content.floorNames) ∧
      (∃ x ∈ m.samples, x.conforming = true ∧ x.entity = "IfcSpace" ∧ x.name = "00-B4D") ∧
      rules.Constrains "05_03" ((ofFloors .empty).inputs.stageRulebook .stage3).spaceSelection
        "Name" (.pattern spaceNamePattern) ∧
      fullMatch spaceNamePattern "00-B4D" = .ok false := by
  obtain ⟨rules, hrules, hspatial⟩ := exists_ok_of_any spatial_of_floors
  obtain ⟨m, hmodel, -⟩ := exists_ok_of_any hspatial
  obtain ⟨rooms, targets, broken, hparts⟩ := parts_of_spatialModel hmodel
  obtain ⟨hnames, -, hspaces⟩ := Inputs.constrains_places hrules
  have hlabel := (floorOf_floors rules.index).2
  obtain ⟨x, hx, hstorey⟩ := hparts.exists_storey (show "BAD" ∈ storeyCodes by decide)
    (hlabel ▸ by decide)
  obtain ⟨y, hy, hroom⟩ := hparts.exists_room (roomPlaces_floors rules.index).2 (by decide)
  refine ⟨rules, m, hrules, hmodel, ⟨x, hx, hstorey.conforming, hstorey.entity, ?_⟩,
    ⟨hnames, by decide +kernel⟩, ⟨y, hy, hroom.conforming, hroom.entity, ?_⟩, hspaces,
    by decide +kernel⟩
  · rw [Sample.name, hstorey.name, hlabel, Option.getD_some]
  · rw [hroom.name_eq]
    decide +kernel

end SampleSources

end Eir
