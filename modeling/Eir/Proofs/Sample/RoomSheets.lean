import Eir.Proofs.Rulebook.PlaceRules
import Eir.Proofs.Sample.SpatialNames

/-!
# Sheets of rooms

Each room of the spatial model is made with the code of an area data sheet and with the
space class of this sheet (`Sample.HasSheet`), and a room that is still meant to pass
has both of them. So the rule about its sheet, of which there is just one, accepts its
space class (`SampleSources.rooms_follow_sheets`).
-/

namespace Eir

namespace SampleSources

variable {s : SampleSources} {m : SampleModel} {rooms : List Sample}

/-- The sample has the code of the sheet, and the space class that the sheet belongs to. -/
structure HasSheet (x : Sample) (sheet : AreaDataSheet) : Prop where
  code : x.values.get? (.classification sheetSystem) = some sheet.code
  spaceClass : x.values.get? (.classification spaceSystem) = some sheet.spaceClass

/-- However classes are dealt out to rooms, each room has a sheet of its class. -/
theorem hasSheet_roomSamples {storeys made : List Sample} {names : List String}
    (h : s.roomSamples storeys names = .ok made) :
    ∀ x ∈ made, ∃ sheet ∈ s.inputs.content.areaDataSheets, HasSheet x sheet := by
  rw [roomSamples] at h
  extract_lets classes at h
  split at h
  · cases h
  · refine forall_of_mapM_ok h ?_
    rintro ⟨⟨storey, room⟩, i⟩ x hx
    dsimp only at hx
    split at hx
    · rename_i sheet hfound
      cases hx
      have hclass := List.find?_some hfound
      rw [beq_iff_eq] at hclass
      refine ⟨sheet, List.mem_of_find?_eq_some hfound, ?_, ?_⟩ <;>
        simp [sampleOf, withFields, ValueSet.get?_set, Field.shown, sheetSystem, spaceSystem, hclass]
    · cases hx

theorem MakesRooms.hasSheet (h : s.MakesRooms rooms) :
    ∀ x ∈ rooms, ∃ sheet ∈ s.inputs.content.areaDataSheets, HasSheet x sheet := by
  obtain ⟨lower, upper, hlower, hupper, hzoned⟩ := h
  intro x hx
  obtain ⟨made, hmade, hshows⟩ := exists_of_mem_left (shows_zoned hzoned) hx
  obtain ⟨sheet, hsheet, hhas⟩ := (List.mem_append.mp hmade).elim
    (hasSheet_roomSamples hlower made) (hasSheet_roomSamples hupper made)
  exact ⟨sheet, hsheet, (hshows.classifications _).trans hhas.code,
    (hshows.classifications _).trans hhas.spaceClass⟩

/-- A space that is still meant to pass has a sheet and its class. -/
theorem SpatialParts.exists_sheet {targets : List Nat} {broken : List Sample}
    (h : s.SpatialParts m rooms targets broken) {x : Sample} (hx : x ∈ m.samples)
    (hentity : x.entity = "IfcSpace") (hconforming : x.conforming = true) :
    ∃ sheet ∈ s.inputs.content.areaDataSheets, HasSheet x sheet := by
  obtain ⟨made, hmade, hshows⟩ := h.exists_of_conforming hx hconforming
  obtain ⟨sheet, hsheet, hhas⟩ :=
    h.made.hasSheet made ((h.mem_of_entity hmade).2 (hshows.entity ▸ hentity))
  exact ⟨sheet, hsheet, (hshows.classifications _).trans hhas.code,
    (hshows.classifications _).trans hhas.spaceClass⟩

/-- **Rooms follow the area data sheets.** If no two sheets of a table have the same code, they are
parted by their classes. And when all rules of stage 3 can be compiled from such a table and the
spatial model be made with them, each space that is still meant to pass has a code in the list of
just one rule of section 05.15, and the class that this rule demands. -/
theorem rooms_follow_sheets :
    (∀ c : Content, c.areaDataSheetCodes.Nodup → c.PartitionsSheets c.sheetsByClass) ∧
    ∀ (i : Inputs) (date : Date) (rules : CompiledRules) (m : SampleModel),
      i.content.areaDataSheetCodes.Nodup → i.allRules date .stage3 = .ok rules →
      (SampleSources.mk i rules.index).spatialModel = .ok m →
      ∀ x ∈ m.samples, x.entity = "IfcSpace" → x.conforming = true →
        ∃ code spaceClass rule, x.values.get? (.classification sheetSystem) = some code ∧
          x.values.get? (.classification spaceSystem) = some spaceClass ∧
          (rules.specifications.filter fun spec => isBelow "05_15" spec.identifier &&
            spec.sheetCodes.contains code) = [rule] ∧ rule.DemandsClass spaceClass := by
  refine ⟨fun c => Content.partitions_sheetsByClass, ?_⟩
  intro i date rules m hnodup hrules hmodel x hx hentity hconforming
  obtain ⟨rooms, targets, broken, hparts⟩ := parts_of_spatialModel hmodel
  obtain ⟨sheet, hsheet, hhas⟩ := hparts.exists_sheet hx hentity hconforming
  obtain ⟨rule, hone, hdemands⟩ := Inputs.exists_sheetRule hrules hnodup hsheet
  exact ⟨sheet.code, sheet.spaceClass, rule, hhas.code, hhas.spaceClass, hone, hdemands⟩

/-- The three sheets are parted by their classes, and the second room on the ground floor of a house
has the class that the one rule about its sheet demands. -/
theorem rooms_of_floors_follow_sheets :
    Content.ofSheets.PartitionsSheets Content.ofSheets.sheetsByClass ∧
    ∃ rules m, (ofFloors .empty).inputs.allRules default .stage3 = .ok rules ∧
      (ofFloors rules.index).spatialModel = .ok m ∧
      ∃ x ∈ m.samples, x.IsRoom ("Level 00", "01") ∧
        ∃ code spaceClass rule, x.values.get? (.classification sheetSystem) = some code ∧
          x.values.get? (.classification spaceSystem) = some spaceClass ∧
          (rules.specifications.filter fun spec => isBelow "05_15" spec.identifier &&
            spec.sheetCodes.contains code) = [rule] ∧ rule.DemandsClass spaceClass := by
  obtain ⟨hparted, hrooms⟩ := rooms_follow_sheets
  obtain ⟨rules, hrules, hspatial⟩ := exists_ok_of_any spatial_of_floors
  obtain ⟨m, hmodel, -⟩ := exists_ok_of_any hspatial
  obtain ⟨_, _, _, hparts⟩ := parts_of_spatialModel hmodel
  obtain ⟨x, hx, hroom⟩ := hparts.exists_room (roomPlaces_floors rules.index).1 (by decide)
  exact ⟨hparted _ (by decide), rules, m, hrules, hmodel, x, hx, hroom,
    hrooms (ofFloors .empty).inputs default rules m (by decide) hrules hmodel x hx hroom.entity
      hroom.conforming⟩

end SampleSources

end Eir
