import Eir.Rulebook.Occurrences
import Eir.Rulebook.Spaces

/-!
# The sections

The whole rulebook as a program. Sections 01 to 06 are about a project and its
spaces, at every stage; sections 07 to 09 about its components, from stage 4 on.
-/

namespace Eir.Rulebook

/-- The sections that apply at every stage. -/
def spatialSections (b : Rulebook) : List (List Step) :=
  [b.projectSection, b.siteSection, b.buildingSection, b.storeySection, b.spaceSection,
    b.zoneSection]

/-- The sections that apply from stage 4 on. -/
def objectSections (b : Rulebook) : List (List Step) :=
  [b.typeSection, b.componentSection, b.systemSection]

/-- All rules. -/
def program (b : Rulebook) : List Step :=
  let numbered (sections : List (List Step)) := sections.map (Step.scope .sectional "")
  [.setStages .all, .setPasses .coreOnly] ++ numbered b.spatialSections ++
    .setStages (.starting .stage4) :: numbered b.objectSections

end Eir.Rulebook
