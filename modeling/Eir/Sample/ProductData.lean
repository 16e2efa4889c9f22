import Eir.Rulebook.Patterns
import Eir.Rulebook.Types
import Eir.Sample.Baseline
import Eir.Text.Digits

/-!
# Product data

The values of types and components that every rule about the data of products
accepts.
-/

namespace Eir.ProductData

/-- The sets of properties that the data stands in. -/
def assetSet : String := "COBie_Asset"
def makerSet : String := "Pset_ManufacturerTypeInformation"
def makerOccurrenceSet : String := "Pset_ManufacturerOccurrence"
def warrantySet : String := "COBie_Warranty"
def economicSet : String := "COBie_EconomicImpactValues"
def serviceLifeSet : String := "COBie_ServiceLife"
def makeSet : String := "COBie_Specification"
def componentSet : String := "COBie_Component"
def doorSet : String := "Pset_DoorCommon"

/-- The system under which products are classified. -/
def productSystem : String := "Uniclass Pr"

/-- The measures of a product. -/
def dimensions : List String := ["NominalLength", "NominalWidth", "NominalHeight"]

/-- The code of the products of a domain. -/
def productCode (domain : String) : String :=
  match domain.toLower with
  | "buildingcontrolsdomain" | "electricaldomain" => "Pr_75"
  | "hvacdomain" => "Pr_60_60"
  | "plumbingfireprotectiondomain" => "Pr_40"
  | "productextension" => "Pr_35"
  | "sharedbldgelements" => "Pr_20"
  | "sharedbldgserviceelements" => "Pr_60_65"
  | _ => "Pr_60"

/-- The class of a type of a domain, and no other data. -/
def plainType (domain : String) : Baseline :=
  .ofFields ("type (" ++ domain ++ ")") [(.classification productSystem, productCode domain)]

/-- All data of a type of a domain. -/
def productType (domain : String) : Baseline :=
  let contact (role : String) : String := role ++ "." ++ domain.toLower ++ "@example.com"
  .ofFields ("COBie type (" ++ domain ++ ")") ([
    (.classification productSystem, productCode domain),
    (.property assetSet "AssetType", "Fixed"),
    (.property makerSet "Manufacturer", contact "sales"),
    (.property makerSet "ModelReference", "Some Ref"),
    (.property warrantySet "WarrantyGuarantorParts", contact "service"),
    (.property warrantySet "WarrantyGuarantorLabor", contact "service"),
    (.property warrantySet "WarrantyDurationParts", "2"),
    (.property warrantySet "WarrantyDurationLabor", "2"),
    (.property warrantySet "WarrantyDescription", "n/a"),
    (.property economicSet "ReplacementCost", "n/a"),
    (.property serviceLifeSet "ExpectedLife", "n/a")] ++
    dimensions.map (fun d => (.property makeSet d, "100")) ++
    Rulebook.makeProperties.map fun p => (.property makeSet p, "n/a"))

/-- All data of the component with a serial number. -/
def component (sequence : Nat) : Baseline :=
  .ofFields "COBie component" [
    (.property componentSet "AssetIdentifier", "n/a"),
    (.property componentSet "TagNumber", "n/a"),
    (.property componentSet "InstallationDate", Rulebook.Patterns.defaultDate),
    (.property componentSet "WarrantyStartDate", Rulebook.Patterns.defaultDate),
    (.property makerOccurrenceSet "SerialNumber", Text.zeroPadded 7 sequence),
    (.property componentSet "BarCode", Text.zeroPadded 7 (sequence + 65000))]

end Eir.ProductData
