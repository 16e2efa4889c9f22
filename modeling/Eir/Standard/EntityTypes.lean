import Eir.Schema.Catalog

/-!
# The standard entity types

The table of the entity types that the rulebook and the samples know. Types from
IFC4 on name the IFC2X3 type that stands in for their occurrences.
-/

namespace Eir.Standard

/-- A row for a concrete type of all dialects. -/
def concreteRow (name parent domain : String) : CatalogRow :=
  ⟨name, some parent, false, some domain, Dialect.all, [], none⟩

/-- A row for a type that has no objects of its own. -/
def abstractRow (name parent domain : String) : CatalogRow :=
  ⟨name, some parent, true, some domain, Dialect.all, [], none⟩

/-- The types that the others are kinds of. -/
def kernelRows : List CatalogRow := [
  ⟨"IfcRoot", none, true, some "Kernel", Dialect.all, [], none⟩,
  abstractRow "IfcObjectDefinition" "IfcRoot" "Kernel",
  abstractRow "IfcObject" "IfcObjectDefinition" "Kernel",
  concreteRow "IfcProject" "IfcObject" "Kernel",
  abstractRow "IfcProduct" "IfcObject" "Kernel",
  concreteRow "IfcGroup" "IfcObject" "Kernel",
  concreteRow "IfcZone" "IfcGroup" "ProductExtension",
  concreteRow "IfcSystem" "IfcGroup" "ProductExtension",
  ⟨"IfcElectricalCircuit", some "IfcSystem", false, some "ElectricalDomain", [.ifc2x3], [], none⟩,
  ⟨"IfcDistributionSystem", some "IfcSystem", false, some "SharedBldgServiceElements", [.ifc4, .ifc4x3],
    ["AIRCONDITIONING", "DOMESTICCOLDWATER", "DOMESTICHOTWATER", "DRAINAGE", "ELECTRICAL",
     "FIREPROTECTION", "HEATING", "LIGHTING", "VENTILATION", "USERDEFINED", "NOTDEFINED"], none⟩]

/-- The types of the parts of a site. -/
def spatialRows : List CatalogRow := [
  abstractRow "IfcSpatialStructureElement" "IfcProduct" "ProductExtension",
  concreteRow "IfcSite" "IfcSpatialStructureElement" "ProductExtension",
  concreteRow "IfcBuilding" "IfcSpatialStructureElement" "ProductExtension",
  concreteRow "IfcBuildingStorey" "IfcSpatialStructureElement" "ProductExtension",
  ⟨"IfcSpace", some "IfcSpatialStructureElement", false, some "ProductExtension", Dialect.all,
    ["USERDEFINED", "NOTDEFINED"], none⟩]

/-- The types of the objects in a building. -/
def occurrenceRows : List CatalogRow := [
  abstractRow "IfcElement" "IfcProduct" "ProductExtension",
  abstractRow "IfcBuildingElement" "IfcElement" "ProductExtension",
  concreteRow "IfcBeam" "IfcBuildingElement" "SharedBldgElements",
  concreteRow "IfcColumn" "IfcBuildingElement" "SharedBldgElements",
  concreteRow "IfcCovering" "IfcBuildingElement" "SharedBldgElements",
  concreteRow "IfcDoor" "IfcBuildingElement" "SharedBldgElements",
  concreteRow "IfcMember" "IfcBuildingElement" "SharedBldgElements",
  concreteRow "IfcPlate" "IfcBuildingElement" "SharedBldgElements",
  concreteRow "IfcRailing" "IfcBuildingElement" "SharedBldgElements",
  concreteRow "IfcSlab" "IfcBuildingElement" "SharedBldgElements",
  concreteRow "IfcStairFlight" "IfcBuildingElement" "SharedBldgElements",
  concreteRow "IfcWall" "IfcBuildingElement" "SharedBldgElements",
  concreteRow "IfcWindow" "IfcBuildingElement" "SharedBldgElements",
  concreteRow "IfcBuildingElementProxy" "IfcBuildingElement" "ProductExtension",
  ⟨"IfcShadingDevice", some "IfcBuildingElement", false, some "SharedBldgElements", [.ifc4, .ifc4x3],
    ["JALOUSIE", "SHUTTER", "AWNING", "USERDEFINED", "NOTDEFINED"], some "IfcBuildingElementProxy"⟩,
  concreteRow "IfcFurnishingElement" "IfcElement" "ProductExtension",
  ⟨"IfcFurniture", some "IfcFurnishingElement", false, some "SharedFacilitiesElements", [.ifc4, .ifc4x3], [], some "IfcFurnishingElement"⟩,
  ⟨"IfcSystemFurnitureElement", some "IfcFurnishingElement", false, some "SharedFacilitiesElements", [.ifc4, .ifc4x3], [], some "IfcFurnishingElement"⟩,
  concreteRow "IfcTransportElement" "IfcElement" "ProductExtension",
  abstractRow "IfcElementComponent" "IfcElement" "SharedComponentElements",
  concreteRow "IfcDiscreteAccessory" "IfcElementComponent" "SharedComponentElements",
  concreteRow "IfcMechanicalFastener" "IfcElementComponent" "SharedComponentElements",
  ⟨"IfcVibrationIsolator", some "IfcElementComponent", false, some "HvacDomain", [.ifc4, .ifc4x3], [], some "IfcDiscreteAccessory"⟩,
  abstractRow "IfcReinforcingElement" "IfcElementComponent" "StructuralElementsDomain",
  concreteRow "IfcTendon" "IfcReinforcingElement" "StructuralElementsDomain",
  concreteRow "IfcDistributionElement" "IfcElement" "ProductExtension",
  concreteRow "IfcDistributionControlElement" "IfcDistributionElement" "SharedBldgServiceElements",
  ⟨"IfcActuator", some "IfcDistributionControlElement", false, some "BuildingControlsDomain", [.ifc4, .ifc4x3], [], some "IfcDistributionControlElement"⟩,
  ⟨"IfcAlarm", some "IfcDistributionControlElement", false, some "BuildingControlsDomain", [.ifc4, .ifc4x3], [], some "IfcDistributionControlElement"⟩,
  ⟨"IfcController", some "IfcDistributionControlElement", false, some "BuildingControlsDomain", [.ifc4, .ifc4x3], [], some "IfcDistributionControlElement"⟩,
  ⟨"IfcFlowInstrument", some "IfcDistributionControlElement", false, some "BuildingControlsDomain", [.ifc4, .ifc4x3], [], some "IfcDistributionControlElement"⟩,
  ⟨"IfcSensor", some "IfcDistributionControlElement", false, some "BuildingControlsDomain", [.ifc4, .ifc4x3], [], some "IfcDistributionControlElement"⟩,
  concreteRow "IfcDistributionFlowElement" "IfcDistributionElement" "SharedBldgServiceElements",
  concreteRow "IfcDistributionChamberElement" "IfcDistributionFlowElement" "SharedBldgServiceElements",
  concreteRow "IfcEnergyConversionDevice" "IfcDistributionFlowElement" "SharedBldgServiceElements",
  ⟨"IfcAirToAirHeatRecovery", some "IfcEnergyConversionDevice", false, some "HvacDomain", [.ifc4, .ifc4x3], [], some "IfcEnergyConversionDevice"⟩,
  ⟨"IfcBoiler", some "IfcEnergyConversionDevice", false, some "HvacDomain", [.ifc4, .ifc4x3], [], some "IfcEnergyConversionDevice"⟩,
  ⟨"IfcChiller", some "IfcEnergyConversionDevice", false, some "HvacDomain", [.ifc4, .ifc4x3], [], some "IfcEnergyConversionDevice"⟩,
  ⟨"IfcCoil", some "IfcEnergyConversionDevice", false, some "HvacDomain", [.ifc4, .ifc4x3], [], some "IfcEnergyConversionDevice"⟩,
  ⟨"IfcCoolingTower", some "IfcEnergyConversionDevice", false, some "HvacDomain", [.ifc4, .ifc4x3], [], some "IfcEnergyConversionDevice"⟩,
  ⟨"IfcHeatExchanger", some "IfcEnergyConversionDevice", false, some "HvacDomain", [.ifc4, .ifc4x3], [], some "IfcEnergyConversionDevice"⟩,
  ⟨"IfcSpaceHeater", some "IfcEnergyConversionDevice", false, some "HvacDomain", [.ifc4, .ifc4x3], [], some "IfcEnergyConversionDevice"⟩,
  ⟨"IfcUnitaryEquipment", some "IfcEnergyConversionDevice", false, some "HvacDomain", [.ifc4, .ifc4x3], [], some "IfcEnergyConversionDevice"⟩,
  ⟨"IfcElectricGenerator", some "IfcEnergyConversionDevice", false, some "ElectricalDomain", [.ifc4, .ifc4x3], [], some "IfcEnergyConversionDevice"⟩,
  ⟨"IfcElectricMotor", some "IfcEnergyConversionDevice", false, some "ElectricalDomain", [.ifc4, .ifc4x3], [], some "IfcEnergyConversionDevice"⟩,
  ⟨"IfcTransformer", some "IfcEnergyConversionDevice", false, some "ElectricalDomain", [.ifc4, .ifc4x3], [], some "IfcEnergyConversionDevice"⟩,
  concreteRow "IfcFlowController" "IfcDistributionFlowElement" "SharedBldgServiceElements",
  ⟨"IfcDamper", some "IfcFlowController", false, some "HvacDomain", [.ifc4, .ifc4x3], [], some "IfcFlowController"⟩,
  ⟨"IfcValve", some "IfcFlowController", false, some "HvacDomain", [.ifc4, .ifc4x3], [], some "IfcFlowController"⟩,
  ⟨"IfcFlowMeter", some "IfcFlowController", false, some "HvacDomain", [.ifc4, .ifc4x3], [], some "IfcFlowController"⟩,
  ⟨"IfcElectricTimeControl", some "IfcFlowController", false, some "ElectricalDomain", [.ifc4, .ifc4x3], [], some "IfcFlowController"⟩,
  ⟨"IfcProtectiveDevice", some "IfcFlowController", false, some "ElectricalDomain", [.ifc4, .ifc4x3], [], some "IfcFlowController"⟩,
  ⟨"IfcSwitchingDevice", some "IfcFlowController", false, some "ElectricalDomain", [.ifc4, .ifc4x3], [], some "IfcFlowController"⟩,
  concreteRow "IfcFlowMovingDevice" "IfcDistributionFlowElement" "SharedBldgServiceElements",
  ⟨"IfcCompressor", some "IfcFlowMovingDevice", false, some "HvacDomain", [.ifc4, .ifc4x3], [], some "IfcFlowMovingDevice"⟩,
  ⟨"IfcFan", some "IfcFlowMovingDevice", false, some "HvacDomain", [.ifc4, .ifc4x3], [], some "IfcFlowMovingDevice"⟩,
  ⟨"IfcPump", some "IfcFlowMovingDevice", false, some "HvacDomain", [.ifc4, .ifc4x3], [], some "IfcFlowMovingDevice"⟩,
  concreteRow "IfcFlowStorageDevice" "IfcDistributionFlowElement" "SharedBldgServiceElements",
  ⟨"IfcTank", some "IfcFlowStorageDevice", false, some "HvacDomain", [.ifc4, .ifc4x3], [], some "IfcFlowStorageDevice"⟩,
  ⟨"IfcElectricFlowStorageDevice", some "IfcFlowStorageDevice", false, some "ElectricalDomain", [.ifc4, .ifc4x3], [], some "IfcFlowStorageDevice"⟩,
  concreteRow "IfcFlowTerminal" "IfcDistributionFlowElement" "SharedBldgServiceElements",
  ⟨"IfcAirTerminal", some "IfcFlowTerminal", false, some "HvacDomain", [.ifc4, .ifc4x3], [], some "IfcFlowTerminal"⟩,
  ⟨"IfcElectricAppliance", some "IfcFlowTerminal", false, some "ElectricalDomain", [.ifc4, .ifc4x3], [], some "IfcFlowTerminal"⟩,
  ⟨"IfcLightFixture", some "IfcFlowTerminal", false, some "ElectricalDomain", [.ifc4, .ifc4x3], [], some "IfcFlowTerminal"⟩,
  ⟨"IfcOutlet", some "IfcFlowTerminal", false, some "ElectricalDomain", [.ifc4, .ifc4x3], [], some "IfcFlowTerminal"⟩,
  ⟨"IfcFireSuppressionTerminal", some "IfcFlowTerminal", false, some "PlumbingFireProtectionDomain", [.ifc4, .ifc4x3], [], some "IfcFlowTerminal"⟩,
  ⟨"IfcSanitaryTerminal", some "IfcFlowTerminal", false, some "PlumbingFireProtectionDomain", [.ifc4, .ifc4x3], [], some "IfcFlowTerminal"⟩,
  ⟨"IfcStackTerminal", some "IfcFlowTerminal", false, some "PlumbingFireProtectionDomain", [.ifc4, .ifc4x3], [], some "IfcFlowTerminal"⟩,
  ⟨"IfcWasteTerminal", some "IfcFlowTerminal", false, some "PlumbingFireProtectionDomain", [.ifc4, .ifc4x3], [], some "IfcFlowTerminal"⟩,
  concreteRow "IfcFlowTreatmentDevice" "IfcDistributionFlowElement" "SharedBldgServiceElements",
  ⟨"IfcFilter", some "IfcFlowTreatmentDevice", false, some "HvacDomain", [.ifc4, .ifc4x3], [], some "IfcFlowTreatmentDevice"⟩]

/-- The types of type objects. -/
def typeObjectRows : List CatalogRow := [
  concreteRow "IfcTypeObject" "IfcObjectDefinition" "Kernel",
  concreteRow "IfcTypeProduct" "IfcTypeObject" "Kernel",
  ⟨"IfcDoorStyle", some "IfcTypeProduct", false, some "SharedBldgElements", [.ifc2x3], [], none⟩,
  ⟨"IfcWindowStyle", some "IfcTypeProduct", false, some "SharedBldgElements", [.ifc2x3], [], none⟩,
  abstractRow "IfcElementType" "IfcTypeProduct" "ProductExtension",
  abstractRow "IfcSpatialStructureElementType" "IfcElementType" "ProductExtension",
  ⟨"IfcSpaceType", some "IfcSpatialStructureElementType", false, some "ProductExtension", Dialect.all,
    ["USERDEFINED", "NOTDEFINED"], none⟩,
  ⟨"IfcCivilElementType", some "IfcElementType", false, some "ProductExtension", [.ifc4, .ifc4x3], [], none⟩,
  abstractRow "IfcBuildingElementType" "IfcElementType" "ProductExtension",
  ⟨"IfcBeamType", some "IfcBuildingElementType", false, some "SharedBldgElements", Dialect.all,
    ["BEAM", "JOIST", "LINTEL", "T_BEAM", "USERDEFINED", "NOTDEFINED"], none⟩,
  ⟨"IfcColumnType", some "IfcBuildingElementType", false, some "SharedBldgElements", Dialect.all,
    ["COLUMN", "USERDEFINED", "NOTDEFINED"], none⟩,
  ⟨"IfcCoveringType", some "IfcBuildingElementType", false, some "SharedBldgElements", Dialect.all,
    ["CEILING", "FLOORING", "CLADDING", "ROOFING", "INSULATION", "MEMBRANE", "SLEEVING",
     "WRAPPING", "USERDEFINED", "NOTDEFINED"], none⟩,
  ⟨"IfcMemberType", some "IfcBuildingElementType", false, some "SharedBldgElements", Dialect.all,
    ["BRACE", "CHORD", "COLLAR", "MEMBER", "MULLION", "PLATE", "POST", "PURLIN", "RAFTER",
     "STRINGER", "STRUT", "STUD", "USERDEFINED", "NOTDEFINED"], none⟩,
  ⟨"IfcPlateType", some "IfcBuildingElementType", false, some "SharedBldgElements", Dialect.all,
    ["CURTAIN_PANEL", "SHEET", "USERDEFINED", "NOTDEFINED"], none⟩,
  ⟨"IfcRailingType", some "IfcBuildingElementType", false, some "SharedBldgElements", Dialect.all,
    ["HANDRAIL", "GUARDRAIL", "BALUSTRADE", "USERDEFINED", "NOTDEFINED"], none⟩,
  ⟨"IfcSlabType", some "IfcBuildingElementType", false, some "SharedBldgElements", Dialect.all,
    ["FLOOR", "ROOF", "LANDING", "BASESLAB", "USERDEFINED", "NOTDEFINED"], none⟩,
  ⟨"IfcStairFlightType", some "IfcBuildingElementType", false, some "SharedBldgElements", Dialect.all,
    ["STRAIGHT", "WINDER", "SPIRAL", "CURVED", "FREEFORM", "USERDEFINED", "NOTDEFINED"], none⟩,
  ⟨"IfcWallType", some "IfcBuildingElementType", false, some "SharedBldgElements", Dialect.all,
    ["STANDARD", "POLYGONAL", "SHEAR", "ELEMENTEDWALL", "PLUMBINGWALL", "USERDEFINED",
     "NOTDEFINED"], none⟩,
  ⟨"IfcBuildingElementProxyType", some "IfcBuildingElementType", false, some "ProductExtension", Dialect.all,
    ["USERDEFINED", "NOTDEFINED"], none⟩,
  ⟨"IfcDoorType", some "IfcBuildingElementType", false, some "SharedBldgElements", [.ifc4, .ifc4x3],
    ["DOOR", "GATE", "TRAPDOOR", "USERDEFINED", "NOTDEFINED"], none⟩,
  ⟨"IfcWindowType", some "IfcBuildingElementType", false, some "SharedBldgElements", [.ifc4, .ifc4x3],
    ["WINDOW", "SKYLIGHT", "LIGHTDOME", "USERDEFINED", "NOTDEFINED"], none⟩,
  ⟨"IfcShadingDeviceType", some "IfcBuildingElementType", false, some "SharedBldgElements", [.ifc4, .ifc4x3],
    ["JALOUSIE", "SHUTTER", "AWNING", "USERDEFINED", "NOTDEFINED"], none⟩,
  concreteRow "IfcFurnishingElementType" "IfcElementType" "ProductExtension",
  concreteRow "IfcFurnitureType" "IfcFurnishingElementType" "SharedFacilitiesElements",
  concreteRow "IfcSystemFurnitureElementType" "IfcFurnishingElementType" "SharedFacilitiesElements",
  ⟨"IfcTransportElementType", some "IfcElementType", false, some "ProductExtension", Dialect.all,
    ["ELEVATOR", "ESCALATOR", "MOVINGWALKWAY", "USERDEFINED", "NOTDEFINED"], none⟩,
  abstractRow "IfcElementComponentType" "IfcElementType" "SharedComponentElements",
  concreteRow "IfcDiscreteAccessoryType" "IfcElementComponentType" "SharedComponentElements",
  ⟨"IfcVibrationIsolatorType", some "IfcDiscreteAccessoryType", false, some "HvacDomain", Dialect.all,
    ["COMPRESSION", "SPRING", "USERDEFINED", "NOTDEFINED"], none⟩,
  concreteRow "IfcMechanicalFastenerType" "IfcElementComponentType" "SharedComponentElements",
  concreteRow "IfcDistributionElementType" "IfcElementType" "ProductExtension",
  abstractRow "IfcDistributionControlElementType" "IfcDistributionElementType" "SharedBldgServiceElements",
  ⟨"IfcActuatorType", some "IfcDistributionControlElementType", false, some "BuildingControlsDomain", Dialect.all,
    ["ELECTRICACTUATOR", "HANDOPERATEDACTUATOR", "HYDRAULICACTUATOR", "PNEUMATICACTUATOR",
     "THERMOSTATICACTUATOR", "USERDEFINED", "NOTDEFINED"], none⟩,
  ⟨"IfcAlarmType", some "IfcDistributionControlElementType", false, some "BuildingControlsDomain", Dialect.all,
    ["BELL", "BREAKGLASSBUTTON", "LIGHT", "MANUALPULLBOX", "SIREN", "WHISTLE", "USERDEFINED",
     "NOTDEFINED"], none⟩,
  ⟨"IfcControllerType", some "IfcDistributionControlElementType", false, some "BuildingControlsDomain", Dialect.all,
    ["FLOATING", "PROPORTIONAL", "PROPORTIONALINTEGRAL", "PROPORTIONALINTEGRALDERIVATIVE",
     "TIMEDTWOPOSITION", "TWOPOSITION", "USERDEFINED", "NOTDEFINED"], none⟩,
  ⟨"IfcFlowInstrumentType", some "IfcDistributionControlElementType", false, some "BuildingControlsDomain", Dialect.all,
    ["PRESSUREGAUGE", "THERMOMETER", "AMMETER", "FREQUENCYMETER", "POWERFACTORMETER",
     "PHASEANGLEMETER", "VOLTMETER_PEAK", "VOLTMETER_RMS", "USERDEFINED", "NOTDEFINED"], none⟩,
  ⟨"IfcSensorType", some "IfcDistributionControlElementType", false, some "BuildingControlsDomain", Dialect.all,
    ["CO2SENSOR", "FIRESENSOR", "FLOWSENSOR", "GASSENSOR", "HEATSENSOR", "HUMIDITYSENSOR",
     "LIGHTSENSOR", "MOISTURESENSOR", "MOVEMENTSENSOR", "PRESSURESENSOR", "SMOKESENSOR",
     "SOUNDSENSOR", "TEMPERATURESENSOR", "USERDEFINED", "NOTDEFINED"], none⟩,
  abstractRow "IfcDistributionFlowElementType" "IfcDistributionElementType" "SharedBldgServiceElements",
  ⟨"IfcDistributionChamberElementType", some "IfcDistributionFlowElementType", false, some "SharedBldgServiceElements", Dialect.all,
    ["FORMEDDUCT", "INSPECTIONCHAMBER", "INSPECTIONPIT", "MANHOLE", "METERCHAMBER", "SUMP",
     "TRENCH", "VALVECHAMBER", "USERDEFINED", "NOTDEFINED"], none⟩,
  abstractRow "IfcEnergyConversionDeviceType" "IfcDistributionFlowElementType" "SharedBldgServiceElements",
  ⟨"IfcAirToAirHeatRecoveryType", some "IfcEnergyConversionDeviceType", false, some "HvacDomain", Dialect.all,
    ["FIXEDPLATECOUNTERFLOWEXCHANGER", "FIXEDPLATECROSSFLOWEXCHANGER",
     "FIXEDPLATEPARALLELFLOWEXCHANGER", "ROTARYWHEEL", "RUNAROUNDCOILLOOP", "HEATPIPE",
     "TWINTOWERENTHALPYRECOVERYLOOPS", "THERMOSIPHONSEALEDTUBEHEATEXCHANGERS",
     "THERMOSIPHONCOILTYPEHEATEXCHANGERS", "USERDEFINED", "NOTDEFINED"], none⟩,
  ⟨"IfcBoilerType", some "IfcEnergyConversionDeviceType", false, some "HvacDomain", Dialect.all,
    ["WATER", "STEAM", "USERDEFINED", "NOTDEFINED"], none⟩,
  ⟨"IfcChillerType", some "IfcEnergyConversionDeviceType", false, some "HvacDomain", Dialect.all,
    ["AIRCOOLED", "WATERCOOLED", "HEATRECOVERY", "USERDEFINED", "NOTDEFINED"], none⟩,
  ⟨"IfcCoilType", some "IfcEnergyConversionDeviceType", false, some "HvacDomain", Dialect.all,
    ["DXCOOLINGCOIL", "WATERCOOLINGCOIL", "STEAMHEATINGCOIL", "WATERHEATINGCOIL",
     "ELECTRICHEATINGCOIL", "GASHEATINGCOIL", "USERDEFINED", "NOTDEFINED"], none⟩,
  ⟨"IfcCoolingTowerType", some "IfcEnergyConversionDeviceType", false, some "HvacDomain", Dialect.all,
    ["NATURALDRAFT", "MECHANICALINDUCEDDRAFT", "MECHANICALFORCEDDRAFT", "USERDEFINED",
     "NOTDEFINED"], none⟩,
  ⟨"IfcHeatExchangerType", some "IfcEnergyConversionDeviceType", false, some "HvacDomain", Dialect.all,
    ["PLATE", "SHELLANDTUBE", "USERDEFINED", "NOTDEFINED"], none⟩,
  ⟨"IfcSpaceHeaterType", some "IfcEnergyConversionDeviceType", false, some "HvacDomain", Dialect.all,
    ["SECTIONALRADIATOR", "PANELRADIATOR", "TUBULARRADIATOR", "CONVECTOR", "BASEBOARDHEATER",
     "FINNEDTUBEUNIT", "UNITHEATER", "USERDEFINED", "NOTDEFINED"], none⟩,
  ⟨"IfcUnitaryEquipmentType", some "IfcEnergyConversionDeviceType", false, some "HvacDomain", Dialect.all,
    ["AIRHANDLER", "AIRCONDITIONINGUNIT", "SPLITSYSTEM", "ROOFTOPUNIT", "USERDEFINED",
     "NOTDEFINED"], none⟩,
  ⟨"IfcElectricGeneratorType", some "IfcEnergyConversionDeviceType", false, some "ElectricalDomain", Dialect.all,
    ["USERDEFINED", "NOTDEFINED"], none⟩,
  ⟨"IfcElectricMotorType", some "IfcEnergyConversionDeviceType", false, some "ElectricalDomain", Dialect.all,
    ["DC", "INDUCTION", "POLYPHASE", "RELUCTANCESYNCHRONOUS", "SYNCHRONOUS", "USERDEFINED",
     "NOTDEFINED"], none⟩,
  ⟨"IfcTransformerType", some "IfcEnergyConversionDeviceType", false, some "ElectricalDomain", Dialect.all,
    ["CURRENT", "FREQUENCY", "VOLTAGE", "USERDEFINED", "NOTDEFINED"], none⟩,
  abstractRow "IfcFlowControllerType" "IfcDistributionFlowElementType" "SharedBldgServiceElements",
  ⟨"IfcDamperType", some "IfcFlowControllerType", false, some "HvacDomain", Dialect.all,
    ["CONTROLDAMPER", "FIREDAMPER", "SMOKEDAMPER", "FIRESMOKEDAMPER", "BACKDRAFTDAMPER",
     "RELIEFDAMPER", "BLASTDAMPER", "GRAVITYDAMPER", "GRAVITYRELIEFDAMPER", "BALANCINGDAMPER",
     "FUMEHOODEXHAUST", "USERDEFINED", "NOTDEFINED"], none⟩,
  ⟨"IfcValveType", some "IfcFlowControllerType", false, some "HvacDomain", Dialect.all,
    ["AIRRELEASE", "ANTIVACUUM", "CHANGEOVER", "CHECK", "COMMISSIONING", "DIVERTING",
     "DRAWOFFCOCK", "DOUBLECHECK", "DOUBLEREGULATING", "FAUCET", "FLUSHING", "GASCOCK", "GASTAP",
     "ISOLATING", "MIXING", "PRESSUREREDUCING", "PRESSURERELIEF", "REGULATING", "SAFETYCUTOFF",
     "STEAMTRAP", "STOPCOCK", "USERDEFINED", "NOTDEFINED"], none⟩,
  ⟨"IfcFlowMeterType", some "IfcFlowControllerType", false, some "HvacDomain", Dialect.all,
    ["ELECTRICMETER", "ENERGYMETER", "FLOWMETER", "GASMETER", "OILMETER", "WATERMETER",
     "USERDEFINED", "NOTDEFINED"], none⟩,
  ⟨"IfcElectricTimeControlType", some "IfcFlowControllerType", false, some "ElectricalDomain", Dialect.all,
    ["TIMECLOCK", "TIMEDELAY", "RELAY", "USERDEFINED", "NOTDEFINED"], none⟩,
  ⟨"IfcProtectiveDeviceType", some "IfcFlowControllerType", false, some "ElectricalDomain", Dialect.all,
    ["FUSEDISCONNECTOR", "CIRCUITBREAKER", "EARTHFAILUREDEVICE", "RESIDUALCURRENTCIRCUITBREAKER",
     "RESIDUALCURRENTSWITCH", "VARISTOR", "USERDEFINED", "NOTDEFINED"], none⟩,
  ⟨"IfcSwitchingDeviceType", some "IfcFlowControllerType", false, some "ElectricalDomain", Dialect.all,
    ["CONTACTOR", "EMERGENCYSTOP", "STARTER", "SWITCHDISCONNECTOR", "TOGGLESWITCH", "USERDEFINED",
     "NOTDEFINED"], none⟩,
  abstractRow "IfcFlowMovingDeviceType" "IfcDistributionFlowElementType" "SharedBldgServiceElements",
  ⟨"IfcCompressorType", some "IfcFlowMovingDeviceType", false, some "HvacDomain", Dialect.all,
    ["DYNAMIC", "RECIPROCATING", "ROTARY", "SCROLL", "TROCHOIDAL", "SINGLESTAGE", "BOOSTER",
     "OPENTYPE", "HERMETIC", "SEMIHERMETIC", "WELDEDSHELLHERMETIC", "ROLLINGPISTON", "ROTARYVANE",
     "SINGLESCREW", "TWINSCREW", "USERDEFINED", "NOTDEFINED"], none⟩,
  ⟨"IfcFanType", some "IfcFlowMovingDeviceType", false, some "HvacDomain", Dialect.all,
    ["CENTRIFUGALFORWARDCURVED", "CENTRIFUGALRADIAL", "CENTRIFUGALBACKWARDINCLINEDCURVED",
     "CENTRIFUGALAIRFOIL", "TUBEAXIAL", "VANEAXIAL", "PROPELLORAXIAL", "USERDEFINED", "NOTDEFINED"], none⟩,
  ⟨"IfcPumpType", some "IfcFlowMovingDeviceType", false, some "HvacDomain", Dialect.all,
    ["CIRCULATOR", "ENDSUCTION", "SPLITCASE", "VERTICALINLINE", "VERTICALTURBINE", "USERDEFINED",
     "NOTDEFINED"], none⟩,
  abstractRow "IfcFlowStorageDeviceType" "IfcDistributionFlowElementType" "SharedBldgServiceElements",
  ⟨"IfcTankType", some "IfcFlowStorageDeviceType", false, some "HvacDomain", Dialect.all,
    ["PREFORMED", "SECTIONAL", "EXPANSION", "PRESSUREVESSEL", "USERDEFINED", "NOTDEFINED"], none⟩,
  ⟨"IfcElectricFlowStorageDeviceType", some "IfcFlowStorageDeviceType", false, some "ElectricalDomain", Dialect.all,
    ["BATTERY", "CAPACITORBANK", "HARMONICFILTER", "INDUCTORBANK", "UPS", "USERDEFINED",
     "NOTDEFINED"], none⟩,
  abstractRow "IfcFlowTerminalType" "IfcDistributionFlowElementType" "SharedBldgServiceElements",
  ⟨"IfcAirTerminalType", some "IfcFlowTerminalType", false, some "HvacDomain", Dialect.all,
    ["GRILLE", "REGISTER", "DIFFUSER", "EYEBALL", "IRIS", "LINEARGRILLE", "LINEARDIFFUSER",
     "USERDEFINED", "NOTDEFINED"], none⟩,
  ⟨"IfcElectricApplianceType", some "IfcFlowTerminalType", false, some "ElectricalDomain", Dialect.all,
    ["COMPUTER", "DIRECTWATERHEATER", "DISHWASHER", "ELECTRICCOOKER", "ELECTRICHEATER",
     "FACSIMILE", "FREESTANDINGFAN", "FREEZER", "FRIDGE_FREEZER", "HANDDRYER",
     "INDIRECTWATERHEATER", "MICROWAVE", "PHOTOCOPIER", "PRINTER", "REFRIGERATOR",
     "RADIANTHEATER", "SCANNER", "TELEPHONE", "TUMBLEDRYER", "TV", "VENDINGMACHINE",
     "WASHINGMACHINE", "WATERHEATER", "WATERCOOLER", "USERDEFINED", "NOTDEFINED"], none⟩,
  ⟨"IfcElectricHeaterType", some "IfcFlowTerminalType", false, some "ElectricalDomain", [.ifc2x3],
    ["ELECTRICPOINTHEATER", "ELECTRICCABLEHEATER", "ELECTRICMATHEATER", "USERDEFINED",
     "NOTDEFINED"], none⟩,
  ⟨"IfcGasTerminalType", some "IfcFlowTerminalType", false, some "HvacDomain", [.ifc2x3],
    ["GASAPPLIANCE", "GASBOOSTER", "GASBURNER", "USERDEFINED", "NOTDEFINED"], none⟩,
  ⟨"IfcLightFixtureType", some "IfcFlowTerminalType", false, some "ElectricalDomain", Dialect.all,
    ["POINTSOURCE", "DIRECTIONSOURCE", "USERDEFINED", "NOTDEFINED"], none⟩,
  ⟨"IfcOutletType", some "IfcFlowTerminalType", false, some "ElectricalDomain", Dialect.all,
    ["AUDIOVISUALOUTLET", "COMMUNICATIONSOUTLET", "POWEROUTLET", "USERDEFINED", "NOTDEFINED"], none⟩,
  ⟨"IfcFireSuppressionTerminalType", some "IfcFlowTerminalType", false, some "PlumbingFireProtectionDomain", Dialect.all,
    ["BREECHINGINLET", "FIREHYDRANT", "HOSEREEL", "SPRINKLER", "SPRINKLERDEFLECTOR",
     "USERDEFINED", "NOTDEFINED"], none⟩,
  ⟨"IfcSanitaryTerminalType", some "IfcFlowTerminalType", false, some "PlumbingFireProtectionDomain", Dialect.all,
    ["BATH", "BIDET", "CISTERN", "SHOWER", "SINK", "SANITARYFOUNTAIN", "TOILETPAN", "URINAL",
     "WASHHANDBASIN", "WCSEAT", "USERDEFINED", "NOTDEFINED"], none⟩,
  ⟨"IfcStackTerminalType", some "IfcFlowTerminalType", false, some "PlumbingFireProtectionDomain", Dialect.all,
    ["BIRDCAGE", "COWL", "RAINWATERHOPPER", "USERDEFINED", "NOTDEFINED"], none⟩,
  ⟨"IfcWasteTerminalType", some "IfcFlowTerminalType", false, some "PlumbingFireProtectionDomain", Dialect.all,
    ["FLOORTRAP", "FLOORWASTE", "GULLYSUMP", "GULLYTRAP", "GREASEINTERCEPTOR", "OILINTERCEPTOR",
     "PETROLINTERCEPTOR", "ROOFDRAIN", "WASTEDISPOSALUNIT", "WASTETRAP", "USERDEFINED",
     "NOTDEFINED"], none⟩,
  abstractRow "IfcFlowTreatmentDeviceType" "IfcDistributionFlowElementType" "SharedBldgServiceElements",
  ⟨"IfcFilterType", some "IfcFlowTreatmentDeviceType", false, some "HvacDomain", Dialect.all,
    ["AIRPARTICLEFILTER", "ODORFILTER", "OILFILTER", "STRAINER", "WATERFILTER", "USERDEFINED",
     "NOTDEFINED"], none⟩]

/-- The whole table. -/
def entityRows : List CatalogRow := kernelRows ++ spatialRows ++ occurrenceRows ++ typeObjectRows

/-- The catalog of the standard types. -/
def catalog : Except Fault Catalog := Catalog.ofRows entityRows

end Eir.Standard
