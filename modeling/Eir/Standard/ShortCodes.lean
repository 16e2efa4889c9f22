import Eir.Naming.Codes

/-!
# The standard short codes

The codes that stand for kinds of components, under the labels of the kinds.
-/

namespace Eir.Standard

/-- The codes under their labels. -/
def typeCodes : List (String × TypeCode) := [
  ("Actuator", .plain "ATR"),
  ("AirTerminal", .plain "AIR"),
  ("AirTerminalBox", .plain "ATB"),
  ("AirToAirHeatRecovery", .plain "ATA"),
  ("Alarm", .plain "ALR"),
  ("Boiler", .plain "BLR"),
  ("BuildingElementProxy", .plain "OTH"),
  ("Chiller", .plain "CHL"),
  ("Coil", .plain "COIL"),
  ("Compressor", .plain "CMP"),
  ("Condenser", .plain "CND"),
  ("Controller", .plain "CRL"),
  ("CooledBeam", .plain "CBM"),
  ("CoolingTower", .plain "CTR"),
  ("Damper", .plain "DMP"),
  ("DiscreteAccessory", .plain "DAC"),
  ("DistributionChamberElement", .plain "DCE"),
  ("Door", TypeCode.spatial (.plain "D")),
  ("ElectricAppliance", .plain "EAP"),
  ("ElectricDistributionPoint", .plain "EDP"),
  ("ElectricFlowStorageDevice", .plain "EFS"),
  ("ElectricGenerator", .plain "EGN"),
  ("ElectricHeater", .plain "EHT"),
  ("ElectricMotor", .plain "EMT"),
  ("ElectricTimeControl", .plain "ETC"),
  ("EvaporativeCooler", .plain "ECL"),
  ("Evaporator", .plain "EVP"),
  ("Fan", .plain "FAN"),
  ("Filter", .plain "FLT"),
  ("FireSuppressionTerminal", .plain "FST"),
  ("FlowInstrument", .plain "FIN"),
  ("FlowMeter", .plain "FMT"),
  ("Furniture", .plain "FRN"),
  ("FurnishingElement", .plain "FRN"),
  ("GasTerminal", .plain "GTM"),
  ("HeatExchanger", .plain "HEX"),
  ("Humidifier", .plain "HUM"),
  ("LightFixture", .plain "LFT"),
  ("MotorConnection", .plain "MCN"),
  ("Outlet", .plain "OUT"),
  ("ProtectiveDevice", .plain "PDV"),
  ("Pump", .plain "PMP"),
  ("SanitaryTerminal", .plain "SAN"),
  ("Sensor", .plain "SNS"),
  ("SpaceHeater", ⟨"SPH", .sequence, .ofList [("RADIATOR", "RAD"), ("PANELRADIATOR", "RAD"), ("SECTIONALRADIATOR", "RAD"), ("TUBULARRADIATOR", "RAD")]⟩),
  ("StackTerminal", .plain "STM"),
  ("SwitchingDevice", .plain "SWD"),
  ("SystemFurnitureElement", .plain "SFE"),
  ("Tank", .plain "TNK"),
  ("Transformer", .plain "TRF"),
  ("TransportElement", ⟨"TRE", .sequence, .ofList [("ELEVATOR", "ELE"), ("ESCALATOR", "ESC"), ("MOVINGWALKWAY", "MOV")]⟩),
  ("TubeBundle", .plain "TBN"),
  ("UnitaryEquipment", ⟨"UEQ", .sequence, .ofList [("AIRCONDITIONINGUNIT", "ACU"), ("AIRHANDLER", "AHU")]⟩),
  ("Valve", .plain "VLV"),
  ("VibrationIsolator", .plain "VIB"),
  ("WasteTerminal", .plain "WTM"),
  ("Window", TypeCode.spatial (.plain "W"))]

/-- The table of the standard codes. -/
def codeTable : CodeTable := ⟨.ofList typeCodes⟩

end Eir.Standard
