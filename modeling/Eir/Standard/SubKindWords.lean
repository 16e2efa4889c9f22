import Eir.Naming.SubKindNames

/-!
# The standard words of sub-kinds

The words in which predefined types stand in names.
-/

namespace Eir.Standard

/-- The words behind their sub-kinds. -/
def subKindRows : List (String × String) := [
  ("AIRCONDITIONING", "AirConditioning"), ("AIRCONDITIONINGUNIT", "AirConditioningUnit"),
  ("AIRCOOLED", "AirCooled"), ("AIRHANDLER", "AirHandler"),
  ("AIRPARTICLEFILTER", "AirParticleFilter"), ("AIRRELEASE", "AirRelease"),
  ("AMMETER", "Ammeter"), ("ANTIVACUUM", "AntiVacuum"),
  ("AUDIOVISUALOUTLET", "AudioVisualOutlet"), ("AWNING", "Awning"),
  ("BACKDRAFTDAMPER", "BackDraftDamper"), ("BALANCINGDAMPER", "BalancingDamper"),
  ("BALUSTRADE", "Balustrade"), ("BASEBOARDHEATER", "BaseBoardHeater"), ("BASESLAB", "BaseSlab"),
  ("BATH", "Bath"), ("BATTERY", "Battery"), ("BEAM", "Beam"), ("BELL", "Bell"),
  ("BIDET", "Bidet"), ("BIRDCAGE", "BirdCage"), ("BLASTDAMPER", "BlastDamper"),
  ("BOOSTER", "Booster"), ("BRACE", "Brace"), ("BREAKGLASSBUTTON", "BreakGlassButton"),
  ("BREECHINGINLET", "BreechingInlet"), ("CAPACITORBANK", "CapacitorBank"),
  ("CEILING", "Ceiling"), ("CENTRIFUGALAIRFOIL", "CentrifugalAirfoil"),
  ("CENTRIFUGALBACKWARDINCLINEDCURVED", "CentrifugalBackwardInclinedCurved"),
  ("CENTRIFUGALFORWARDCURVED", "CentrifugalForwardCurved"),
  ("CENTRIFUGALRADIAL", "CentrifugalRadial"), ("CHANGEOVER", "ChangeOver"), ("CHECK", "Check"),
  ("CHORD", "Chord"), ("CIRCUITBREAKER", "CircuitBreaker"), ("CIRCULATOR", "Circulator"),
  ("CISTERN", "Cistern"), ("CLADDING", "Cladding"), ("CO2SENSOR", "Co2Sensor"),
  ("COLLAR", "Collar"), ("COLUMN", "Column"), ("COMMISSIONING", "Commissioning"),
  ("COMMUNICATIONSOUTLET", "CommunicationsOutlet"), ("COMPRESSION", "Compression"),
  ("COMPUTER", "Computer"), ("CONTACTOR", "Contactor"), ("CONTROLDAMPER", "ControlDamper"),
  ("CONVECTOR", "Convector"), ("COWL", "Cowl"), ("CURRENT", "Current"),
  ("CURTAIN_PANEL", "CurtainPanel"), ("CURVED", "Curved"), ("DC", "Dc"), ("DIFFUSER", "Diffuser"),
  ("DIRECTIONSOURCE", "DirectionSource"), ("DIRECTWATERHEATER", "DirectWaterHeater"),
  ("DISHWASHER", "Dishwasher"), ("DIVERTING", "Diverting"),
  ("DOMESTICCOLDWATER", "DomesticColdWater"), ("DOMESTICHOTWATER", "DomesticHotWater"),
  ("DOOR", "Door"), ("DOUBLECHECK", "DoubleCheck"), ("DOUBLEREGULATING", "DoubleRegulating"),
  ("DRAINAGE", "Drainage"), ("DRAWOFFCOCK", "DrawOffCock"), ("DXCOOLINGCOIL", "DxCoolingCoil"),
  ("DYNAMIC", "Dynamic"), ("EARTHFAILUREDEVICE", "EarthFailureDevice"),
  ("ELECTRICACTUATOR", "ElectricActuator"), ("ELECTRICAL", "Electrical"),
  ("ELECTRICCABLEHEATER", "ElectricCableHeater"), ("ELECTRICCOOKER", "ElectricCooker"),
  ("ELECTRICHEATER", "ElectricHeater"), ("ELECTRICHEATINGCOIL", "ElectricHeatingCoil"),
  ("ELECTRICMATHEATER", "ElectricMatHeater"), ("ELECTRICMETER", "ElectricMeter"),
  ("ELECTRICPOINTHEATER", "ElectricPointHeater"), ("ELEMENTEDWALL", "ElementedWall"),
  ("ELEVATOR", "Elevator"), ("EMERGENCYSTOP", "EmergencyStop"), ("ENDSUCTION", "EndSuction"),
  ("ENERGYMETER", "EnergyMeter"), ("ESCALATOR", "Escalator"), ("EXPANSION", "Expansion"),
  ("EYEBALL", "Eyeball"), ("FACSIMILE", "Facsimile"), ("FAUCET", "Faucet"),
  ("FINNEDTUBEUNIT", "FinnedTubeUnit"), ("FIREDAMPER", "FireDamper"),
  ("FIREHYDRANT", "FireHydrant"), ("FIREPROTECTION", "FireProtection"),
  ("FIRESENSOR", "FireSensor"), ("FIRESMOKEDAMPER", "FireSmokeDamper"),
  ("FIXEDPLATECOUNTERFLOWEXCHANGER", "FixedPlateCounterFlowExchanger"),
  ("FIXEDPLATECROSSFLOWEXCHANGER", "FixedPlateCrossFlowExchanger"),
  ("FIXEDPLATEPARALLELFLOWEXCHANGER", "FixedPlateParallelFlowExchanger"),
  ("FLOATING", "Floating"), ("FLOOR", "Floor"), ("FLOORING", "Flooring"),
  ("FLOORTRAP", "FloorTrap"), ("FLOORWASTE", "FloorWaste"), ("FLOWMETER", "FlowMeter"),
  ("FLOWSENSOR", "FlowSensor"), ("FLUSHING", "Flushing"), ("FORMEDDUCT", "FormedDuct"),
  ("FREEFORM", "FreeForm"), ("FREESTANDINGFAN", "FreeStandingFan"), ("FREEZER", "Freezer"),
  ("FREQUENCY", "Frequency"), ("FREQUENCYMETER", "FrequencyMeter"),
  ("FRIDGE_FREEZER", "FridgeFreezer"), ("FUMEHOODEXHAUST", "FumeHoodExhaust"),
  ("FUSEDISCONNECTOR", "FuseDisconnector"), ("GASAPPLIANCE", "GasAppliance"),
  ("GASBOOSTER", "GasBooster"), ("GASBURNER", "GasBurner"), ("GASCOCK", "GasCock"),
  ("GASHEATINGCOIL", "GasHeatingCoil"), ("GASMETER", "GasMeter"), ("GASSENSOR", "GasSensor"),
  ("GASTAP", "GasTap"), ("GATE", "Gate"), ("GRAVITYDAMPER", "GravityDamper"),
  ("GRAVITYRELIEFDAMPER", "GravityReliefDamper"), ("GREASEINTERCEPTOR", "GreaseInterceptor"),
  ("GRILLE", "Grille"), ("GUARDRAIL", "Guardrail"), ("GULLYSUMP", "GullySump"),
  ("GULLYTRAP", "GullyTrap"), ("HANDDRYER", "HandDryer"),
  ("HANDOPERATEDACTUATOR", "HandOperatedActuator"), ("HANDRAIL", "Handrail"),
  ("HARMONICFILTER", "HarmonicFilter"), ("HEATING", "Heating"), ("HEATPIPE", "HeatPipe"),
  ("HEATRECOVERY", "HeatRecovery"), ("HEATSENSOR", "HeatSensor"), ("HERMETIC", "Hermetic"),
  ("HOSEREEL", "HoseReel"), ("HUMIDITYSENSOR", "HumiditySensor"),
  ("HYDRAULICACTUATOR", "HydraulicActuator"), ("INDIRECTWATERHEATER", "IndirectWaterHeater"),
  ("INDUCTION", "Induction"), ("INDUCTORBANK", "InductorBank"),
  ("INSPECTIONCHAMBER", "InspectionChamber"), ("INSPECTIONPIT", "InspectionPit"),
  ("INSULATION", "Insulation"), ("IRIS", "Iris"), ("ISOLATING", "Isolating"),
  ("JALOUSIE", "Jalousie"), ("JOIST", "Joist"), ("LANDING", "Landing"), ("LIGHT", "Light"),
  ("LIGHTDOME", "LightDome"), ("LIGHTING", "Lighting"), ("LIGHTSENSOR", "LightSensor"),
  ("LINEARDIFFUSER", "LinearDiffuser"), ("LINEARGRILLE", "LinearGrille"), ("LINTEL", "Lintel"),
  ("MANHOLE", "Manhole"), ("MANUALPULLBOX", "ManualPullBox"),
  ("MECHANICALFORCEDDRAFT", "MechanicalForcedDraft"),
  ("MECHANICALINDUCEDDRAFT", "MechanicalInducedDraft"), ("MEMBER", "Member"),
  ("MEMBRANE", "Membrane"), ("METERCHAMBER", "MeterChamber"), ("MICROWAVE", "Microwave"),
  ("MIXING", "Mixing"), ("MOISTURESENSOR", "MoistureSensor"),
  ("MOVEMENTSENSOR", "MovementSensor"), ("MOVINGWALKWAY", "MovingWalkway"),
  ("MULLION", "Mullion"), ("NATURALDRAFT", "NaturalDraft"), ("NOTDEFINED", "NotDefined"),
  ("ODORFILTER", "OdorFilter"), ("OILFILTER", "OilFilter"), ("OILINTERCEPTOR", "OilInterceptor"),
  ("OILMETER", "OilMeter"), ("OPENTYPE", "OpenType"), ("PANELRADIATOR", "PanelRadiator"),
  ("PETROLINTERCEPTOR", "PetrolInterceptor"), ("PHASEANGLEMETER", "PhaseAngleMeter"),
  ("PHOTOCOPIER", "Photocopier"), ("PLATE", "Plate"), ("PLUMBINGWALL", "PlumbingWall"),
  ("PNEUMATICACTUATOR", "PneumaticActuator"), ("POINTSOURCE", "PointSource"),
  ("POLYGONAL", "Polygonal"), ("POLYPHASE", "Polyphase"), ("POST", "Post"),
  ("POWERFACTORMETER", "PowerFactorMeter"), ("POWEROUTLET", "PowerOutlet"),
  ("PREFORMED", "Preformed"), ("PRESSUREGAUGE", "PressureGauge"),
  ("PRESSUREREDUCING", "PressureReducing"), ("PRESSURERELIEF", "PressureRelief"),
  ("PRESSURESENSOR", "PressureSensor"), ("PRESSUREVESSEL", "PressureVessel"),
  ("PRINTER", "Printer"), ("PROPELLORAXIAL", "PropellorAxial"), ("PROPORTIONAL", "Proportional"),
  ("PROPORTIONALINTEGRAL", "ProportionalIntegral"),
  ("PROPORTIONALINTEGRALDERIVATIVE", "ProportionalIntegralDerivative"), ("PURLIN", "Purlin"),
  ("RADIANTHEATER", "RadiantHeater"), ("RAFTER", "Rafter"),
  ("RAINWATERHOPPER", "RainwaterHopper"), ("RECIPROCATING", "Reciprocating"),
  ("REFRIGERATOR", "Refrigerator"), ("REGISTER", "Register"), ("REGULATING", "Regulating"),
  ("RELAY", "Relay"), ("RELIEFDAMPER", "ReliefDamper"),
  ("RELUCTANCESYNCHRONOUS", "ReluctanceSynchronous"),
  ("RESIDUALCURRENTCIRCUITBREAKER", "ResidualCurrentCircuitBreaker"),
  ("RESIDUALCURRENTSWITCH", "ResidualCurrentSwitch"), ("ROLLINGPISTON", "RollingPiston"),
  ("ROOF", "Roof"), ("ROOFDRAIN", "RoofDrain"), ("ROOFING", "Roofing"),
  ("ROOFTOPUNIT", "RooftopUnit"), ("ROTARY", "Rotary"), ("ROTARYVANE", "RotaryVane"),
  ("ROTARYWHEEL", "RotaryWheel"), ("RUNAROUNDCOILLOOP", "RunAroundCoilLoop"),
  ("SAFETYCUTOFF", "SafetyCutOff"), ("SANITARYFOUNTAIN", "SanitaryFountain"),
  ("SCANNER", "Scanner"), ("SCROLL", "Scroll"), ("SECTIONAL", "Sectional"),
  ("SECTIONALRADIATOR", "SectionalRadiator"), ("SEMIHERMETIC", "SemiHermetic"),
  ("SHEAR", "Shear"), ("SHEET", "Sheet"), ("SHELLANDTUBE", "ShellAndTube"), ("SHOWER", "Shower"),
  ("SHUTTER", "Shutter"), ("SINGLESCREW", "SingleScrew"), ("SINGLESTAGE", "SingleStage"),
  ("SINK", "Sink"), ("SIREN", "Siren"), ("SKYLIGHT", "Skylight"), ("SLEEVING", "Sleeving"),
  ("SMOKEDAMPER", "SmokeDamper"), ("SMOKESENSOR", "SmokeSensor"), ("SOUNDSENSOR", "SoundSensor"),
  ("SPIRAL", "Spiral"), ("SPLITCASE", "SplitCase"), ("SPLITSYSTEM", "SplitSystem"),
  ("SPRING", "Spring"), ("SPRINKLER", "Sprinkler"), ("SPRINKLERDEFLECTOR", "SprinklerDeflector"),
  ("STANDARD", "Standard"), ("STARTER", "Starter"), ("STEAM", "Steam"),
  ("STEAMHEATINGCOIL", "SteamHeatingCoil"), ("STEAMTRAP", "SteamTrap"), ("STOPCOCK", "Stopcock"),
  ("STRAIGHT", "Straight"), ("STRAINER", "Strainer"), ("STRINGER", "Stringer"),
  ("STRUT", "Strut"), ("STUD", "Stud"), ("SUMP", "Sump"),
  ("SWITCHDISCONNECTOR", "SwitchDisconnector"), ("SYNCHRONOUS", "Synchronous"),
  ("TELEPHONE", "Telephone"), ("TEMPERATURESENSOR", "TemperatureSensor"),
  ("THERMOMETER", "Thermometer"),
  ("THERMOSIPHONCOILTYPEHEATEXCHANGERS", "ThermosiphonCoilTypeHeatExchangers"),
  ("THERMOSIPHONSEALEDTUBEHEATEXCHANGERS", "ThermosiphonSealedTubeHeatExchangers"),
  ("THERMOSTATICACTUATOR", "ThermostaticActuator"), ("TIMECLOCK", "TimeClock"),
  ("TIMEDELAY", "TimeDelay"), ("TIMEDTWOPOSITION", "TimedTwoPosition"),
  ("TOGGLESWITCH", "ToggleSwitch"), ("TOILETPAN", "ToiletPan"), ("TRAPDOOR", "Trapdoor"),
  ("TRENCH", "Trench"), ("TROCHOIDAL", "Trochoidal"), ("TUBEAXIAL", "TubeAxial"),
  ("TUBULARRADIATOR", "TubularRadiator"), ("TUMBLEDRYER", "TumbleDryer"), ("TV", "Tv"),
  ("TWINSCREW", "TwinScrew"),
  ("TWINTOWERENTHALPYRECOVERYLOOPS", "TwinTowerEnthalpyRecoveryLoops"),
  ("TWOPOSITION", "TwoPosition"), ("T_BEAM", "TBeam"), ("UNITHEATER", "UnitHeater"),
  ("UPS", "Ups"), ("URINAL", "Urinal"), ("USERDEFINED", "UserDefined"),
  ("VALVECHAMBER", "ValveChamber"), ("VANEAXIAL", "VaneAxial"), ("VARISTOR", "Varistor"),
  ("VENDINGMACHINE", "VendingMachine"), ("VENTILATION", "Ventilation"),
  ("VERTICALINLINE", "VerticalInline"), ("VERTICALTURBINE", "VerticalTurbine"),
  ("VOLTAGE", "Voltage"), ("VOLTMETER_PEAK", "VoltmeterPeak"), ("VOLTMETER_RMS", "VoltmeterRms"),
  ("WASHHANDBASIN", "WashHandBasin"), ("WASHINGMACHINE", "WashingMachine"),
  ("WASTEDISPOSALUNIT", "WasteDisposalUnit"), ("WASTETRAP", "WasteTrap"), ("WATER", "Water"),
  ("WATERCOOLED", "WaterCooled"), ("WATERCOOLER", "WaterCooler"),
  ("WATERCOOLINGCOIL", "WaterCoolingCoil"), ("WATERFILTER", "WaterFilter"),
  ("WATERHEATER", "WaterHeater"), ("WATERHEATINGCOIL", "WaterHeatingCoil"),
  ("WATERMETER", "WaterMeter"), ("WCSEAT", "WcSeat"),
  ("WELDEDSHELLHERMETIC", "WeldedShellHermetic"), ("WHISTLE", "Whistle"), ("WINDER", "Winder"),
  ("WINDOW", "Window"), ("WRAPPING", "Wrapping")]

/-- The names of the standard sub-kinds. -/
def subKindNames : SubKindNames := .ofRows subKindRows

end Eir.Standard
