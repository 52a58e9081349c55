import RmdCanSdk.Config.Entries

/-!
# The period of the transmit loop

The transmit loop of a CAN master takes its period from the field that the masters of
the ECAT section set as well, and these are read after the CAN section.
-/

namespace RmdCanSdk

variable {F : Type} [FloatArith F]

/-- The master of a CAN group, the first one with its order. Without one `start` fails. -/
def LoadedConfig.canMaster (config : LoadedConfig F) (order : Int) : Option MasterConfig :=
  config.masters.find? fun master => master.order = order

variable {scanf : Scanf F} {root other : XMLElement} {config : LoadedConfig F}

/-- The periods that masters of the ECAT section give. -/
def ecatPeriods (scanf : Scanf F) (root : XMLElement) : List Int :=
  (root.elementsIn "Master" ["ECAT", "Masters"]).filterMap fun master =>
    (master.attribute "period").bind (XMLUtil.toInt64 scanf)

/-- The documents have the same sections but for ECAT. -/
def SameOutsideEcat (root other : XMLElement) : Prop :=
  ∀ name, name ≠ "ECAT" → root.childElements name = other.childElements name

omit [FloatArith F] in
theorem firstChildElement_eq (element : XMLElement) (name : String) :
    element.firstChildElement name = (element.childElements name).head? := by
  rw [XMLElement.firstChildElement, XMLElement.childElements, List.head?_filter]

/-- The last period of the ECAT section wins over the one of the CAN section. -/
theorem Loads.period {motorParameters : MotorParameterMap F}
    (loads : Loads scanf root motorParameters config) :
    config.periodNs = (ecatPeriods scanf root).getLast?.getD (canPeriod scanf root) :=
  loads.periodNs.trans (foldl_getD ..)

omit [FloatArith F] in
/-- Documents that differ in the ECAT section only have the same CAN section. -/
theorem SameOutsideEcat.can (same : SameOutsideEcat root other) (scanf : Scanf F) :
    canMasters scanf other = canMasters scanf root ∧ canPeriod scanf other = canPeriod scanf root := by
  have section_eq : other.firstChildElement "CAN" = root.firstChildElement "CAN" := by
    rw [firstChildElement_eq, firstChildElement_eq, same "CAN" (by decide)]
  constructor
  · rw [canMasters, canMasters, XMLElement.elementsIn, XMLElement.elementsIn, section_eq]
  · rw [canPeriod, canPeriod, section_eq]

end RmdCanSdk
