import HeatpumpGateway.Model.Api
import HeatpumpGateway.Model.Simulator

/-!
# Configuration files

`load_xml` of `config_loader.py`, from the `record` elements of a file on, and what the
application is made from. The attributes of an element are a dictionary of texts; a text is
read as the number it is for, and one that is missing or empty has a default.
-/

namespace HeatpumpGateway

/-- What a loader raises: a `KeyError`, or an exception of a conversion. -/
inductive LoadError where
  | keyError (name : String)
  | raised (exc : Exc)
  deriving DecidableEq, Repr

/-- The attributes of a `record` element. -/
abbrev Attributes := Dict String String

namespace ConfigLoader

/-- `attrib[name]`. -/
def required (attrib : Attributes) (name : String) : Except LoadError String :=
  match attrib.get? name with
  | some value => .ok value
  | none => .error (.keyError name)

/-- `DataType(value)`. -/
def dataTypeOf (value : String) : Except LoadError DataType :=
  if value = "Sensor" then .ok .sensor
  else if value = "Status" then .ok .status
  else if value = "Settings" then .ok .settings
  else .error (.raised (.valueError ("'" ++ value ++ "' is not a valid DataType")))

/-- `_to_float` and `_to_int`: the default, or what the conversion makes of the text. -/
def convert {α : Type} (ofStr : String → Except Exc α) (value : Option String) (default : α) :
    Except LoadError α :=
  match value with
  | none => .ok default
  | some text => if text = "" then .ok default else (ofStr text).mapError .raised

def toFloat (value : Option String) (default : PyFloat) : Except LoadError PyFloat :=
  convert floatOfStr value default

def toInt (value : Option String) (default : Int) : Except LoadError Int :=
  convert intOfStr value default

/-- One round of the loop. -/
def channelOf (attrib : Attributes) : Except LoadError ChannelDefinition := do
  let channelId ← required attrib "channelid"
  let requestByte ← required attrib "requestByte"
  let dataType ← dataTypeOf (← required attrib "dataType")
  let position ← toInt (attrib.get? "position") 0
  let length ← toInt (attrib.get? "length") 0
  let scale ← toFloat (attrib.get? "scale") (.finite 1)
  let bitPosition ← toInt (attrib.get? "bitPosition") 0
  let min ← toFloat (attrib.get? "min") (.finite 0)
  let max ← toFloat (attrib.get? "max") (.finite 0)
  let step ← toFloat (attrib.get? "step") (.finite 0)
  return {
    channelId := channelId
    requestByte := requestByte
    requestByte2 := attrib.get? "requestByte2"
    dataType := dataType
    position := position
    length := length
    scale := scale
    bitPosition := bitPosition
    min := min
    max := max
    step := step
    unit := attrib.get? "unit" }

/-- The elements of a file to a configuration, which goes by the file's stem. -/
def loadXml (stem : String) (records : List Attributes) : Except LoadError HeatPumpConfig := do
  let channels ← records.mapM channelOf
  return { channels := channels, name := stem }

end ConfigLoader

/-- `build_app`, for a file. -/
def buildApp (title : String) (waitingTime : Nat) (stem : String) (records : List Attributes) :
    Except LoadError App := do
  let config ← ConfigLoader.loadXml stem records
  return { title := title, config := config, waitingTime := waitingTime }

/-- The transport that `from_settings` makes unless it is told to use a serial port. -/
def simulated (config : HeatPumpConfig) : Except Exc SimulatorTransport := do
  return { simulator := ← HeatPumpSimulator.create config [] }

end HeatpumpGateway
