import HeatpumpGateway.Model.Python

/-!
# Channel definitions

`models.py`: one record per data point of the heat pump, as a loader builds it.
No field is validated there and none is here: positions and lengths are any
integers, scales and bounds any floats.
-/

namespace HeatpumpGateway

/-- Category of a channel. -/
inductive DataType where
  | sensor
  | status
  | settings
  deriving DecidableEq, Repr

/-- The type a channel decodes to. -/
inductive ValueKind where
  | boolean
  | integer
  | number
  deriving DecidableEq, Repr

/-- A single data point, with the defaults of the pydantic model. -/
structure ChannelDefinition where
  channelId : String
  requestByte : String
  requestByte2 : Option String := none
  dataType : DataType
  position : Int
  length : Int
  scale : PyFloat := .finite 1
  bitPosition : Int := 0
  min : PyFloat := .finite 0
  max : PyFloat := .finite 0
  step : PyFloat := .finite 0
  unit : Option String := none
  deriving DecidableEq, Repr

/-- The upper-cased command pair that groups channels into requests. -/
abbrev RequestKey := String × Option String

namespace ChannelDefinition

def requestKey (c : ChannelDefinition) : RequestKey :=
  (upper c.requestByte,
    match c.requestByte2 with
    | none => none
    | some second => if second = "" then none else some (upper second))

def writable (c : ChannelDefinition) : Bool := c.dataType = .settings

/-- A full field constrained to 0 and 1: `scale == 1 and min == 0 and max == 1
and step == 0`. -/
def isSwitch (c : ChannelDefinition) : Bool :=
  c.scale.eq (.finite 1) && c.min.eq (.finite 0) && c.max.eq (.finite 1) &&
    c.step.eq (.finite 0)

def valueKind (c : ChannelDefinition) : ValueKind :=
  if c.bitPosition > 0 then .boolean
  else if c.isSwitch then .boolean
  else if c.length = 4 then .integer
  else if !c.scale.eq (.finite 1) then .number
  else .integer

end ChannelDefinition

/-- A channel id with its decoded value, as the service hands it out. -/
structure ChannelValue where
  channelId : String
  value : DecodedValue
  unit : Option String
  dataType : DataType
  writable : Bool
  deriving DecidableEq, Repr

end HeatpumpGateway
