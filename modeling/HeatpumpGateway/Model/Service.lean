import HeatpumpGateway.Model.Communication

/-!
# The service

`service.py`: every call looks its channels up, coerces its value, and then
holds one conversation with the device under the service's lock. A call is
written here in these two parts: what it prepares before it takes the lock,
which may already fail, and the conversation it prepares. The last lines of a
call, which run after the lock is released, look at nothing but the
conversation's result and are the end of the second part.
-/

namespace HeatpumpGateway
namespace HeatPumpService

def TRUE_STRINGS : List String := ["1", "true", "on", "yes"]
def FALSE_STRINGS : List String := ["0", "false", "off", "no"]

/-- `value.strip().lower()`, as far as the words above can tell. -/
def normalized (value : String) : String :=
  String.ofList ((strip value.toList).map Char.toLower)

def coerceBoolean (record : ChannelDefinition) (value : CallerValue) : Except Exc Bool :=
  match value with
  | .bool b => .ok b
  | .str s =>
      if normalized s ∈ TRUE_STRINGS then .ok true
      else if normalized s ∈ FALSE_STRINGS then .ok false
      else .error (.valueError
        ("Invalid boolean value '" ++ s ++ "' for channel '" ++ record.channelId ++
          "'; expected one of ['0', '1', 'false', 'no', 'off', 'on', 'true', 'yes']"))
  | .int n => .ok (n ≠ 0)
  | .float x => .ok x.toBool

/-- `float(value)`. -/
def coerceNumber (value : CallerValue) : Except Exc PyFloat :=
  match value with
  | .bool b => .ok (.ofInt (if b then 1 else 0))
  | .int n => PyFloat.ofPyInt n
  | .float x => .ok x
  | .str s => floatOfStr s

/-- `int(value)`. -/
def coerceInteger (value : CallerValue) : Except Exc Int :=
  match value with
  | .bool b => .ok (if b then 1 else 0)
  | .int n => .ok n
  | .float x => x.toInt
  | .str s => intOfStr s

def coerce (record : ChannelDefinition) (value : CallerValue) : Except Exc DecodedValue :=
  match record.valueKind with
  | .boolean => (coerceBoolean record value).map .bool
  | .number => (coerceNumber value).map .float
  | .integer => (coerceInteger value).map .int

def toChannelValue (record : ChannelDefinition) (value : DecodedValue) : ChannelValue :=
  { channelId := record.channelId
    value := value
    unit := record.unit
    dataType := record.dataType
    writable := record.writable }

def requireChannel (config : HeatPumpConfig) (channelId : String) :
    Except Exc ChannelDefinition :=
  match config.channel channelId with
  | some record => .ok record
  | none => .error (.channelNotFound channelId)

/-- The distinct requests of some channels, in the order they are first needed. -/
def requestsFor (config : HeatPumpConfig) (channelIds : List String) : List Request :=
  channelIds.foldl (fun requests channelId =>
    match config.requestForChannel channelId with
    | some request => if request ∈ requests then requests else requests ++ [request]
    | none => requests) []

/-- The entries of a sweep that `keep` wants, as channel values. -/
def collect (config : HeatPumpConfig) (keep : ChannelDefinition → Bool)
    (data : Dict String DecodedValue) : List ChannelValue :=
  data.filterMap fun entry =>
    match config.channel entry.1 with
    | some record => if keep record then some (toChannelValue record entry.2) else none
    | none => none

/-! ## The calls -/

/-- What `_connected` is after the call; where it raises, the flag stays. -/
def connect (connected : Bool) : Talk Bool :=
  if connected then return connected
  else do
    CommunicationService.connect
    return true

def close (connected : Bool) : Talk Bool :=
  if connected then do
    CommunicationService.close
    return false
  else return connected

def prepareReadChannel (config : HeatPumpConfig) (waitingTime : Nat) (channelId : String) :
    Except Exc (Talk ChannelValue) := do
  let record ← requireChannel config channelId
  return do
    match config.requestForChannel channelId with
    | none => throw (.attributeError "'NoneType' object has no attribute 'request_bytes'")
    | some request => do
        let data ← CommunicationService.readRequest waitingTime request
        match data.get? channelId with
        | none => throw (.channelNotFound channelId)
        | some value => return toChannelValue record value

def prepareReadChannels (config : HeatPumpConfig) (waitingTime : Nat)
    (channelIds : List String) : Except Exc (Talk (List ChannelValue)) :=
  let unknown := channelIds.filter fun channelId => (config.channel channelId).isNone
  if unknown ≠ [] then .error (.channelNotFound (", ".intercalate unknown))
  else
    .ok do
      let data ← CommunicationService.readRequests waitingTime
        (requestsFor config channelIds)
      return collect config (fun record => record.channelId ∈ channelIds) data

/-- `data_types or {SENSOR, STATUS}`: an empty set asks for the default too. -/
def typesOrDefault (dataTypes : List DataType) : List DataType :=
  if dataTypes = [] then [.sensor, .status] else dataTypes

def prepareReadAll (config : HeatPumpConfig) (waitingTime : Nat)
    (dataTypes : List DataType) : Except Exc (Talk (List ChannelValue)) :=
  let types := typesOrDefault dataTypes
  let requests := config.requests.filter fun request =>
    request.records.any (·.dataType ∈ types)
  .ok do
    let data ← CommunicationService.readRequests waitingTime requests
    return collect config (fun record => record.dataType ∈ types) data

def prepareWriteChannel (config : HeatPumpConfig) (waitingTime : Nat) (channelId : String)
    (value : CallerValue) : Except Exc (Talk ChannelValue) := do
  let record ← requireChannel config channelId
  if !record.writable then .error (.channelNotWritable channelId)
  else do
    let coerced ← coerce record value
    return do
      let data ← CommunicationService.writeData waitingTime coerced record
      return toChannelValue record ((data.get? channelId).getD coerced)

def prepareGetVersion (config : HeatPumpConfig) (waitingTime : Nat) :
    Except Exc (Talk String) :=
  match config.requestByBytes "FD" with
  | none => .ok (return "<UNKNOWN_VERSION>")
  | some request => .ok (CommunicationService.getVersion waitingTime request)

/-- The clock fields with the channels of their writable registers. -/
def CLOCK_REGISTERS : List (String × String) :=
  [("day", "pClockDay"), ("month", "pClockMonth"), ("year", "pClockYear"),
   ("hours", "pClockHour"), ("minutes", "pClockMinutes")]

def clockRecords (config : HeatPumpConfig) : Dict String ChannelDefinition :=
  CLOCK_REGISTERS.filterMap fun entry =>
    (config.channel entry.2).map fun record => (entry.1, record)

def prepareSetTime (config : HeatPumpConfig) (waitingTime : Nat)
    (now : CommunicationService.DateTime) :
    Except Exc (Talk (Dict String CommunicationService.Reported)) :=
  .ok (CommunicationService.setTime waitingTime now (config.requestByBytes "FC")
    (clockRecords config))

/-- A call as its caller sees it: both parts, one after the other. -/
def perform {α : Type} (prepared : Except Exc (Talk α)) : Talk α :=
  match prepared with
  | .ok conversation => conversation
  | .error e => .raise e

def readChannel (config : HeatPumpConfig) (waitingTime : Nat) (channelId : String) :
    Talk ChannelValue :=
  perform (prepareReadChannel config waitingTime channelId)

def readChannels (config : HeatPumpConfig) (waitingTime : Nat) (channelIds : List String) :
    Talk (List ChannelValue) :=
  perform (prepareReadChannels config waitingTime channelIds)

def readAll (config : HeatPumpConfig) (waitingTime : Nat) (dataTypes : List DataType) :
    Talk (List ChannelValue) :=
  perform (prepareReadAll config waitingTime dataTypes)

def writeChannel (config : HeatPumpConfig) (waitingTime : Nat) (channelId : String)
    (value : CallerValue) : Talk ChannelValue :=
  perform (prepareWriteChannel config waitingTime channelId value)

def getVersion (config : HeatPumpConfig) (waitingTime : Nat) : Talk String :=
  perform (prepareGetVersion config waitingTime)

def setTime (config : HeatPumpConfig) (waitingTime : Nat)
    (now : CommunicationService.DateTime) :
    Talk (Dict String CommunicationService.Reported) :=
  perform (prepareSetTime config waitingTime now)

end HeatPumpService
end HeatpumpGateway
