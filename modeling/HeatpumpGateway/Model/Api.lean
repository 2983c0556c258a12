import HeatpumpGateway.Model.Service

/-!
# The API

`api.py`: the types of the channels' values that the API publishes, the routes, and what
becomes of the exceptions of the service. A route is a program that ends in a response. What
the web framework does before and after it (parsing and validating a request, serialising a
response, documentation pages) is left out: a request is what a route's function is called
with.
-/

namespace HeatpumpGateway

/-- `_openapi_type`, whose dictionary has the type alone. -/
def openapiType : ValueKind → String
  | .boolean => "boolean"
  | .number => "number"
  | .integer => "integer"

/-- A channel's property of the schema. The values that its description is put together
from are kept as fields. -/
structure ChannelSchema where
  type : String
  dataType : DataType
  unit : Option String
  range : Option (PyFloat × PyFloat)
  deriving DecidableEq, Repr

def channelSchema (record : ChannelDefinition) : ChannelSchema :=
  { type := openapiType record.valueKind
    dataType := record.dataType
    unit := record.unit.filter (· ≠ "")
    range := if record.writable then some (record.min, record.max) else none }

/-- The properties of `HeatPumpValues`, keyed by channel id. -/
def heatPumpValues (config : HeatPumpConfig) : Dict String ChannelSchema :=
  Dict.ofPairs (config.channels.map fun record => (record.channelId, channelSchema record))

/-- The ids that the schema allows in the path of a channel. -/
def publishedIds (config : HeatPumpConfig) : List String :=
  config.channels.map ChannelDefinition.channelId

/-! ## Requests and responses -/

structure ChannelInfo where
  channelId : String
  dataType : DataType
  valueKind : ValueKind
  writable : Bool
  unit : Option String
  min : Option PyFloat
  max : Option PyFloat
  step : Option PyFloat
  deriving DecidableEq, Repr

def ChannelInfo.fromDefinition (record : ChannelDefinition) : ChannelInfo :=
  let settingsOnly := record.writable
  { channelId := record.channelId
    dataType := record.dataType
    valueKind := record.valueKind
    writable := record.writable
    unit := record.unit
    min := if settingsOnly then some record.min else none
    max := if settingsOnly then some record.max else none
    step := if settingsOnly then some record.step else none }

/-- What a response carries. A `ValueResponse` has the fields of the `ChannelValue` it is
made from. -/
inductive Body where
  | about (name configuration : String) (channels requests : Nat)
  | health (status : String)
  | version (version : String)
  | infos (channels : List ChannelInfo)
  | value (value : ChannelValue)
  | values (values : List ChannelValue)
  | clock (entries : Dict String CommunicationService.Reported)
  | detail (text : String)
  deriving DecidableEq, Repr

structure Response where
  status : Nat
  body : Body
  deriving DecidableEq, Repr

/-- A request to a route, with the arguments that its function gets. The time is that of the
system's clock when a request to set the device's is served. -/
inductive HttpRequest where
  | root
  | health
  | version
  | listChannels (dataType : Option DataType) (writable : Option Bool)
  | readValues (ids : Option String) (dataType : Option DataType)
  | readChannel (channelId : String)
  | writeChannel (channelId : String) (value : CallerValue)
  | setTime (now : CommunicationService.DateTime)

inductive Method where
  | get
  | put
  | post
  deriving DecidableEq, Repr

/-- The method a route is registered for. -/
def HttpRequest.method : HttpRequest → Method
  | .writeChannel _ _ => .put
  | .setTime _ => .post
  | _ => .get

/-- `_protocol_error_handler` and `_write_not_confirmed_handler`, the more specific one
first; any other exception is the server's error. -/
def handleException (exc : Exc) : Response :=
  match exc with
  | .writeNotConfirmed .. => ⟨502, .detail exc.str⟩
  | exc =>
      if exc.isProtocolError then
        ⟨503, .detail ("Could not communicate with the heat pump: " ++ exc.str)⟩
      else ⟨500, .detail "Internal Server Error"⟩

/-- The application: `app.title`, `app.state.config`, and the service's waiting time. -/
structure App where
  title : String
  config : HeatPumpConfig
  waitingTime : Nat

namespace App

/-- A route's `try`: the result as a response, or the response its `except` clauses have for
the exception. -/
def answered {α : Type} (call : Talk α) (body : α → Body) (except : Exc → Option Response) :
    Talk Response :=
  Dialogue.handle
    (do
      let result ← call
      return ⟨200, body result⟩)
    fun exc =>
      match except exc with
      | some response => return response
      | none => throw exc

def root (app : App) : Talk Response :=
  return ⟨200, .about app.title app.config.name app.config.channels.length
    app.config.requests.length⟩

def health : Talk Response := return ⟨200, .health "ok"⟩

def version (app : App) : Talk Response :=
  answered (HeatPumpService.getVersion app.config app.waitingTime) .version fun _ => none

def listChannels (app : App) (dataType : Option DataType) (writable : Option Bool) :
    Talk Response :=
  let infos := app.config.channels.map ChannelInfo.fromDefinition
  let infos :=
    match dataType with
    | none => infos
    | some dataType => infos.filter (·.dataType = dataType)
  let infos :=
    match writable with
    | none => infos
    | some writable => infos.filter (·.writable = writable)
  return ⟨200, .infos infos⟩

/-- `[part.strip() for part in ids.split(",") if part.strip()]`. -/
def splitIds (ids : String) : List String :=
  ((ids.toList.splitOn ',').map fun part => String.ofList (strip part)).filter (· ≠ "")

/-- The `except` clause of a read of several channels. -/
def unknownChannels : Exc → Option Response
  | .channelNotFound ids => some ⟨404, .detail ("Unknown channel(s): " ++ ids)⟩
  | _ => none

/-- An empty `ids` counts as none at all. -/
def readValues (app : App) (ids : Option String) (dataType : Option DataType) : Talk Response :=
  if (ids.getD "") ≠ "" then
    answered (HeatPumpService.readChannels app.config app.waitingTime (splitIds (ids.getD "")))
      .values unknownChannels
  else
    answered (HeatPumpService.readAll app.config app.waitingTime dataType.toList) .values
      fun _ => none

def unknownChannel (channelId : String) : Response :=
  ⟨404, .detail ("Unknown channel '" ++ channelId ++ "'")⟩

/-- The `except` clause of a read. -/
def exceptRead (channelId : String) : Exc → Option Response
  | .channelNotFound _ => some (unknownChannel channelId)
  | _ => none

def readChannel (app : App) (channelId : String) : Talk Response :=
  answered (HeatPumpService.readChannel app.config app.waitingTime channelId) .value
    (exceptRead channelId)

/-- The `except` clauses of a write, the first that matches. -/
def exceptWrite (channelId : String) : Exc → Option Response
  | .channelNotFound _ => some (unknownChannel channelId)
  | .channelNotWritable _ =>
      some ⟨409, .detail ("Channel '" ++ channelId ++ "' is not writable")⟩
  | exc => if exc.isValueError then some ⟨400, .detail exc.str⟩ else none

def writeChannel (app : App) (channelId : String) (value : CallerValue) : Talk Response :=
  answered (HeatPumpService.writeChannel app.config app.waitingTime channelId value) .value
    (exceptWrite channelId)

def setTime (app : App) (now : CommunicationService.DateTime) : Talk Response :=
  answered (HeatPumpService.setTime app.config app.waitingTime now) .clock fun _ => none

/-- A route that depends on `get_service`, in an application whose state has a service or
none yet. -/
def withService (hasService : Bool) (route : Talk Response) : Talk Response :=
  if hasService then route
  else return ⟨503, .detail "Heat pump service is not available"⟩

def route (app : App) (hasService : Bool) : HttpRequest → Talk Response
  | .root => app.root
  | .health => health
  | .version => withService hasService app.version
  | .listChannels dataType writable => app.listChannels dataType writable
  | .readValues ids dataType => withService hasService (app.readValues ids dataType)
  | .readChannel channelId => withService hasService (app.readChannel channelId)
  | .writeChannel channelId value => withService hasService (app.writeChannel channelId value)
  | .setTime now => withService hasService (app.setTime now)

/-- A request to its response. -/
def serve (app : App) (hasService : Bool) (request : HttpRequest) : Talk Response :=
  Dialogue.handle (app.route hasService request) fun exc => return handleException exc

/-! ## The lifespan -/

/-- What comes before the first request; the result is the service's flag. -/
def startup (connectOnStartup : Bool) : Talk Bool :=
  if connectOnStartup then
    Dialogue.handle (HeatPumpService.connect false) fun _ => return false
  else return false

/-- What comes after the last. -/
def shutdown (connected : Bool) : Talk Bool :=
  Dialogue.handle (HeatPumpService.close connected) fun _ => return connected

end App

end HeatpumpGateway
