import HeatpumpGateway.Model.Channel

/-!
# Configurations

`config_loader.py` after the files are read: a loaded configuration is a list of
channel definitions, any list, and the requests and lookups derived from it.
Channels with one command pair share a request.
-/

namespace HeatpumpGateway

/-- A group of channels read and written with a single command. -/
structure Request where
  requestByte : String
  requestByte2 : Option String
  records : List ChannelDefinition := []
  deriving DecidableEq, Repr

namespace Request

def requestBytes (r : Request) : Except Exc Bytes := fromHex r.requestByte

def requestBytes2 (r : Request) : Except Exc (Option Bytes) :=
  match r.requestByte2 with
  | none => .ok none
  | some text => if text = "" then .ok none else (fromHex text).map some

end Request

/-- The two variables of the grouping loop. The index refers to a request by its
place in the list, where the source holds the object itself. -/
structure Grouping where
  requests : List Request := []
  index : Dict RequestKey Nat := []

/-- One round: the channel's request is found or appended, then extended. -/
def Grouping.add (g : Grouping) (channel : ChannelDefinition) : Grouping :=
  let key := channel.requestKey
  match g.index.get? key with
  | some i =>
      { g with requests := g.requests.modify i fun request =>
          { request with records := request.records ++ [channel] } }
  | none =>
      { requests := g.requests ++
          [{ requestByte := key.1, requestByte2 := key.2, records := [channel] }]
        index := g.index.set key g.requests.length }

def groupRequests (channels : List ChannelDefinition) : List Request :=
  (channels.foldl Grouping.add {}).requests

/-- The full set of channels for one firmware variant. -/
structure HeatPumpConfig where
  channels : List ChannelDefinition
  name : String := ""

namespace HeatPumpConfig

def requests (config : HeatPumpConfig) : List Request := groupRequests config.channels

def byId (config : HeatPumpConfig) : Dict String ChannelDefinition :=
  Dict.ofPairs (config.channels.map fun c => (c.channelId, c))

def channel (config : HeatPumpConfig) (channelId : String) : Option ChannelDefinition :=
  config.byId.get? channelId

def requestForChannel (config : HeatPumpConfig) (channelId : String) : Option Request :=
  config.requests.find? fun request => request.records.any (·.channelId = channelId)

def requestByBytes (config : HeatPumpConfig) (requestByte : String) : Option Request :=
  config.requests.find? (·.requestByte = upper requestByte)

end HeatPumpConfig

end HeatpumpGateway
