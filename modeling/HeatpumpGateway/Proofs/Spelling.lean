import HeatpumpGateway.Lib.Fallible
import HeatpumpGateway.Model.Loader
import HeatpumpGateway.Proofs.Requests

/-!
# How commands are spelled

A file may write a command in either case. The channels are put together under the upper-cased
commands, but a write goes by the command as its channel has it, and the loader keeps what it
reads. So that the spelling matters nowhere is a property of the whole program: every function
is taken from a configuration to its canonical spelling, from the records of a frame up to the
routes, and what comes out is the same program (`serve_canonical`).
-/

namespace HeatpumpGateway

open CommunicationService

/-! ## The canonical spelling -/

/-- The text with the letters from `a` to `z` in upper case. -/
def foldLetters (text : String) : String := String.ofList (text.toList.map Char.toUpper)

/-- The channel with its commands in upper case. An empty second command is none. -/
def ChannelDefinition.canonical (c : ChannelDefinition) : ChannelDefinition :=
  { c with
    requestByte := foldLetters c.requestByte
    requestByte2 := (c.requestByte2.filter fun text => text ≠ "").map foldLetters }

def Request.canonical (r : Request) : Request :=
  { r with records := r.records.map ChannelDefinition.canonical }

def HeatPumpConfig.canonical (config : HeatPumpConfig) : HeatPumpConfig :=
  { config with channels := config.channels.map ChannelDefinition.canonical }

/-- The entries of a dictionary of channels. -/
def canonicalEntry {κ : Type} (entry : κ × ChannelDefinition) : κ × ChannelDefinition :=
  (entry.1, entry.2.canonical)

theorem toList_foldLetters (text : String) :
    (foldLetters text).toList = text.toList.map Char.toUpper :=
  String.toList_ofList

/-- The grouping makes nothing of the case of a letter. -/
@[simp] theorem upper_foldLetters (text : String) : upper (foldLetters text) = upper text := by
  rw [upper, upper, toList_foldLetters, List.flatMap_map]
  exact congrArg String.ofList (List.flatMap_congr fun c _ => upperChar_toUpper c)

@[simp] theorem foldLetters_eq_empty_iff {text : String} : foldLetters text = "" ↔ text = "" := by
  rw [foldLetters, String.ofList_eq_empty_iff, List.map_eq_nil_iff, String.toList_eq_nil_iff]

theorem fromHex_foldLetters (text : String) : fromHex (foldLetters text) = fromHex text := by
  rw [fromHex, fromHex, toList_foldLetters, hexPairs_toUpper]

@[simp] theorem ChannelDefinition.canonical_requestKey (c : ChannelDefinition) :
    c.canonical.requestKey = c.requestKey := by
  rw [requestKey_eq, requestKey_eq, foldCase, foldCase]
  simp only [commands, canonical, upper_foldLetters]
  cases c.requestByte2 with
  | none => rfl
  | some text =>
      by_cases hempty : text = ""
      · simp [Option.filter_some, hempty]
      · simp [Option.filter_some, hempty]

/-- A write goes by the same bytes. -/
theorem ChannelDefinition.canonical_fromHex (c : ChannelDefinition) :
    fromHex c.canonical.requestByte = fromHex c.requestByte :=
  fromHex_foldLetters c.requestByte

/-! ## Records -/

theorem parseRecords_canonical (response : Bytes) (records : List ChannelDefinition)
    (response2 : Option Bytes) :
    parseRecords response (records.map ChannelDefinition.canonical) response2
      = parseRecords response records response2 := by
  rw [parseRecords, parseRecords, List.foldlM_map]
  rfl

section items

variable (items : List (DecodedValue × ChannelDefinition))

theorem composeAll_canonical (frame : Bytes) :
    composeAll (items.map canonicalEntry) frame = composeAll items frame := by
  rw [composeAll, composeAll, List.foldlM_map]
  rfl

theorem decodeAll_canonical (frame : Bytes) :
    decodeAll frame (items.map canonicalEntry) = decodeAll frame items := by
  rw [decodeAll, decodeAll, List.foldlM_map]
  rfl

theorem writeBack_canonical (waitingTime : Nat) (channelIds : String) (readResponse : Bytes) :
    writeBack waitingTime (items.map canonicalEntry) channelIds readResponse
      = writeBack waitingTime items channelIds readResponse := by
  simp only [writeBack, composeAll_canonical, decodeAll_canonical]

theorem writeValues_canonical (waitingTime : Nat) :
    writeValues waitingTime (items.map canonicalEntry) = writeValues waitingTime items := by
  cases items with
  | nil => rfl
  | cons item items =>
      obtain ⟨value, record⟩ := item
      have hids : (((value, record) :: items).map canonicalEntry).map (·.2.channelId)
          = ((value, record) :: items).map (·.2.channelId) := by
        rw [List.map_map]
        rfl
      have hback := writeBack_canonical ((value, record) :: items)
      rw [List.map_cons, canonicalEntry] at hids hback ⊢
      rw [writeValues, writeValues, record.canonical_fromHex]
      rw [hids]
      simp only [hback]

end items

/-! ## Conversations -/

variable {waitingTime : Nat}

theorem readAttempt_canonical (request : Request) :
    readAttempt waitingTime request.canonical = readAttempt waitingTime request := by
  simp only [readAttempt, Request.canonical, parseRecords_canonical]
  rfl

theorem readLoop_canonical (request : Request) (attempts : Nat) :
    ∀ lastError, readLoop waitingTime request.canonical attempts lastError
      = readLoop waitingTime request attempts lastError := by
  induction attempts with
  | zero => intro lastError; rfl
  | succ attempts ih =>
      intro lastError
      rw [readLoop, readLoop, readAttempt_canonical]
      simp only [ih]

theorem readRequest_canonical (request : Request) :
    readRequest waitingTime request.canonical = readRequest waitingTime request :=
  readLoop_canonical request MAX_TRIES none

theorem readRequestsFrom_canonical (requests : List Request) :
    ∀ data, readRequestsFrom waitingTime (requests.map Request.canonical) data
      = readRequestsFrom waitingTime requests data := by
  induction requests with
  | nil => intro data; rfl
  | cons request requests ih =>
      intro data
      rw [List.map_cons, readRequestsFrom, readRequestsFrom, readRequest_canonical]
      simp only [ih, List.map_eq_nil_iff]

theorem readRequests_canonical (requests : List Request) :
    readRequests waitingTime (requests.map Request.canonical) = readRequests waitingTime requests :=
  readRequestsFrom_canonical requests []

theorem clockItems_canonical (records : List ChannelDefinition)
    (values : Dict String DecodedValue) :
    clockItems (records.map ChannelDefinition.canonical) values
      = (clockItems records values).map canonicalEntry := by
  rw [clockItems, clockItems, List.filterMap_map, List.map_filterMap]
  refine List.filterMap_congr fun record _ => ?_
  show (values.get? record.channelId).map (·, record.canonical) = _
  rw [Option.map_map]
  rfl

theorem setTimeViaRegisters_canonical (clockRecords : Dict String ChannelDefinition)
    (values : Dict String DecodedValue) (fields : List String) :
    ∀ written,
      setTimeViaRegisters waitingTime (clockRecords.map canonicalEntry) values fields written
        = setTimeViaRegisters waitingTime clockRecords values fields written := by
  have hget : ∀ field, Dict.get? (clockRecords.map canonicalEntry) field
      = (clockRecords.get? field).map ChannelDefinition.canonical :=
    Dict.get?_map ChannelDefinition.canonical clockRecords
  induction fields with
  | nil => intro written; rfl
  | cons field fields ih =>
      intro written
      rw [setTimeViaRegisters, setTimeViaRegisters, hget]
      cases clockRecords.get? field with
      | none => exact ih written
      | some record =>
          cases values.get? field with
          | none => exact ih written
          | some value =>
              have hwrite := @writeValues_canonical [(value, record)] waitingTime
              simp only [List.map_cons, List.map_nil, canonicalEntry] at hwrite
              simp only [Option.map_some, hwrite, ih]

theorem setTimeViaFrame_canonical (request : Request) (values : Dict String DecodedValue) :
    setTimeViaFrame waitingTime request.canonical values
      = setTimeViaFrame waitingTime request values := by
  have hwritten : ∀ items : List (DecodedValue × ChannelDefinition),
      (items.map canonicalEntry).map (fun item => (item.2.channelId, item.1))
        = items.map fun item => (item.2.channelId, item.1) := by
    intro items
    rw [List.map_map]
    rfl
  simp only [setTimeViaFrame, Request.canonical, clockItems_canonical, composeAll_canonical,
    hwritten]
  rfl

theorem readClock_canonical (request : Option Request) :
    readClock (request.map Request.canonical) = readClock request := by
  cases request with
  | none => rfl
  | some request =>
      simp only [Option.map_some, readClock, Request.canonical, parseRecords_canonical]
      rfl

theorem talkSetTime_canonical (now : DateTime) (request : Option Request)
    (clockRecords : Dict String ChannelDefinition) :
    setTime waitingTime now (request.map Request.canonical) (clockRecords.map canonicalEntry)
      = setTime waitingTime now request clockRecords := by
  rw [setTime.eq_def, setTime.eq_def]
  simp only [readClock_canonical, setTimeViaRegisters_canonical, ne_eq, List.map_eq_nil_iff]
  by_cases hregisters : clockRecords = []
  · simp only [hregisters, not_true_eq_false, if_false]
    cases request with
    | none => rfl
    | some request => simp only [Option.map_some, setTimeViaFrame_canonical]
  · simp only [hregisters, not_false_eq_true, if_true]

/-! ## Configurations -/

def Grouping.canonical (g : Grouping) : Grouping :=
  { g with requests := g.requests.map Request.canonical }

theorem Grouping.add_canonical (g : Grouping) (c : ChannelDefinition) :
    g.canonical.add c.canonical = (g.add c).canonical := by
  have hindex : g.canonical.index = g.index := rfl
  simp only [Grouping.add, c.canonical_requestKey, hindex]
  cases g.index.get? c.requestKey with
  | some i =>
      refine congrArg (Grouping.mk · g.index) ?_
      refine List.ext_getElem? fun j => ?_
      simp only [canonical, List.getElem?_modify, List.getElem?_map]
      cases g.requests[j]? with
      | none => rfl
      | some r =>
          by_cases h : i = j
          · simp [h, Request.canonical]
          · simp [h]
  | none => simp [canonical, Request.canonical]

theorem groupRequests_canonical (channels : List ChannelDefinition) :
    groupRequests (channels.map ChannelDefinition.canonical)
      = (groupRequests channels).map Request.canonical := by
  have hfold : ∀ g : Grouping,
      (channels.map ChannelDefinition.canonical).foldl Grouping.add g.canonical
        = (channels.foldl Grouping.add g).canonical := by
    induction channels with
    | nil => intro g; rfl
    | cons c channels ih =>
        intro g
        rw [List.map_cons, List.foldl_cons, List.foldl_cons, g.add_canonical, ih]
  exact congrArg Grouping.requests (hfold {})

namespace HeatPumpConfig

variable (config : HeatPumpConfig)

theorem requests_canonical : config.canonical.requests = config.requests.map Request.canonical :=
  groupRequests_canonical config.channels

theorem channel_canonical (channelId : String) :
    config.canonical.channel channelId
      = (config.channel channelId).map ChannelDefinition.canonical := by
  have hbyId : config.canonical.byId = config.byId.map canonicalEntry := by
    refine Eq.trans ?_ (Dict.update_map ChannelDefinition.canonical _ []).symm
    rw [byId, canonical, List.map_map, List.map_map]
    rfl
  rw [channel, hbyId]
  exact Dict.get?_map ChannelDefinition.canonical config.byId channelId

theorem requestForChannel_canonical (channelId : String) :
    config.canonical.requestForChannel channelId
      = (config.requestForChannel channelId).map Request.canonical := by
  rw [requestForChannel, requestForChannel, requests_canonical, List.find?_map]
  refine congrArg (fun p => (config.requests.find? p).map Request.canonical) (funext fun r => ?_)
  exact List.any_map

theorem requestByBytes_canonical (requestByte : String) :
    config.canonical.requestByBytes requestByte
      = (config.requestByBytes requestByte).map Request.canonical := by
  rw [requestByBytes, requestByBytes, requests_canonical, List.find?_map]
  rfl

/-- Requests of one configuration are told apart by their commands. -/
theorem canonical_mem_iff {request : Request} (h : request ∈ config.requests)
    {requests : List Request} (hsub : ∀ r ∈ requests, r ∈ config.requests) :
    request.canonical ∈ requests.map Request.canonical ↔ request ∈ requests := by
  refine ⟨fun hmem => ?_, List.mem_map_of_mem⟩
  obtain ⟨r, hr, heq⟩ := List.mem_map.mp hmem
  have hkey : r.canonical.key = request.canonical.key := congrArg Request.key heq
  rwa [← List.inj_on_of_nodup_map (requests_keys_nodup config) (hsub r hr) h hkey]

end HeatPumpConfig

/-- A fold may be mapped step by step where what the steps keep allows it. -/
theorem foldl_hom_of {α β γ : Type} {f : β → α → β} {f' : γ → α → γ} {g : β → γ} {I : β → Prop}
    (h : ∀ b a, I b → f' (g b) a = g (f b a) ∧ I (f b a)) (xs : List α) :
    ∀ b, I b → xs.foldl f' (g b) = g (xs.foldl f b) := by
  induction xs with
  | nil => intro b _; rfl
  | cons x xs ih =>
      intro b hb
      obtain ⟨hstep, hnext⟩ := h b x hb
      rw [List.foldl_cons, List.foldl_cons, hstep]
      exact ih _ hnext

/-! ## The service -/

namespace HeatPumpService

variable (config : HeatPumpConfig)

theorem requestsFor_canonical (channelIds : List String) :
    requestsFor config.canonical channelIds
      = (requestsFor config channelIds).map Request.canonical := by
  rw [requestsFor, requestsFor]
  refine foldl_hom_of (g := List.map Request.canonical)
    (I := fun requests => ∀ r ∈ requests, r ∈ config.requests)
    (fun requests channelId hsub => ?_) channelIds [] (by simp)
  rw [config.requestForChannel_canonical]
  cases hfind : config.requestForChannel channelId with
  | none => exact ⟨rfl, hsub⟩
  | some request =>
      have hin : request ∈ config.requests := List.mem_of_find?_eq_some hfind
      simp only [Option.map_some, config.canonical_mem_iff hin hsub]
      split
      · exact ⟨rfl, hsub⟩
      · refine ⟨by simp, List.forall_mem_append.mpr ⟨hsub, ?_⟩⟩
        exact List.forall_mem_singleton.mpr hin

theorem collect_canonical (keep : ChannelDefinition → Bool)
    (hkeep : ∀ record, keep record.canonical = keep record) (data : Dict String DecodedValue) :
    collect config.canonical keep data = collect config keep data := by
  rw [collect, collect]
  refine List.filterMap_congr fun entry _ => ?_
  rw [config.channel_canonical]
  cases config.channel entry.1 with
  | none => rfl
  | some record =>
      simp only [Option.map_some, hkeep]
      rfl

theorem clockRecords_canonical :
    clockRecords config.canonical = (clockRecords config).map canonicalEntry := by
  rw [clockRecords, clockRecords, List.map_filterMap]
  refine List.filterMap_congr fun entry _ => ?_
  rw [config.channel_canonical, Option.map_map, Option.map_map]
  rfl

theorem readChannel_canonical (channelId : String) :
    readChannel config.canonical waitingTime channelId
      = readChannel config waitingTime channelId := by
  rw [readChannel, readChannel, prepareReadChannel, prepareReadChannel, requireChannel,
    requireChannel, config.channel_canonical, config.requestForChannel_canonical]
  cases config.channel channelId with
  | none => rfl
  | some record =>
      cases config.requestForChannel channelId with
      | none => rfl
      | some request =>
          simp only [Option.map_some, readRequest_canonical]
          rfl

theorem readChannels_canonical (channelIds : List String) :
    readChannels config.canonical waitingTime channelIds
      = readChannels config waitingTime channelIds := by
  have hcollect := @collect_canonical config (fun record => record.channelId ∈ channelIds)
    fun _ => rfl
  simp only [readChannels, prepareReadChannels, config.channel_canonical, Option.isNone_map,
    requestsFor_canonical, readRequests_canonical, hcollect]

theorem readAll_canonical (dataTypes : List DataType) :
    readAll config.canonical waitingTime dataTypes = readAll config waitingTime dataTypes := by
  have hcollect := @collect_canonical config
    (fun record => record.dataType ∈ typesOrDefault dataTypes) fun _ => rfl
  have hany : (fun request : Request => request.canonical.records.any
        (·.dataType ∈ typesOrDefault dataTypes))
      = fun request => request.records.any (·.dataType ∈ typesOrDefault dataTypes) :=
    funext fun request => List.any_map
  simp only [readAll, prepareReadAll, config.requests_canonical, List.filter_map, hcollect]
  rw [readRequests_canonical]
  exact congrArg (fun p => perform (.ok (do
    let data ← readRequests waitingTime (config.requests.filter p)
    return collect config (fun record => record.dataType ∈ typesOrDefault dataTypes) data))) hany

theorem writeChannel_canonical (channelId : String) (value : CallerValue) :
    writeChannel config.canonical waitingTime channelId value
      = writeChannel config waitingTime channelId value := by
  rw [writeChannel, writeChannel, prepareWriteChannel, prepareWriteChannel, requireChannel,
    requireChannel, config.channel_canonical]
  cases config.channel channelId with
  | none => rfl
  | some record =>
      have hcoerce : coerce record.canonical value = coerce record value := rfl
      have hwritable : record.canonical.writable = record.writable := rfl
      have hwrite : ∀ coerced, writeData waitingTime coerced record.canonical
          = writeData waitingTime coerced record := fun coerced =>
        @writeValues_canonical [(coerced, record)] waitingTime
      simp only [Option.map_some, Fallible.ok_bind, hcoerce, hwritable, hwrite]
      rfl

theorem getVersion_canonical :
    getVersion config.canonical waitingTime = getVersion config waitingTime := by
  rw [getVersion, getVersion, prepareGetVersion, prepareGetVersion,
    config.requestByBytes_canonical]
  cases config.requestByBytes "FD" with
  | none => rfl
  | some request => simp only [Option.map_some, CommunicationService.getVersion,
      readRequest_canonical]

theorem setTime_canonical (now : DateTime) :
    setTime config.canonical waitingTime now = setTime config waitingTime now := by
  rw [setTime, setTime, prepareSetTime, prepareSetTime, config.requestByBytes_canonical,
    clockRecords_canonical, talkSetTime_canonical]

end HeatPumpService

/-! ## The application -/

def App.canonical (app : App) : App := { app with config := app.config.canonical }

/-- A request is served by the same program. -/
theorem App.serve_canonical (app : App) (hasService : Bool) (request : HttpRequest) :
    app.canonical.serve hasService request = app.serve hasService request := by
  have hroute : app.canonical.route hasService request = app.route hasService request := by
    cases request with
    | root =>
        have hrequests := congrArg List.length app.config.requests_canonical
        have hchannels : app.config.canonical.channels.length = app.config.channels.length :=
          List.length_map _
        rw [List.length_map] at hrequests
        simp only [route, root, canonical, hrequests, hchannels]
        rfl
    | health => rfl
    | version =>
        simp only [route, version, canonical, HeatPumpService.getVersion_canonical]
    | listChannels dataType writable =>
        have hinfos : app.canonical.config.channels.map ChannelInfo.fromDefinition
            = app.config.channels.map ChannelInfo.fromDefinition :=
          List.map_map
        simp only [route, listChannels, hinfos]
    | readValues ids dataType =>
        simp only [route, readValues, canonical, HeatPumpService.readChannels_canonical,
          HeatPumpService.readAll_canonical]
    | readChannel channelId =>
        simp only [route, readChannel, canonical, HeatPumpService.readChannel_canonical]
    | writeChannel channelId value =>
        simp only [route, writeChannel, canonical, HeatPumpService.writeChannel_canonical]
    | setTime now =>
        simp only [route, setTime, canonical, HeatPumpService.setTime_canonical]
  rw [serve, serve, hroute]

/-! ## The simulated device -/

namespace HeatPumpSimulator

def canonical (sim : HeatPumpSimulator) : HeatPumpSimulator :=
  { sim with
    config := sim.config.canonical
    commandToRequest := sim.commandToRequest.map fun entry => (entry.1, entry.2.canonical) }

theorem buildFrame_canonical (request : Request) (commandBytes : Bytes) :
    buildFrame request.canonical commandBytes = buildFrame request commandBytes := by
  have hend : dataEnd (request.records.map ChannelDefinition.canonical)
      = dataEnd request.records := by
    rw [dataEnd, dataEnd, List.map_map]
    rfl
  simp only [buildFrame, Request.canonical, hend]

theorem addRequest_canonical (sim : HeatPumpSimulator) (request : Request) :
    sim.canonical.addRequest request.canonical = (sim.addRequest request).map canonical := by
  have hset : ∀ (commands : Dict Command Request) (command : Command),
      Dict.set (commands.map fun entry => (entry.1, entry.2.canonical)) command request.canonical
        = (commands.set command request).map fun entry => (entry.1, entry.2.canonical) :=
    fun commands command => (Dict.set_map Request.canonical commands command request).symm
  have hfirst : request.canonical.requestByte = request.requestByte := rfl
  have hsecond : request.canonical.requestByte2 = request.requestByte2 := rfl
  simp only [addRequest, hfirst, hsecond, buildFrame_canonical, canonical, hset]
  refine Fallible.bind_map _ fun command => Fallible.bind_map _ fun frame => ?_
  cases request.requestByte2 with
  | none => rfl
  | some second =>
      by_cases hempty : second = ""
      · simp only [hempty, if_true]
        rfl
      · simp only [hempty, if_false]
        exact Fallible.bind_map _ fun command2 => Fallible.bind_map _ fun frame2 => rfl

theorem setValue_canonical (sim : HeatPumpSimulator) (channelId : String)
    (value : DecodedValue) :
    sim.canonical.setValue channelId value = (sim.setValue channelId value).map canonical := by
  have hchannel := sim.config.channel_canonical channelId
  have hrequest := sim.config.requestForChannel_canonical channelId
  rw [setValue, setValue, show sim.canonical.config = sim.config.canonical from rfl, hchannel,
    hrequest]
  cases sim.config.channel channelId with
  | none => rfl
  | some record =>
      cases sim.config.requestForChannel channelId with
      | none => rfl
      | some request =>
          have hfirst : request.canonical.requestByte = request.requestByte := rfl
          have hsecond : request.canonical.requestByte2 = request.requestByte2 := rfl
          have hencode : ∀ frame value, encode frame record.canonical value
              = encode frame record value := fun _ _ => rfl
          have hstore : sim.canonical.store = sim.store := rfl
          have hframe : sim.canonical.frameOf = sim.frameOf := rfl
          simp only [Option.map_some, hfirst, hsecond, hencode, hstore, hframe]
          split
          · split
            · exact Fallible.bind_map _ fun frame => Fallible.bind_map _ fun _ => rfl
            · exact Fallible.bind_map _ fun frame => Fallible.bind_map _ fun _ => rfl
          · split
            · exact Fallible.bind_map _ fun frame => Fallible.bind_map _ fun _ => rfl
            · refine Fallible.bind_map _ fun n => Fallible.bind_map _ fun frame => ?_
              refine Fallible.bind_map _ fun frame2 => Fallible.bind_map _ fun _ => ?_
              exact Fallible.bind_map _ fun _ => rfl
          · exact Fallible.bind_map _ fun frame => Fallible.bind_map _ fun _ => rfl

theorem create_canonical (config : HeatPumpConfig) (seedValues : Dict String DecodedValue) :
    create config.canonical seedValues = (create config seedValues).map canonical := by
  have hversion : defaultVersion config.canonical = defaultVersion config := rfl
  have hrequests := Fallible.foldlM_hom addRequest_canonical config.requests { config := config }
  have hseeds : ∀ (seeds : Dict String DecodedValue) (sim : HeatPumpSimulator),
      seeds.foldlM (fun (sim : HeatPumpSimulator) seed => sim.setValue seed.1 seed.2) sim.canonical
        = (seeds.foldlM (fun (sim : HeatPumpSimulator) seed => sim.setValue seed.1 seed.2)
          sim).map canonical := by
    intro seeds sim
    have hfold := @Fallible.foldlM_hom _ _ _ _ _
      (fun (sim : HeatPumpSimulator) (seed : String × DecodedValue) => sim.setValue seed.1 seed.2)
      (fun (sim : HeatPumpSimulator) (seed : String × DecodedValue) => sim.setValue seed.1 seed.2)
      canonical id (fun sim seed => sim.setValue_canonical seed.1 seed.2) seeds sim
    rwa [List.map_id] at hfold
  rw [create, create, hversion, config.requests_canonical]
  have hstart : ({ config := config.canonical } : HeatPumpSimulator)
      = canonical { config := config } := rfl
  rw [hstart, hrequests]
  cases config.requests.foldlM addRequest { config := config } with
  | error e => rfl
  | ok sim => exact Fallible.bind_map _ fun version => hseeds _ sim

theorem matchCommand_canonical (sim : HeatPumpSimulator) (frame : Bytes) :
    sim.canonical.matchCommand frame = sim.matchCommand frame := by
  have hkeys : sim.canonical.commandToRequest.keys = sim.commandToRequest.keys := List.map_map
  rw [matchCommand, matchCommand, hkeys]

theorem buildResponse_canonical (sim : HeatPumpSimulator) (frame : Bytes) :
    sim.canonical.buildResponse frame
      = ((sim.buildResponse frame).1, (sim.buildResponse frame).2.canonical) := by
  rw [buildResponse, buildResponse, matchCommand_canonical]
  split
  · rfl
  · split
    · rfl
    · split <;> rfl

theorem feedByte_canonical (sim : HeatPumpSimulator) (byte : UInt8) :
    sim.canonical.feedByte byte = ((sim.feedByte byte).1, (sim.feedByte byte).2.canonical) := by
  rw [feedByte, feedByte, show sim.canonical.state = sim.state from rfl]
  cases sim.state with
  | idle =>
      simp only []
      split <;> rfl
  | collecting =>
      simp only [show sim.canonical.frameBuffer = sim.frameBuffer from rfl]
      split <;> rfl
  | awaitAck =>
      simp only [show sim.canonical.pending = sim.pending from rfl, buildResponse_canonical]
      split <;> rfl

theorem feed_canonical (data : Bytes) : ∀ sim : HeatPumpSimulator,
    sim.canonical.feed data = ((sim.feed data).1, (sim.feed data).2.canonical) := by
  induction data with
  | nil => intro sim; rfl
  | cons byte data ih =>
      intro sim
      simp only [feed, feedByte_canonical, ih]

end HeatPumpSimulator

def SimulatorTransport.canonical (t : SimulatorTransport) : SimulatorTransport :=
  { t with simulator := t.simulator.canonical }

theorem SimulatorTransport.answer_canonical (o : Op) (t : SimulatorTransport) :
    SimulatorTransport.answer o t.canonical
      = ((SimulatorTransport.answer o t).1, (SimulatorTransport.answer o t).2.canonical) := by
  cases o with
  | write data => simp only [answer, canonical, HeatPumpSimulator.feed_canonical]
  | get =>
      rw [answer, answer, show t.canonical.rx = t.rx from rfl]
      cases t.rx <;> rfl
  | openPort | closePort | sleep | mark => rfl

theorem simulated_canonical (config : HeatPumpConfig) :
    simulated config.canonical = (simulated config).map SimulatorTransport.canonical := by
  rw [simulated, simulated, HeatPumpSimulator.create_canonical]
  cases HeatPumpSimulator.create config [] <;> rfl

/-! ## Files -/

/-- Two elements with the same attributes, but for the case of the letters in the commands.
An empty second command is none. -/
structure Respelled (attrib attrib' : Attributes) : Prop where
  first : (attrib.get? "requestByte").map foldLetters
    = (attrib'.get? "requestByte").map foldLetters
  second : ((attrib.get? "requestByte2").filter (· ≠ "")).map foldLetters
    = ((attrib'.get? "requestByte2").filter (· ≠ "")).map foldLetters
  others : ∀ name, name ≠ "requestByte" → name ≠ "requestByte2" →
    attrib.get? name = attrib'.get? name

theorem channelOf_respelled {attrib attrib' : Attributes} (h : Respelled attrib attrib') :
    (ConfigLoader.channelOf attrib).map ChannelDefinition.canonical
      = (ConfigLoader.channelOf attrib').map ChannelDefinition.canonical := by
  have hfirst := h.first
  have hothers := h.others
  simp (disch := decide) only [ConfigLoader.channelOf, ConfigLoader.required, hothers]
  refine Fallible.bind_map_congr _ fun channelId => ?_
  cases hspelt : attrib.get? "requestByte" with
  | none =>
      rw [hspelt] at hfirst
      rw [Option.map_eq_none_iff.mp hfirst.symm]
      simp only [Fallible.error_bind]
  | some requestByte =>
      rw [hspelt] at hfirst
      obtain ⟨requestByte', hspelt', hfold⟩ := Option.map_eq_some_iff.mp hfirst.symm
      rw [hspelt']
      simp only [Fallible.ok_bind]
      -- What is read of the rest is the same, and so are the commands in upper case.
      refine Fallible.bind_map_congr _ fun text => Fallible.bind_map_congr _ fun dataType => ?_
      refine Fallible.bind_map_congr _ fun position => Fallible.bind_map_congr _ fun length => ?_
      refine Fallible.bind_map_congr _ fun scale => Fallible.bind_map_congr _ fun bitPosition => ?_
      refine Fallible.bind_map_congr _ fun min => Fallible.bind_map_congr _ fun max => ?_
      refine Fallible.bind_map_congr _ fun step => congrArg Except.ok ?_
      simp only [ChannelDefinition.canonical, hfold, h.second]

section files

variable {records records' : List Attributes} {title stem : String}

theorem buildApp_respelled (h : List.Forall₂ Respelled records records') :
    (buildApp title waitingTime stem records).map App.canonical
      = (buildApp title waitingTime stem records').map App.canonical := by
  have hchannels := Fallible.mapM_map_congr (h.imp fun _ _ => channelOf_respelled)
  have hbuild : ∀ records : List Attributes,
      (buildApp title waitingTime stem records).map App.canonical
        = ((records.mapM ConfigLoader.channelOf).map (List.map ChannelDefinition.canonical)).map
          fun channels => ⟨title, ⟨channels, stem⟩, waitingTime⟩ := by
    intro records
    rw [buildApp, ConfigLoader.loadXml]
    cases records.mapM ConfigLoader.channelOf <;> rfl
  rw [hbuild, hbuild, hchannels]

/-- Two files that differ in the case of their commands are one to the gateway. Both are
turned down for the same reason, or the applications made of them serve every request by the
same program: they send the same bytes and make the same of every answer. -/
theorem respelled_file (h : List.Forall₂ Respelled records records') :
    (buildApp title waitingTime stem records).map App.serve
      = (buildApp title waitingTime stem records').map App.serve := by
  have hserve : ∀ built : Except LoadError App,
      built.map App.serve = (built.map App.canonical).map App.serve := by
    intro built
    cases built with
    | error e => rfl
    | ok app =>
        have heq : app.canonical.serve = app.serve := funext₂ app.serve_canonical
        exact congrArg Except.ok heq.symm
  rw [hserve, buildApp_respelled h, ← hserve]

/-- The responses to requests that are served one after another on a simulated device. -/
def App.responses (app : App) :
    List HttpRequest → SimulatorTransport → List (Except Exc Response)
  | [], _ => []
  | request :: requests, t =>
      let (response, t') := Dialogue.run SimulatorTransport.answer (app.serve true request) t
      response :: app.responses requests t'

/-- A file to the responses of the gateway, with the device simulated from the same file. -/
def simulate (title : String) (waitingTime : Nat) (stem : String) (records : List Attributes)
    (requests : List HttpRequest) : Except LoadError (List (Except Exc Response)) := do
  let app ← buildApp title waitingTime stem records
  let transport ← (simulated app.config).mapError .raised
  return app.responses requests transport

theorem App.responses_canonical (app : App) (requests : List HttpRequest) :
    ∀ t : SimulatorTransport,
      app.canonical.responses requests t.canonical = app.responses requests t := by
  induction requests with
  | nil => intro t; rfl
  | cons request requests ih =>
      intro t
      have hrun := Dialogue.run_hom SimulatorTransport.answer_canonical (app.serve true request) t
      simp only [responses, app.serve_canonical, hrun, ih]

/-- The simulator takes its commands from the file too, and with it the gateway gives the same
responses to the same requests. -/
theorem respelled_simulation (h : List.Forall₂ Respelled records records')
    (requests : List HttpRequest) :
    simulate title waitingTime stem records requests
      = simulate title waitingTime stem records' requests := by
  have hcanonical : ∀ records : List Attributes,
      simulate title waitingTime stem records requests
        = ((buildApp title waitingTime stem records).map App.canonical >>= fun app => do
            let transport ← (simulated app.config).mapError LoadError.raised
            return app.responses requests transport) := by
    intro records
    rw [simulate]
    cases buildApp title waitingTime stem records with
    | error e => rfl
    | ok app =>
        have hsimulated : simulated app.canonical.config
            = (simulated app.config).map SimulatorTransport.canonical :=
          simulated_canonical app.config
        show _ = ((simulated app.canonical.config).mapError LoadError.raised >>= _)
        rw [hsimulated, Fallible.ok_bind]
        cases simulated app.config with
        | error e => rfl
        | ok t => exact congrArg Except.ok (app.responses_canonical requests t).symm
  rw [hcanonical, buildApp_respelled h, ← hcanonical]

end files

/-- The set point of the room temperature by day, as a file has it. -/
def roomTempElement : Attributes :=
  [("channelid", "p01RoomTempDay"), ("requestByte", "0B0005"), ("dataType", "Settings"),
    ("position", "6"), ("length", "2"), ("scale", "0.1"), ("min", "10"), ("max", "30"),
    ("step", "0.1")]

theorem roomTempElement_respelled :
    Respelled roomTempElement (roomTempElement.set "requestByte" "0b0005") where
  first := by decide +kernel
  second := by decide +kernel
  others name hfirst _ := (Dict.get?_set_ne roomTempElement hfirst.symm _).symm

theorem respelled_file_roomTemp :
    (∃ app, buildApp "Heat Pump" 0 "LWZ" [roomTempElement] = .ok app) ∧
      (buildApp "Heat Pump" 0 "LWZ" [roomTempElement]).map App.serve
        = (buildApp "Heat Pump" 0 "LWZ" [roomTempElement.set "requestByte" "0b0005"]).map
          App.serve :=
  ⟨⟨_, rfl⟩, respelled_file (.cons roomTempElement_respelled .nil)⟩

/-- The set point is put between two readings of it. -/
def roomTempRequests : List HttpRequest :=
  [.readChannel "p01RoomTempDay", .writeChannel "p01RoomTempDay" (.int 20),
    .readChannel "p01RoomTempDay"]

theorem respelled_simulation_roomTemp :
    (simulate "Heat Pump" 0 "LWZ" [roomTempElement] roomTempRequests).map
        (List.map Except.toOption)
      = .ok [some ⟨200, .value ⟨"p01RoomTempDay", .float (.finite 0), none, .settings, true⟩⟩,
          some ⟨200, .value ⟨"p01RoomTempDay", .float (.finite 20), none, .settings, true⟩⟩,
          some ⟨200, .value ⟨"p01RoomTempDay", .float (.finite 20), none, .settings, true⟩⟩] ∧
    simulate "Heat Pump" 0 "LWZ" [roomTempElement] roomTempRequests
      = simulate "Heat Pump" 0 "LWZ" [roomTempElement.set "requestByte" "0b0005"]
        roomTempRequests :=
  ⟨by decide +kernel, respelled_simulation (.cons roomTempElement_respelled .nil) _⟩

end HeatpumpGateway
