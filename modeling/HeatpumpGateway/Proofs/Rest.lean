import HeatpumpGateway.Proofs.Encoders
import HeatpumpGateway.Proofs.Order
import HeatpumpGateway.Proofs.Routes
import HeatpumpGateway.Proofs.ValueMap

/-!
# The remaining calls on a device at rest

A channel that is read or written is one call on the map a device at rest stands for
(`run_call`). The remaining calls are here: a sweep of whole categories, the version, and the
clock, which is set register by register, or all at once in the frame of older devices. With
them every call of the service is a call on the map (`run_serves`).
-/

namespace HeatpumpGateway

open Dialogue Fallible CommunicationService

/-! ## The calls on a map -/

/-- What a call returns, as the API passes it on. -/
def Reply.body : Reply → Body
  | one value => .value value
  | many values => .values values

/-- A call of the service, before it takes the lock and under it. -/
def prepareCall (config : HeatPumpConfig) (waitingTime : Nat) :
    ServiceCall → Except Exc (Talk Body)
  | .readChannel channelId =>
      (HeatPumpService.prepareReadChannel config waitingTime channelId).map fun talk => do
        return .value (← talk)
  | .readChannels channelIds =>
      (HeatPumpService.prepareReadChannels config waitingTime channelIds).map fun talk => do
        return .values (← talk)
  | .writeChannel channelId value =>
      (HeatPumpService.prepareWriteChannel config waitingTime channelId value).map fun talk => do
        return .value (← talk)
  | .readAll dataTypes =>
      (HeatPumpService.prepareReadAll config waitingTime dataTypes).map fun talk => do
        return .values (← talk)
  | .getVersion =>
      (HeatPumpService.prepareGetVersion config waitingTime).map fun talk => do
        return .version (← talk)
  | .setTime now =>
      (HeatPumpService.prepareSetTime config waitingTime now).map fun talk => do
        return .clock (← talk)

/-- The channels of some categories, in the order a sweep comes to them. -/
def categorised (config : HeatPumpConfig) (dataTypes : List DataType) : List ChannelDefinition :=
  ((config.requests.filter fun request =>
    request.records.any (·.dataType ∈ dataTypes)).flatMap Request.records).filter
      (·.dataType ∈ dataTypes)

/-- Clock registers set one after another, up to the first that is turned down: what has been
written by then, and the map it leaves. -/
def setRegisters (clockRecords : Dict String ChannelDefinition)
    (values : Dict String DecodedValue) :
    List String → Dict String DecodedValue → Values →
      Except Exc (Dict String DecodedValue) × Values
  | [], written, m => (.ok written, m)
  | field :: fields, written, m =>
      match clockRecords.get? field, values.get? field with
      | some record, some value =>
          match accept record value with
          | .error e => (.error e, m)
          | .ok stored =>
              setRegisters clockRecords values fields (written.set record.channelId stored)
                (m.set record.channelId stored)
      | _, _ => setRegisters clockRecords values fields written m

/-- Values set all at once, or none of them. -/
def setItems : List (DecodedValue × ChannelDefinition) → Values → Except Exc Values
  | [], m => .ok m
  | (value, record) :: items, m => do
      let stored ← accept record value
      setItems items (m.set record.channelId stored)

/-- The `FC` register as it reads on the map. -/
def clockOf (config : HeatPumpConfig) (m : Values) : Dict String DecodedValue :=
  match config.requestByBytes "FC" with
  | none => []
  | some request => valuesOf m request

/-- What is reported of the clock once it is set. -/
def clockReport (config : HeatPumpConfig) (now : DateTime)
    (written : Dict String DecodedValue) (m : Values) : Dict String Reported :=
  let entries : Dict String Reported :=
    ((clockOf config m).update written).map fun kv => (kv.1, .value kv.2)
  entries.set "lastUpdate" (.text now.stamp)

/-- The clock on a map: by its registers, or else by the frame of the `FC` request. What is
reported of a frame are the values that were asked for. -/
def setClock (config : HeatPumpConfig) (now : DateTime) (m : Values) :
    Except Exc (Dict String Reported) × Values :=
  let clockRecords := HeatPumpService.clockRecords config
  if clockRecords ≠ [] then
    let outcome := setRegisters clockRecords (clockValues now) CLOCK_FIELDS [] m
    (outcome.1.map (clockReport config now · outcome.2), outcome.2)
  else
    match config.requestByBytes "FC" with
    | none => (.ok [], m)
    | some request =>
        let items := clockItems request.records (clockValues now)
        match setItems items m with
        | .error e => (.error e, m)
        | .ok m' =>
            let written := Dict.ofPairs (items.map fun item => (item.2.channelId, item.1))
            (.ok (clockReport config now written m'), m')

theorem setClock_frame {config : HeatPumpConfig} {now : DateTime} {m m' : Values}
    {request : Request} (hnone : HeatPumpService.clockRecords config = [])
    (hfind : config.requestByBytes "FC" = some request)
    (hitems : setItems (clockItems request.records (clockValues now)) m = .ok m') :
    setClock config now m
      = (.ok (clockReport config now (Dict.ofPairs
          ((clockItems request.records (clockValues now)).map fun item =>
            (item.2.channelId, item.1))) m'), m') := by
  rw [setClock, if_neg (not_not.mpr hnone), hfind]
  simp only [hitems]

/-- The version on a map. -/
def versionOf (config : HeatPumpConfig) (m : Values) : String :=
  match config.requestByBytes "FD" with
  | none => "<UNKNOWN_VERSION>"
  | some request =>
      if "version" ∈ request.records.map ChannelDefinition.channelId then (m "version").str
      else "<UNKNOWN_VERSION>"

/-- The calls on a map. -/
def answerCall (config : HeatPumpConfig) : Locked.Object ServiceCall Values Exc Body
  | .readChannel channelId, m =>
      ((answer config (.readChannel channelId) m).1.map Reply.body,
        (answer config (.readChannel channelId) m).2)
  | .readChannels channelIds, m =>
      ((answer config (.readChannels channelIds) m).1.map Reply.body,
        (answer config (.readChannels channelIds) m).2)
  | .writeChannel channelId value, m =>
      ((answer config (.writeChannel channelId value) m).1.map Reply.body,
        (answer config (.writeChannel channelId value) m).2)
  | .readAll dataTypes, m =>
      (.ok (.values ((categorised config (HeatPumpService.typesOrDefault dataTypes)).map
        fun record => HeatPumpService.toChannelValue record (m record.channelId))), m)
  | .getVersion, m => (.ok (.version (versionOf config m)), m)
  | .setTime now, m => ((setClock config now m).1.map Body.clock, (setClock config now m).2)

/-- The clock's channels are integers, as the values they are set to. -/
structure ClockIntegers (config : HeatPumpConfig) : Prop where
  registers : ∀ entry ∈ HeatPumpService.clockRecords config, entry.2.valueKind = .integer
  frame : ∀ request, config.requestByBytes "FC" = some request →
    ∀ record ∈ request.records, record.channelId ∈ CLOCK_FIELDS → record.valueKind = .integer

section calls

variable {config : HeatPumpConfig} {commands : Dict Command Request} {waitingTime : Nat}
  {m : Values} {t : SimulatorTransport}

/-- The call returns what it does on the map and leaves the device with its map. -/
def Serves (config : HeatPumpConfig) (commands : Dict Command Request) (waitingTime : Nat)
    (t : SimulatorTransport) (m : Values) (call : ServiceCall) : Prop :=
  (run SimulatorTransport.answer (Locked.whole (prepareCall config waitingTime) call) t).1
      = (answerCall config call m).1 ∧
    Represents config commands
      (run SimulatorTransport.answer (Locked.whole (prepareCall config waitingTime) call) t).2
      (answerCall config call m).2

theorem run_map {α β : Type} (p : Talk α) (f : α → β) (t : SimulatorTransport) :
    run SimulatorTransport.answer (do return f (← p)) t
      = ((run SimulatorTransport.answer p t).1.map f,
        (run SimulatorTransport.answer p t).2) := by
  rw [run_bind]
  obtain ⟨r, t'⟩ := run SimulatorTransport.answer p t
  cases r <;> rfl

/-- A whole call is what it prepares, with its result passed on. -/
theorem run_whole {C α β : Type} {prepare : C → Except Exc (Talk β)} {c : C}
    {prepared : Except Exc (Talk α)} {f : α → β}
    (h : prepare c = prepared.map fun talk => do return f (← talk)) (t : SimulatorTransport) :
    run SimulatorTransport.answer (Locked.whole prepare c) t
      = ((run SimulatorTransport.answer (HeatPumpService.perform prepared) t).1.map f,
        (run SimulatorTransport.answer (HeatPumpService.perform prepared) t).2) := by
  rw [Locked.whole, h]
  cases prepared with
  | error e => rfl
  | ok talk => exact run_map talk f t

/-- A conversation whose run is known. -/
theorem Serves.of_run {call : ServiceCall} {α : Type} {conversation : Talk α} {f : α → Body}
    {r : Except Exc α} {t' : SimulatorTransport} {m' : Values}
    (hprepare : prepareCall config waitingTime call = .ok (do return f (← conversation)))
    (hrun : run SimulatorTransport.answer conversation t = (r, t'))
    (hanswer : answerCall config call m = (r.map f, m')) (h : Represents config commands t' m') :
    Serves config commands waitingTime t m call := by
  rw [Serves, Locked.whole, hprepare, hanswer]
  simp only [run_map, hrun]
  exact ⟨trivial, h⟩

/-- The three calls whose answers are known. -/
theorem Serves.of_answers {c : Call} {call : ServiceCall} {α : Type}
    {prepared : Except Exc (Talk α)} (reply : α → Reply)
    (h : Answers config commands waitingTime t m c)
    (hprepare : prepare config waitingTime c = (do
      let talk ← prepared
      return do return reply (← talk)))
    (hcall : prepareCall config waitingTime call
      = prepared.map fun talk => do return (reply (← talk)).body)
    (hanswer : answerCall config call m
      = ((answer config c m).1.map Reply.body, (answer config c m).2)) :
    Serves config commands waitingTime t m call := by
  obtain ⟨hresult, hrep⟩ := h
  have hmapped : prepare config waitingTime c
      = prepared.map fun talk => do return reply (← talk) := by
    rw [hprepare]
    cases prepared <;> rfl
  rw [run_whole hmapped] at hresult hrep
  rw [Serves, run_whole hcall, hanswer, ← hresult]
  refine ⟨?_, hrep⟩
  cases (run SimulatorTransport.answer (HeatPumpService.perform prepared) t).1 <;> rfl

/-! ## Sweeps and the version -/

theorem serves_readAll (hregular : Regular config) (hcommands : Commands config commands)
    (h : Represents config commands t m) (dataTypes : List DataType) :
    Serves config commands waitingTime t m (.readAll dataTypes) := by
  obtain ⟨requests, hrequests⟩ : ∃ requests, requests = config.requests.filter fun request =>
      request.records.any (·.dataType ∈ HeatPumpService.typesOrDefault dataTypes) := ⟨_, rfl⟩
  have hsub : ∀ request ∈ requests, request ∈ config.requests := by
    intro request hin
    rw [hrequests] at hin
    exact List.mem_of_mem_filter hin
  have hnd : requests.Nodup := by
    rw [hrequests]
    exact (HeatPumpConfig.requests_keys_nodup config).of_map.filter _
  obtain ⟨t', hrun, hrep⟩ := run_readRequestsFrom waitingTime hregular hcommands requests [] h
    hsub (by
      rw [Dict.keys_nil, List.nil_append]
      exact HeatPumpConfig.flatMap_records_ids_nodup hregular.ids hnd hsub)
  rw [List.nil_append, flatMap_valuesOf] at hrun
  have hcollect := collect_eq hregular m
    (fun record => record.dataType ∈ HeatPumpService.typesOrDefault dataTypes)
    (requests.flatMap Request.records) (by
      intro record hr
      obtain ⟨request, hrequest, hin⟩ := List.mem_flatMap.mp hr
      exact ((HeatPumpConfig.mem_records (hsub request hrequest)).mp hin).1)
  have hread : run SimulatorTransport.answer (do
        let data ← readRequests waitingTime requests
        return HeatPumpService.collect config
          (fun record => record.dataType ∈ HeatPumpService.typesOrDefault dataTypes) data) t
      = (.ok ((categorised config (HeatPumpService.typesOrDefault dataTypes)).map fun record =>
          HeatPumpService.toChannelValue record (m record.channelId)), t') := by
    rw [readRequests, run_bind_ok _ hrun, hcollect, hrequests]
    rfl
  exact .of_run (by rw [hrequests]; rfl) hread rfl hrep

theorem valuesOf_get? (m : Values) (request : Request) (channelId : String) :
    (valuesOf m request).get? channelId
      = if channelId ∈ request.records.map ChannelDefinition.channelId then some (m channelId)
        else none := by
  rw [← valuesOf_keys m request]
  by_cases hmem : channelId ∈ (valuesOf m request).keys
  · rw [if_pos hmem]
    obtain ⟨v, hv⟩ := Dict.exists_get?_of_mem_keys hmem
    obtain ⟨record, _, heq⟩ := List.mem_map.mp (Dict.mem_of_get? hv)
    cases heq
    exact hv
  · rw [if_neg hmem, Dict.get?_eq_none_iff]
    exact hmem

theorem requestByBytes_mem {requestByte : String} {request : Request}
    (h : config.requestByBytes requestByte = some request) : request ∈ config.requests :=
  List.mem_of_find?_eq_some h

theorem serves_getVersion (hregular : Regular config) (hcommands : Commands config commands)
    (h : Represents config commands t m) :
    Serves config commands waitingTime t m .getVersion := by
  cases hfind : config.requestByBytes "FD" with
  | none =>
      have hprepare : prepareCall config waitingTime .getVersion
          = .ok (do return .version (← (return "<UNKNOWN_VERSION>" : Talk String))) := by
        rw [prepareCall, HeatPumpService.prepareGetVersion, hfind]
        rfl
      refine .of_run hprepare rfl ?_ h
      rw [answerCall, versionOf, hfind]
      rfl
  | some request =>
      obtain ⟨t', hread, hrep⟩ := run_readRequest waitingTime hregular hcommands h
        (requestByBytes_mem hfind)
      have hrun : run SimulatorTransport.answer
          (CommunicationService.getVersion waitingTime request) t
            = (.ok (versionOf config m), t') := by
        rw [CommunicationService.getVersion, run_bind_ok _ hread, valuesOf_get?, versionOf, hfind]
        by_cases hin : "version" ∈ request.records.map ChannelDefinition.channelId
        · simp only [if_pos hin]
          rfl
        · simp only [if_neg hin]
          rfl
      have hprepare : prepareCall config waitingTime .getVersion
          = .ok (do return .version (← CommunicationService.getVersion waitingTime request)) := by
        rw [prepareCall, HeatPumpService.prepareGetVersion, hfind]
        rfl
      exact .of_run hprepare hrun rfl hrep

/-! ## The clock's registers -/

theorem clockValues_int {now : DateTime} {field : String} {value : DecodedValue}
    (h : (clockValues now).get? field = some value) : ∃ n, value = .int n := by
  have hmem := Dict.mem_of_get? h
  simp only [clockValues, List.mem_cons, List.not_mem_nil, or_false, Prod.mk.injEq] at hmem
  rcases hmem with ⟨_, rfl⟩ | ⟨_, rfl⟩ | ⟨_, rfl⟩ | ⟨_, rfl⟩ | ⟨_, rfl⟩ <;> exact ⟨_, rfl⟩

theorem coerce_int {record : ChannelDefinition} (h : record.valueKind = .integer) (n : Int) :
    HeatPumpService.coerce record (.int n) = .ok (.int n) := by
  rw [HeatPumpService.coerce, h]
  rfl

theorem clockRecords_mem {field : String} {record : ChannelDefinition}
    (h : (HeatPumpService.clockRecords config).get? field = some record) :
    (field, record) ∈ HeatPumpService.clockRecords config ∧ record ∈ config.channels := by
  have hmem := Dict.mem_of_get? h
  refine ⟨hmem, ?_⟩
  obtain ⟨entry, _, hentry⟩ := List.mem_filterMap.mp hmem
  obtain ⟨record', hchannel, heq⟩ := Option.map_eq_some_iff.mp hentry
  cases heq
  exact (HeatPumpConfig.channel_mem hchannel).1

/-- Registers set one after another are set on the map. -/
theorem run_setTimeViaRegisters (waitingTime : Nat) (hregular : Regular config)
    (hcommands : Commands config commands) (hclock : ClockIntegers config) (now : DateTime)
    (fields : List String) :
    ∀ {t : SimulatorTransport} {m : Values} (written : Dict String DecodedValue),
      Represents config commands t m →
      ∃ t', run SimulatorTransport.answer (setTimeViaRegisters waitingTime
            (HeatPumpService.clockRecords config) (clockValues now) fields written) t
          = ((setRegisters (HeatPumpService.clockRecords config) (clockValues now) fields written
              m).1, t') ∧
        Represents config commands t' (setRegisters (HeatPumpService.clockRecords config)
          (clockValues now) fields written m).2 := by
  induction fields with
  | nil => intro t m written h; exact ⟨t, rfl, h⟩
  | cons field fields ih =>
      intro t m written h
      rw [setTimeViaRegisters, setRegisters]
      cases hrecord : (HeatPumpService.clockRecords config).get? field with
      | none => exact ih written h
      | some record =>
          cases hvalue : (clockValues now).get? field with
          | none => exact ih written h
          | some value =>
              obtain ⟨hentry, hmem⟩ := clockRecords_mem hrecord
              obtain ⟨n, rfl⟩ := clockValues_int hvalue
              simp only []
              cases hstored : accept record (.int n) with
              | error e =>
                  obtain ⟨t', hrun, hrep⟩ := run_writeData_rejected waitingTime hregular hcommands
                    h hmem hstored
                  rw [writeData] at hrun
                  refine ⟨t', ?_, hrep⟩
                  rw [run_bind_error _ hrun]
              | ok stored =>
                  obtain ⟨t₁, hrun, hrep⟩ := run_writeData_accepted waitingTime hregular hcommands
                    h hmem (coerce_int (hclock.registers _ hentry) n) hstored
                  rw [writeData] at hrun
                  obtain ⟨t', hrest, hrep'⟩ := ih (written.set record.channelId stored) hrep
                  refine ⟨t', ?_, hrep'⟩
                  rw [run_bind_ok _ hrun]
                  exact hrest

/-! ## The clock's frame -/

/-- The register of a request, and those of all requests, hold the values. -/
structure AllHold (config : HeatPumpConfig) (commands : Dict Command Request)
    (store : Dict String Bytes) (m : Values) (request : Request) (c : Command) (data : Bytes) :
    Prop where
  own : Holds commands store m request c data
  all : ∀ request' ∈ config.requests, ∃ c' data', Holds commands store m request' c' data'

/-- A value accepted for a channel of the request is in its frame from then on. -/
theorem AllHold.written {store : Dict String Bytes} (hregular : Regular config)
    {request : Request} (hrequest : request ∈ config.requests) {c : Command} {data data' : Bytes}
    (h : AllHold config commands store m request c data) {record : ChannelDefinition}
    (hin : record ∈ request.records) {stored : DecodedValue}
    (hwritten : Written c.bytes data data' record stored) :
    AllHold config commands (store.set c.text (registerFrame GET c.bytes data'))
      (m.set record.channelId stored) request c data' := by
  have hall := Holds.written hregular h.all hrequest h.own hin hwritten
  obtain ⟨c', data₁, hheld⟩ := hall request hrequest
  obtain rfl : c' = c := Command.ext_text (hheld.text.trans h.own.text.symm)
  have hframe := hheld.register.frame
  rw [Dict.get?_set_self] at hframe
  obtain rfl := registerFrame_inj.mp (Option.some.inj hframe)
  exact ⟨hheld, hall⟩

/-- A number is composed into a register's frame whatever the frame's status is. -/
theorem composeRecord_status {record : ChannelDefinition} {command data out : Bytes} {n : Int}
    (h : InData command data record) (hpos : 0 < record.length)
    (hcompose : composeRecord (.int n) (registerFrame GET command data) record = .ok out) :
    composeRecord (.int n) (registerFrame SET command data) record = .ok out := by
  rw [composeRecord_ok_iff] at hcompose ⊢
  obtain ⟨hcomposable, rfl⟩ := hcompose
  rw [registerFrame_length] at hcomposable ⊢
  refine ⟨hcomposable, ?_⟩
  obtain ⟨data', _, happly⟩ := h.apply_fieldWrites hpos (.int n) []
  have hsealed : ∀ getOrSet,
      sealed (fieldFrame (.int n) (registerFrame getOrSet command data) record)
        = registerFrame SET command data' := by
    intro getOrSet
    exact (congrArg sealed (happly SET _)).trans (sealed_register SET _ command data')
  exact (hsealed GET).trans (hsealed SET).symm

theorem composeRecord_turned_down {record : ChannelDefinition} {v : DecodedValue} {e : Exc}
    (getOrSet : UInt8) {command data : Bytes} (h : accept record v = .error e) :
    composeRecord v (registerFrame getOrSet command data) record = .error e := by
  have hstatus : setItem (registerFrame getOrSet command data) 1 SET
      = .ok ((registerFrame getOrSet command data).set 1 SET) :=
    setItem_eq SET (inRange_natCast (k := 1).mpr (by rw [registerFrame_length]; omega))
  rw [composeRecord_def, hstatus, ok_bind, fieldWritten_rejected h, error_bind]

/-- Items set on the map are composed into the register's frame, which is a SET of the register
once there is an item in it. -/
theorem composeAll_register (hregular : Regular config) {request : Request}
    (hrequest : request ∈ config.requests) {c : Command}
    (items : List (DecodedValue × ChannelDefinition)) :
    ∀ {store : Dict String Bytes} {m : Values} {data : Bytes} {getOrSet : UInt8},
      (getOrSet = GET ∨ getOrSet = SET) → AllHold config commands store m request c data →
      (∀ item ∈ items, item.2 ∈ request.records ∧ item.2.valueKind = .integer ∧
        ∃ n, item.1 = .int n) →
      (∀ e, setItems items m = .error e →
        composeAll items (registerFrame getOrSet c.bytes data) = .error e) ∧
      ∀ m', setItems items m = .ok m' → ∃ data',
        composeAll items (registerFrame getOrSet c.bytes data)
            = .ok (registerFrame (if items = [] then getOrSet else SET) c.bytes data') ∧
          AllHold config commands (store.set c.text (registerFrame GET c.bytes data')) m' request
            c data' := by
  induction items with
  | nil =>
      intro store m data getOrSet _ h _
      refine ⟨fun e he => (by cases he), fun m' hm' => ?_⟩
      cases hm'
      refine ⟨data, rfl, ?_⟩
      rw [Dict.set_of_get? h.own.register.frame]
      exact h
  | cons item items ih =>
      intro store m data getOrSet hstatus h hitems
      obtain ⟨value, record⟩ := item
      obtain ⟨hin, hkind, n, rfl⟩ := hitems (value, record) List.mem_cons_self
      have hhex : fromHex request.requestByte = .ok c.bytes := by
        rw [← h.own.text]
        exact c.hex
      have hrecord := hregular.records request hrequest c.bytes hhex record hin
      have hdata := h.own.inData record hin
      rw [composeAll, List.foldlM_cons, setItems]
      cases hstored : accept record (.int n) with
      | error e =>
          rw [composeRecord_turned_down getOrSet hstored]
          refine ⟨fun e' he => ?_, fun m' hm' => (by cases hm')⟩
          cases he
          rfl
      | ok stored =>
          obtain ⟨data₁, hcompose, hwritten⟩ :=
            composeRecord_register hrecord hdata (coerce_int hkind n) hstored
          have hcomposed : composeRecord (.int n) (registerFrame getOrSet c.bytes data) record
              = .ok (registerFrame SET c.bytes data₁) := by
            rcases hstatus with rfl | rfl
            · exact hcompose
            · have := hrecord.length
              exact composeRecord_status hdata (by omega) hcompose
          obtain ⟨hdown, haccepted⟩ := ih (.inr rfl) (h.written hregular hrequest hin hwritten)
            fun other hother => hitems other (List.mem_cons_of_mem _ hother)
          rw [hcomposed, ok_bind]
          refine ⟨fun e he => hdown e he, fun m' hm' => ?_⟩
          obtain ⟨data', hall, hhold⟩ := haccepted m' hm'
          rw [Dict.set_set] at hhold
          refine ⟨data', ?_, hhold⟩
          rw [ite_self] at hall
          rw [if_neg (List.cons_ne_nil _ _)]
          exact hall

/-- A frame that is sent back as it was read is a GET with data, and changes nothing. -/
theorem run_set_as_read {store : Dict String Bytes} {c : Command} {data : Bytes}
    (h : Rests commands store t) (hfree : PrefixFree commands.keys)
    (hregister : Register commands store c data) :
    ∃ r t', run SimulatorTransport.answer
          (Connector.setData (addDuplicatedBytes (registerFrame GET c.bytes data))) t
        = (.ok r, t') ∧
      Rests commands store t' := by
  obtain ⟨sim, rx⟩ := t
  obtain rfl : rx = [] := h.quiet
  have hbuild : (sim.holding (registerFrame GET c.bytes data)).buildResponse
      (registerFrame GET c.bytes data)
      = (registerFrame GET c.bytes data, sim.holding (registerFrame GET c.bytes data)) := by
    have hframe : (sim.holding (registerFrame GET c.bytes data)).store.get? c.text
        = some (registerFrame GET c.bytes data) := h.store ▸ hregister.frame
    have hmatch : (sim.holding (registerFrame GET c.bytes data)).matchCommand
        (registerFrame GET c.bytes data) = some c :=
      matchCommand_register hfree hregister.known h.commands GET data
    rw [HeatPumpSimulator.buildResponse, if_neg (by rw [registerFrame_length]; omega), hmatch]
    simp only []
    rw [if_neg (by simp [registerFrame, frameWith, GET, SET]), HeatPumpSimulator.frameOf, hframe]
    rfl
  have hsend : Sendable (registerFrame GET c.bytes data) :=
    sendable_register (.inl rfl) (by simp [hregister.command])
  have hrun := run_setData h.idle hsend
    (by rw [hbuild]; exact receivable_register (.inl rfl) hregister.fits)
  exact ⟨_, _, hrun, h.answered hbuild⟩

/-- A request is read once, and its frame is as it should be. -/
theorem run_request_get (hregular : Regular config) (hcommands : Commands config commands)
    {store : Dict String Bytes} (hrests : Rests commands store t) {request : Request} {c : Command}
    {data : Bytes} (hheld : Holds commands store m request c data) :
    ∃ t', run SimulatorTransport.answer (Connector.getData (createRequestMessage c.bytes GET)) t
        = (.ok (registerFrame GET c.bytes data), t') ∧ Rests commands store t' ∧
      request.requestBytes = .ok c.bytes := by
  obtain ⟨t', hget, hrests'⟩ :=
    run_get_register hrests (hregular.keys_prefixFree hcommands) hheld.register
  refine ⟨t', hget, hrests', ?_⟩
  rw [Request.requestBytes, ← hheld.text]
  exact c.hex

theorem run_readClock (hregular : Regular config) (hcommands : Commands config commands)
    (h : Represents config commands t m) :
    ∃ t', run SimulatorTransport.answer (readClock (config.requestByBytes "FC")) t
        = (.ok (clockOf config m), t') ∧ Represents config commands t' m := by
  rw [clockOf]
  cases hfind : config.requestByBytes "FC" with
  | none => exact ⟨t, rfl, h⟩
  | some request =>
      obtain ⟨store, hrests, hholds⟩ := h
      have hrequest := requestByBytes_mem hfind
      obtain ⟨c, data, hheld⟩ := hholds request hrequest
      obtain ⟨t', hget, hrests', hbytes⟩ := run_request_get hregular hcommands hrests hheld
      refine ⟨t', ?_, store, hrests', hholds⟩
      rw [readClock, hbytes]
      show run _ (Connector.getData _ >>= _) t = _
      rw [run_bind_ok _ hget, headerCheck_register (.inl rfl)]
      show run _ (Dialogue.ofExcept _) t' = _
      rw [parseRecords_register hregular hrequest hheld]
      rfl

/-- The clock's frame is written when all of its values are accepted, and else only read. -/
theorem run_setTimeViaFrame (waitingTime : Nat) (hregular : Regular config)
    (hcommands : Commands config commands) (hclock : ClockIntegers config)
    (h : Represents config commands t m) {request : Request}
    (hfind : config.requestByBytes "FC" = some request) (now : DateTime) :
    (∀ e, setItems (clockItems request.records (clockValues now)) m = .error e →
      ∃ t', run SimulatorTransport.answer
            (setTimeViaFrame waitingTime request (clockValues now)) t = (.error e, t') ∧
        Represents config commands t' m) ∧
    ∀ m', setItems (clockItems request.records (clockValues now)) m = .ok m' →
      ∃ t', run SimulatorTransport.answer
            (setTimeViaFrame waitingTime request (clockValues now)) t
          = (.ok (Dict.ofPairs ((clockItems request.records (clockValues now)).map fun item =>
              (item.2.channelId, item.1))), t') ∧
        Represents config commands t' m' := by
  obtain ⟨store, hrests, hholds⟩ := h
  have hrequest := requestByBytes_mem hfind
  obtain ⟨c, data, hheld⟩ := hholds request hrequest
  obtain ⟨t₁, hget, hrests₁, hbytes⟩ := run_request_get hregular hcommands hrests hheld
  have hfree := hregular.keys_prefixFree hcommands
  have hitems : ∀ item ∈ clockItems request.records (clockValues now),
      item.2 ∈ request.records ∧ item.2.valueKind = .integer ∧ ∃ n, item.1 = .int n := by
    intro item hmem
    obtain ⟨record, hin, hitem⟩ := List.mem_filterMap.mp hmem
    obtain ⟨value, hvalue, rfl⟩ := Option.map_eq_some_iff.mp hitem
    refine ⟨hin, hclock.frame request hfind record hin ?_, clockValues_int hvalue⟩
    exact Dict.mem_keys.mpr ⟨value, Dict.mem_of_get? hvalue⟩
  obtain ⟨hdown, haccepted⟩ := composeAll_register hregular hrequest
    (clockItems request.records (clockValues now)) (.inl rfl) ⟨hheld, hholds⟩ hitems
  have hread : ∀ s, run SimulatorTransport.answer
        (setTimeViaFrame waitingTime request (clockValues now)) t = s ↔
      run SimulatorTransport.answer (do
        let update ← Dialogue.ofExcept (composeAll (clockItems request.records (clockValues now))
          (registerFrame GET c.bytes data))
        sleep waitingTime
        let _ ← Connector.setData (addDuplicatedBytes update)
        sleep waitingTime
        return Dict.ofPairs ((clockItems request.records (clockValues now)).map fun item =>
          (item.2.channelId, item.1))) t₁ = s := by
    intro s
    rw [setTimeViaFrame, hbytes]
    show run _ (Connector.getData _ >>= _) t = _ ↔ _
    rw [run_bind_ok _ hget, headerCheck_register (.inl rfl)]
    rfl
  refine ⟨fun e he => ⟨t₁, ?_, store, hrests₁, hholds⟩, fun m' hm' => ?_⟩
  · rw [hread, hdown e he]
    rfl
  · obtain ⟨data', hcompose, hhold⟩ := haccepted m' hm'
    obtain ⟨r, t', hset, hrests'⟩ : ∃ r t', run SimulatorTransport.answer (Connector.setData
          (addDuplicatedBytes (registerFrame (if clockItems request.records (clockValues now) = []
            then GET else SET) c.bytes data'))) t₁ = (.ok r, t') ∧
        Rests commands (store.set c.text (registerFrame GET c.bytes data')) t' := by
      split
      · next hnone =>
          rw [hnone, composeAll, List.foldlM_nil, if_pos rfl] at hcompose
          obtain rfl := registerFrame_inj.mp (Except.ok.inj hcompose)
          rw [Dict.set_of_get? hheld.register.frame]
          exact run_set_as_read hrests₁ hfree hheld.register
      · obtain ⟨command, hhex, _, hshort⟩ := hregular.command request hrequest
        obtain rfl := Except.ok.inj (hbytes.symm.trans hhex)
        obtain ⟨t', hset, hrests'⟩ := run_set_register hrests₁ hfree hheld.register.known
          hheld.register.command hshort data'
        exact ⟨_, t', hset, hrests'⟩
    refine ⟨t', ?_, _, hrests', hhold.all⟩
    rw [hread, hcompose]
    show run _ (Connector.setData _ >>= _) t₁ = _
    rw [run_bind_ok _ hset]
    rfl

/-- The last lines of `set_time`. -/
theorem run_report (hregular : Regular config) (hcommands : Commands config commands)
    (h : Represents config commands t m) (now : DateTime) (written : Dict String DecodedValue) :
    ∃ t', run SimulatorTransport.answer (do
          let data ← readClock (config.requestByBytes "FC")
          let values := data.update written
          let entries : Dict String Reported := values.map fun kv => (kv.1, .value kv.2)
          return entries.set "lastUpdate" (.text now.stamp)) t
        = (.ok (clockReport config now written m), t') ∧ Represents config commands t' m := by
  obtain ⟨t', hrun, hrep⟩ := run_readClock hregular hcommands h
  refine ⟨t', ?_, hrep⟩
  rw [run_bind_ok _ hrun]
  rfl

theorem serves_setTime (hregular : Regular config) (hcommands : Commands config commands)
    (hclock : ClockIntegers config) (h : Represents config commands t m) (now : DateTime) :
    Serves config commands waitingTime t m (.setTime now) := by
  suffices hset : ∃ t', run SimulatorTransport.answer (setTime waitingTime now
        (config.requestByBytes "FC") (HeatPumpService.clockRecords config)) t
      = ((setClock config now m).1, t') ∧ Represents config commands t' (setClock config now m).2 by
    obtain ⟨t', hrun, hrep⟩ := hset
    exact .of_run rfl hrun rfl hrep
  rw [setTime.eq_def, setClock]
  by_cases hregisters : HeatPumpService.clockRecords config ≠ []
  · simp only [if_pos hregisters]
    obtain ⟨t₁, hrun, hrep⟩ := run_setTimeViaRegisters waitingTime hregular hcommands hclock now
      CLOCK_FIELDS [] h
    cases hwritten : (setRegisters (HeatPumpService.clockRecords config) (clockValues now)
        CLOCK_FIELDS [] m).1 with
    | error e =>
        rw [hwritten] at hrun
        rw [run_bind_error _ hrun]
        exact ⟨t₁, rfl, hrep⟩
    | ok written =>
        rw [hwritten] at hrun
        rw [run_bind_ok _ hrun]
        exact run_report hregular hcommands hrep now written
  · simp only [if_neg hregisters]
    cases hfind : config.requestByBytes "FC" with
    | none => exact ⟨t, rfl, h⟩
    | some request =>
        obtain ⟨hdown, haccepted⟩ := run_setTimeViaFrame waitingTime hregular hcommands hclock h
          hfind now
        simp only []
        cases hitems : setItems (clockItems request.records (clockValues now)) m with
        | error e =>
            obtain ⟨t', hrun, hrep⟩ := hdown e hitems
            rw [run_bind_error _ hrun]
            exact ⟨t', rfl, hrep⟩
        | ok m' =>
            obtain ⟨t₁, hrun, hrep⟩ := haccepted m' hitems
            rw [run_bind_ok _ hrun, ← hfind]
            exact run_report hregular hcommands hrep now _

/-- Every call of the service on the device does what it does on the map the device stands
for. -/
theorem run_serves (hregular : Regular config) (hcommands : Commands config commands)
    (hclock : ClockIntegers config) (h : Represents config commands t m) (call : ServiceCall) :
    Serves config commands waitingTime t m call := by
  cases call with
  | readChannel channelId =>
      exact .of_answers .one (run_call waitingTime hregular hcommands h (.readChannel channelId))
        rfl rfl rfl
  | readChannels channelIds =>
      exact .of_answers .many
        (run_call waitingTime hregular hcommands h (.readChannels channelIds)) rfl rfl rfl
  | writeChannel channelId value =>
      exact .of_answers .one
        (run_call waitingTime hregular hcommands h (.writeChannel channelId value)) rfl rfl rfl
  | readAll dataTypes => exact serves_readAll hregular hcommands h dataTypes
  | getVersion => exact serves_getVersion hregular hcommands h
  | setTime now => exact serves_setTime hregular hcommands hclock h now

end calls

end HeatpumpGateway
