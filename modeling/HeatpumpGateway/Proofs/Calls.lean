import HeatpumpGateway.Lib.Locked
import HeatpumpGateway.Proofs.Grouping
import HeatpumpGateway.Proofs.Store
import HeatpumpGateway.Proofs.Write

/-!
# The calls of the service on a device at rest

What the device's store means is a map from channel ids to values
(`Represents`), and `answer` is what a call on such a map returns and leaves. The
file runs `read_channel`, `read_channels` and `write_channel` against the simulator
and finds that they do the same (`run_call`): every exchange goes well, a read
decodes the stored frames, and an accepted write changes the meaning of its own
channel and of no other.
-/

namespace HeatpumpGateway

open Dialogue Fallible CommunicationService

/-! ## Configurations without surprises -/

/-- Ids are distinct, commands tell the requests apart, and the records of a request
lie next to each other in its frame. -/
structure Regular (config : HeatPumpConfig) : Prop where
  ids : (config.channels.map ChannelDefinition.channelId).Nodup
  spelt : ∀ record ∈ config.channels, ∃ command, fromHex record.requestByte = .ok command
  single : ∀ request ∈ config.requests, request.requestByte2 = none
  command : ∀ request ∈ config.requests,
    ∃ command, fromHex request.requestByte = .ok command ∧ 1 ≤ command.length ∧ command.length ≤ 3
  prefixFree : ∀ request ∈ config.requests, ∀ request' ∈ config.requests,
    ∀ command command', fromHex request.requestByte = .ok command →
      fromHex request'.requestByte = .ok command' → command <+: command' → request = request'
  records : ∀ request ∈ config.requests, ∀ command, fromHex request.requestByte = .ok command →
    ∀ record ∈ request.records, RegularRecord command.length record
  apart : ∀ request ∈ config.requests, ∀ record ∈ request.records,
    ∀ record' ∈ request.records, record ≠ record' → ShareNoBit record record'

/-- The commands of the device are those of the requests. -/
def Commands (config : HeatPumpConfig) (commands : Dict Command Request) : Prop :=
  ∀ c, c ∈ commands.keys ↔ ∃ request ∈ config.requests, c.text = request.requestByte

/-- The command of a request. -/
theorem Regular.exists_command {config : HeatPumpConfig} (h : Regular config) {request : Request}
    (hrequest : request ∈ config.requests) :
    ∃ c : Command, c.text = request.requestByte ∧ c.bytes ≠ [] ∧ c.bytes.length ≤ 3 := by
  obtain ⟨command, hhex, hpos, hle⟩ := h.command request hrequest
  refine ⟨⟨request.requestByte, command, hhex⟩, rfl, ?_, hle⟩
  intro hc
  obtain rfl := hc
  simp at hpos

theorem Regular.keys_prefixFree {config : HeatPumpConfig} (h : Regular config)
    {commands : Dict Command Request} (hcommands : Commands config commands) :
    PrefixFree commands.keys := by
  intro c hc c' hc' hprefix
  obtain ⟨request, hrequest, htext⟩ := (hcommands c).mp hc
  obtain ⟨request', hrequest', htext'⟩ := (hcommands c').mp hc'
  have heq := h.prefixFree request hrequest request' hrequest' c.bytes c'.bytes
    (by rw [← htext]; exact c.hex) (by rw [← htext']; exact c'.hex) hprefix
  exact Command.ext_text (by rw [htext, htext', heq])

/-- Requests with one command each are told apart by its text. -/
theorem Regular.text_inj {config : HeatPumpConfig} (h : Regular config) {request request' : Request}
    (hrequest : request ∈ config.requests) (hrequest' : request' ∈ config.requests)
    (htext : request.requestByte = request'.requestByte) : request = request' := by
  refine List.inj_on_of_nodup_map (HeatPumpConfig.requests_keys_nodup config) hrequest hrequest' ?_
  rw [Request.key, Request.key, htext, h.single request hrequest, h.single request' hrequest']

/-! ## The map -/

/-- A value for every channel id. -/
abbrev Values := String → DecodedValue

/-- The register of a request holds the values of its channels. -/
structure Holds (commands : Dict Command Request) (store : Dict String Bytes) (m : Values)
    (request : Request) (c : Command) (data : Bytes) : Prop where
  text : c.text = request.requestByte
  register : Register commands store c data
  inData : ∀ record ∈ request.records, InData c.bytes data record
  means : ∀ record ∈ request.records,
    meaning record (fieldBytes (registerFrame GET c.bytes data) record) = m record.channelId

/-- A device at rest whose frames hold these values. -/
def Represents (config : HeatPumpConfig) (commands : Dict Command Request)
    (t : SimulatorTransport) (m : Values) : Prop :=
  ∃ store, Rests commands store t ∧
    ∀ request ∈ config.requests, ∃ c data, Holds commands store m request c data

/-- The three calls. -/
inductive Call where
  | readChannel (channelId : String)
  | readChannels (channelIds : List String)
  | writeChannel (channelId : String) (value : CallerValue)

inductive Reply where
  | one (value : ChannelValue)
  | many (values : List ChannelValue)
  deriving DecidableEq

/-- What a call does before it takes the lock, and under it. -/
def prepare (config : HeatPumpConfig) (waitingTime : Nat) : Call → Except Exc (Talk Reply)
  | .readChannel channelId => do
      let conversation ← HeatPumpService.prepareReadChannel config waitingTime channelId
      return do return .one (← conversation)
  | .readChannels channelIds => do
      let conversation ← HeatPumpService.prepareReadChannels config waitingTime channelIds
      return do return .many (← conversation)
  | .writeChannel channelId value => do
      let conversation ← HeatPumpService.prepareWriteChannel config waitingTime channelId value
      return do return .one (← conversation)

/-- The channels of the requests that some channels belong to, those that are wanted. -/
def wanted (config : HeatPumpConfig) (channelIds : List String) : List ChannelDefinition :=
  ((HeatPumpService.requestsFor config channelIds).flatMap Request.records).filter
    fun record => record.channelId ∈ channelIds

def Values.set (m : Values) (channelId : String) (value : DecodedValue) : Values :=
  fun id => if id = channelId then value else m id

/-- The calls on a map: a read looks its channels up, a write that is accepted sets
its channel to the nearest value the channel can take and returns that value, and
whatever is turned down leaves the map alone. -/
def answer (config : HeatPumpConfig) : Locked.Object Call Values Exc Reply
  | .readChannel channelId, m =>
      match HeatPumpService.requireChannel config channelId with
      | .error e => (.error e, m)
      | .ok record => (.ok (.one (HeatPumpService.toChannelValue record (m channelId))), m)
  | .readChannels channelIds, m =>
      let unknown := channelIds.filter fun channelId => (config.channel channelId).isNone
      if unknown ≠ [] then (.error (.channelNotFound (", ".intercalate unknown)), m)
      else
        (.ok (.many ((wanted config channelIds).map fun record =>
          HeatPumpService.toChannelValue record (m record.channelId))), m)
  | .writeChannel channelId value, m =>
      match HeatPumpService.requireChannel config channelId with
      | .error e => (.error e, m)
      | .ok record =>
          if !record.writable then (.error (.channelNotWritable channelId), m)
          else
            match HeatPumpService.coerce record value >>= accept record with
            | .error e => (.error e, m)
            | .ok stored =>
                (.ok (.one (HeatPumpService.toChannelValue record stored)),
                  m.set channelId stored)

/-! ## Reading -/

section reading

variable {config : HeatPumpConfig} {commands : Dict Command Request} {m : Values}
  {t : SimulatorTransport}

/-- The values of a request, in the order of its records. -/
def valuesOf (m : Values) (request : Request) : Dict String DecodedValue :=
  request.records.map fun record => (record.channelId, m record.channelId)

theorem valuesOf_keys (m : Values) (request : Request) :
    (valuesOf m request).keys = request.records.map ChannelDefinition.channelId := by
  rw [valuesOf, Dict.keys, List.map_map]
  rfl

theorem headerCheck_register {getOrSet : UInt8} (h : getOrSet = GET ∨ getOrSet = SET)
    (command data : Bytes) : headerCheck (registerFrame getOrSet command data) = true :=
  headerCheck_footer_iff.mpr ⟨getOrSet, command ++ data, h, rfl⟩

theorem verifyHeader_register {getOrSet : UInt8} (h : getOrSet = GET ∨ getOrSet = SET)
    (command data : Bytes) : verifyHeader (registerFrame getOrSet command data) = .ok () := by
  have hcheck := headerCheck_register h command data
  rw [headerCheck] at hcheck
  split at hcheck
  · next hok => exact hok
  · cases hcheck

/-- Records that decode, each to its value, are collected one after another. -/
theorem parseRecords_foldl {response : Bytes} (m : Values) (records : List ChannelDefinition) :
    ∀ result : Dict String DecodedValue,
    (∀ record ∈ records, parseCombined response none record = .ok (m record.channelId)) →
    (records.foldlM (fun result record =>
      match parseCombined response none record with
      | .ok value => .ok (result.set record.channelId value)
      | .error (.invalidData _) => .ok result
      | .error e => .error e) result : Except Exc (Dict String DecodedValue))
      = .ok (result.update (records.map fun record => (record.channelId, m record.channelId))) := by
  induction records with
  | nil => intro result _; rfl
  | cons record records ih =>
      intro result hparse
      rw [List.foldlM_cons, hparse record List.mem_cons_self]
      exact ih _ fun record' hr => hparse record' (List.mem_cons_of_mem _ hr)

/-- A register's frame decodes to the values of its channels. -/
theorem parseRecords_register (hregular : Regular config) {request : Request}
    (hrequest : request ∈ config.requests) {store : Dict String Bytes} {c : Command} {data : Bytes}
    (h : Holds commands store m request c data) :
    parseRecords (registerFrame GET c.bytes data) request.records none
      = .ok (valuesOf m request) := by
  have hids : (request.records.map ChannelDefinition.channelId).Nodup :=
    HeatPumpConfig.records_ids_nodup hregular.ids hrequest
  have hhex : fromHex request.requestByte = .ok c.bytes := by
    rw [← h.text]
    exact c.hex
  have hparse : ∀ record ∈ request.records,
      parseCombined (registerFrame GET c.bytes data) none record = .ok (m record.channelId) := by
    intro record hr
    rw [parseCombined, parseRecord_meaning
      (hregular.records request hrequest c.bytes hhex record hr) (h.inData record hr).contained
      (by rw [registerFrame_length]; omega), h.means record hr]
    rfl
  rw [parseRecords, if_neg (by rw [registerFrame_length]; omega), if_neg (by simp)]
  refine (parseRecords_foldl m request.records [] hparse).trans (congrArg Except.ok ?_)
  refine Dict.ofPairs_of_nodup ?_
  rw [List.map_map]
  exact hids

/-- Reading a request returns the values of its channels and changes nothing. -/
theorem run_readRequest (waitingTime : Nat) (hregular : Regular config)
    (hcommands : Commands config commands) (h : Represents config commands t m)
    {request : Request} (hrequest : request ∈ config.requests) :
    ∃ t', run SimulatorTransport.answer (readRequest waitingTime request) t
        = (.ok (valuesOf m request), t') ∧ Represents config commands t' m := by
  obtain ⟨store, hrests, hholds⟩ := h
  obtain ⟨c, data, hheld⟩ := hholds request hrequest
  obtain ⟨t', hget, hrests'⟩ :=
    run_get_register hrests (hregular.keys_prefixFree hcommands) hheld.register
  refine ⟨t', ?_, store, hrests', hholds⟩
  have hbytes : request.requestBytes = .ok c.bytes := by
    rw [Request.requestBytes, ← hheld.text]
    exact c.hex
  have hbytes2 : request.requestBytes2 = .ok none := by
    rw [Request.requestBytes2, hregular.single request hrequest]
  have hattempt : run SimulatorTransport.answer (readAttempt waitingTime request) t
      = (.ok (valuesOf m request), t') := by
    rw [readAttempt, hbytes]
    show run _ (Connector.getData _ >>= _) t = _
    rw [run_bind_ok _ hget, headerCheck_register (.inl rfl), hbytes2]
    show run _ (Dialogue.ofExcept _) t' = _
    rw [parseRecords_register hregular hrequest hheld]
    rfl
  rw [readRequest, show MAX_TRIES = 2 + 1 from rfl, readLoop, run_handle, hattempt]

/-- A sweep returns the values of all its requests, one after another. -/
theorem run_readRequestsFrom (waitingTime : Nat) (hregular : Regular config)
    (hcommands : Commands config commands) (requests : List Request) :
    ∀ {t : SimulatorTransport} (data : Dict String DecodedValue),
    Represents config commands t m → (∀ request ∈ requests, request ∈ config.requests) →
    (data.keys ++ (requests.flatMap Request.records).map ChannelDefinition.channelId).Nodup →
    ∃ t', run SimulatorTransport.answer (readRequestsFrom waitingTime requests data) t
        = (.ok (data ++ requests.flatMap (valuesOf m)), t') ∧ Represents config commands t' m := by
  induction requests with
  | nil =>
      intro t data h _ _
      exact ⟨t, by rw [List.flatMap_nil, List.append_nil]; rfl, h⟩
  | cons request requests ih =>
      intro t data h hsub hnd
      obtain ⟨t₁, hread, hrep⟩ := run_readRequest waitingTime hregular hcommands h
        (hsub request List.mem_cons_self)
      rw [List.flatMap_cons, List.map_append, ← List.append_assoc] at hnd
      have hfront := (List.nodup_append.mp hnd).1
      obtain ⟨_, hfields, hfresh⟩ := List.nodup_append.mp hfront
      have hupdate : data.update (valuesOf m request) = data ++ valuesOf m request := by
        refine Dict.update_of_fresh _ _ ?_ ?_
        · rw [valuesOf_keys]
          exact hfields
        · intro k hk hkd
          rw [valuesOf_keys] at hk
          exact hfresh k hkd k hk rfl
      rw [readRequestsFrom, run_bind_ok _ hread, hupdate]
      by_cases hrest : requests = []
      · rw [if_pos hrest, hrest, List.flatMap_cons, List.flatMap_nil, List.append_nil]
        exact ⟨t₁, rfl, hrep⟩
      · have hkeys : (data ++ valuesOf m request : Dict String DecodedValue).keys
            = data.keys ++ request.records.map ChannelDefinition.channelId := by
          rw [Dict.keys, List.map_append]
          exact congrArg (data.keys ++ ·) (valuesOf_keys m request)
        obtain ⟨t', hrun, hrep'⟩ := ih (data ++ valuesOf m request) hrep
          (fun r hr => hsub r (List.mem_cons_of_mem _ hr)) (by rw [hkeys]; exact hnd)
        rw [if_neg hrest]
        refine ⟨t', ?_, hrep'⟩
        rw [List.flatMap_cons, ← List.append_assoc, ← hrun]
        rfl

/-- What a sweep returns of the channels that are wanted. -/
theorem collect_eq (hregular : Regular config) (m : Values) (keep : ChannelDefinition → Bool)
    (records : List ChannelDefinition) (hsub : ∀ record ∈ records, record ∈ config.channels) :
    HeatPumpService.collect config keep
        (records.map fun record => (record.channelId, m record.channelId))
      = (records.filter keep).map fun record =>
          HeatPumpService.toChannelValue record (m record.channelId) := by
  induction records with
  | nil => rfl
  | cons record records ih =>
      have hchannel := HeatPumpConfig.channel_of_mem hregular.ids (hsub record List.mem_cons_self)
      have hrest := ih fun r hr => hsub r (List.mem_cons_of_mem _ hr)
      rw [HeatPumpService.collect] at hrest ⊢
      rw [List.map_cons, List.filterMap_cons, hchannel]
      simp only []
      cases hkeep : keep record with
      | true =>
          rw [if_pos rfl, List.filter_cons_of_pos hkeep, List.map_cons]
          exact congrArg _ hrest
      | false =>
          rw [if_neg Bool.false_ne_true, List.filter_cons_of_neg (by rw [hkeep]; decide)]
          exact hrest

theorem flatMap_valuesOf (m : Values) (requests : List Request) :
    requests.flatMap (valuesOf m)
      = (requests.flatMap Request.records).map fun record =>
          (record.channelId, m record.channelId) := by
  rw [List.map_flatMap]
  rfl

end reading

/-! ## The calls -/

section calls

variable {config : HeatPumpConfig} {commands : Dict Command Request} {m : Values}
  {t : SimulatorTransport}

/-- The call returns what it does on the map and leaves the device with its map. -/
def Answers (config : HeatPumpConfig) (commands : Dict Command Request) (waitingTime : Nat)
    (t : SimulatorTransport) (m : Values) (call : Call) : Prop :=
  (run SimulatorTransport.answer (Locked.whole (prepare config waitingTime) call) t).1
      = (answer config call m).1 ∧
    Represents config commands
      (run SimulatorTransport.answer (Locked.whole (prepare config waitingTime) call) t).2
      (answer config call m).2

/-- A run of a call that succeeds. -/
theorem Answers.of_run {waitingTime : Nat} {call : Call} {α : Type} {conversation : Talk α}
    {f : α → Reply} {a : α} {t' : SimulatorTransport} {m' : Values}
    (hprepare : prepare config waitingTime call = .ok (do return f (← conversation)))
    (hrun : run SimulatorTransport.answer conversation t = (.ok a, t'))
    (hanswer : answer config call m = (.ok (f a), m')) (h : Represents config commands t' m') :
    Answers config commands waitingTime t m call := by
  rw [Answers, Locked.whole, hprepare, hanswer]
  show (run _ (conversation >>= _) t).1 = _ ∧ Represents _ _ (run _ (conversation >>= _) t).2 _
  rw [run_bind_ok _ hrun]
  exact ⟨rfl, h⟩

/-- A run of a call that fails under the lock. -/
theorem Answers.of_failed {waitingTime : Nat} {call : Call} {α : Type} {conversation : Talk α}
    {f : α → Reply} {e : Exc} {t' : SimulatorTransport} {m' : Values}
    (hprepare : prepare config waitingTime call = .ok (do return f (← conversation)))
    (hrun : run SimulatorTransport.answer conversation t = (.error e, t'))
    (hanswer : answer config call m = (.error e, m')) (h : Represents config commands t' m') :
    Answers config commands waitingTime t m call := by
  rw [Answers, Locked.whole, hprepare, hanswer]
  show (run _ (conversation >>= _) t).1 = _ ∧ Represents _ _ (run _ (conversation >>= _) t).2 _
  rw [run_bind_error _ hrun]
  exact ⟨rfl, h⟩

/-- A call that fails before it takes the lock. -/
theorem Answers.of_refused {waitingTime : Nat} {call : Call} {e : Exc}
    (hprepare : prepare config waitingTime call = .error e)
    (hanswer : answer config call m = (.error e, m)) (h : Represents config commands t m) :
    Answers config commands waitingTime t m call := by
  rw [Answers, Locked.whole, hprepare, hanswer]
  exact ⟨rfl, h⟩

theorem answers_readChannel (waitingTime : Nat) (hregular : Regular config)
    (hcommands : Commands config commands) (h : Represents config commands t m)
    (channelId : String) : Answers config commands waitingTime t m (.readChannel channelId) := by
  cases hrecord : config.channel channelId with
  | none =>
      have hrequire : HeatPumpService.requireChannel config channelId
          = .error (.channelNotFound channelId) := by
        rw [HeatPumpService.requireChannel, hrecord]
      have hprepare : prepare config waitingTime (.readChannel channelId)
          = .error (.channelNotFound channelId) := by
        rw [prepare, HeatPumpService.prepareReadChannel, hrequire]
        rfl
      exact .of_refused hprepare (by rw [answer, hrequire]) h
  | some record =>
      have hrequire : HeatPumpService.requireChannel config channelId = .ok record := by
        rw [HeatPumpService.requireChannel, hrecord]
      obtain ⟨hmem, rfl⟩ := HeatPumpConfig.channel_mem hrecord
      obtain ⟨request, hrequest, _, hin⟩ := HeatPumpConfig.exists_request_of_channel hmem
      have hfind := HeatPumpConfig.requestForChannel_eq hregular.ids hrequest hin
      obtain ⟨t', hread, hrep⟩ := run_readRequest waitingTime hregular hcommands h hrequest
      have hvalue : (valuesOf m request).get? record.channelId = some (m record.channelId) := by
        refine Dict.get?_eq_some_of_mem ?_
          (List.mem_map_of_mem (f := fun r : ChannelDefinition => (r.channelId, m r.channelId)) hin)
        have hnd := HeatPumpConfig.flatMap_records_ids_nodup hregular.ids
          (List.nodup_singleton request) (by simpa using hrequest)
        rw [valuesOf_keys]
        simpa using hnd
      obtain ⟨conversation, hprepared, hrun⟩ : ∃ conversation,
          HeatPumpService.prepareReadChannel config waitingTime record.channelId
              = .ok conversation ∧
            run SimulatorTransport.answer conversation t
              = (.ok (HeatPumpService.toChannelValue record (m record.channelId)), t') := by
        rw [HeatPumpService.prepareReadChannel, hrequire]
        refine ⟨_, rfl, ?_⟩
        simp only [hfind]
        rw [run_bind_ok _ hread, hvalue]
        rfl
      have hprepare : prepare config waitingTime (.readChannel record.channelId)
          = .ok (do return .one (← conversation)) := by
        rw [prepare, hprepared]
        rfl
      exact .of_run hprepare hrun (by rw [answer, hrequire]) hrep

theorem answers_readChannels (waitingTime : Nat) (hregular : Regular config)
    (hcommands : Commands config commands) (h : Represents config commands t m)
    (channelIds : List String) :
    Answers config commands waitingTime t m (.readChannels channelIds) := by
  by_cases hunknown : (channelIds.filter fun id => (config.channel id).isNone) ≠ []
  · have hprepare : prepare config waitingTime (.readChannels channelIds)
        = .error (.channelNotFound (", ".intercalate
            (channelIds.filter fun id => (config.channel id).isNone))) := by
      rw [prepare, HeatPumpService.prepareReadChannels]
      simp only [if_pos hunknown]
      rfl
    refine .of_refused hprepare ?_ h
    rw [answer]
    simp only [if_pos hunknown]
  · obtain ⟨t', hrun, hrep⟩ := run_readRequestsFrom waitingTime hregular hcommands
      (HeatPumpService.requestsFor config channelIds) [] h
      (fun request hin => HeatPumpConfig.requestsFor_subset channelIds hin) (by
        rw [Dict.keys_nil, List.nil_append]
        exact HeatPumpConfig.flatMap_records_ids_nodup hregular.ids
          (HeatPumpConfig.requestsFor_nodup config channelIds)
          fun request hin => HeatPumpConfig.requestsFor_subset channelIds hin)
    rw [List.nil_append, flatMap_valuesOf] at hrun
    have hcollect := collect_eq hregular m (fun record => record.channelId ∈ channelIds)
      ((HeatPumpService.requestsFor config channelIds).flatMap Request.records) (by
        intro record hr
        obtain ⟨request, hrequest, hin⟩ := List.mem_flatMap.mp hr
        exact ((HeatPumpConfig.mem_records
          (HeatPumpConfig.requestsFor_subset channelIds hrequest)).mp hin).1)
    obtain ⟨conversation, hprepared, hread⟩ : ∃ conversation,
        HeatPumpService.prepareReadChannels config waitingTime channelIds = .ok conversation ∧
          run SimulatorTransport.answer conversation t
            = (.ok ((wanted config channelIds).map fun record =>
                HeatPumpService.toChannelValue record (m record.channelId)), t') := by
      rw [HeatPumpService.prepareReadChannels]
      simp only [if_neg hunknown]
      refine ⟨_, rfl, ?_⟩
      rw [readRequests, run_bind_ok _ hrun, hcollect]
      rfl
    have hprepare : prepare config waitingTime (.readChannels channelIds)
        = .ok (do return .many (← conversation)) := by
      rw [prepare, hprepared]
      rfl
    refine .of_run hprepare hread ?_ hrep
    rw [answer]
    simp only [if_neg hunknown]

/-- The frames after a write mean what they did, but for the channel written. -/
theorem Holds.written {store : Dict String Bytes} (hregular : Regular config)
    (hholds : ∀ request ∈ config.requests, ∃ c data, Holds commands store m request c data)
    {request : Request} (hrequest : request ∈ config.requests) {c : Command} {data data' : Bytes}
    (hheld : Holds commands store m request c data) {record : ChannelDefinition}
    (hin : record ∈ request.records) {stored : DecodedValue}
    (hwritten : Written c.bytes data data' record stored) :
    ∀ request' ∈ config.requests, ∃ c' data₁,
      Holds commands (store.set c.text (registerFrame GET c.bytes data'))
        (m.set record.channelId stored) request' c' data₁ := by
  intro request' hrequest'
  have hid : ∀ record' ∈ request'.records, record' ≠ record →
      (m.set record.channelId stored) record'.channelId = m record'.channelId := by
    intro record' hin' hne
    refine if_neg fun heq => hne ?_
    exact HeatPumpConfig.record_unique hregular.ids
      ((HeatPumpConfig.mem_records hrequest').mp hin').1
      ((HeatPumpConfig.mem_records hrequest).mp hin).1 heq
  by_cases heq : request' = request
  · subst heq
    have hhex : fromHex request'.requestByte = .ok c.bytes := by
      rw [← hheld.text]
      exact c.hex
    refine ⟨c, data', hheld.text, ⟨hheld.register.known, hheld.register.command,
      Dict.get?_set_self .., ?_⟩, ?_, ?_⟩
    · have hfits := hheld.register.fits
      rw [registerFrame_length] at hfits ⊢
      rw [hwritten.length]
      exact hfits
    · intro record' hin'
      obtain ⟨hlo, hhi⟩ := hheld.inData record' hin'
      exact ⟨hlo, by rw [hwritten.length]; exact hhi⟩
    · intro record' hin'
      by_cases hsame : record' = record
      · rw [hsame, hwritten.means, Values.set, if_pos rfl]
      · rw [hid record' hin' hsame, hwritten.others record'
          (hregular.records request' hrequest c.bytes hhex record' hin')
          (hheld.inData record' hin')
          (hregular.apart request' hrequest record hin record' hin' (Ne.symm hsame)),
          hheld.means record' hin']
  · obtain ⟨c', data₀, hheld'⟩ := hholds request' hrequest'
    have htext : c.text ≠ c'.text := by
      rw [hheld.text, hheld'.text]
      exact fun h => heq (hregular.text_inj hrequest' hrequest h.symm)
    refine ⟨c', data₀, hheld'.text, ⟨hheld'.register.known, hheld'.register.command, ?_,
      hheld'.register.fits⟩, hheld'.inData, ?_⟩
    · rw [Dict.get?_set_ne _ htext]
      exact hheld'.register.frame
    · intro record' hin'
      have hne : record' ≠ record := by
        intro hc
        obtain rfl := hc
        exact heq (HeatPumpConfig.request_unique hrequest' hrequest hin' hin)
      rw [hid record' hin' hne]
      exact hheld'.means record' hin'

/-- A write goes on with the frame of its register, which is never taken for an echo. -/
theorem run_writeData_read (waitingTime : Nat) {v : DecodedValue} {record : ChannelDefinition}
    {c : Command} {data : Bytes} {t₁ : SimulatorTransport}
    (hcommand : fromHex record.requestByte = .ok c.bytes)
    (hread : run SimulatorTransport.answer
      (Connector.getData (createRequestMessage c.bytes GET)) t
        = (.ok (registerFrame GET c.bytes data), t₁))
    (hecho : registerFrame GET c.bytes data ≠ createRequestMessage c.bytes GET) :
    run SimulatorTransport.answer (writeData waitingTime v record) t
      = run SimulatorTransport.answer (writeBack waitingTime [(v, record)]
          (";".intercalate [record.channelId]) (registerFrame GET c.bytes data)) t₁ := by
  rw [writeData, writeValues, hcommand]
  show run _ (Connector.getData _ >>= _) t = _
  rw [run_bind_ok _ hread, if_neg (Ne.symm hecho), if_neg (by simp [registerFrame, frameWith])]
  rfl

/-- A channel's write finds the channel's register and reads it. -/
theorem Represents.read_before_write (waitingTime : Nat) (hregular : Regular config)
    (hcommands : Commands config commands) (h : Represents config commands t m)
    {record : ChannelDefinition} (hmem : record ∈ config.channels) :
    ∃ store request c data t₁, request ∈ config.requests ∧ record ∈ request.records ∧
      Holds commands store m request c data ∧ Rests commands store t₁ ∧
      (∀ request' ∈ config.requests, ∃ c' data', Holds commands store m request' c' data') ∧
      RegularRecord c.bytes.length record ∧ c.bytes.length ≤ 3 ∧
      ∀ v, run SimulatorTransport.answer (writeData waitingTime v record) t
        = run SimulatorTransport.answer (writeBack waitingTime [(v, record)]
            (";".intercalate [record.channelId]) (registerFrame GET c.bytes data)) t₁ := by
  obtain ⟨store, hrests, hholds⟩ := h
  obtain ⟨request, hrequest, hkey, hin⟩ := HeatPumpConfig.exists_request_of_channel hmem
  obtain ⟨c, data, hheld⟩ := hholds request hrequest
  obtain ⟨t₁, hread, hrests₁⟩ :=
    run_get_register hrests (hregular.keys_prefixFree hcommands) hheld.register
  have hhex : fromHex request.requestByte = .ok c.bytes := by
    rw [← hheld.text]
    exact c.hex
  have hcommand : fromHex record.requestByte = .ok c.bytes := by
    have hupper : request.requestByte = upper record.requestByte := congrArg Prod.fst hkey
    obtain ⟨command, hspelt⟩ := hregular.spelt record hmem
    exact fromHex_of_upper hspelt (hupper ▸ hhex)
  have hrecord := hregular.records request hrequest c.bytes hhex record hin
  obtain ⟨command, hcommand', _, hshort⟩ := hregular.command request hrequest
  obtain rfl : command = c.bytes := Except.ok.inj (hcommand'.symm.trans hhex)
  refine ⟨store, request, c, data, t₁, hrequest, hin, hheld, hrests₁, hholds, hrecord, hshort,
    fun v => run_writeData_read waitingTime hcommand hread ?_⟩
  -- The record has bytes of its own in the data, so there are some.
  have hdata : data ≠ [] := by
    intro hc
    obtain rfl := hc
    obtain ⟨hlo, hhi⟩ := hheld.inData record hin
    have := hrecord.length
    simp only [List.length_nil] at hhi
    omega
  exact registerFrame_ne_message hshort hdata

/-- An accepted write reports what the channel is from then on. -/
theorem run_writeData_accepted (waitingTime : Nat) (hregular : Regular config)
    (hcommands : Commands config commands) (h : Represents config commands t m)
    {record : ChannelDefinition} (hmem : record ∈ config.channels) {value : CallerValue}
    {v stored : DecodedValue} (hv : HeatPumpService.coerce record value = .ok v)
    (hstored : accept record v = .ok stored) :
    ∃ t', run SimulatorTransport.answer (writeData waitingTime v record) t
        = (.ok [(record.channelId, stored)], t') ∧
      Represents config commands t' (m.set record.channelId stored) := by
  obtain ⟨store, request, c, data, t₁, hrequest, hin, hheld, hrests, hholds, hrecord, hshort,
    hrun⟩ := h.read_before_write waitingTime hregular hcommands hmem
  obtain ⟨data', hcompose, hwritten⟩ :=
    composeRecord_register hrecord (hheld.inData record hin) hv hstored
  obtain ⟨t', hset, hrests'⟩ := run_set_register hrests (hregular.keys_prefixFree hcommands)
    hheld.register.known hheld.register.command hshort data'
  refine ⟨t', ?_, _, hrests', Holds.written hregular hholds hrequest hheld hin hwritten⟩
  have hcontained : Contained (registerFrame SET c.bytes data').length record := by
    obtain ⟨hlo, hhi⟩ := hheld.inData record hin
    exact InData.contained ⟨hlo, by rw [hwritten.length]; exact hhi⟩
  have hdecoded : decodeAll (registerFrame SET c.bytes data') [(v, record)]
      = .ok [(record.channelId, stored)] := by
    rw [decodeAll, List.foldlM_cons, parseRecord_meaning hrecord hcontained
      (by rw [registerFrame_length]; omega), hwritten.means]
    rfl
  rw [hrun, writeBack, composeAll_single, hcompose]
  show run _ (Connector.setData _ >>= _) t₁ = _
  rw [run_bind_ok _ hset, verifyHeader_register (.inr rfl)]
  show run _ (Dialogue.ofExcept (decodeAll (registerFrame SET c.bytes data') [(v, record)])) t' = _
  rw [hdecoded]
  rfl

/-- A write that is turned down has only read. -/
theorem run_writeData_rejected (waitingTime : Nat) (hregular : Regular config)
    (hcommands : Commands config commands) (h : Represents config commands t m)
    {record : ChannelDefinition} (hmem : record ∈ config.channels) {v : DecodedValue} {e : Exc}
    (hrejected : accept record v = .error e) :
    ∃ t', run SimulatorTransport.answer (writeData waitingTime v record) t = (.error e, t') ∧
      Represents config commands t' m := by
  obtain ⟨store, request, c, data, t₁, hrequest, hin, hheld, hrests, hholds, _, _, hrun⟩ :=
    h.read_before_write waitingTime hregular hcommands hmem
  refine ⟨t₁, ?_, store, hrests, hholds⟩
  rw [hrun, writeBack, composeAll_single, composeRecord_rejected hrejected]
  rfl

theorem answers_writeChannel (waitingTime : Nat) (hregular : Regular config)
    (hcommands : Commands config commands) (h : Represents config commands t m)
    (channelId : String) (value : CallerValue) :
    Answers config commands waitingTime t m (.writeChannel channelId value) := by
  cases hrecord : config.channel channelId with
  | none =>
      have hrequire : HeatPumpService.requireChannel config channelId
          = .error (.channelNotFound channelId) := by
        rw [HeatPumpService.requireChannel, hrecord]
      have hprepare : prepare config waitingTime (.writeChannel channelId value)
          = .error (.channelNotFound channelId) := by
        rw [prepare, HeatPumpService.prepareWriteChannel, hrequire]
        rfl
      exact .of_refused hprepare (by rw [answer, hrequire]) h
  | some record =>
      have hrequire : HeatPumpService.requireChannel config channelId = .ok record := by
        rw [HeatPumpService.requireChannel, hrecord]
      obtain ⟨hmem, rfl⟩ := HeatPumpConfig.channel_mem hrecord
      cases hwritable : record.writable with
      | false =>
          have hprepare : prepare config waitingTime (.writeChannel record.channelId value)
              = .error (.channelNotWritable record.channelId) := by
            rw [prepare, HeatPumpService.prepareWriteChannel, hrequire]
            simp only [ok_bind, hwritable]
            rfl
          refine .of_refused hprepare ?_ h
          rw [answer, hrequire]
          simp only [hwritable]
          rfl
      | true =>
          cases hv : HeatPumpService.coerce record value with
          | error e =>
              have hprepare : prepare config waitingTime (.writeChannel record.channelId value)
                  = .error e := by
                rw [prepare, HeatPumpService.prepareWriteChannel, hrequire]
                simp only [ok_bind, hwritable, hv]
                rfl
              refine .of_refused hprepare ?_ h
              rw [answer, hrequire]
              simp only [hwritable, hv]
              rfl
          | ok v =>
              obtain ⟨conversation, hprepared, hconversation⟩ : ∃ conversation,
                  HeatPumpService.prepareWriteChannel config waitingTime record.channelId value
                    = .ok conversation ∧
                  conversation = (do
                    let data ← writeData waitingTime v record
                    return HeatPumpService.toChannelValue record
                      ((data.get? record.channelId).getD v)) := by
                rw [HeatPumpService.prepareWriteChannel, hrequire]
                simp only [ok_bind, hwritable, hv]
                exact ⟨_, rfl, rfl⟩
              have hprepare : prepare config waitingTime (.writeChannel record.channelId value)
                  = .ok (do return .one (← conversation)) := by
                rw [prepare, hprepared]
                rfl
              cases hstored : accept record v with
              | error e =>
                  obtain ⟨t', hrun, hrep⟩ := run_writeData_rejected waitingTime hregular hcommands
                    h hmem hstored
                  have hfailed : run SimulatorTransport.answer conversation t
                      = (.error e, t') := by
                    rw [hconversation, run_bind_error _ hrun]
                  refine .of_failed hprepare hfailed ?_ hrep
                  rw [answer, hrequire]
                  simp only [hwritable, hv, ok_bind, hstored]
                  rfl
              | ok stored =>
                  obtain ⟨t', hrun, hrep⟩ := run_writeData_accepted waitingTime hregular hcommands
                    h hmem hv hstored
                  have hdone : run SimulatorTransport.answer conversation t
                      = (.ok (HeatPumpService.toChannelValue record stored), t') := by
                    rw [hconversation, run_bind_ok _ hrun]
                    simp only [Dict.get?_cons, if_true]
                    rfl
                  refine .of_run hprepare hdone ?_ hrep
                  rw [answer, hrequire]
                  simp only [hwritable, hv, ok_bind, hstored]
                  rfl

/-- Every call on the device does what it does on the map the device stands for. -/
theorem run_call (waitingTime : Nat) (hregular : Regular config)
    (hcommands : Commands config commands) (h : Represents config commands t m) (call : Call) :
    Answers config commands waitingTime t m call := by
  cases call with
  | readChannel channelId => exact answers_readChannel waitingTime hregular hcommands h channelId
  | readChannels channelIds =>
      exact answers_readChannels waitingTime hregular hcommands h channelIds
  | writeChannel channelId value =>
      exact answers_writeChannel waitingTime hregular hcommands h channelId value

end calls

end HeatpumpGateway
