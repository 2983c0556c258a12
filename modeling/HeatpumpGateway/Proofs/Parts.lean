import HeatpumpGateway.Proofs.Coercion
import HeatpumpGateway.Proofs.Faults
import HeatpumpGateway.Proofs.Grouping

/-!
# The calls by their parts

A property that sequences keep holds of a call of the service if it holds of the two things
calls are made of: reading a request, and writing values to a register. The rules here take
a call apart once for all such properties. Where a property says what comes of a first read,
whatever is to follow it, the read alone settles it for every call (`Modular.talk`).
-/

namespace HeatpumpGateway

open CommunicationService

variable {config : HeatPumpConfig} {waitingTime : Nat}

theorem Exc.not_protocolError_of_valueError {e : Exc} (h : e.isValueError = true) :
    e.isProtocolError = false := by
  cases e with
  | valueError _ | valueOutOfRange _ _ _ _ | channelNotWritable _ => rfl
  | _ => cases h

theorem coerce_not_protocolError {record : ChannelDefinition} {value : CallerValue} {e : Exc}
    (h : HeatPumpService.coerce record value = .error e) : e.isProtocolError = false := by
  cases hvalue : e.isValueError with
  | true => exact e.not_protocolError_of_valueError hvalue
  | false =>
      obtain ⟨text, hraised⟩ := ((coerce_error h).mp hvalue).raises
      rw [h] at hraised
      cases hraised
      rfl

theorem requireChannel_error {channelId : String} {e : Exc}
    (h : HeatPumpService.requireChannel config channelId = .error e) :
    e.isProtocolError = false := by
  rw [HeatPumpService.requireChannel] at h
  split at h
  · cases h
  · cases h
    rfl

theorem requireChannel_mem {channelId : String} {record : ChannelDefinition}
    (h : HeatPumpService.requireChannel config channelId = .ok record) :
    record ∈ config.channels := by
  rw [HeatPumpService.requireChannel] at h
  split at h
  · next hrecord =>
      cases h
      exact (HeatPumpConfig.channel_mem hrecord).1
  · cases h

/-- A property of programs that sequences keep. Programs that end without an exchange are
asked to have it where they do not complain of the device. -/
structure Modular (Q : {α : Type} → Talk α → Prop) : Prop where
  ret : ∀ {α : Type} (a : α), Q (.ret a : Talk α)
  raise : ∀ {α : Type} (e : Exc), e.isProtocolError = false → Q (.raise e : Talk α)
  bind : ∀ {α β : Type} {p : Talk α} {f : α → Talk β}, Q p → (∀ a, Q (f a)) → Q (p >>= f)

namespace Modular

variable {Q : {α : Type} → Talk α → Prop} (hQ : Modular Q)
include hQ

/-- A call that looks things up first and has its conversation then. -/
theorem perform {α : Type} {prepared : Except Exc (Talk α)}
    (herror : ∀ e, prepared = .error e → e.isProtocolError = false)
    (h : ∀ talk, prepared = .ok talk → Q talk) : Q (HeatPumpService.perform prepared) := by
  cases prepared with
  | error e => exact hQ.raise e (herror e rfl)
  | ok talk => exact h talk rfl

theorem readRequests (hsleep : Q (HeatpumpGateway.sleep waitingTime)) (requests : List Request)
    (hread : ∀ request ∈ requests, Q (readRequest waitingTime request)) :
    ∀ data, Q (readRequestsFrom waitingTime requests data) := by
  induction requests with
  | nil => exact fun _ => hQ.ret _
  | cons request rest ih =>
      intro data
      refine hQ.bind (hread request List.mem_cons_self) fun values => ?_
      simp only []
      split
      · exact hQ.ret _
      · exact hQ.bind hsleep fun _ => ih (fun r hr => hread r (List.mem_cons_of_mem _ hr)) _

theorem readChannel (hread : ∀ request ∈ config.requests, Q (readRequest waitingTime request))
    (channelId : String) : Q (HeatPumpService.readChannel config waitingTime channelId) := by
  refine hQ.perform (fun e he => ?_) fun talk htalk => ?_
  · rcases Fallible.bind_eq_error.mp he with hrecord | ⟨_, _, hret⟩
    · exact requireChannel_error hrecord
    · cases hret
  · obtain ⟨record, _, hrest⟩ := Fallible.bind_eq_ok.mp htalk
    cases hrest
    split
    · exact hQ.raise _ rfl
    · next request hfind =>
        refine hQ.bind (hread request (List.mem_of_find?_eq_some hfind)) fun data => ?_
        split
        · exact hQ.raise _ rfl
        · exact hQ.ret _

theorem readChannels (hsleep : Q (HeatpumpGateway.sleep waitingTime))
    (hread : ∀ request ∈ config.requests, Q (readRequest waitingTime request))
    (channelIds : List String) :
    Q (HeatPumpService.readChannels config waitingTime channelIds) := by
  refine hQ.perform (fun e he => ?_) fun talk htalk => ?_
  · rw [HeatPumpService.prepareReadChannels] at he
    split at he
    · cases he
      rfl
    · cases he
  · rw [HeatPumpService.prepareReadChannels] at htalk
    split at htalk
    · cases htalk
    · cases htalk
      exact hQ.bind (hQ.readRequests hsleep _ (fun request hin =>
        hread request (HeatPumpConfig.requestsFor_subset channelIds hin)) _) fun _ => hQ.ret _

theorem readAll (hsleep : Q (HeatpumpGateway.sleep waitingTime))
    (hread : ∀ request ∈ config.requests, Q (readRequest waitingTime request))
    (dataTypes : List DataType) :
    Q (HeatPumpService.readAll config waitingTime dataTypes) :=
  hQ.bind (hQ.readRequests hsleep _ (fun request hin =>
    hread request (List.mem_filter.mp hin).1) _) fun _ => hQ.ret _

theorem getVersion (hread : ∀ request ∈ config.requests, Q (readRequest waitingTime request)) :
    Q (HeatPumpService.getVersion config waitingTime) := by
  refine hQ.perform (fun e he => ?_) fun talk htalk => ?_
  · rw [HeatPumpService.prepareGetVersion] at he
    split at he <;> cases he
  · rw [HeatPumpService.prepareGetVersion] at htalk
    split at htalk
    · cases htalk
      exact hQ.ret _
    · next request hfind =>
        cases htalk
        refine hQ.bind (hread request (List.mem_of_find?_eq_some hfind)) fun data => ?_
        split
        · exact hQ.ret _
        · exact hQ.ret _

theorem writeChannel (hwrite : ∀ v, ∀ record ∈ config.channels, record.writable = true →
      Q (writeValues waitingTime [(v, record)])) (channelId : String) (value : CallerValue) :
    Q (HeatPumpService.writeChannel config waitingTime channelId value) := by
  refine hQ.perform (fun e he => ?_) fun talk htalk => ?_
  · rcases Fallible.bind_eq_error.mp he with hrecord | ⟨record, _, hrest⟩
    · exact requireChannel_error hrecord
    · split at hrest
      · cases hrest
        rfl
      · rcases Fallible.bind_eq_error.mp hrest with hcoerce | ⟨_, _, hret⟩
        · exact coerce_not_protocolError hcoerce
        · cases hret
  · obtain ⟨record, hrecord, hrest⟩ := Fallible.bind_eq_ok.mp htalk
    split at hrest
    · cases hrest
    · next hwritable =>
        obtain ⟨coerced, _, hret⟩ := Fallible.bind_eq_ok.mp hrest
        cases hret
        refine hQ.bind (hwrite _ record (requireChannel_mem hrecord) ?_) fun _ => hQ.ret _
        simpa using hwritable

theorem ofExcept_bind {α β : Type} {x : Except Exc β} {f : β → Talk α}
    (herror : ∀ e, x = .error e → e.isProtocolError = false) (hf : ∀ a, Q (f a)) :
    Q (Dialogue.ofExcept x >>= f) := by
  cases x with
  | error e => exact hQ.raise e (herror e rfl)
  | ok a => exact hf a

theorem fromHex_bind {α : Type} {text : String} {f : Bytes → Talk α} (hf : ∀ a, Q (f a)) :
    Q (Dialogue.ofExcept (fromHex text) >>= f) := by
  refine hQ.ofExcept_bind (fun e he => ?_) hf
  obtain ⟨why, rfl⟩ := fromHex_error he
  rfl

/-! ### Nothing comes after a read -/

section barred

variable (hget : ∀ {α : Type} (message : Bytes) (f : Bytes → Talk α),
  Q (Connector.getData message >>= f))
include hget

theorem readAttempt (request : Request) :
    Q (CommunicationService.readAttempt waitingTime request) :=
  hQ.fromHex_bind fun _ => hget _ _

theorem writeValues (items : List (DecodedValue × ChannelDefinition)) :
    Q (CommunicationService.writeValues waitingTime items) := by
  cases items with
  | nil => exact hQ.raise _ rfl
  | cons item items => exact hQ.fromHex_bind fun _ => hget _ _

theorem readClock (request : Option Request) : Q (CommunicationService.readClock request) := by
  cases request with
  | none => exact hQ.ret []
  | some request => exact hQ.fromHex_bind fun _ => hget _ _

theorem setTimeViaRegisters (hsleep : Q (HeatpumpGateway.sleep waitingTime))
    (clockRecords : Dict String ChannelDefinition) (values : Dict String DecodedValue)
    (fields : List String) : ∀ written,
    Q (CommunicationService.setTimeViaRegisters waitingTime clockRecords values fields
      written) := by
  induction fields with
  | nil => exact fun written => hQ.ret written
  | cons field fields ih =>
      intro written
      rw [CommunicationService.setTimeViaRegisters]
      split
      · exact hQ.bind (hQ.writeValues hget _) fun result => hQ.bind hsleep fun _ => ih _
      · exact ih written

theorem setTime (hsleep : Q (HeatpumpGateway.sleep waitingTime)) (now : DateTime)
    (request : Option Request) (clockRecords : Dict String ChannelDefinition) :
    Q (CommunicationService.setTime waitingTime now request clockRecords) := by
  unfold CommunicationService.setTime
  simp only []
  split
  · exact hQ.bind (hQ.setTimeViaRegisters hget hsleep _ _ _ _) fun _ =>
      hQ.bind (hQ.readClock hget request) fun _ => hQ.ret _
  · cases request with
    | none => exact hQ.ret []
    | some request =>
        exact hQ.bind (hQ.fromHex_bind fun _ => hget _ _) fun _ =>
          hQ.bind (hQ.readClock hget (some request)) fun _ => hQ.ret _

theorem talk (hsleep : Q (HeatpumpGateway.sleep waitingTime))
    (hread : ∀ request, Q (readRequest waitingTime request)) (config : HeatPumpConfig)
    (call : ServiceCall) : Q (call.talk config waitingTime) := by
  cases call with
  | readChannel channelId =>
      exact hQ.bind (hQ.readChannel (fun request _ => hread request) channelId) fun _ => hQ.ret ()
  | readChannels channelIds =>
      exact hQ.bind (hQ.readChannels hsleep (fun request _ => hread request) channelIds)
        fun _ => hQ.ret ()
  | readAll dataTypes =>
      exact hQ.bind (hQ.readAll hsleep (fun request _ => hread request) dataTypes)
        fun _ => hQ.ret ()
  | getVersion =>
      exact hQ.bind (hQ.getVersion fun request _ => hread request) fun _ => hQ.ret ()
  | setTime now => exact hQ.bind (hQ.setTime hget hsleep _ _ _) fun _ => hQ.ret ()
  | writeChannel channelId value =>
      exact hQ.bind (hQ.writeChannel (fun v record _ _ => hQ.writeValues hget _) channelId value)
        fun _ => hQ.ret ()

end barred

end Modular

end HeatpumpGateway
