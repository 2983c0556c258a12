import HeatpumpGateway.Proofs.Calls
import HeatpumpGateway.Proofs.Constructor

/-!
# The service as a map

Any number of clients call the service over the simulator, their steps in any order.
Under the lock the calls are whole (`Locked.Reachable.serial`), and a whole call
on the device is a call on the map the device stands for (`run_call`); so the
service is a map from channel ids to values (`service_is_a_map`), and what an accepted
write returns is what every read of the channel returns until the next one is
accepted.

The first half shows that the constructor's device stands for a map to begin with,
whatever data its frames are given.
-/

namespace HeatpumpGateway

open Dialogue Fallible

/-! ## What the constructor builds -/

namespace HeatPumpSimulator

/-- The constructor's device is idle and knows the commands of the requests. -/
theorem create_commands {config : HeatPumpConfig} (hregular : Regular config)
    {seeds : Dict String DecodedValue} {created : HeatPumpSimulator}
    (h : create config seeds = .ok created) :
    created.state = .idle ∧ Commands config created.commandToRequest := by
  obtain ⟨hidle, hknows⟩ := create_tables h
  refine ⟨hidle, fun c => (hknows c).trans (exists_congr fun request =>
    and_congr_right fun hrequest => ?_)⟩
  rw [Names, hregular.single request hrequest]
  simp

end HeatPumpSimulator

/-! ## The frames it builds -/

/-- The frame has the length, header, command and footer of one the constructor built,
and its checksum is right. -/
structure KeepsShape (command built frame : Bytes) : Prop where
  length : frame.length = built.length
  header : frame.take 2 = built.take 2
  command : (frame.drop 3).take command.length = (built.drop 3).take command.length
  footer : frame.drop (frame.length - 2) = built.drop (built.length - 2)
  checksum : frame[2]? = some (checksumOf frame)

/-- Every request has a frame of the constructor's shape, of at most 512 bytes. -/
def StoreOf (config : HeatPumpConfig) (store : Dict String Bytes) : Prop :=
  ∀ request ∈ config.requests, ∀ command built, fromHex request.requestByte = .ok command →
    HeatPumpSimulator.buildFrame request command = .ok built →
    ∃ frame, store.get? request.requestByte = some frame ∧ KeepsShape command built frame ∧
      frame.length ≤ 512

/-- A frame of that shape is a register's. -/
theorem KeepsShape.register {command frame : Bytes} {d : Nat}
    (h : KeepsShape command (registerFrame GET command (List.replicate d 0)) frame) :
    ∃ data, data.length = d ∧ frame = registerFrame GET command data := by
  obtain ⟨hlen, hheader, hcommand, hfooter, hchecksum⟩ := h
  rw [registerFrame_length, List.length_replicate] at hlen
  rw [registerFrame_length, List.length_replicate, hlen] at hfooter
  obtain ⟨a, b, x, rest, rfl⟩ : ∃ a b x rest, frame = a :: b :: x :: rest := by
    match frame, hlen with
    | a :: b :: x :: rest, _ => exact ⟨a, b, x, rest, rfl⟩
    | [], hlen => simp at hlen
    | [_], hlen => simp at hlen
    | [_, _], hlen => simp at hlen
  obtain ⟨rfl, rfl⟩ : a = HEADER_START ∧ b = GET := by
    simpa [registerFrame, frameWith] using hheader
  have hbuilt : (registerFrame GET command (List.replicate d 0)).drop 3
      = command ++ (List.replicate d 0 ++ FOOTER) := List.append_assoc ..
  have hrest : rest.length = command.length + d + 2 := by
    simp only [List.length_cons] at hlen
    omega
  have htake : rest.take command.length = command := by
    rw [hbuilt, List.take_left] at hcommand
    exact hcommand
  have hdrop : rest.drop (command.length + d) = FOOTER := by
    have hend : (registerFrame GET command (List.replicate d 0)).drop
        (command.length + d + 5 - 2) = FOOTER := by
      rw [show command.length + d + 5 - 2 = 3 + (command ++ List.replicate d 0).length by
        rw [List.length_append, List.length_replicate]; omega, ← List.drop_drop, hbuilt,
        ← List.append_assoc, List.drop_left]
    rw [hend, show command.length + d + 5 - 2 = command.length + d + 3 by omega] at hfooter
    exact hfooter
  refine ⟨(rest.drop command.length).take d, ?_, ?_⟩
  · rw [List.length_take, List.length_drop]
    omega
  · have hsplit : rest = command ++ (rest.drop command.length).take d ++ FOOTER := by
      conv_lhs => rw [← List.take_append_drop (command.length + d) rest, hdrop, List.take_add,
        htake]
    have hx : x = checksumOf (HEADER_START :: GET :: x :: rest) := Option.some.inj hchecksum
    have hsealed := sealed_register GET x command ((rest.drop command.length).take d)
    rw [← hsplit] at hsealed
    rw [← hsealed, sealed, ← hx]
    rfl

/-- The constructor's frames are long enough for every record, and for nothing more. -/
theorem exists_dataEnd {config : HeatPumpConfig} (hregular : Regular config) {request : Request}
    (hrequest : request ∈ config.requests) {command : Bytes}
    (hhex : fromHex request.requestByte = .ok command) :
    ∃ d : Nat, HeatPumpSimulator.dataEnd request.records = 3 + command.length + d ∧
      ∀ record ∈ request.records,
        record.position + record.length ≤ 3 + (command.length : Int) + d := by
  obtain ⟨record, hmem, hkey⟩ := HeatPumpConfig.exists_channel_of_request hrequest
  have hin : record ∈ request.records := (HeatPumpConfig.mem_records hrequest).mpr ⟨hmem, hkey⟩
  have hlow := (hregular.records request hrequest command hhex record hin).behind
  have hlen := (hregular.records request hrequest command hhex record hin).length
  have hle := le_dataEnd hin
  refine ⟨(HeatPumpSimulator.dataEnd request.records - 3 - command.length).toNat, by omega, ?_⟩
  intro r hr
  have := le_dataEnd hr
  omega

/-- The map a store stands for. -/
def storedValues (config : HeatPumpConfig) (store : Dict String Bytes) : Values := fun channelId =>
  match config.channel channelId, config.requestForChannel channelId with
  | some record, some request =>
      meaning record (fieldBytes ((store.get? request.requestByte).getD []) record)
  | _, _ => .bool false

/-- The map has the values that the store's frames decode to. -/
def Decodes (config : HeatPumpConfig) (store : Dict String Bytes) (m : Values) : Prop :=
  ∀ request ∈ config.requests, ∀ record ∈ request.records, ∃ frame,
    store.get? request.requestByte = some frame ∧
      parseRecord frame record = .ok (m record.channelId)

theorem StoreOf.holds {config : HeatPumpConfig} (hregular : Regular config)
    {commands : Dict Command Request} (hcommands : Commands config commands)
    {store : Dict String Bytes} (h : StoreOf config store) {request : Request}
    (hrequest : request ∈ config.requests) :
    ∃ c data, Holds commands store (storedValues config store) request c data := by
  obtain ⟨c, htext, hne, _⟩ := hregular.exists_command hrequest
  have hhex : fromHex request.requestByte = .ok c.bytes := by
    rw [← htext]
    exact c.hex
  obtain ⟨d, hend, hreach⟩ := exists_dataEnd hregular hrequest hhex
  obtain ⟨frame, hframe, hshape, hfits⟩ :=
    h request hrequest c.bytes _ hhex (buildFrame_eq hend)
  obtain ⟨data, hdata, rfl⟩ := hshape.register
  refine ⟨c, data, htext, ⟨(hcommands c).mpr ⟨request, hrequest, htext⟩, hne, ?_, hfits⟩, ?_, ?_⟩
  · rw [htext]
    exact hframe
  · intro record hin
    have hreached := hreach record hin
    rw [← hdata] at hreached
    exact ⟨(hregular.records request hrequest c.bytes hhex record hin).behind, hreached⟩
  · intro record hin
    have hmem := ((HeatPumpConfig.mem_records hrequest).mp hin).1
    rw [storedValues, HeatPumpConfig.channel_of_mem hregular.ids hmem,
      HeatPumpConfig.requestForChannel_eq hregular.ids hrequest hin]
    simp only [hframe, Option.getD_some]

theorem StoreOf.decodes {config : HeatPumpConfig} (hregular : Regular config)
    {commands : Dict Command Request} (hcommands : Commands config commands)
    {store : Dict String Bytes} (h : StoreOf config store) :
    Decodes config store (storedValues config store) := by
  intro request hrequest record hin
  obtain ⟨c, data, hheld⟩ := h.holds hregular hcommands hrequest
  have hhex : fromHex request.requestByte = .ok c.bytes := by
    rw [← hheld.text]
    exact c.hex
  refine ⟨registerFrame GET c.bytes data, ?_, ?_⟩
  · rw [← hheld.text]
    exact hheld.register.frame
  · rw [parseRecord_meaning (hregular.records request hrequest c.bytes hhex record hin)
      (hheld.inData record hin).contained (by rw [registerFrame_length]; omega),
      hheld.means record hin]

/-! ## Reading back -/

/-- An accepted write of the channel. -/
def AcceptedWrite (channelId : String) : Call × Except Exc Reply → Prop
  | (.writeChannel id _, .ok _) => id = channelId
  | _ => False

/-- What an accepted write of a channel reports is what every read of the channel
reports until the next one is accepted, and it is the value that was asked for, or the
nearest one the field can hold when it fits. -/
structure ReadsBack (config : HeatPumpConfig) (log : List (Call × Except Exc Reply)) : Prop where
  readChannel : ∀ before between after channelId given written answered,
    log = before ++ (.writeChannel channelId given, .ok (.one written)) ::
      (between ++ (.readChannel channelId, answered) :: after) →
    (∀ entry ∈ between, ¬ AcceptedWrite channelId entry) →
    answered = .ok (.one written)
  readChannels : ∀ before between after channelId given written channelIds answered,
    log = before ++ (.writeChannel channelId given, .ok (.one written)) ::
      (between ++ (.readChannels channelIds, answered) :: after) →
    (∀ entry ∈ between, ¬ AcceptedWrite channelId entry) →
    channelId ∈ channelIds → (∀ id ∈ channelIds, (config.channel id).isSome) →
    ∃ values, answered = .ok (.many values) ∧
      values.filter (fun value => value.channelId = channelId) = [written]
  value : ∀ channelId given written, (.writeChannel channelId given, .ok (.one written)) ∈ log →
    ∃ record v stored, config.channel channelId = some record ∧ record.writable = true ∧
      HeatPumpService.coerce record given = .ok v ∧
      written = HeatPumpService.toChannelValue record stored ∧
      ((∃ b, v = .bool b ∧ stored = .bool b) ∨
        ∃ raw, rawOf v record = .ok raw ∧
          (FitsField raw record → stored = quantised record raw))

section map

variable {config : HeatPumpConfig} {m : Values}

/-- What an accepted write has found, and what it leaves. -/
theorem answer_writeChannel {channelId : String} {given : CallerValue} {reply : Reply}
    (h : (answer config (.writeChannel channelId given) m).1 = .ok reply) :
    ∃ record v stored, config.channel channelId = some record ∧ record.writable = true ∧
      HeatPumpService.coerce record given = .ok v ∧ accept record v = .ok stored ∧
      reply = .one (HeatPumpService.toChannelValue record stored) ∧
      (answer config (.writeChannel channelId given) m).2 = m.set channelId stored := by
  rw [answer, HeatPumpService.requireChannel] at h ⊢
  cases hrecord : config.channel channelId with
  | none =>
      simp only [hrecord] at h
      cases h
  | some record =>
      simp only [hrecord] at h ⊢
      cases hwritable : record.writable with
      | false =>
          simp only [hwritable] at h
          cases h
      | true =>
          simp only [hwritable] at h ⊢
          cases hstored : HeatPumpService.coerce record given >>= accept record with
          | error e =>
              simp only [hstored] at h
              cases h
          | ok stored =>
              simp only [hstored] at h ⊢
              obtain ⟨v, hv, haccept⟩ := bind_eq_ok.mp hstored
              cases h
              exact ⟨record, v, stored, rfl, hwritable, hv, haccept, rfl, rfl⟩

/-- Nothing but an accepted write of a channel changes the channel. -/
theorem answer_unchanged {channelId : String} (c : Call) (m : Values)
    (h : ¬ AcceptedWrite channelId (c, (answer config c m).1)) :
    (answer config c m).2 channelId = m channelId := by
  cases c with
  | readChannel id =>
      rw [answer]
      split <;> rfl
  | readChannels ids =>
      rw [answer]
      split <;> rfl
  | writeChannel id given =>
      cases hreply : (answer config (.writeChannel id given) m).1 with
      | ok reply =>
          rw [hreply] at h
          obtain ⟨_, _, stored, _, _, _, _, _, hleft⟩ := answer_writeChannel hreply
          rw [hleft]
          exact if_neg fun heq => h heq.symm
      | error e =>
          have hsame : (answer config (.writeChannel id given) m).2 = m := by
            rw [answer] at hreply ⊢
            split
            · rfl
            · next hrequire =>
                simp only [hrequire] at hreply ⊢
                split
                · rfl
                · next hwritable =>
                    simp only [hwritable] at hreply
                    split
                    · rfl
                    · next hstored =>
                        simp only [hstored] at hreply
                        cases hreply
          rw [hsame]

/-- A call after an accepted write, and before the next of the channel, finds what the
write reported. -/
theorem found_after_write {before between after : List (Call × Except Exc Reply)} {m' : Values}
    {channelId : String} {given : CallerValue} {written : ChannelValue} {c : Call}
    {answered : Except Exc Reply}
    (h : Locked.Behaves (answer config) m (before ++
      (.writeChannel channelId given, .ok (.one written)) ::
        (between ++ (c, answered) :: after)) m')
    (hbetween : ∀ entry ∈ between, ¬ AcceptedWrite channelId entry) :
    ∃ record found, config.channel channelId = some record ∧
      written = HeatPumpService.toChannelValue record (found channelId) ∧
      answered = (answer config c found).1 := by
  obtain ⟨m₁, _, hwrite, hrest⟩ := Locked.behaves_append.mp h
  obtain ⟨m₂, hmid, hread, _⟩ := Locked.behaves_append.mp hrest
  obtain ⟨record, _, stored, hrecord, _, _, _, hreply, hleft⟩ := answer_writeChannel hwrite.symm
  have hsame := Locked.Behaves.unchanged (f := fun m : Values => m channelId)
    (P := AcceptedWrite channelId) answer_unchanged hmid hbetween
  refine ⟨record, m₂, hrecord, ?_, hread⟩
  rw [show m₂ channelId = stored by rw [hsame, hleft]; exact if_pos rfl]
  exact Reply.one.inj hreply

theorem filter_eq_singleton {α β : Type} [DecidableEq β] {f : α → β} {xs : List α} {x : α}
    (hnd : (xs.map f).Nodup) (hx : x ∈ xs) : xs.filter (fun y => f y = f x) = [x] := by
  obtain ⟨before, after, rfl⟩ := List.append_of_mem hx
  rw [List.map_append, List.map_cons] at hnd
  obtain ⟨_, hafter, hapart⟩ := List.nodup_append.mp hnd
  have hbefore : before.filter (fun y => f y = f x) = [] := by
    refine List.filter_eq_nil_iff.mpr fun y hy heq => ?_
    exact hapart (f y) (List.mem_map_of_mem hy) (f x) List.mem_cons_self (of_decide_eq_true heq)
  have hrest : after.filter (fun y => f y = f x) = [] := by
    refine List.filter_eq_nil_iff.mpr fun y hy heq => ?_
    refine (List.nodup_cons.mp hafter).1 ?_
    rw [← of_decide_eq_true heq]
    exact List.mem_map_of_mem hy
  rw [List.filter_append, List.filter_cons_of_pos (by simp), hbefore, hrest, List.nil_append]

/-- A sweep that asks for a channel has one value of it. -/
theorem wanted_filter (hregular : Regular config) (m : Values) {channelIds : List String}
    {record : ChannelDefinition} (hrecord : config.channel record.channelId = some record)
    (hin : record.channelId ∈ channelIds) :
    ((wanted config channelIds).map fun record =>
        HeatPumpService.toChannelValue record (m record.channelId)).filter
          (fun value => value.channelId = record.channelId)
      = [HeatPumpService.toChannelValue record (m record.channelId)] := by
  obtain ⟨hmem, _⟩ := HeatPumpConfig.channel_mem hrecord
  obtain ⟨request, hrequest, _, hrecords⟩ := HeatPumpConfig.exists_request_of_channel hmem
  have hfind := HeatPumpConfig.requestForChannel_eq hregular.ids hrequest hrecords
  have hwanted : record ∈ wanted config channelIds := by
    refine List.mem_filter.mpr ⟨List.mem_flatMap.mpr ⟨request, ?_, hrecords⟩, ?_⟩
    · exact HeatPumpConfig.mem_requestsFor hfind hin
    · exact decide_eq_true hin
  have hnd : ((wanted config channelIds).map ChannelDefinition.channelId).Nodup :=
    (HeatPumpConfig.flatMap_records_ids_nodup hregular.ids
      (HeatPumpConfig.requestsFor_nodup config channelIds)
      fun _ hr => HeatPumpConfig.requestsFor_subset channelIds hr).sublist
        (List.filter_sublist.map _)
  rw [List.filter_map]
  exact congrArg (List.map _) (filter_eq_singleton hnd hwanted)

/-- The map reads back what is written to it. -/
theorem readsBack_of_behaves (hregular : Regular config)
    {log : List (Call × Except Exc Reply)} {m' : Values}
    (h : Locked.Behaves (answer config) m log m') : ReadsBack config log := by
  refine ⟨?_, ?_, ?_⟩
  · intro before between after channelId given written answered hlog hbetween
    rw [hlog] at h
    obtain ⟨record, found, hrecord, rfl, hanswered⟩ := found_after_write h hbetween
    rw [hanswered, answer, HeatPumpService.requireChannel, hrecord]
  · intro before between after channelId given written channelIds answered hlog hbetween hin hknown
    rw [hlog] at h
    obtain ⟨record, found, hrecord, rfl, hanswered⟩ := found_after_write h hbetween
    obtain ⟨_, rfl⟩ := HeatPumpConfig.channel_mem hrecord
    have hall : channelIds.filter (fun id => (config.channel id).isNone) = [] := by
      refine List.filter_eq_nil_iff.mpr fun id hid hnone => ?_
      have hsome := hknown id hid
      rw [Option.isNone_iff_eq_none.mp hnone] at hsome
      cases hsome
    refine ⟨_, ?_, wanted_filter hregular found hrecord hin⟩
    rw [hanswered, answer, if_neg (not_not.mpr hall)]
  · intro channelId given written hmem
    obtain ⟨before, after, rfl⟩ := List.append_of_mem hmem
    obtain ⟨m₁, _, hwrite, _⟩ := Locked.behaves_append.mp h
    obtain ⟨record, v, stored, hrecord, hwritable, hv, hstored, hreply, _⟩ :=
      answer_writeChannel hwrite.symm
    refine ⟨record, v, stored, hrecord, hwritable, hv, Reply.one.inj hreply, ?_⟩
    rcases coerce_kind hv with ⟨_, b, rfl⟩ | ⟨_, hnumber⟩
    · cases hstored
      exact .inl ⟨b, rfl, rfl⟩
    · obtain ⟨raw, hraw, rfl⟩ := accept_number hnumber hstored
      obtain ⟨hmem', rfl⟩ := HeatPumpConfig.channel_mem hrecord
      obtain ⟨request, hrequest, _, hin⟩ := HeatPumpConfig.exists_request_of_channel hmem'
      obtain ⟨command, hhex, _, _⟩ := hregular.command request hrequest
      have hlen := (hregular.records request hrequest command hhex record hin).length
      refine .inr ⟨raw, hraw, fun hfits => ?_⟩
      rw [(fitsField_iff hlen).mp hfits]

end map

/-! ## The service -/

/-- However the clients' steps are ordered, the calls served so far are calls on one map,
which began as what the frames decode to; and each client finds its calls invoked,
served and returned in turn. -/
theorem service_is_a_map {ι : Type} [DecidableEq ι] {config : HeatPumpConfig}
    (hregular : Regular config) {seeds : Dict String DecodedValue} {created : HeatPumpSimulator}
    (hcreated : HeatPumpSimulator.create config seeds = .ok created) {store : Dict String Bytes}
    (hstore : StoreOf config store) (waitingTime : Nat)
    {history : List (Locked.Event ι Call Exc Reply)}
    {s : Locked.System Op Op.Ans Exc Reply SimulatorTransport Call ι}
    (h : Locked.Reachable SimulatorTransport.answer (prepare config waitingTime)
      { simulator := { created with store := store } } history s) :
    ∃ before after : Values, Decodes config store before ∧
      Locked.Behaves (answer config) before (Locked.served history) after ∧
      ReadsBack config (Locked.served history) ∧
      ∀ i, Locked.Alternates i (Locked.ofClient i history) (s.phase i) := by
  obtain ⟨hidle, hcommands⟩ := HeatPumpSimulator.create_commands hregular hcreated
  have hinitial : Represents config created.commandToRequest
      { simulator := { created with store := store } } (storedValues config store) :=
    ⟨store, ⟨hidle, rfl, rfl, rfl⟩, fun request hrequest =>
      hstore.holds hregular hcommands hrequest⟩
  obtain ⟨rest, hserial, _⟩ := h.serial
  obtain ⟨after, hbehaves, _⟩ := hserial.simulates
    (R := Represents config created.commandToRequest)
    (fun c t m hrep => run_call waitingTime hregular hcommands hrep c) hinitial
  exact ⟨_, after, hstore.decodes hregular hcommands, hbehaves,
    readsBack_of_behaves hregular hbehaves, h.alternates.alternates⟩

def roomTempSetback : ChannelDefinition :=
  { channelId := "p02RoomTemperatureSetbackMode", requestByte := "0B0008", dataType := .settings
    position := 6, length := 2, scale := .ofRat (1 / 10), min := .finite 10, max := .finite 30 }

def roomTempsConfig : HeatPumpConfig := { channels := [roomTempDay, roomTempSetback] }

/-- 21 degrees by day and 16 in setback mode. -/
def roomTempsStore : Dict String Bytes :=
  [("0B0005", [0x01, 0x00, 0xE3, 0x0B, 0x00, 0x05, 0x00, 0xD2, 0x10, 0x03]),
    ("0B0008", [0x01, 0x00, 0xB4, 0x0B, 0x00, 0x08, 0x00, 0xA0, 0x10, 0x03])]

theorem roomTempsConfig_requests {request : Request}
    (h : request ∈ roomTempsConfig.requests) :
    (request = { requestByte := "0B0005", requestByte2 := none, records := [roomTempDay] } ∧
        fromHex request.requestByte = .ok [0x0B, 0x00, 0x05]) ∨
      (request = { requestByte := "0B0008", requestByte2 := none, records := [roomTempSetback] } ∧
        fromHex request.requestByte = .ok [0x0B, 0x00, 0x08]) := by
  have hrequests : roomTempsConfig.requests
      = [{ requestByte := "0B0005", requestByte2 := none, records := [roomTempDay] },
        { requestByte := "0B0008", requestByte2 := none, records := [roomTempSetback] }] := by
    decide +kernel
  rw [hrequests, List.mem_cons, List.mem_singleton] at h
  rcases h with rfl | rfl
  · exact .inl ⟨rfl, by decide +kernel⟩
  · exact .inr ⟨rfl, by decide +kernel⟩

theorem roomTempsConfig_regular : Regular roomTempsConfig := by
  have hrecord : ∀ record, record = roomTempDay ∨ record = roomTempSetback →
      RegularRecord 3 record := by
    intro record h
    have hscale : record.scale = .finite (PyFloat.double.nearest (1 / 10)) := by
      rcases h with rfl | rfl <;> decide +kernel
    have hlegible : record.length = 2 → Legible record := fun hlen =>
      legible_of_le (.inr hlen) hscale (by decide +kernel)
    rcases h with rfl | rfl
    · exact ⟨.inr rfl, hlegible rfl, by decide, by decide +kernel, by decide⟩
    · exact ⟨.inr rfl, hlegible rfl, by decide, by decide +kernel, by decide⟩
  refine ⟨by decide +kernel, ?_, ?_, ?_, ?_, ?_, ?_⟩
  · simp only [roomTempsConfig, List.forall_mem_cons]
    exact ⟨⟨[0x0B, 0x00, 0x05], by decide +kernel⟩, ⟨[0x0B, 0x00, 0x08], by decide +kernel⟩,
      by simp⟩
  · intro request hrequest
    rcases roomTempsConfig_requests hrequest with ⟨rfl, _⟩ | ⟨rfl, _⟩ <;> rfl
  · intro request hrequest
    rcases roomTempsConfig_requests hrequest with ⟨_, hhex⟩ | ⟨_, hhex⟩
    · exact ⟨_, hhex, by decide, by decide⟩
    · exact ⟨_, hhex, by decide, by decide⟩
  · intro request hrequest request' hrequest' command command' hcommand hcommand' hprefix
    rcases roomTempsConfig_requests hrequest with ⟨rfl, hhex⟩ | ⟨rfl, hhex⟩ <;>
      rcases roomTempsConfig_requests hrequest' with ⟨rfl, hhex'⟩ | ⟨rfl, hhex'⟩
    all_goals
      obtain rfl := Except.ok.inj (hhex.symm.trans hcommand)
      obtain rfl := Except.ok.inj (hhex'.symm.trans hcommand')
      first
        | rfl
        | exact absurd hprefix (by decide)
  · intro request hrequest command hcommand record hin
    rcases roomTempsConfig_requests hrequest with ⟨rfl, hhex⟩ | ⟨rfl, hhex⟩
    · obtain rfl := Except.ok.inj (hhex.symm.trans hcommand)
      exact hrecord record (.inl (List.mem_singleton.mp hin))
    · obtain rfl := Except.ok.inj (hhex.symm.trans hcommand)
      exact hrecord record (.inr (List.mem_singleton.mp hin))
  · intro request hrequest record hin record' hin' hne
    rcases roomTempsConfig_requests hrequest with ⟨rfl, _⟩ | ⟨rfl, _⟩
    · exact absurd ((List.mem_singleton.mp hin).trans (List.mem_singleton.mp hin').symm) hne
    · exact absurd ((List.mem_singleton.mp hin).trans (List.mem_singleton.mp hin').symm) hne

theorem roomTempsStore_storeOf : StoreOf roomTempsConfig roomTempsStore := by
  intro request hrequest command built hcommand hbuilt
  rcases roomTempsConfig_requests hrequest with ⟨rfl, hhex⟩ | ⟨rfl, hhex⟩
  · obtain rfl := Except.ok.inj (hhex.symm.trans hcommand)
    have hframe : HeatPumpSimulator.buildFrame
        { requestByte := "0B0005", requestByte2 := none, records := [roomTempDay] }
        [0x0B, 0x00, 0x05]
          = .ok [0x01, 0x00, 0x11, 0x0B, 0x00, 0x05, 0x00, 0x00, 0x10, 0x03] := by
      decide +kernel
    obtain rfl := Except.ok.inj (hframe.symm.trans hbuilt)
    exact ⟨_, rfl, ⟨by decide, by decide, by decide, by decide, by decide +kernel⟩, by decide⟩
  · obtain rfl := Except.ok.inj (hhex.symm.trans hcommand)
    have hframe : HeatPumpSimulator.buildFrame
        { requestByte := "0B0008", requestByte2 := none, records := [roomTempSetback] }
        [0x0B, 0x00, 0x08]
          = .ok [0x01, 0x00, 0x14, 0x0B, 0x00, 0x08, 0x00, 0x00, 0x10, 0x03] := by
      decide +kernel
    obtain rfl := Except.ok.inj (hframe.symm.trans hbuilt)
    exact ⟨_, rfl, ⟨by decide, by decide, by decide, by decide, by decide +kernel⟩, by decide⟩

/-- One client writes 20.5 degrees while another is waiting to read the channel. -/
theorem service_is_a_map_roomTemp : ∃ created history s,
    HeatPumpSimulator.create roomTempsConfig [] = .ok created ∧
    Locked.Reachable SimulatorTransport.answer (prepare roomTempsConfig 0)
      { simulator := { created with store := roomTempsStore } } history
      (s : Locked.System Op Op.Ans Exc Reply SimulatorTransport Call Bool) ∧
    Locked.served history
      = [(.writeChannel "p01RoomTempDay" (.float (.finite (41 / 2))),
          .ok (.one (HeatPumpService.toChannelValue roomTempDay (.float (.finite (41 / 2)))))),
        (.readChannel "p01RoomTempDay",
          .ok (.one (HeatPumpService.toChannelValue roomTempDay
            (.float (.finite (41 / 2))))))] := by
  obtain ⟨created, hcreated⟩ :
      ∃ created, HeatPumpSimulator.create roomTempsConfig [] = .ok created := by
    have hok : (HeatPumpSimulator.create roomTempsConfig []).toOption.isSome := by decide +kernel
    cases h : HeatPumpSimulator.create roomTempsConfig [] with
    | ok created => exact ⟨created, rfl⟩
    | error e =>
        rw [h] at hok
        cases hok
  have prepared : ∀ c, (prepare roomTempsConfig 0 c).toOption.isSome →
      ∃ p, prepare roomTempsConfig 0 c = .ok p := by
    intro c hok
    cases h : prepare roomTempsConfig 0 c with
    | ok p => exact ⟨p, rfl⟩
    | error e =>
        rw [h] at hok
        cases hok
  obtain ⟨p, hp⟩ := prepared (.writeChannel "p01RoomTempDay" (.float (.finite (41 / 2))))
    (by decide +kernel)
  obtain ⟨q, hq⟩ := prepared (.readChannel "p01RoomTempDay") (by decide +kernel)
  have hstart : Locked.Reachable SimulatorTransport.answer (prepare roomTempsConfig 0)
      { simulator := { created with store := roomTempsStore } } []
      { device := { simulator := { created with store := roomTempsStore } }
        phase := fun _ : Bool => .away } := .start
  have hwaiting := (hstart.step (.invoke false
    (.writeChannel "p01RoomTempDay" (.float (.finite (41 / 2)))) rfl)).step
      (.invoke true (.readChannel "p01RoomTempDay") rfl)
  have hwritten := (hwaiting.step (.acquire false _ p rfl hp rfl)).serve rfl
  have hread := (hwritten.step (.acquire true _ q rfl hq rfl)).serve rfl
  refine ⟨created, _, _, hcreated, hread, ?_⟩
  obtain ⟨before, after, _, ⟨hfirst, hsecond, _⟩, _⟩ := service_is_a_map roomTempsConfig_regular
    hcreated roomTempsStore_storeOf 0 hread
  have hchannel : HeatPumpService.requireChannel roomTempsConfig "p01RoomTempDay"
      = .ok roomTempDay := by
    decide +kernel
  have hstored : HeatPumpService.coerce roomTempDay (.float (.finite (41 / 2))) >>=
      accept roomTempDay = .ok (.float (.finite (41 / 2))) := by
    decide +kernel
  have hanswer : answer roomTempsConfig
      (.writeChannel "p01RoomTempDay" (.float (.finite (41 / 2)))) before
      = (.ok (.one (HeatPumpService.toChannelValue roomTempDay (.float (.finite (41 / 2))))),
        before.set "p01RoomTempDay" (.float (.finite (41 / 2)))) := by
    rw [answer, hchannel]
    simp only [hstored]
    rfl
  rw [hanswer] at hfirst hsecond
  rw [answer, hchannel] at hsecond
  exact congrArg₂ _ (congrArg _ hfirst) (congrArg₂ _ (congrArg _ hsecond) rfl)

theorem regular_of_single {config : HeatPumpConfig} {record : ChannelDefinition} {text : String}
    {command : Bytes} (hids : (config.channels.map ChannelDefinition.channelId).Nodup)
    (hrequests : config.requests = [⟨text, none, [record]⟩]) (hhex : fromHex text = .ok command)
    (hspelt : fromHex record.requestByte = .ok command)
    (hpos : 1 ≤ command.length) (hle : command.length ≤ 3)
    (hrecord : RegularRecord command.length record) : Regular config := by
  have honly : ∀ request ∈ config.requests, request = ⟨text, none, [record]⟩ := fun request h => by
    rw [hrequests] at h
    exact List.mem_singleton.mp h
  refine ⟨hids, ?_, ?_, ?_, ?_, ?_, ?_⟩
  · intro record' hmem
    obtain ⟨request, hrequest, _, hin⟩ := HeatPumpConfig.exists_request_of_channel hmem
    obtain rfl := honly request hrequest
    rw [List.mem_singleton.mp hin]
    exact ⟨command, hspelt⟩
  · intro request hrequest
    rw [honly request hrequest]
  · intro request hrequest
    obtain rfl := honly request hrequest
    exact ⟨command, hhex, hpos, hle⟩
  · intro request hrequest request' hrequest' _ _ _ _ _
    rw [honly request hrequest, honly request' hrequest']
  · intro request hrequest command' hcommand' record' hin
    obtain rfl := honly request hrequest
    obtain rfl := Except.ok.inj (hhex.symm.trans hcommand')
    rwa [List.mem_singleton.mp hin]
  · intro request hrequest record₁ h₁ record₂ h₂ hne
    obtain rfl := honly request hrequest
    exact absurd ((List.mem_singleton.mp h₁).trans (List.mem_singleton.mp h₂).symm) hne

/-- Two steps of this are more than a float can be: `1e308`. -/
def farSetting : ChannelDefinition :=
  { roomTempDay with scale := .ofRat (10 ^ 308), min := .nan, max := .nan }

def farConfig : HeatPumpConfig := { channels := [farSetting] }

/-- What a call on it returns, and the device it leaves. -/
def farCall (c : Call) (t : SimulatorTransport) : Except Exc Reply × SimulatorTransport :=
  run SimulatorTransport.answer (Locked.whole (prepare farConfig 0) c) t

theorem farCall_serial {c : Call} {r : Except Exc Reply} {t t' : SimulatorTransport}
    {log : List (Call × Except Exc Reply)} (h : (farCall c t).1 = r)
    (hrest : Locked.Serial SimulatorTransport.answer (prepare farConfig 0) (farCall c t).2 log t') :
    Locked.Serial SimulatorTransport.answer (prepare farConfig 0) t ((c, r) :: log) t' :=
  .cons (Prod.ext h rfl) hrest

def farRead : Call := .readChannel "p01RoomTempDay"

/-- A write of a value whose raw integer is 2. -/
def farWrite : Call := .writeChannel "p01RoomTempDay" (.float (.ofRat (17 * 10 ^ 307)))

/-- The write is stored, but its value cannot be decoded: the call fails, and the channel that
was read before it is gone for every later read. -/
theorem overflowing_write_unread :
    Regular { channels := [{ farSetting with scale := .finite 1 }] } ∧
    (∃ k : ℕ, 0 < k ∧ farSetting.scale = .finite (k / 100)) ∧
    ∃ created history s, HeatPumpSimulator.create farConfig [] = .ok created ∧
      StoreOf farConfig created.store ∧
      Locked.Reachable SimulatorTransport.answer (prepare farConfig 0)
        { simulator := created } history
        (s : Locked.System Op Op.Ans Exc Reply SimulatorTransport Call Unit) ∧
      Locked.served history
        = [(farRead, .ok (.one (HeatPumpService.toChannelValue farSetting (.float (.finite 0))))),
          (farWrite, .error (.invalidData
            "Response 0180930B000500021003 could not be parsed for record p01RoomTempDay")),
          (farRead, .error (.channelNotFound "p01RoomTempDay"))] ∧
      ∀ before after, ¬ Locked.Behaves (answer farConfig) before (Locked.served history) after := by
  have hrequests : farConfig.requests = [⟨"0B0005", none, [farSetting]⟩] := by decide +kernel
  have hhex : fromHex "0B0005" = .ok [0x0B, 0x00, 0x05] := by decide +kernel
  have hnear : RegularRecord 3 { farSetting with scale := .finite 1 } :=
    ⟨.inr rfl, @legible_of_le _ 1 (.inr rfl) rfl (by decide +kernel), by decide,
      fun hkind => absurd hkind (by decide +kernel), by decide⟩
  refine ⟨regular_of_single (by decide +kernel) (by decide +kernel) hhex (by decide +kernel)
      (by decide) (by decide) hnear,
    ⟨(PyFloat.double.nearest (10 ^ 308) * 100).num.toNat, by decide +kernel, by decide +kernel⟩, ?_⟩
  have hruns : (HeatPumpSimulator.create farConfig []).toOption.map (fun sim =>
      let t : SimulatorTransport := { simulator := sim }
      (sim.store, (farCall farRead t).1, (farCall farWrite (farCall farRead t).2).1,
        (farCall farRead (farCall farWrite (farCall farRead t).2).2).1))
      = some ([("0B0005", [0x01, 0x00, 0x11, 0x0B, 0x00, 0x05, 0x00, 0x00, 0x10, 0x03])],
        .ok (.one (HeatPumpService.toChannelValue farSetting (.float (.finite 0)))),
        .error (.invalidData
          "Response 0180930B000500021003 could not be parsed for record p01RoomTempDay"),
        .error (.channelNotFound "p01RoomTempDay")) := by
    decide +kernel
  obtain ⟨created, hcreated, hruns⟩ := Option.map_eq_some_iff.mp hruns
  simp only [Prod.mk.injEq] at hruns
  obtain ⟨hstore, hread, hwrite, hgone⟩ := hruns
  have hserial := farCall_serial hread (farCall_serial hwrite (farCall_serial hgone (.nil _)))
  obtain ⟨history, s, hreach, hserved⟩ := hserial.reachable () .start rfl rfl rfl
  refine ⟨created, history, s, toOption_eq_some.mp hcreated, ?_, hreach, hserved, ?_⟩
  · intro request hrequest command built hcommand hbuilt
    rw [hrequests] at hrequest
    obtain rfl := List.mem_singleton.mp hrequest
    obtain rfl := Except.ok.inj (hhex.symm.trans hcommand)
    have hframe : HeatPumpSimulator.buildFrame ⟨"0B0005", none, [farSetting]⟩ [0x0B, 0x00, 0x05]
        = .ok [0x01, 0x00, 0x11, 0x0B, 0x00, 0x05, 0x00, 0x00, 0x10, 0x03] := by decide +kernel
    obtain rfl := Except.ok.inj (hframe.symm.trans hbuilt)
    rw [hstore]
    exact ⟨_, rfl, ⟨rfl, rfl, rfl, rfl, by decide +kernel⟩, by decide⟩
  · intro before after hbehaves
    rw [hserved] at hbehaves
    obtain ⟨_, _, hlast, _⟩ := hbehaves
    have hchannel : HeatPumpService.requireChannel farConfig "p01RoomTempDay" = .ok farSetting := by
      decide +kernel
    rw [farRead, answer, hchannel] at hlast
    cases hlast

end HeatpumpGateway
