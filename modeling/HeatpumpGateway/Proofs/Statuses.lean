import HeatpumpGateway.Proofs.Routes

/-!
# What a status says of a write

Two of the statuses of a `PUT` are about its channel, and settled before the device hears of
it. The others are about the exchange: which of them leave it open whether there is a new
value on the device (`put_status`), and when a name is to blame (`not_found_iff`).
-/

namespace HeatpumpGateway

open Dialogue CommunicationService

variable {α : Type} {app : App} {waitingTime : Nat} {tr : Trace}

/-! ## The channels a request names -/

/-- The ids that a request asks for by name. -/
def HttpRequest.named : HttpRequest → List String
  | .readValues ids _ => App.splitIds (ids.getD "")
  | .readChannel channelId => [channelId]
  | .writeChannel channelId _ => [channelId]
  | _ => []

theorem channel_eq_none_iff {config : HeatPumpConfig} {channelId : String} :
    config.channel channelId = none ↔ channelId ∉ publishedIds config := by
  rw [HeatPumpConfig.channel, HeatPumpConfig.byId, Dict.get?_eq_none_iff, Dict.ofPairs,
    Dict.mem_keys_update]
  simp [Dict.keys, publishedIds, Function.comp_def]

/-- The exceptions of the checks that come before the lock. -/
def Exc.isLookup : Exc → Bool
  | .channelNotFound _ | .channelNotWritable _ => true
  | _ => false

theorem Exc.not_lookup_of_protocolError {e : Exc} (h : e.isProtocolError = true) :
    e.isLookup = false := by
  cases e with
  | channelNotFound _ | channelNotWritable _ => cases h
  | _ => rfl

theorem ReadFault.not_lookup {e : Exc} (h : ReadFault e) : e.isLookup = false := by
  rcases h with (⟨text, rfl⟩ | ⟨l, rfl⟩) | ⟨text, rfl⟩
  · rfl
  · cases l <;> rfl
  · rfl

section compose
variable {frame : Bytes} {record : ChannelDefinition} {e : Exc}

theorem setItem_not_lookup {i : Int} {b : UInt8} (h : setItem frame i b = .error e) :
    e.isLookup = false := by
  rw [setItem] at h
  split at h <;> cases h
  rfl

theorem getItem_not_lookup {i : Int} (h : getItem frame i = .error e) : e.isLookup = false := by
  rw [getItem] at h
  split at h
  · split at h <;> cases h
    rfl
  · cases h
    rfl

theorem scaledToRaw_not_lookup {x scale : PyFloat} (h : scaledToRaw x scale = .error e) :
    e.isLookup = false := by
  rcases Fallible.bind_eq_error.mp h with hdiv | ⟨y, _, hfloor⟩
  · rw [PyFloat.div.eq_def] at hdiv
    split at hdiv
    · split at hdiv <;> cases hdiv
      rfl
    all_goals cases hdiv
  · rw [PyFloat.floor.eq_def] at hfloor
    split at hfloor <;> cases hfloor <;> rfl

theorem writeShort_not_lookup {raw : Int} (h : writeShort raw frame record = .error e) :
    e.isLookup = false := by
  rw [writeShort] at h
  split at h
  · exact setItem_not_lookup h
  · split at h
    · rcases Fallible.bind_eq_error.mp h with hset | ⟨_, _, hset⟩
      · exact setItem_not_lookup hset
      · exact setItem_not_lookup hset
    · cases h

theorem fieldWritten_not_lookup {v : DecodedValue} (h : fieldWritten v frame record = .error e) :
    e.isLookup = false := by
  have number : ∀ v : DecodedValue,
      (if record.max.lt v.toFloat || v.toFloat.lt record.min then
        Except.error (.valueOutOfRange record.channelId v record.min record.max)
      else do
        let shortValue ← rawOf v record
        writeShort shortValue frame record) = Except.error e → e.isLookup = false := by
    intro v h
    split at h
    · cases h
      rfl
    · rcases Fallible.bind_eq_error.mp h with hraw | ⟨_, _, hwrite⟩
      · cases v with
        | bool b | int n => cases hraw
        | float x => exact scaledToRaw_not_lookup hraw
      · exact writeShort_not_lookup hwrite
  cases v with
  | bool b =>
      rw [fieldWritten] at h
      split at h
      · rcases Fallible.bind_eq_error.mp h with hget | ⟨_, _, hset⟩
        · exact getItem_not_lookup hget
        · exact setItem_not_lookup hset
      · exact setItem_not_lookup h
  | int n => exact number (.int n) h
  | float x => exact number (.float x) h

theorem composeRecord_not_lookup {v : DecodedValue} (h : composeRecord v frame record = .error e) :
    e.isLookup = false := by
  rw [composeRecord_def] at h
  rcases Fallible.bind_eq_error.mp h with hset | ⟨_, _, hrest⟩
  · exact setItem_not_lookup hset
  rcases Fallible.bind_eq_error.mp hrest with hfield | ⟨_, _, hrest⟩
  · exact fieldWritten_not_lookup hfield
  rcases Fallible.bind_eq_error.mp hrest with hsum | ⟨_, _, hset⟩
  · rw [calculateChecksum] at hsum
    split at hsum <;> cases hsum
    rfl
  · exact setItem_not_lookup hset

end compose

theorem not_found_of_error {body : α → Body} {except : Exc → Option Response} {e : Exc}
    (h : except e = none) : (App.responseTo body except (.error e)).status ≠ 404 := by
  rw [App.responseTo, h]
  cases e <;> simp [handleException, Exc.isProtocolError]

theorem unknownChannels_eq_none {e : Exc} (h : e.isLookup = false) :
    App.unknownChannels e = none := by
  cases e with
  | channelNotFound _ => cases h
  | _ => rfl

theorem readChannels_not_found {channelIds : List String} {response : Response}
    {r : Except Exc (List ChannelValue)}
    (h : Path (HeatPumpService.readChannels app.config app.waitingTime channelIds) tr r)
    (hr : App.responseTo .values App.unknownChannels r = response) :
    response.status = 404 ∧ tr = [] ↔
      ∃ channelId ∈ channelIds, app.config.channel channelId = none := by
  rw [HeatPumpService.readChannels, HeatPumpService.prepareReadChannels] at h
  by_cases hall : ∃ channelId ∈ channelIds, app.config.channel channelId = none
  · have hunknown :
        (channelIds.filter fun channelId => (app.config.channel channelId).isNone) ≠ [] := by
      obtain ⟨channelId, hin, hnone⟩ := hall
      exact List.ne_nil_of_mem (List.mem_filter.mpr ⟨hin, by rw [hnone]; rfl⟩)
    simp only [if_pos hunknown] at h
    obtain ⟨rfl, rfl⟩ := Path.raise_iff.mp h
    refine iff_of_true ⟨?_, rfl⟩ hall
    rw [← hr]
    rfl
  · have hknown :
        (channelIds.filter fun channelId => (app.config.channel channelId).isNone) = [] := by
      rw [List.filter_eq_nil_iff]
      intro channelId hin hnone
      exact hall ⟨channelId, hin, Option.isNone_iff_eq_none.mp hnone⟩
    simp only [hknown, ne_eq, not_true, if_false] at h
    refine iff_of_false ?_ hall
    intro hc
    obtain ⟨hstatus, _⟩ := hc
    rcases Path.bind_iff.mp h with ⟨e, rfl, hp⟩ | ⟨_, _, _, _, _, hret⟩
    · rw [← hr] at hstatus
      exact not_found_of_error
        (unknownChannels_eq_none (readRequestsFrom_fault _ hp).not_lookup) hstatus
    · rw [← hr, (Path.ret_iff.mp hret).2] at hstatus
      simp [App.responseTo] at hstatus

/-- A read of one channel is a read of its request. -/
theorem readChannel_path {config : HeatPumpConfig} {channelId : String}
    {record : ChannelDefinition} (hrecord : config.channel channelId = some record)
    {r : Except Exc ChannelValue}
    (h : Path (HeatPumpService.readChannel config waitingTime channelId) tr r) :
    ∃ request r', Path (readRequest waitingTime request) tr r' ∧
      r = r'.bind fun data =>
        match data.get? channelId with
        | none => .error (.channelNotFound channelId)
        | some value => .ok (HeatPumpService.toChannelValue record value) := by
  obtain ⟨hmem, hid⟩ := HeatPumpConfig.channel_mem hrecord
  obtain ⟨request, hrequest, _⟩ := HeatPumpConfig.requestForChannel_isSome hmem hid
  rw [HeatPumpService.readChannel, HeatPumpService.prepareReadChannel,
    HeatPumpService.requireChannel, hrecord] at h
  simp only [Fallible.ok_bind, hrequest] at h
  rcases Path.bind_iff.mp h with ⟨e, rfl, hp⟩ | ⟨data, tr₁, tr₂, rfl, hp, hrest⟩
  · exact ⟨request, .error e, hp, rfl⟩
  · refine ⟨request, .ok data, ?_, ?_⟩
    · cases hdata : data.get? channelId with
      | none =>
          rw [hdata] at hrest
          rwa [(Path.raise_iff.mp hrest).1, List.append_nil]
      | some value =>
          rw [hdata] at hrest
          rwa [(Path.ret_iff.mp hrest).1, List.append_nil]
    · rw [Except.bind]
      cases hdata : data.get? channelId with
      | none =>
          rw [hdata] at hrest
          exact (Path.raise_iff.mp hrest).2
      | some value =>
          rw [hdata] at hrest
          exact (Path.ret_iff.mp hrest).2

theorem readChannel_not_found {channelId : String} {response : Response}
    {r : Except Exc ChannelValue}
    (h : Path (HeatPumpService.readChannel app.config app.waitingTime channelId) tr r)
    (hr : App.responseTo .value (App.exceptRead channelId) r = response) :
    response.status = 404 ∧ tr = [] ↔ app.config.channel channelId = none := by
  cases hrecord : app.config.channel channelId with
  | none =>
      rw [HeatPumpService.readChannel, HeatPumpService.prepareReadChannel,
        HeatPumpService.requireChannel, hrecord] at h
      obtain ⟨rfl, rfl⟩ := Path.raise_iff.mp h
      refine iff_of_true ⟨?_, rfl⟩ rfl
      rw [← hr]
      rfl
  | some record =>
      refine iff_of_false ?_ (by simp)
      intro hc
      obtain ⟨hstatus, rfl⟩ := hc
      obtain ⟨request, r', hp, rfl⟩ := readChannel_path hrecord h
      obtain ⟨text, rfl⟩ := (readLoop_fault MAX_TRIES hp).2 rfl (by decide)
      rw [← hr] at hstatus
      exact not_found_of_error rfl hstatus

/-! ## What becomes of a `PUT` -/

theorem coerce_not_lookup {record : ChannelDefinition} {value : CallerValue} {e : Exc}
    (h : HeatPumpService.coerce record value = .error e) : e.isLookup = false := by
  have number : ∀ {s : String}, floatOfStr s = .error e → e.isLookup = false := by
    intro s hs
    rw [floatOfStr] at hs
    simp only at hs
    repeat' split at hs
    all_goals cases hs
    all_goals rfl
  have integer : ∀ {s : String}, intOfStr s = .error e → e.isLookup = false := by
    intro s hs
    rw [intOfStr] at hs
    simp only at hs
    repeat' split at hs
    all_goals cases hs
    all_goals rfl
  cases hvalue : e.isValueError with
  | false =>
      obtain ⟨text, hraised⟩ := ((coerce_error h).mp hvalue).raises
      rw [h] at hraised
      cases hraised
      rfl
  | true =>
      rw [HeatPumpService.coerce] at h
      cases hkind : record.valueKind with
      | boolean =>
          rw [hkind] at h
          have hbool := Fallible.map_eq_error.mp h
          cases value with
          | str s =>
              rw [HeatPumpService.coerceBoolean] at hbool
              repeat' split at hbool
              all_goals cases hbool
              rfl
          | _ => cases hbool
      | number =>
          rw [hkind] at h
          have hnumber := Fallible.map_eq_error.mp h
          cases value with
          | str s => exact number hnumber
          | int n =>
              rw [HeatPumpService.coerceNumber, PyFloat.ofPyInt] at hnumber
              split at hnumber <;> cases hnumber
              rfl
          | _ => cases hnumber
      | integer =>
          rw [hkind] at h
          have hinteger := Fallible.map_eq_error.mp h
          cases value with
          | str s => exact integer hinteger
          | float x =>
              rw [HeatPumpService.coerceInteger, PyFloat.toInt.eq_def] at hinteger
              split at hinteger <;> cases hinteger <;> rfl
          | _ => cases hinteger

/-- The exchange for a SET frame has ended with this reply. A reply that is not empty came
after the frame was sent; an empty one may also mean that it never was. -/
def SetEnded (tr : Trace) (reply : Bytes) : Prop :=
  .didSet reply ∈ marks tr ∧
    ∃ message, .setData message ∈ marks tr ∧ (reply ≠ [] → ⟨.write message, none⟩ ∈ tr)

/-- The SET frame was not confirmed, and the frame read before it has a value of the record. -/
def Unconfirmed (record : ChannelDefinition) (tr : Trace) : Prop :=
  ∃ read reply v, .gotData read ∈ marks tr ∧ parseRecord read record = .ok v ∧
    SetEnded tr reply ∧ headerCheck reply = false

/-- What the result of a write says of its exchange. -/
structure Tells (record : ChannelDefinition) (tr : Trace) (r : Except Exc α) : Prop where
  checked : ∀ e, r = .error e → e.isLookup = false
  told : ∀ message, .setData message ∈ marks tr →
    (∃ a, r = .ok a) ∨ ∃ e, r = .error e ∧ e.isProtocolError = true
  success : ∀ a, r = .ok a → (∃ message, marks tr = [.getData message, .gotData message]) ∨
    ∃ reply, SetEnded tr reply ∧ headerCheck reply = true
  refused : Refusal r ↔ Unconfirmed record tr

theorem Tells.unasked {record : ChannelDefinition} {e : Exc} (hlookup : e.isLookup = false)
    (hrefusal : e.isWriteNotConfirmed = false) {tr : Trace} (hquiet : ∀ m, .setData m ∉ marks tr) :
    Tells record tr (.error e : Except Exc α) where
  checked e' he := by
    cases he
    exact hlookup
  told message hset := absurd hset (hquiet message)
  success a ha := by cases ha
  refused := by
    refine iff_of_false (by simp [refusal_error, hrefusal]) fun hc => ?_
    obtain ⟨_, _, _, _, _, ⟨_, message, hset, _⟩, _⟩ := hc
    exact hquiet message hset

theorem Tells.map {β : Type} {record : ChannelDefinition} {tr : Trace} {r : Except Exc α}
    (h : Tells record tr r) (f : α → β) : Tells record tr (r.map f) := by
  cases r with
  | error e =>
      refine ⟨fun e' he => ?_, fun m hset => ?_, fun _ he => (by cases he),
        refusal_map.trans h.refused⟩
      · cases he
        exact h.checked e rfl
      · rcases h.told m hset with ⟨_, hc⟩ | hfailed
        · cases hc
        · obtain ⟨e', he, hprotocol⟩ := hfailed
          cases he
          exact .inr ⟨e, rfl, hprotocol⟩
  | ok a =>
      exact ⟨fun _ he => (by cases he), fun _ _ => .inl ⟨f a, rfl⟩, fun _ _ => h.success a rfl,
        refusal_map.trans h.refused⟩

/-- The marks of a write whose SET frame came to an end. -/
theorem set_ended {message reply frame setReply : Bytes} {tr₁ tr₂ : Trace} {waitingTime : Nat}
    (hread : Path (Connector.getData message) tr₁ (.ok reply))
    (hset : Path (Connector.setData frame) tr₂ (.ok setReply)) :
    marks (tr₁ ++ ⟨.sleep waitingTime, ()⟩ :: tr₂)
        = [.getData message, .gotData reply, .setData frame, .didSet setReply] ∧
      SetEnded (tr₁ ++ ⟨.sleep waitingTime, ()⟩ :: tr₂) setReply := by
  have hmarks : marks (tr₁ ++ ⟨.sleep waitingTime, ()⟩ :: tr₂)
      = [.getData message, .gotData reply, .setData frame, .didSet setReply] := by
    rw [marks_append, marks_cons, getData_ok_marks hread, setData_ok_marks hset]
    rfl
  refine ⟨hmarks, by simp [hmarks], frame, by simp [hmarks], fun hne => ?_⟩
  exact List.mem_append_right _ (List.mem_cons_of_mem _ (setData_written hset hne))

theorem WriteRun.tells {v : DecodedValue} {record : ChannelDefinition} {message : Bytes}
    {r : Except Exc (Dict String DecodedValue)}
    (h : WriteRun waitingTime [(v, record)] message tr r) : Tells record tr r := by
  cases h with
  | unread hread =>
      have hmarks := getData_marks hread
      refine .unasked (ReadFault.not_lookup (.inl (getData_fromLink hread)))
        (getData_fromLink hread).not_refusal fun m => ?_
      simp [hmarks, Except.toOption]
  | echoed hread =>
      have hmarks := getData_ok_marks hread
      refine ⟨fun _ he => (by cases he), fun m hset => ?_, fun _ _ => .inl ⟨message, hmarks⟩,
        iff_of_false not_refusal_ok fun hc => ?_⟩
      · simp [hmarks] at hset
      · obtain ⟨_, _, _, _, _, ⟨hended, _⟩, _⟩ := hc
        simp [hmarks] at hended
  | silent text hread =>
      refine .unasked rfl rfl fun m => ?_
      simp [getData_ok_marks hread]
  | unfit hread _ _ hframe =>
      rw [composeAll_single] at hframe
      refine .unasked (composeRecord_not_lookup hframe) (composeRecord_not_refusal hframe)
        fun m => ?_
      simp [getData_ok_marks hread]
  | @unsent tr₁ tr₂ reply frame _ hread _ _ hframe hset =>
      rw [composeAll_single] at hframe
      have hmarks : marks (tr₁ ++ ⟨.sleep waitingTime, ()⟩ :: tr₂)
          = [.getData message, .gotData reply, .setData (addDuplicatedBytes frame)] := by
        rw [marks_append, marks_cons, getData_ok_marks hread, setData_marks hset]
        rfl
      rcases setData_heard (ne_escape_of_long (composed_long hframe)) hset with
        ⟨_, text, he⟩ | ⟨_, he⟩
      · cases he
        refine ⟨fun e he => ?_, fun m _ => .inr ⟨_, rfl, rfl⟩, fun _ he => (by cases he),
          iff_of_false (by simp [refusal_error, Exc.isWriteNotConfirmed]) fun hc => ?_⟩
        · cases he
          rfl
        · obtain ⟨_, _, _, _, _, ⟨hended, _⟩, _⟩ := hc
          simp [hmarks] at hended
      · cases he
  | @confirmed tr₁ tr₂ reply frame setReply hread _ _ _ hset hverify =>
      obtain ⟨hmarks, hended⟩ := @set_ended _ _ _ _ _ _ waitingTime hread hset
      have hheader : headerCheck setReply = true := headerCheck_iff.mpr hverify
      refine ⟨fun e he => Exc.not_lookup_of_protocolError (decodeAll_error he), fun m _ => ?_,
        fun _ _ => .inr ⟨setReply, hended, hheader⟩, iff_of_false ?_ fun hc => ?_⟩
      · cases hdecode : decodeAll frame [(v, record)] with
        | ok values => exact .inl ⟨values, rfl⟩
        | error e => exact .inr ⟨e, rfl, decodeAll_error hdecode⟩
      · rw [decodeAll_single]
        exact refusal_map.not.mpr parseRecord_verdict.1
      · obtain ⟨_, reply', _, _, _, ⟨hended', _⟩, hbad⟩ := hc
        obtain rfl : reply' = setReply := by simpa [hmarks] using hended'
        rw [hheader] at hbad
        cases hbad
  | @refused tr₁ tr₂ reply frame setReply exc ids hread _ _ _ hset hverify =>
      obtain ⟨hmarks, hended⟩ := @set_ended _ _ _ _ _ _ waitingTime hread hset
      have hheader : headerCheck setReply = false := by rw [headerCheck, hverify]
      rw [decodeAll_single]
      cases hparse : parseRecord reply record with
      | ok unchanged =>
          refine ⟨fun e he => ?_, fun m _ => .inr ⟨_, rfl, rfl⟩, fun _ hc => (by cases hc),
            iff_of_true ⟨_, rfl, rfl⟩ ⟨reply, setReply, unchanged, ?_, hparse, hended, hheader⟩⟩
          · cases he
            rfl
          · simp [hmarks]
      | error e =>
          obtain ⟨text, rfl⟩ := parseRecord_error hparse
          refine ⟨fun e he => ?_, fun m _ => .inr ⟨_, rfl, rfl⟩, fun _ hc => (by cases hc),
            iff_of_false ?_ fun hc => ?_⟩
          · cases he
            rfl
          · intro hc
            obtain ⟨_, he, hc⟩ := hc
            cases he
            cases hc
          · obtain ⟨read, _, v', hgot, hread', _⟩ := hc
            obtain rfl : read = reply := by simpa [hmarks] using hgot
            rw [hparse] at hread'
            cases hread'

theorem writeData_tells {v : DecodedValue} {record : ChannelDefinition}
    {r : Except Exc (Dict String DecodedValue)}
    (h : Path (writeData waitingTime v record) tr r) : Tells record tr r := by
  cases hcommand : fromHex record.requestByte with
  | error e =>
      obtain ⟨rfl, rfl⟩ := writeValues_unhex hcommand h
      obtain ⟨text, rfl⟩ := fromHex_error hcommand
      exact .unasked rfl rfl fun m => by simp [marks]
  | ok command => exact (writeValues_path hcommand h).tells

/-- A `PUT` ends at one of the two checks of its channel, or tells what came of it. -/
theorem writeChannel_tells {config : HeatPumpConfig} {channelId : String} {value : CallerValue}
    {r : Except Exc ChannelValue}
    (h : Path (HeatPumpService.writeChannel config waitingTime channelId value) tr r) :
    config.channel channelId = none ∧ tr = [] ∧ r = .error (.channelNotFound channelId) ∨
      ∃ record, config.channel channelId = some record ∧
        (record.writable = false ∧ tr = [] ∧ r = .error (.channelNotWritable channelId) ∨
          record.writable = true ∧ Tells record tr r) := by
  cases hrecord : config.channel channelId with
  | none =>
      rw [HeatPumpService.writeChannel, HeatPumpService.prepareWriteChannel,
        HeatPumpService.requireChannel, hrecord] at h
      obtain ⟨rfl, rfl⟩ := Path.raise_iff.mp h
      exact .inl ⟨rfl, rfl, rfl⟩
  | some record =>
      refine .inr ⟨record, rfl, ?_⟩
      cases hwritable : record.writable with
      | false =>
          rw [HeatPumpService.writeChannel, HeatPumpService.prepareWriteChannel,
            HeatPumpService.requireChannel, hrecord] at h
          simp only [Fallible.ok_bind, hwritable] at h
          obtain ⟨rfl, rfl⟩ := Path.raise_iff.mp h
          exact .inl ⟨rfl, rfl, rfl⟩
      | true =>
          refine .inr ⟨rfl, ?_⟩
          cases hv : HeatPumpService.coerce record value with
          | error e =>
              rw [writeChannel_uncoerced hrecord hwritable hv] at h
              obtain ⟨rfl, rfl⟩ := Path.raise_iff.mp h
              exact .unasked (coerce_not_lookup hv) (coerce_not_refusal hv) fun m => by
                simp [marks]
          | ok v =>
              obtain ⟨r', hp, rfl⟩ := (writeChannel_path hrecord hwritable hv).mp h
              exact (writeData_tells hp).map _

/-- The status of an exception of a write. -/
def writeStatus : Exc → Nat
  | .channelNotFound _ => 404
  | .channelNotWritable _ => 409
  | .writeNotConfirmed .. => 502
  | exc => if exc.isValueError then 400 else if exc.isProtocolError then 503 else 500

theorem exceptWrite_status {channelId : String} {body : α → Body} (e : Exc) :
    (App.responseTo body (App.exceptWrite channelId) (.error e)).status = writeStatus e := by
  cases e <;> rfl

theorem writeStatus_lookup {e : Exc} (h : e.isLookup = false) :
    writeStatus e ≠ 404 ∧ writeStatus e ≠ 409 := by
  cases e with
  | channelNotFound _ | channelNotWritable _ => cases h
  | _ => simp [writeStatus, Exc.isValueError, Exc.isProtocolError]

/-- What the status of a `PUT` says of its channel and of the exchange. -/
structure PutStatus (config : HeatPumpConfig) (channelId : String) (tr : Trace) (status : Nat) :
    Prop where
  notFound : status = 404 ↔ channelId ∉ publishedIds config
  notWritable : status = 409 ↔
    ∃ record, config.channel channelId = some record ∧ record.writable = false
  unasked : status = 404 ∨ status = 409 → tr = []
  told : ∀ message, .setData message ∈ marks tr → status = 200 ∨ status = 502 ∨ status = 503
  success : status = 200 → (∃ message, marks tr = [.getData message, .gotData message]) ∨
    ∃ reply, SetEnded tr reply ∧ headerCheck reply = true
  refused : status = 502 ↔
    ∃ record, config.channel channelId = some record ∧ Unconfirmed record tr

theorem not_unconfirmed_nil {record : ChannelDefinition} : ¬ Unconfirmed record [] := by
  intro h
  obtain ⟨_, _, _, hgot, _⟩ := h
  cases hgot

theorem writeStatus_refused {e : Exc} :
    writeStatus e = 502 ↔ Refusal (.error e : Except Exc α) := by
  rw [refusal_error]
  cases e <;> simp [writeStatus, Exc.isValueError, Exc.isProtocolError, Exc.isWriteNotConfirmed]

theorem writeChannel_status {channelId : String} {value : CallerValue}
    {r : Except Exc ChannelValue}
    (h : Path (HeatPumpService.writeChannel app.config app.waitingTime channelId value) tr r) :
    PutStatus app.config channelId tr
      (App.responseTo Body.value (App.exceptWrite channelId) r).status := by
  have hquiet : ¬ ∃ record, app.config.channel channelId = some record ∧
      Unconfirmed record [] := fun hc => not_unconfirmed_nil hc.choose_spec.2
  rcases writeChannel_tells h with ⟨hnone, rfl, rfl⟩ | ⟨record, hrecord, hrest⟩
  · rw [exceptWrite_status]
    refine ⟨?_, ?_, fun _ => rfl, fun m hset => (by cases hset), ?_, iff_of_false ?_ hquiet⟩
    · simpa [writeStatus] using channel_eq_none_iff.mp hnone
    · simp [writeStatus, hnone]
    · simp [writeStatus]
    · simp [writeStatus]
  have hknown : ¬ channelId ∉ publishedIds app.config := by
    rw [← channel_eq_none_iff, hrecord]
    simp
  rcases hrest with ⟨hreadOnly, rfl, rfl⟩ | ⟨hwritable, htells⟩
  · rw [exceptWrite_status]
    refine ⟨?_, ?_, fun _ => rfl, fun m hset => (by cases hset), ?_, iff_of_false ?_ hquiet⟩
    · simpa [writeStatus] using hknown
    · simp [writeStatus, hrecord, hreadOnly]
    · simp [writeStatus]
    · simp [writeStatus]
  have hnotReadOnly :
      ¬ ∃ record, app.config.channel channelId = some record ∧ record.writable = false := by
    simp [hrecord, hwritable]
  have hunconfirmed : (∃ record', app.config.channel channelId = some record' ∧
      Unconfirmed record' tr) ↔ Unconfirmed record tr := by
    simp [hrecord]
  cases r with
  | ok reported =>
      have hstatus : (App.responseTo Body.value (App.exceptWrite channelId)
          (.ok reported)).status = 200 := rfl
      rw [hstatus]
      refine ⟨iff_of_false (by decide) hknown, iff_of_false (by decide) hnotReadOnly, by simp,
        fun _ _ => .inl rfl, fun _ => htells.success reported rfl, iff_of_false (by decide) ?_⟩
      rw [hunconfirmed, ← htells.refused]
      exact not_refusal_ok
  | error e =>
      rw [exceptWrite_status]
      obtain ⟨hnot404, hnot409⟩ := writeStatus_lookup (htells.checked e rfl)
      refine ⟨iff_of_false hnot404 hknown, iff_of_false hnot409 hnotReadOnly, ?_, ?_, ?_, ?_⟩
      · intro hc
        rcases hc with hc | hc
        · exact absurd hc hnot404
        · exact absurd hc hnot409
      · intro m hset
        rcases htells.told m hset with ⟨_, hc⟩ | ⟨e', he, hprotocol⟩
        · cases hc
        · cases he
          cases e with
          | writeNotConfirmed => exact .inr (.inl rfl)
          | protocolError _ | invalidData _ => exact .inr (.inr rfl)
          | _ => cases hprotocol
      · intro hc
        cases e <;> simp [writeStatus, Exc.isValueError, Exc.isProtocolError] at hc
      · rw [hunconfirmed, ← htells.refused]
        exact writeStatus_refused

/-- Every request to write a channel is answered, and the status says as much of the device
as can be known: only 200, 502 and 503 can come after it was told anything. -/
theorem put_status {channelId : String} {value : CallerValue} {r : Except Exc Response}
    (h : Path (app.serve true (.writeChannel channelId value)) tr r) :
    ∃ response, r = .ok response ∧ PutStatus app.config channelId tr response.status := by
  obtain ⟨r', hp, rfl⟩ := App.served_path.mp h
  exact ⟨_, rfl, writeChannel_status hp⟩

/-- A device that answers the read before the write, and nothing more, is blamed for a SET
frame that was never on the line. -/
theorem put_status_unanswered :
    ∃ response,
      (run scripted (roomTempApp.serve true (.writeChannel "p01RoomTempDay" (.int 20)))
        oneAnswerScript).1 = .ok response ∧ response.status = 502 ∧
      PutStatus roomTempConfig "p01RoomTempDay"
        (trace scripted (roomTempApp.serve true (.writeChannel "p01RoomTempDay" (.int 20)))
          oneAnswerScript) response.status ∧
      ∀ message, .setData message ∈
          marks (trace scripted (roomTempApp.serve true (.writeChannel "p01RoomTempDay" (.int 20)))
            oneAnswerScript) →
        (⟨.write message, none⟩ : Exchange) ∉
          trace scripted (roomTempApp.serve true (.writeChannel "p01RoomTempDay" (.int 20)))
            oneAnswerScript := by
  obtain ⟨response, hrun, hstatus⟩ := put_status (path_run scripted
    (roomTempApp.serve true (.writeChannel "p01RoomTempDay" (.int 20))) oneAnswerScript)
  have hanswered : (run scripted (roomTempApp.serve true
      (.writeChannel "p01RoomTempDay" (.int 20))) oneAnswerScript).1.toOption.map
        (fun response => response.status) = some 502 := by
    decide +kernel
  refine ⟨response, hrun, ?_, hstatus, ?_⟩
  · rw [hrun] at hanswered
    exact Option.some.inj hanswered
  · intro message hset
    have hmarks : marks (trace scripted (roomTempApp.serve true
        (.writeChannel "p01RoomTempDay" (.int 20))) oneAnswerScript)
        = [.getData [0x01, 0x00, 0x11, 0x0B, 0x00, 0x05, 0x10, 0x03],
          .gotData [0x01, 0x00, 0xE3, 0x0B, 0x00, 0x05, 0x00, 0xD2, 0x10, 0x03],
          .setData [0x01, 0x80, 0x59, 0x0B, 0x00, 0x05, 0x00, 0xC8, 0x10, 0x03],
          .didSet []] := by
      decide +kernel
    rw [hmarks] at hset
    obtain rfl : message = [0x01, 0x80, 0x59, 0x0B, 0x00, 0x05, 0x00, 0xC8, 0x10, 0x03] := by
      simpa using hset
    decide +kernel

/-- Without a word to the device, a response is "not found" for a name that was not
published. -/
theorem not_found_iff {request : HttpRequest} {response : Response}
    (h : Path (app.serve true request) tr (.ok response)) :
    response.status = 404 ∧ tr = [] ↔
      ∃ channelId ∈ request.named, channelId ∉ publishedIds app.config := by
  have nameless : ∀ {α : Type} {call : Talk α} {body : α → Body},
      Path ((App.answered call body fun _ => none).handle fun exc => return handleException exc)
        tr (.ok response) → response.status ≠ 404 := by
    intro α call body hp
    obtain ⟨r', _, hr⟩ := App.served_path.mp hp
    cases hr
    cases r' with
    | ok a => simp [App.responseTo]
    | error e => exact not_found_of_error rfl
  have answers : ∀ {response' : Response}, response'.status = 200 →
      Path ((return response' : Talk Response).handle fun exc => return handleException exc)
        tr (.ok response) → response.status ≠ 404 := by
    intro response' hok hp
    obtain ⟨_, hr⟩ := Path.ret_iff.mp hp
    cases hr
    simp [hok]
  have unnamed : ∀ {ids : List String}, ids = [] → response.status ≠ 404 →
      (response.status = 404 ∧ tr = [] ↔
        ∃ channelId ∈ ids, channelId ∉ publishedIds app.config) := by
    intro ids hids hne
    simp [hids, hne]
  cases request with
  | root => exact unnamed rfl (answers rfl h)
  | health => exact unnamed rfl (answers rfl h)
  | listChannels => exact unnamed rfl (answers rfl h)
  | version => exact unnamed rfl (nameless h)
  | setTime now => exact unnamed rfl (nameless h)
  | readValues ids dataType =>
      rw [App.serve, App.route, App.readValues] at h
      split at h
      · obtain ⟨r', hp, hr⟩ := App.served_path.mp h
        cases hr
        simp only [HttpRequest.named, ← channel_eq_none_iff]
        exact readChannels_not_found hp rfl
      · next hempty =>
          rw [not_not] at hempty
          exact unnamed (by rw [HttpRequest.named, hempty]; decide) (nameless h)
  | readChannel channelId =>
      obtain ⟨r', hp, hr⟩ := App.served_path.mp h
      cases hr
      simpa [HttpRequest.named, ← channel_eq_none_iff] using readChannel_not_found hp rfl
  | writeChannel channelId value =>
      obtain ⟨r', hp, hr⟩ := App.served_path.mp h
      cases hr
      have hstatus := writeChannel_status hp
      simp only [HttpRequest.named, List.mem_singleton, exists_eq_left, ← hstatus.notFound]
      exact and_iff_left_of_imp fun hc => hstatus.unasked (.inl hc)

theorem not_found_roomTemp :
    ∃ channelId ∈ (HttpRequest.readValues (some "p01RoomTempDay, p99") none).named,
      channelId ∉ publishedIds roomTempConfig := by
  have hrun : (run ServiceCall.closedPort
      (roomTempApp.serve true (.readValues (some "p01RoomTempDay, p99") none)) ()).1
      = .ok ⟨404, .detail "Unknown channel(s): p99"⟩ := by
    decide +kernel
  exact (not_found_iff (path_of_run ServiceCall.closedPort hrun)).mp ⟨rfl, rfl⟩

end HeatpumpGateway
