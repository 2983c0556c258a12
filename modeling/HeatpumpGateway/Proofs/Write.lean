import HeatpumpGateway.Model.Service
import HeatpumpGateway.Proofs.Carriage
import HeatpumpGateway.Proofs.Exchange
import HeatpumpGateway.Proofs.Grouping

/-!
# What a write can have done

`_write_values` reads the register, composes the new values into what it got, and
sends that back. `WriteRun` lists its ways out, one case for each; everything said
here about writes is read off that list.

Three things a reader may expect of a write do not hold in general. The frame the
values are composed into is never checked, so a SET can be made of an error reply;
a reply that repeats the request ends the call with success and nothing sent; and a
frame may be confirmed that does not carry the value. The file proves exactly when
they happen.
-/

namespace HeatpumpGateway

open Dialogue Fallible CommunicationService

variable {waitingTime : Nat} {items : List (DecodedValue × ChannelDefinition)}

/-! ## The ways out -/

/-- A write whose register is read with `message`, as a trace and a result. -/
inductive WriteRun (waitingTime : Nat) (items : List (DecodedValue × ChannelDefinition))
    (message : Bytes) : Trace → Except Exc (Dict String DecodedValue) → Prop
  | unread {tr : Trace} {e : Exc} :
      Path (Connector.getData message) tr (.error e) →
      WriteRun waitingTime items message tr (.error e)
  | echoed {tr : Trace} :
      Path (Connector.getData message) tr (.ok message) →
      WriteRun waitingTime items message tr (.ok [])
  | silent {tr : Trace} (text : String) :
      Path (Connector.getData message) tr (.ok []) →
      WriteRun waitingTime items message tr (.error (.protocolError text))
  | unfit {tr : Trace} {reply : Bytes} {e : Exc} :
      Path (Connector.getData message) tr (.ok reply) → reply ≠ message → reply ≠ [] →
      composeAll items reply = .error e → WriteRun waitingTime items message tr (.error e)
  | unsent {tr tr' : Trace} {reply frame : Bytes} {e : Exc} :
      Path (Connector.getData message) tr (.ok reply) → reply ≠ message → reply ≠ [] →
      composeAll items reply = .ok frame →
      Path (Connector.setData (addDuplicatedBytes frame)) tr' (.error e) →
      WriteRun waitingTime items message (tr ++ ⟨.sleep waitingTime, ()⟩ :: tr') (.error e)
  | confirmed {tr tr' : Trace} {reply frame setReply : Bytes} :
      Path (Connector.getData message) tr (.ok reply) → reply ≠ message → reply ≠ [] →
      composeAll items reply = .ok frame →
      Path (Connector.setData (addDuplicatedBytes frame)) tr' (.ok setReply) →
      verifyHeader setReply = .ok () →
      WriteRun waitingTime items message (tr ++ ⟨.sleep waitingTime, ()⟩ :: tr')
        (decodeAll frame items)
  | refused {tr tr' : Trace} {reply frame setReply : Bytes} {exc : Exc} (ids : String) :
      Path (Connector.getData message) tr (.ok reply) → reply ≠ message → reply ≠ [] →
      composeAll items reply = .ok frame →
      Path (Connector.setData (addDuplicatedBytes frame)) tr' (.ok setReply) →
      verifyHeader setReply = .error exc →
      WriteRun waitingTime items message (tr ++ ⟨.sleep waitingTime, ()⟩ :: tr')
        (decodeAll reply items >>= fun unchanged =>
          .error (.writeNotConfirmed ids exc.str unchanged))

theorem writeBack_path {message reply : Bytes} {tr tr' : Trace} {channelIds : String}
    {r : Except Exc (Dict String DecodedValue)}
    (hread : Path (Connector.getData message) tr (.ok reply)) (hecho : reply ≠ message)
    (hne : reply ≠ []) (h : Path (writeBack waitingTime items channelIds reply) tr' r) :
    WriteRun waitingTime items message (tr ++ tr') r := by
  rw [writeBack] at h
  cases hframe : composeAll items reply with
  | error e =>
      rw [hframe] at h
      obtain ⟨rfl, rfl⟩ := Path.raise_iff.mp h
      rw [List.append_nil]
      exact .unfit hread hecho hne hframe
  | ok frame =>
      rw [hframe] at h
      obtain ⟨tr', rfl, hset⟩ := path_sleep.mp h
      rcases Path.bind_iff.mp hset with ⟨e, rfl, hp⟩ | ⟨setReply, tr₁, tr₂, rfl, hp, htail⟩
      · exact .unsent hread hecho hne hframe hp
      · cases hverify : verifyHeader setReply with
        | ok u =>
            rw [hverify] at htail
            obtain ⟨rfl, rfl⟩ := Path.ofExcept_iff.mp htail
            rw [List.append_nil]
            exact .confirmed hread hecho hne hframe hp hverify
        | error exc =>
            rw [hverify] at htail
            simp only [if_pos (verifyHeader_error hverify)] at htail
            have hend : tr₂ = [] ∧ r = (decodeAll reply items >>= fun unchanged =>
                .error (.writeNotConfirmed channelIds exc.str unchanged)) := by
              cases hunchanged : decodeAll reply items with
              | error e =>
                  rw [hunchanged] at htail
                  exact Path.raise_iff.mp htail
              | ok unchanged =>
                  rw [hunchanged] at htail
                  exact Path.raise_iff.mp htail
            obtain ⟨rfl, rfl⟩ := hend
            rw [List.append_nil]
            exact .refused channelIds hread hecho hne hframe hp hverify

/-- The register of a write is the one of its first record. -/
theorem writeValues_path {v : DecodedValue} {record : ChannelDefinition} {command : Bytes}
    (hcommand : fromHex record.requestByte = .ok command) {tr : Trace}
    {r : Except Exc (Dict String DecodedValue)}
    (h : Path (writeValues waitingTime ((v, record) :: items)) tr r) :
    WriteRun waitingTime ((v, record) :: items) (createRequestMessage command GET) tr r := by
  rw [writeValues, hcommand] at h
  simp only [ofExcept_ok, ret_bind] at h
  rcases Path.bind_iff.mp h with ⟨e, rfl, hp⟩ | ⟨reply, tr₁, tr₂, rfl, hp, hrest⟩
  · exact .unread hp
  · split at hrest
    · next heq =>
        obtain ⟨rfl, rfl⟩ := Path.ret_iff.mp hrest
        rw [List.append_nil]
        rw [← heq] at hp
        exact .echoed hp
    · next hecho =>
        split at hrest
        · next hnil =>
            obtain ⟨rfl, rfl⟩ := Path.raise_iff.mp hrest
            rw [List.append_nil]
            rw [hnil] at hp
            exact .silent _ hp
        · next hne => exact writeBack_path hp (Ne.symm hecho) hne hrest

theorem fromHex_error {text : String} {e : Exc} (h : fromHex text = .error e) :
    ∃ why, e = .valueError why := by
  rw [fromHex] at h
  split at h
  · cases h
  · cases h
    exact ⟨_, rfl⟩

theorem writeValues_unhex {v : DecodedValue} {record : ChannelDefinition} {e : Exc}
    (hcommand : fromHex record.requestByte = .error e) {tr : Trace}
    {r : Except Exc (Dict String DecodedValue)}
    (h : Path (writeValues waitingTime ((v, record) :: items)) tr r) :
    tr = [] ∧ r = .error e := by
  rw [writeValues, hcommand] at h
  exact Path.raise_iff.mp h

/-- How far a write got: no reply, a reply it stopped at, or a frame handed on. -/
theorem WriteRun.marks_cases {message : Bytes} {tr : Trace}
    {r : Except Exc (Dict String DecodedValue)} (h : WriteRun waitingTime items message tr r) :
    marks tr = [.getData message] ∨
      ∃ reply,
        (marks tr = [.getData message, .gotData reply] ∧
          (reply = message ∨ reply = [] ∨ ∃ e, composeAll items reply = .error e)) ∨
        (reply ≠ message ∧ reply ≠ [] ∧ ∃ frame last, composeAll items reply = .ok frame ∧
          marks tr = .getData message :: .gotData reply ::
            .setData (addDuplicatedBytes frame) :: last ∧
          (last = [] ∨ ∃ setReply, last = [.didSet setReply])) := by
  cases h with
  | unread hp => exact .inl (getData_marks hp)
  | echoed hp => exact .inr ⟨_, .inl ⟨getData_marks hp, .inl rfl⟩⟩
  | silent _ hp => exact .inr ⟨_, .inl ⟨getData_marks hp, .inr (.inl rfl)⟩⟩
  | unfit hp _ _ hframe => exact .inr ⟨_, .inl ⟨getData_marks hp, .inr (.inr ⟨_, hframe⟩)⟩⟩
  | unsent hp hecho hne hframe hset =>
      refine .inr ⟨_, .inr ⟨hecho, hne, _, [], hframe, ?_, .inl rfl⟩⟩
      rw [marks_append, marks_cons, getData_marks hp, setData_marks hset]
      rfl
  | @confirmed _ _ _ _ setReply hp hecho hne hframe hset _ =>
      refine .inr ⟨_, .inr ⟨hecho, hne, _, [.didSet setReply], hframe, ?_, .inr ⟨_, rfl⟩⟩⟩
      rw [marks_append, marks_cons, getData_marks hp, setData_marks hset]
      rfl
  | @refused _ _ _ _ setReply _ _ hp hecho hne hframe hset _ =>
      refine .inr ⟨_, .inr ⟨hecho, hne, _, [.didSet setReply], hframe, ?_, .inr ⟨_, rfl⟩⟩⟩
      rw [marks_append, marks_cons, getData_marks hp, setData_marks hset]
      rfl

/-- The one reply a write reads comes out of an exchange about its message. -/
theorem WriteRun.read {message reply : Bytes} {tr : Trace}
    {r : Except Exc (Dict String DecodedValue)} (h : WriteRun waitingTime items message tr r)
    (hgot : .gotData reply ∈ marks tr) :
    ∃ tr', Path (Connector.getData message) tr' (.ok reply) := by
  have only : ∀ {tr' tr'' : Trace} {reply' m : Bytes} {r' : Except Exc Bytes},
      Path (Connector.getData message) tr' (.ok reply') →
      Path (Connector.setData m) tr'' r' →
      .gotData reply ∈ marks (tr' ++ ⟨.sleep waitingTime, ()⟩ :: tr'') → reply = reply' := by
    intro tr' tr'' reply' m r' hp hset hmem
    rw [marks_append, marks_cons, getData_ok_marks hp, setData_marks hset] at hmem
    cases r' <;> simpa [markOf, Except.toOption] using hmem
  cases h with
  | unread hp => simp [getData_marks hp, Except.toOption] at hgot
  | echoed hp =>
      obtain rfl : reply = message := by simpa [getData_ok_marks hp] using hgot
      exact ⟨_, hp⟩
  | silent _ hp =>
      obtain rfl : reply = [] := by simpa [getData_ok_marks hp] using hgot
      exact ⟨_, hp⟩
  | @unfit _ reply' _ hp _ _ _ =>
      obtain rfl : reply = reply' := by simpa [getData_ok_marks hp] using hgot
      exact ⟨_, hp⟩
  | unsent hp _ _ _ hset =>
      rw [only hp hset hgot]
      exact ⟨_, hp⟩
  | confirmed hp _ _ _ hset _ =>
      rw [only hp hset hgot]
      exact ⟨_, hp⟩
  | refused _ hp _ _ _ hset _ =>
      rw [only hp hset hgot]
      exact ⟨_, hp⟩

/-- A write that stops at a reply which is neither empty nor an echo was stopped by
its values. -/
theorem WriteRun.stopped_at {message reply : Bytes} {tr : Trace}
    {r : Except Exc (Dict String DecodedValue)} (h : WriteRun waitingTime items message tr r)
    (hm : marks tr = [.getData message, .gotData reply]) (hecho : reply ≠ message)
    (hne : reply ≠ []) : ∃ e, r = .error e ∧ composeAll items reply = .error e := by
  have sent : ∀ {tr' tr'' : Trace} {reply' m : Bytes} {r' : Except Exc Bytes},
      Path (Connector.getData message) tr' (.ok reply') →
      Path (Connector.setData m) tr'' r' →
      marks (tr' ++ ⟨.sleep waitingTime, ()⟩ :: tr'') ≠ [.getData message, .gotData reply] := by
    intro tr' tr'' reply' m r' hp hset
    rw [marks_append, marks_cons, getData_ok_marks hp, setData_marks hset]
    simp [markOf]
  cases h with
  | unread hp => simp [getData_marks hp, Except.toOption] at hm
  | echoed hp =>
      rw [getData_ok_marks hp] at hm
      simp only [List.cons.injEq, Mark.gotData.injEq] at hm
      exact absurd hm.2.1.symm hecho
  | silent text hp =>
      rw [getData_ok_marks hp] at hm
      simp only [List.cons.injEq, Mark.gotData.injEq] at hm
      exact absurd hm.2.1.symm hne
  | @unfit _ reply' e hp _ _ hframe =>
      rw [getData_ok_marks hp] at hm
      obtain rfl : reply' = reply := by simpa using hm
      exact ⟨e, rfl, hframe⟩
  | unsent hp _ _ _ hset => exact absurd hm (sent hp hset)
  | confirmed hp _ _ _ hset _ => exact absurd hm (sent hp hset)
  | refused _ hp _ _ _ hset _ => exact absurd hm (sent hp hset)

/-! ## What a SET is composed from -/

/-- An unchecked reply that the values nevertheless go into: not empty, not the
request itself, and long enough for every field. -/
def UncheckedButComposable (items : List (DecodedValue × ChannelDefinition)) (tr : Trace)
    (reply : Bytes) : Prop :=
  headerCheck reply = false ∧ reply ≠ [] ∧ .getData reply ∉ marks tr ∧
    ∀ item ∈ items, Composable reply.length item.1 item.2

/-- A SET frame is composed from a reply that fails the header check exactly when
such a reply comes and the values fit into it. -/
theorem set_from_checked_reply_iff {tr : Trace} {r : Except Exc (Dict String DecodedValue)}
    (h : Path (writeValues waitingTime items) tr r) :
    (∀ message, .setData message ∈ marks tr →
        ∃ reply frame, .gotData reply ∈ marks tr ∧ composeAll items reply = .ok frame ∧
          message = addDuplicatedBytes frame ∧ headerCheck reply = true) ↔
      ¬ ∃ reply, .gotData reply ∈ marks tr ∧ UncheckedButComposable items tr reply := by
  cases items with
  | nil =>
      obtain ⟨rfl, _⟩ := Path.raise_iff.mp h
      simp
  | cons item items =>
      obtain ⟨v, record⟩ := item
      cases hcommand : fromHex record.requestByte with
      | error e =>
          obtain ⟨rfl, _⟩ := writeValues_unhex hcommand h
          simp
      | ok command =>
          rcases (writeValues_path hcommand h).marks_cases with hm | ⟨reply, hcases⟩
          · simp [hm]
          rcases hcases with ⟨hm, hwhy⟩ | ⟨hecho, hne, frame, last, hframe, hm, hlast⟩
          · simp only [hm, UncheckedButComposable]
            refine ⟨?_, ?_⟩
            · intro _ hc
              obtain ⟨reply', hgot, _, hne, hsent, hfit⟩ := hc
              obtain rfl : reply' = reply := by simpa using hgot
              rcases hwhy with rfl | rfl | ⟨e, he⟩
              · simp at hsent
              · exact hne rfl
              · obtain ⟨out, hout⟩ := composeAll_succeeds_iff.mpr hfit
                rw [he] at hout
                cases hout
            · intro _ message hset
              simp at hset
          · have hgot : ∀ reply', Mark.gotData reply' ∈ marks tr ↔ reply' = reply := by
              intro reply'
              rcases hlast with rfl | ⟨_, rfl⟩ <;> simp [hm]
            refine ⟨?_, ?_⟩
            · intro hall hc
              obtain ⟨reply', hgot', hcheck, _⟩ := hc
              obtain ⟨reply'', _, hgot'', _, _, hcheck''⟩ :=
                hall (addDuplicatedBytes frame) (by simp [hm])
              rw [(hgot _).mp hgot'] at hcheck
              rw [(hgot _).mp hgot'', hcheck] at hcheck''
              cases hcheck''
            · intro hnone message hset
              have hmessage : message = addDuplicatedBytes frame := by
                rcases hlast with rfl | ⟨_, rfl⟩ <;> simpa [hm] using hset
              refine ⟨reply, frame, (hgot _).mpr rfl, hframe, hmessage, ?_⟩
              by_contra hcheck
              refine hnone ⟨reply, (hgot _).mpr rfl, by simpa using hcheck, hne, ?_,
                composeAll_succeeds_iff.mp ⟨frame, hframe⟩⟩
              rcases hlast with rfl | ⟨_, rfl⟩ <;> simpa [hm] using hecho

def roomTempDay : ChannelDefinition :=
  { channelId := "p01RoomTempDay", requestByte := "0B0005", dataType := .settings
    position := 6, length := 2, scale := .ofRat (1 / 10), min := .finite 10, max := .finite 30 }

def roomTempWrite : Talk (Dict String DecodedValue) :=
  writeData 0 (.float (.finite 20)) roomTempDay

/-- The register's reply comes with a checksum of `FF`; the rest goes well. -/
def badChecksumScript : List (Option UInt8) :=
  [0x10, 0x10, 0x02, 0x01, 0x00, 0xFF, 0x0B, 0x00, 0x05, 0x00, 0xD2, 0x10, 0x03,
    0x10, 0x10, 0x02, 0x01, 0x80, 0x91, 0x0B, 0x00, 0x05, 0x10, 0x03].map some

theorem set_from_checked_reply_roomTemp :
    (∀ message, .setData message ∈ marks (trace scripted roomTempWrite badChecksumScript) →
        ∃ reply frame,
          .gotData reply ∈ marks (trace scripted roomTempWrite badChecksumScript) ∧
          composeAll [(.float (.finite 20), roomTempDay)] reply = .ok frame ∧
          message = addDuplicatedBytes frame ∧ headerCheck reply = true) ↔
      ¬ ∃ reply, .gotData reply ∈ marks (trace scripted roomTempWrite badChecksumScript) ∧
        UncheckedButComposable [(.float (.finite 20), roomTempDay)]
          (trace scripted roomTempWrite badChecksumScript) reply :=
  set_from_checked_reply_iff (path_run scripted roomTempWrite badChecksumScript)

/-- A reply with a wrong checksum is turned into a SET frame with a right one. -/
theorem wrong_checksum_becomes_set :
    ∃ tr r, Path roomTempWrite tr r ∧
      .setData [0x01, 0x80, 0x59, 0x0B, 0x00, 0x05, 0x00, 0xC8, 0x10, 0x03] ∈ marks tr ∧
      ∀ reply, .gotData reply ∈ marks tr → headerCheck reply = false := by
  have hmarks : marks (trace scripted roomTempWrite badChecksumScript)
      = [.getData [0x01, 0x00, 0x11, 0x0B, 0x00, 0x05, 0x10, 0x03],
        .gotData [0x01, 0x00, 0xFF, 0x0B, 0x00, 0x05, 0x00, 0xD2, 0x10, 0x03],
        .setData [0x01, 0x80, 0x59, 0x0B, 0x00, 0x05, 0x00, 0xC8, 0x10, 0x03],
        .didSet [0x01, 0x80, 0x91, 0x0B, 0x00, 0x05, 0x10, 0x03]] := by
    decide +kernel
  refine ⟨_, _, path_run scripted roomTempWrite badChecksumScript, ?_, ?_⟩
  · rw [hmarks]
    decide
  · intro reply hgot
    rw [hmarks] at hgot
    obtain rfl : reply = [0x01, 0x00, 0xFF, 0x0B, 0x00, 0x05, 0x00, 0xD2, 0x10, 0x03] := by
      simpa using hgot
    decide +kernel

/-! ## What a write reports -/

/-- A call past the checks that come before the lock is a write of one item. -/
theorem writeChannel_path {config : HeatPumpConfig} {channelId : String} {value : CallerValue}
    {record : ChannelDefinition} {coerced : DecodedValue}
    (hrecord : config.channel channelId = some record) (hwritable : record.writable = true)
    (hcoerced : HeatPumpService.coerce record value = .ok coerced) {tr : Trace}
    {r : Except Exc ChannelValue} :
    Path (HeatPumpService.writeChannel config waitingTime channelId value) tr r ↔
      ∃ r', Path (writeData waitingTime coerced record) tr r' ∧
        r = r'.map fun data => HeatPumpService.toChannelValue record
          ((data.get? channelId).getD coerced) := by
  rw [HeatPumpService.writeChannel, HeatPumpService.prepareWriteChannel,
    HeatPumpService.requireChannel, hrecord]
  simp only [ok_bind, hwritable, hcoerced]
  refine ⟨?_, ?_⟩
  · intro h
    rcases Path.bind_iff.mp h with ⟨e, rfl, hp⟩ | ⟨data, tr₁, tr₂, rfl, hp, hret⟩
    · exact ⟨.error e, hp, rfl⟩
    · obtain ⟨rfl, rfl⟩ := Path.ret_iff.mp hret
      exact ⟨.ok data, by rwa [List.append_nil], rfl⟩
  · intro hc
    obtain ⟨r', hp, rfl⟩ := hc
    cases r' with
    | error e => exact Path.bind_iff.mpr (.inl ⟨e, rfl, hp⟩)
    | ok data =>
        exact Path.bind_iff.mpr (.inr ⟨data, tr, [], (List.append_nil _).symm, hp, .ret _⟩)

/-- A call that succeeds has coerced its value and written it. -/
theorem run_writeChannel_ok {σ : Type} {env : Environment Op Op.Ans σ} {s s' : σ}
    {config : HeatPumpConfig} {channelId : String} {value : CallerValue}
    {record : ChannelDefinition} {reported : ChannelValue}
    (hrecord : config.channel channelId = some record)
    (h : run env (HeatPumpService.writeChannel config waitingTime channelId value) s
      = (.ok reported, s')) :
    ∃ coerced, HeatPumpService.coerce record value = .ok coerced ∧
      ∃ data, run env (writeData waitingTime coerced record) s = (.ok data, s') := by
  rw [HeatPumpService.writeChannel, HeatPumpService.prepareWriteChannel,
    HeatPumpService.requireChannel, hrecord] at h
  cases hwritable : record.writable with
  | false =>
      simp only [ok_bind, hwritable] at h
      cases h
  | true =>
      cases hcoerced : HeatPumpService.coerce record value with
      | error e =>
          simp only [ok_bind, hwritable, hcoerced] at h
          cases h
      | ok coerced =>
          simp only [ok_bind, hwritable, hcoerced] at h
          obtain ⟨data, s₁, hrun, hret⟩ := (run_bind_eq_ok _).mp h
          cases hret
          exact ⟨coerced, rfl, data, hrun⟩

/-- A value that cannot be coerced ends the call before the lock. -/
theorem writeChannel_uncoerced {config : HeatPumpConfig} {channelId : String}
    {value : CallerValue} {record : ChannelDefinition} {e : Exc}
    (hrecord : config.channel channelId = some record) (hwritable : record.writable = true)
    (hcoerced : HeatPumpService.coerce record value = .error e) :
    HeatPumpService.writeChannel config waitingTime channelId value = .raise e := by
  rw [HeatPumpService.writeChannel, HeatPumpService.prepareWriteChannel,
    HeatPumpService.requireChannel, hrecord]
  simp only [ok_bind, hwritable, hcoerced]
  rfl

/-- A call passes the checks before the lock, or ends there. -/
theorem writeChannel_cases {config : HeatPumpConfig} {channelId : String}
    {value : CallerValue} {tr : Trace} {r : Except Exc ChannelValue}
    (h : Path (HeatPumpService.writeChannel config waitingTime channelId value) tr r) :
    (∃ record coerced, config.channel channelId = some record ∧ record.writable = true ∧
        HeatPumpService.coerce record value = .ok coerced) ∨
      tr = [] ∧ ∃ e, r = .error e ∧ (e = .channelNotFound channelId ∨
        e = .channelNotWritable channelId ∨
        ∃ record, HeatPumpService.coerce record value = .error e) := by
  rw [HeatPumpService.writeChannel, HeatPumpService.prepareWriteChannel,
    HeatPumpService.requireChannel] at h
  cases hrecord : config.channel channelId with
  | none =>
      rw [hrecord] at h
      obtain ⟨rfl, rfl⟩ := Path.raise_iff.mp h
      exact .inr ⟨rfl, _, rfl, .inl rfl⟩
  | some record =>
      simp only [hrecord, ok_bind] at h
      cases hwritable : record.writable with
      | false =>
          rw [hwritable] at h
          obtain ⟨rfl, rfl⟩ := Path.raise_iff.mp h
          exact .inr ⟨rfl, _, rfl, .inr (.inl rfl)⟩
      | true =>
          rw [hwritable] at h
          cases hcoerced : HeatPumpService.coerce record value with
          | error e =>
              rw [hcoerced] at h
              obtain ⟨rfl, rfl⟩ := Path.raise_iff.mp h
              exact .inr ⟨rfl, _, rfl, .inr (.inr ⟨record, hcoerced⟩)⟩
          | ok coerced => exact .inl ⟨record, coerced, rfl, hwritable, hcoerced⟩

/-- A call that asked anything of the device has passed those checks. -/
theorem writeChannel_checked {config : HeatPumpConfig} {channelId : String}
    {value : CallerValue} {tr : Trace} {r : Except Exc ChannelValue}
    (h : Path (HeatPumpService.writeChannel config waitingTime channelId value) tr r)
    (hany : tr ≠ [] ∨ ∃ reported, r = .ok reported) :
    ∃ record coerced, config.channel channelId = some record ∧ record.writable = true ∧
      HeatPumpService.coerce record value = .ok coerced := by
  rcases writeChannel_cases h with hchecked | ⟨rfl, e, rfl, _⟩
  · exact hchecked
  · rcases hany with hne | ⟨_, hok⟩
    · exact absurd rfl hne
    · cases hok

/-- The value was composed into a frame that carries it, the frame was transmitted, the
device's reply to it has a right header, and the value reported is the frame's. -/
def Confirmed (config : HeatPumpConfig) (channelId : String) (value : CallerValue)
    (tr : Trace) (reported : ChannelValue) : Prop :=
  ∃ record coerced reply frame setReply decoded,
    config.channel channelId = some record ∧
    HeatPumpService.coerce record value = .ok coerced ∧
    .gotData reply ∈ marks tr ∧ composeRecord coerced reply record = .ok frame ∧
    CarriesValue frame record coerced ∧
    [.setData (addDuplicatedBytes frame), .didSet setReply] <:+: marks tr ∧
    (⟨.write (addDuplicatedBytes frame), none⟩ : Exchange) ∈ tr ∧
    verifyHeader setReply = .ok () ∧
    parseRecord frame record = .ok decoded ∧
    reported = HeatPumpService.toChannelValue record decoded

/-- The register's reply is not the request that was sent for it, and the value is in its
field once it is composed into that reply. -/
def Accepting (config : HeatPumpConfig) (channelId : String) (value : CallerValue)
    (tr : Trace) : Prop :=
  ∃ record coerced reply, config.channel channelId = some record ∧
    HeatPumpService.coerce record value = .ok coerced ∧
    .gotData reply ∈ marks tr ∧ .getData reply ∉ marks tr ∧ Lodged coerced reply record

theorem composeAll_single {v : DecodedValue} {record : ChannelDefinition} {frame : Bytes} :
    composeAll [(v, record)] frame = composeRecord v frame record := by
  rw [composeAll, List.foldlM_cons]
  cases composeRecord v frame record <;> rfl

theorem decodeAll_single {v : DecodedValue} {record : ChannelDefinition} {frame : Bytes} :
    decodeAll frame [(v, record)]
      = (parseRecord frame record).map fun decoded => [(record.channelId, decoded)] := by
  rw [decodeAll, List.foldlM_cons]
  cases parseRecord frame record <;> rfl

/-- A write that succeeds has a command. It has taken the reply for an echo, or has composed
its value into the reply and sent that. -/
theorem run_writeData_ok {σ : Type} {env : Environment Op Op.Ans σ} {s s' : σ}
    {record : ChannelDefinition} {v : DecodedValue} {values : Dict String DecodedValue}
    (h : run env (writeData waitingTime v record) s = (.ok values, s')) :
    ∃ command reply s₁, fromHex record.requestByte = .ok command ∧
      run env (Connector.getData (createRequestMessage command GET)) s = (.ok reply, s₁) ∧
      (reply = createRequestMessage command GET ∧ s' = s₁ ∨
        reply ≠ createRequestMessage command GET ∧ reply ≠ [] ∧
          ∃ update s₂ answer, composeRecord v reply record = .ok update ∧
            run env (sleep waitingTime) s₁ = (.ok (), s₂) ∧
            run env (Connector.setData (addDuplicatedBytes update)) s₂ = (.ok answer, s')) := by
  rw [writeData, writeValues] at h
  obtain ⟨command, _, hread, h⟩ := (run_bind_eq_ok _).mp h
  rw [run_ofExcept] at hread
  obtain ⟨hcommand, rfl⟩ := Prod.mk.inj hread
  obtain ⟨reply, s₁, hget, h⟩ := (run_bind_eq_ok _).mp h
  refine ⟨command, reply, s₁, hcommand, hget, ?_⟩
  split at h
  · next hecho =>
      cases h
      exact .inl ⟨hecho.symm, rfl⟩
  · next hecho =>
      split at h
      · cases h
      · next hne =>
          rw [writeBack, composeAll_single] at h
          obtain ⟨update, _, hcompose, h⟩ := (run_bind_eq_ok _).mp h
          rw [run_ofExcept] at hcompose
          obtain ⟨hupdate, rfl⟩ := Prod.mk.inj hcompose
          obtain ⟨_, s₂, hsleep, h⟩ := (run_bind_eq_ok _).mp h
          obtain ⟨answer, s₃, hset, h⟩ := (run_bind_eq_ok _).mp h
          refine .inr ⟨Ne.symm hecho, hne, update, s₂, answer, hupdate, hsleep, ?_⟩
          split at h
          · rw [run_ofExcept] at h
            rw [hset, (Prod.mk.inj h).2]
          · split at h
            · obtain ⟨_, _, _, h⟩ := (run_bind_eq_ok _).mp h
              cases h
            · cases h

/-- A register's write that returns was skipped, or confirmed and reported. -/
theorem writeValues_returned {v : DecodedValue} {record : ChannelDefinition} {tr : Trace}
    {data : Dict String DecodedValue}
    (h : Path (writeValues waitingTime [(v, record)]) tr (.ok data)) :
    ∃ command, fromHex record.requestByte = .ok command ∧
      ((data = [] ∧ marks tr = [.getData (createRequestMessage command GET),
          .gotData (createRequestMessage command GET)]) ∨
        ∃ reply frame setReply decoded, reply ≠ createRequestMessage command GET ∧
          marks tr = [.getData (createRequestMessage command GET), .gotData reply,
            .setData (addDuplicatedBytes frame), .didSet setReply] ∧
          composeRecord v reply record = .ok frame ∧ parseRecord frame record = .ok decoded ∧
          (⟨.write (addDuplicatedBytes frame), none⟩ : Exchange) ∈ tr ∧
          verifyHeader setReply = .ok () ∧ data = [(record.channelId, decoded)]) := by
  cases hcommand : fromHex record.requestByte with
  | error e =>
      obtain ⟨_, hr⟩ := writeValues_unhex hcommand h
      cases hr
  | ok command =>
      refine ⟨command, rfl, ?_⟩
      generalize hr : Except.ok data = r at h
      have hrun := writeValues_path hcommand h
      cases hrun with
      | unread hread => cases hr
      | echoed hread =>
          cases hr
          exact .inl ⟨rfl, getData_ok_marks hread⟩
      | silent text hread => cases hr
      | unfit hread _ _ _ => cases hr
      | unsent hread _ _ _ hset => cases hr
      | @confirmed tr₁ tr₂ reply frame setReply hread hecho _ hframe hset hverify =>
          have hne : setReply ≠ [] := by
            rintro rfl
            cases hverify
          have hsent := setData_written hset hne
          rw [composeAll_single] at hframe
          rw [decodeAll_single] at hr
          obtain ⟨decoded, hdecoded, rfl⟩ := map_eq_ok.mp hr.symm
          refine .inr ⟨reply, frame, setReply, decoded, hecho, ?_, hframe, hdecoded,
            by simp [hsent], hverify, rfl⟩
          rw [marks_append, marks_cons, getData_ok_marks hread, setData_ok_marks hset]
          rfl
      | refused ids hread _ _ hframe hset hverify =>
          obtain ⟨_, _, hwnc⟩ := bind_eq_ok.mp hr.symm
          cases hwnc

/-- A write that returns was confirmed exactly when the register's reply did not repeat the
request and took the value. -/
theorem write_confirmed_iff {config : HeatPumpConfig} {channelId : String}
    {value : CallerValue} {tr : Trace} {reported : ChannelValue}
    (h : Path (HeatPumpService.writeChannel config waitingTime channelId value) tr
      (.ok reported)) :
    Confirmed config channelId value tr reported ↔ Accepting config channelId value tr := by
  obtain ⟨record, coerced, hrecord, hwritable, hcoerced⟩ :=
    writeChannel_checked h (.inr ⟨_, rfl⟩)
  obtain ⟨r, hdata, hr⟩ := (writeChannel_path hrecord hwritable hcoerced).mp h
  obtain ⟨data, rfl, hreported⟩ := map_eq_ok.mp hr.symm
  obtain ⟨command, hcommand, ⟨_, hm⟩ | ⟨reply, frame, setReply, decoded, hecho, hm, hframe,
    hdecoded, hwritten, hverify, rfl⟩⟩ := writeValues_returned hdata
  · refine iff_of_false ?_ ?_
    · rintro ⟨_, _, _, frame, _, _, _, _, _, _, _, hset, _⟩
      have hmem : .setData (addDuplicatedBytes frame) ∈ marks tr :=
        hset.subset List.mem_cons_self
      simp [hm] at hmem
    · rintro ⟨_, _, reply, _, _, hgot, hsent, _⟩
      simp only [hm, List.mem_cons, Mark.gotData.injEq, reduceCtorEq, List.not_mem_nil,
        or_false, false_or] at hgot
      simp [hm, hgot] at hsent
  · have hgot : ∀ reply', Mark.gotData reply' ∈ marks tr ↔ reply' = reply := by
      intro reply'
      simp [hm]
    have hunsent : Mark.getData reply ∉ marks tr := by
      simp [hm, hecho]
    refine ⟨?_, ?_⟩
    · rintro ⟨record', coerced', reply', frame', _, _, hrecord', hcoerced', hgot', hframe',
        hcarries, _⟩
      obtain rfl := Option.some.inj (hrecord.symm.trans hrecord')
      obtain rfl := Except.ok.inj (hcoerced.symm.trans hcoerced')
      obtain rfl := (hgot reply').mp hgot'
      obtain rfl := Except.ok.inj (hframe.symm.trans hframe')
      exact ⟨record, coerced, reply', hrecord, hcoerced, hgot', hunsent,
        (carries_iff_lodged hframe hdecoded).mp hcarries⟩
    · rintro ⟨record', coerced', reply', hrecord', hcoerced', hgot', _, hlodged⟩
      obtain rfl := Option.some.inj (hrecord.symm.trans hrecord')
      obtain rfl := Except.ok.inj (hcoerced.symm.trans hcoerced')
      obtain rfl := (hgot reply').mp hgot'
      refine ⟨record, coerced, reply', frame, setReply, decoded, hrecord, hcoerced, hgot', hframe,
        (carries_iff_lodged hframe hdecoded).mpr hlodged, ?_, hwritten, hverify, hdecoded, ?_⟩
      · rw [hm]
        exact ⟨[Mark.getData _, Mark.gotData _], [], rfl⟩
      · have hid := (HeatPumpConfig.channel_mem hrecord).2
        rw [← hreported, Dict.get?_cons, if_pos hid]
        rfl

def roomTempConfig : HeatPumpConfig := { channels := [roomTempDay] }

def roomTempCall : Talk ChannelValue :=
  HeatPumpService.writeChannel roomTempConfig 0 "p01RoomTempDay" (.int 20)

/-- The reply to the read is the request over again, as on a line that echoes. -/
def echoScript : List (Option UInt8) :=
  [0x10, 0x10, 0x02, 0x01, 0x00, 0x11, 0x0B, 0x00, 0x05, 0x10, 0x03].map some

def reportedTwenty : ChannelValue :=
  HeatPumpService.toChannelValue roomTempDay (.float (.finite 20))

theorem roomTempCall_echo_path :
    Path roomTempCall (trace scripted roomTempCall echoScript) (.ok reportedTwenty) :=
  path_of_run scripted (by decide +kernel)

/-- The register is read as 21.0 and takes the 20. -/
def takingScript : List (Option UInt8) :=
  [0x10, 0x10, 0x02, 0x01, 0x00, 0xE3, 0x0B, 0x00, 0x05, 0x00, 0xD2, 0x10, 0x03,
    0x10, 0x10, 0x02, 0x01, 0x80, 0x91, 0x0B, 0x00, 0x05, 0x10, 0x03].map some

theorem write_confirmed_twenty :
    Confirmed roomTempConfig "p01RoomTempDay" (.int 20)
      (trace scripted roomTempCall takingScript) reportedTwenty := by
  have hmarks : marks (trace scripted roomTempCall takingScript)
      = [.getData [0x01, 0x00, 0x11, 0x0B, 0x00, 0x05, 0x10, 0x03],
        .gotData [0x01, 0x00, 0xE3, 0x0B, 0x00, 0x05, 0x00, 0xD2, 0x10, 0x03],
        .setData [0x01, 0x80, 0x59, 0x0B, 0x00, 0x05, 0x00, 0xC8, 0x10, 0x03],
        .didSet [0x01, 0x80, 0x91, 0x0B, 0x00, 0x05, 0x10, 0x03]] := by
    decide +kernel
  have hpath : Path roomTempCall (trace scripted roomTempCall takingScript)
      (.ok reportedTwenty) := path_of_run scripted (by decide +kernel)
  refine (write_confirmed_iff hpath).mpr ⟨roomTempDay, .float (.finite 20),
    [0x01, 0x00, 0xE3, 0x0B, 0x00, 0x05, 0x00, 0xD2, 0x10, 0x03], rfl, by decide +kernel, ?_, ?_,
    by decide +kernel⟩
  · rw [hmarks]
    decide
  · rw [hmarks]
    decide

/-- Success is reported, with the value asked for, and no SET frame was sent. -/
theorem echo_reported_as_written :
    ∃ tr, Path roomTempCall tr (.ok reportedTwenty) ∧
      (∀ message, .setData message ∉ marks tr) ∧
      ¬ Confirmed roomTempConfig "p01RoomTempDay" (.int 20) tr reportedTwenty := by
  have hmarks : marks (trace scripted roomTempCall echoScript)
      = [.getData [0x01, 0x00, 0x11, 0x0B, 0x00, 0x05, 0x10, 0x03],
        .gotData [0x01, 0x00, 0x11, 0x0B, 0x00, 0x05, 0x10, 0x03]] := by
    decide +kernel
  have hnone : ∀ message,
      Mark.setData message ∉ marks (trace scripted roomTempCall echoScript) := by
    intro message
    simp [hmarks]
  refine ⟨_, roomTempCall_echo_path, hnone, ?_⟩
  rintro ⟨_, _, _, frame, _, _, _, _, _, _, _, hset, _⟩
  exact hnone (addDuplicatedBytes frame) (hset.subset List.mem_cons_self)

end HeatpumpGateway
