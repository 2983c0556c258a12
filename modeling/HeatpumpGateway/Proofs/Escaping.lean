import HeatpumpGateway.Proofs.Clock
import HeatpumpGateway.Proofs.Sweep

/-!
# Which faults escape

A call of the service is meant to fail with a `ProtocolError`, which the API turns into a
503 or a 502. The file says for each of the six calls when it does: the transport did not
refuse the last thing that was asked of it, and the call was not `Troubled`. A read is
troubled by a command that is no hexadecimal text, and `read_channel` also by an answer
that does not decode its channel; a write by a reply that does not take its value. For
`set_time` this is followed from register to register, as far as each of them was written.
-/

namespace HeatpumpGateway

open Dialogue CommunicationService

variable {waitingTime : Nat} {config : HeatPumpConfig}

/-! ## Writes in a row -/

/-- The write came back with a result, and these marks are left of the call: the register
answered with the request itself, or the device confirmed a frame in which the field
decodes. -/
def Passed (item : DecodedValue × ChannelDefinition) (ms rest : List Mark) : Prop :=
  ∃ command, fromHex item.2.requestByte = .ok command ∧
    (ms = .getData (createRequestMessage command GET) ::
        .gotData (createRequestMessage command GET) :: rest ∨
      ∃ reply frame setReply, reply ≠ createRequestMessage command GET ∧
        ms = .getData (createRequestMessage command GET) :: .gotData reply ::
          .setData (addDuplicatedBytes frame) :: .didSet setReply :: rest ∧
        composeRecord item.1 reply item.2 = .ok frame ∧ headerCheck setReply = true ∧
        DecodesIn frame item.2)

/-- One of the writes was troubled, and those before it came back. -/
def RegistersTroubled : List (DecodedValue × ChannelDefinition) → List Mark → Prop
  | [], _ => False
  | item :: items, ms => WriteTroubled item.1 item.2 ms ∨
      ∃ rest, Passed item ms rest ∧ RegistersTroubled items rest

theorem Passed.unique {item : DecodedValue × ChannelDefinition} {ms rest rest' : List Mark}
    (h : Passed item ms rest) (h' : Passed item ms rest') : rest = rest' := by
  obtain ⟨command, hcommand, hcases⟩ := h
  obtain ⟨command', hcommand', hcases'⟩ := h'
  rw [hcommand] at hcommand'
  cases hcommand'
  rcases hcases with rfl | ⟨reply, frame, setReply, hecho, rfl, _⟩
  · rcases hcases' with hms | ⟨reply', _, _, hecho', hms, _⟩
    · simpa using hms
    · simp only [List.cons.injEq, Mark.gotData.injEq] at hms
      exact absurd hms.2.1.symm hecho'
  · rcases hcases' with hms | ⟨_, _, _, _, hms, _⟩
    · simp only [List.cons.injEq, Mark.gotData.injEq] at hms
      exact absurd hms.2.1 hecho
    · simp only [List.cons.injEq] at hms
      exact hms.2.2.2.2

/-- A write that returns has passed, and it was not troubled. -/
theorem writeValues_passed {v : DecodedValue} {record : ChannelDefinition} {tr : Trace}
    {data : Dict String DecodedValue}
    (h : Path (writeValues waitingTime [(v, record)]) tr (.ok data)) (rest : List Mark) :
    Passed (v, record) (marks tr ++ rest) rest ∧
      ¬ WriteTroubled v record (marks tr ++ rest) := by
  obtain ⟨command, hcommand, ⟨_, hm⟩ | ⟨reply, frame, setReply, decoded, hecho, hm, hframe,
    hdecoded, _, hverify, _⟩⟩ := writeValues_returned h
  · rw [hm]
    refine ⟨⟨command, hcommand, .inl rfl⟩, fun hc => ?_⟩
    exact ((writeTroubled_reply hcommand _ _).mp hc).2.1 rfl
  · rw [hm]
    refine ⟨⟨command, hcommand, .inr ⟨reply, frame, setReply, hecho, rfl, hframe,
      headerCheck_iff.mpr hverify, parseRecord_succeeds_iff.mp ⟨decoded, hdecoded⟩⟩⟩, fun hc => ?_⟩
    exact ((writeTroubled_reply hcommand _ _).mp hc).2.2
      (composeRecord_ok_iff.mp hframe).1.accommodates

theorem createRequestMessage_ne_nil (command : Bytes) (getOrSet : UInt8) :
    createRequestMessage command getOrSet ≠ [] := by
  rw [createRequestMessage_eq, bareFrame, addDuplicatedBytes_frameWith]
  simp [frameWith]

/-- A write that fails has not passed. -/
theorem writeValues_not_passed {v : DecodedValue} {record : ChannelDefinition} {tr : Trace}
    {e : Exc} (h : Path (writeValues waitingTime [(v, record)]) tr (.error e)) (rest : List Mark) :
    ¬ Passed (v, record) (marks tr) rest := by
  rintro ⟨command, hcommand, hcases⟩
  generalize hr : Except.error e = r at h
  have hne := createRequestMessage_ne_nil command GET
  cases writeValues_path hcommand h with
  | unread hp => simp [getData_marks hp, Except.toOption] at hcases
  | echoed hp => cases hr
  | silent text hp => simp [getData_ok_marks hp, hne.symm] at hcases
  | unfit hp hecho hnil hframe => simp [getData_ok_marks hp, hecho] at hcases
  | unsent hp hecho hnil hframe hset =>
      cases hr
      simp [getData_ok_marks hp, setData_marks hset, markOf, Except.toOption, hecho] at hcases
  | @confirmed _ _ reply frame setReply hp hecho hnil hframe hset hverify =>
      rw [composeAll_single] at hframe
      rw [decodeAll_single] at hr
      -- The frame that was set is the one composed from the reply, and it does not decode.
      rcases hcases with hms | ⟨_, frame', _, _, hms, hframe', _, hdecodes⟩
      · simp [getData_ok_marks hp, setData_marks hset, markOf, Except.toOption, hecho] at hms
      · simp only [marks_append, marks_cons, getData_ok_marks hp, setData_marks hset, markOf,
          Except.toOption, Option.toList, Option.map, List.nil_append, List.cons_append,
          List.cons.injEq, Mark.gotData.injEq] at hms
        obtain ⟨_, rfl, _⟩ := hms
        rw [hframe] at hframe'
        cases hframe'
        obtain ⟨decoded, hdecoded⟩ := parseRecord_succeeds_iff.mpr hdecodes
        rw [hdecoded] at hr
        cases hr
  | @refused _ _ reply frame setReply _ ids hp hecho hnil hframe hset hverify =>
      rcases hcases with hms | ⟨_, _, _, _, hms, _, hcheck, _⟩
      · simp [getData_ok_marks hp, setData_marks hset, markOf, Except.toOption, hecho] at hms
      · simp only [marks_append, marks_cons, getData_ok_marks hp, setData_marks hset, markOf,
          Except.toOption, Option.toList, Option.map, List.nil_append, List.cons_append,
          List.cons.injEq, Mark.didSet.injEq] at hms
        obtain ⟨_, _, _, rfl, _⟩ := hms
        rw [headerCheck_iff, hverify] at hcheck
        cases hcheck

/-- Behind a write that came back the next ones count. -/
theorem registersTroubled_cons {item : DecodedValue × ChannelDefinition}
    {items : List (DecodedValue × ChannelDefinition)} {ms rest : List Mark}
    (hpassed : Passed item ms rest) (hfine : ¬ WriteTroubled item.1 item.2 ms) :
    RegistersTroubled (item :: items) ms ↔ RegistersTroubled items rest := by
  rw [RegistersTroubled, or_iff_right hfine]
  refine ⟨fun hc => ?_, fun hc => ⟨rest, hpassed, hc⟩⟩
  obtain ⟨rest', hpassed', hlater⟩ := hc
  rwa [hpassed.unique hpassed']

/-- The writes of the clock fields return untroubled, or fail as the one that fails does. -/
theorem setTimeViaRegisters_outcome {clockRecords : Dict String ChannelDefinition}
    {values : Dict String DecodedValue} (fields : List String) :
    ∀ {written : Dict String DecodedValue} {tr : Trace}
      {r : Except Exc (Dict String DecodedValue)},
    Path (setTimeViaRegisters waitingTime clockRecords values fields written) tr r →
    (∃ written', r = .ok written' ∧ refusedLast tr = none ∧ ∀ rest,
        ¬ RegistersTroubled (registerItems clockRecords values fields) (marks tr ++ rest)) ∨
      ∃ e, r = .error e ∧ (e.isProtocolError = true ↔ refusedLast tr = none ∧
        ¬ RegistersTroubled (registerItems clockRecords values fields) (marks tr)) := by
  induction fields with
  | nil =>
      intro written tr r h
      obtain ⟨rfl, rfl⟩ := Path.ret_iff.mp h
      exact .inl ⟨written, rfl, rfl, fun _ => id⟩
  | cons field fields ih =>
      intro written tr r h
      rw [registerItems, List.filterMap_cons]
      rw [setTimeViaRegisters] at h
      cases hrecord : clockRecords.get? field with
      | none =>
          rw [hrecord] at h
          exact ih h
      | some record =>
          cases hvalue : values.get? field with
          | none =>
              rw [hrecord, hvalue] at h
              exact ih h
          | some value =>
              rw [hrecord, hvalue] at h
              simp only []
              rcases Path.bind_iff.mp h with ⟨e, rfl, hp⟩ | ⟨result, tr₁, tr₂, rfl, hp, hnext⟩
              · refine .inr ⟨e, rfl, ?_⟩
                rw [writeValues_error_iff hp, RegistersTroubled, or_iff_left]
                rintro ⟨rest, hpassed, _⟩
                exact writeValues_not_passed hp rest hpassed
              · obtain ⟨tr₃, rfl, hlater⟩ := path_sleep.mp hnext
                have hlast : refusedLast (tr₁ ++ ⟨.sleep waitingTime, ()⟩ :: tr₃)
                    = refusedLast tr₃ := by
                  rw [refusedLast_append (by simp), refusedLast_sleep]
                have hmarks : marks (tr₁ ++ ⟨.sleep waitingTime, ()⟩ :: tr₃)
                    = marks tr₁ ++ marks tr₃ := by
                  rw [marks_append, marks_cons]
                  rfl
                have hcons : ∀ rest, RegistersTroubled ((value, record) ::
                    registerItems clockRecords values fields) (marks tr₁ ++ rest) ↔
                      RegistersTroubled (registerItems clockRecords values fields) rest := by
                  intro rest
                  obtain ⟨hpassed, hfine⟩ := writeValues_passed hp rest
                  exact registersTroubled_cons hpassed hfine
                rw [hlast, hmarks]
                rcases ih hlater with ⟨written', rfl, hquiet, hfine⟩ | ⟨e, rfl, hiff⟩
                · refine .inl ⟨written', rfl, hquiet, fun rest => ?_⟩
                  rw [List.append_assoc]
                  exact (hcons _).not.mpr (hfine rest)
                · refine .inr ⟨e, rfl, ?_⟩
                  rw [hiff]
                  exact and_congr_right fun _ => (hcons _).not.symm

/-! ## The clock frame -/

/-- The clock frame was read, and not all the values go into it. -/
def FrameTroubled (request : Request) (items : List (DecodedValue × ChannelDefinition))
    (ms : List Mark) : Prop :=
  ∃ command reply, request.requestBytes = .ok command ∧
    [.getData (createRequestMessage command GET), .gotData reply] <+: ms ∧
    headerCheck reply = true ∧ ∃ item ∈ items, ¬ Accommodates reply.length item.1 item.2

theorem frameTroubled_reply {request : Request} {items : List (DecodedValue × ChannelDefinition)}
    {command : Bytes} (hcommand : request.requestBytes = .ok command) (reply : Bytes)
    (rest : List Mark) :
    FrameTroubled request items
        (.getData (createRequestMessage command GET) :: .gotData reply :: rest) ↔
      headerCheck reply = true ∧ ∃ item ∈ items, ¬ Accommodates reply.length item.1 item.2 := by
  rw [FrameTroubled, hcommand]
  simp [List.cons_prefix_cons]

/-- Into a frame with a valid header values are composed unless one does not go in, and then
something else than a `ProtocolError` is raised. -/
theorem composeAll_valid {items : List (DecodedValue × ChannelDefinition)} {reply : Bytes}
    (hcheck : headerCheck reply = true) :
    ((∃ frame, composeAll items reply = .ok frame) ↔
        ∀ item ∈ items, Accommodates reply.length item.1 item.2) ∧
      ∀ e, composeAll items reply = .error e → e.isProtocolError = false := by
  have hlong : 5 ≤ reply.length := by
    by_contra hc
    rw [headerCheck_short (by omega)] at hcheck
    cases hcheck
  refine ⟨?_, fun e he => ?_⟩
  · rw [composeAll_succeeds_iff]
    refine forall₂_congr fun item _ => ⟨Composable.accommodates, fun h => ⟨hlong, h.2⟩⟩
  · refine Fallible.foldlM_error_of (I := fun frame : Bytes => 5 ≤ frame.length)
      (Q := fun e => e.isProtocolError = false) ?_ ?_ items hlong he
    · intro frame item frame' hlong hstep
      rwa [composeRecord_length hstep]
    · intro frame item e hlong hstep
      by_contra hprotocol
      rw [Bool.not_eq_false, composeRecord_error_iff hstep] at hprotocol
      obtain ⟨out, hout⟩ := composeRecord_succeeds_iff.mpr ⟨hlong, hprotocol.2⟩
      rw [hstep] at hout
      cases hout

theorem setTimeViaFrame_outcome {request : Request} {command : Bytes}
    (hcommand : request.requestBytes = .ok command) {values : Dict String DecodedValue}
    {tr : Trace} {r : Except Exc (Dict String DecodedValue)}
    (h : Path (setTimeViaFrame waitingTime request values) tr r) :
    (∃ written, r = .ok written ∧ refusedLast tr = none ∧ ∀ rest,
        ¬ FrameTroubled request (clockItems request.records values) (marks tr ++ rest)) ∨
      ∃ e, r = .error e ∧ (e.isProtocolError = true ↔ refusedLast tr = none ∧
        ¬ FrameTroubled request (clockItems request.records values) (marks tr)) := by
  rw [setTimeViaFrame, hcommand] at h
  simp only [ofExcept_ok, ret_bind] at h
  rcases Path.bind_iff.mp h with ⟨e, rfl, hp⟩ | ⟨reply, tr₁, tr₂, rfl, hp, hrest⟩
  · refine .inr ⟨e, rfl, ?_⟩
    rw [getData_error_iff hp, getData_marks hp, FrameTroubled]
    simp [List.cons_prefix_cons, Except.toOption]
  have hread := (Wary.getData _).refusedLast_of_ok hp
  rw [refusedLast_append_of_none hread, marks_append, getData_ok_marks hp]
  simp only [List.cons_append, List.nil_append, frameTroubled_reply hcommand]
  by_cases hcheck : headerCheck reply = true
  · rw [if_neg (by simp [hcheck])] at hrest
    obtain ⟨hfits, hraised⟩ := @composeAll_valid (clockItems request.records values) _ hcheck
    cases hframe : composeAll (clockItems request.records values) reply with
    | error e =>
        rw [hframe] at hrest
        obtain ⟨rfl, rfl⟩ := Path.raise_iff.mp hrest
        refine .inr ⟨e, rfl, iff_of_false (by rw [hraised e hframe]; decide) fun hc => hc.2 ?_⟩
        refine ⟨hcheck, ?_⟩
        by_contra hnone
        obtain ⟨frame, hok⟩ := hfits.mpr fun item hitem => by
          by_contra hbad
          exact hnone ⟨item, hitem, hbad⟩
        rw [hframe] at hok
        cases hok
    | ok frame =>
        have hfine : ¬ (headerCheck reply = true ∧ ∃ item ∈ clockItems request.records values,
            ¬ Accommodates reply.length item.1 item.2) := by
          rintro ⟨_, item, hitem, hbad⟩
          exact hbad (hfits.mp ⟨frame, hframe⟩ item hitem)
        rw [hframe] at hrest
        have hwary : Wary (do
            sleep waitingTime
            let _ ← Connector.setData (addDuplicatedBytes frame)
            sleep waitingTime
            return Dict.ofPairs ((clockItems request.records values).map fun item =>
              (item.2.channelId, item.1)) : Talk (Dict String DecodedValue)) :=
          Wary.bind (Wary.sleep _) fun _ _ _ => Wary.bind (Wary.setData _) fun _ _ _ =>
            Wary.bind (Wary.sleep _) fun _ _ _ => Wary.ret _
        cases r with
        | ok written => exact .inl ⟨written, rfl, hwary.refusedLast_of_ok hrest, fun _ => hfine⟩
        | error e => exact .inr ⟨e, rfl, (hwary.error_iff hrest).trans (and_iff_left hfine).symm⟩
  · rw [if_pos (by simpa using hcheck)] at hrest
    obtain ⟨rfl, rfl⟩ := Path.ret_iff.mp hrest
    exact .inl ⟨[], rfl, rfl, fun _ hc => hcheck hc.1⟩

/-! ## Setting the clock -/

/-- The request for a command text has that text for its command. -/
theorem requestByBytes_command {text : String} {request : Request}
    (h : config.requestByBytes text = some request) :
    request.requestBytes = fromHex (upper text) := by
  rw [HeatPumpConfig.requestByBytes] at h
  have hfound := List.find?_some h
  have hbyte : request.requestByte = upper text := by simpa using hfound
  rw [Request.requestBytes, hbyte]

theorem Wary.readClock : Wary (CommunicationService.readClock (config.requestByBytes "FC")) := by
  cases hfind : config.requestByBytes "FC" with
  | none => exact Wary.ret _
  | some request =>
      have hcommand : request.requestBytes = .ok [0xFC] :=
        (requestByBytes_command hfind).trans (by decide +kernel)
      rw [CommunicationService.readClock, hcommand]
      simp only [ofExcept_ok, ret_bind]
      refine Wary.bind (Wary.getData _) fun response _ _ => ?_
      split
      · obtain ⟨values, hvalues⟩ := parseRecords_succeeds response request.records none
        rw [hvalues]
        exact Wary.ret _
      · exact Wary.ret _

/-- A register of the clock, or where there are none its frame, is troubled. -/
def ClockTroubled (config : HeatPumpConfig) (now : DateTime) (ms : List Mark) : Prop :=
  if HeatPumpService.clockRecords config ≠ [] then
    RegistersTroubled (timeItems (HeatPumpService.clockRecords config) now) ms
  else ∃ request, config.requestByBytes "FC" = some request ∧
    FrameTroubled request (timeFrameItems request now) ms

/-- After the writes only the link can make the call fail. -/
theorem report_error_iff {written : Talk (Dict String DecodedValue)}
    {f : Dict String DecodedValue → Dict String DecodedValue → Dict String Reported}
    {T : List Mark → Prop} {tr : Trace} {e : Exc}
    (hwritten : ∀ {tr r}, Path written tr r →
      (∃ w, r = .ok w ∧ refusedLast tr = none ∧ ∀ rest, ¬ T (marks tr ++ rest)) ∨
        ∃ e, r = .error e ∧ (e.isProtocolError = true ↔ refusedLast tr = none ∧ ¬ T (marks tr)))
    (h : Path (do
      let w ← written
      let data ← CommunicationService.readClock (config.requestByBytes "FC")
      return f data w) tr (.error e)) :
    e.isProtocolError = true ↔ refusedLast tr = none ∧ ¬ T (marks tr) := by
  rcases Path.bind_iff.mp h with ⟨e', he, hp⟩ | ⟨w, tr₁, tr₂, rfl, hp, hrest⟩
  · cases he
    rcases hwritten hp with ⟨_, hok, _⟩ | ⟨_, he, hiff⟩
    · cases hok
    · cases he
      exact hiff
  · rcases hwritten hp with ⟨_, _, hquiet, hfine⟩ | ⟨_, he, _⟩
    · have hwary : Wary (do
          let data ← CommunicationService.readClock (config.requestByBytes "FC")
          return f data w : Talk (Dict String Reported)) :=
        Wary.bind Wary.readClock fun _ _ _ => Wary.ret _
      rw [refusedLast_append_of_none hquiet, marks_append, hwary.error_iff hrest]
      exact (and_iff_left (hfine _)).symm
    · cases he

theorem setTime_error_iff {now : DateTime} {tr : Trace} {e : Exc}
    (h : Path (HeatPumpService.setTime config waitingTime now) tr (.error e)) :
    e.isProtocolError = true ↔
      refusedLast tr = none ∧ ¬ ClockTroubled config now (marks tr) := by
  rw [HeatPumpService.setTime, HeatPumpService.prepareSetTime, HeatPumpService.perform] at h
  unfold CommunicationService.setTime at h
  simp only [] at h
  split at h
  · next hrecords =>
      unfold ClockTroubled
      rw [if_pos hrecords]
      exact report_error_iff (setTimeViaRegisters_outcome CLOCK_FIELDS) h
  · next hrecords =>
      cases hfind : config.requestByBytes "FC" with
      | none =>
          rw [hfind] at h
          cases (Path.ret_iff.mp h).2
      | some request =>
          have hcommand : request.requestBytes = .ok [0xFC] :=
            (requestByBytes_command hfind).trans (by decide +kernel)
          have htroubled : ClockTroubled config now (marks tr) ↔
              FrameTroubled request (timeFrameItems request now) (marks tr) := by
            rw [ClockTroubled, if_neg hrecords]
            simp [hfind]
          rw [htroubled]
          rw [hfind] at h
          simp only [] at h
          rw [← hfind] at h
          exact report_error_iff (setTimeViaFrame_outcome hcommand) h

/-! ## The calls -/

namespace ServiceCall

/-- What a write checks before the lock: the id is a settings channel's, and the value can
be coerced to its type. -/
def Checked (config : HeatPumpConfig) : ServiceCall → Prop
  | writeChannel channelId value =>
      ∃ record coerced, config.channel channelId = some record ∧ record.writable = true ∧
        HeatPumpService.coerce record value = .ok coerced
  | _ => True

/-- An id to read is not configured, a command that a read comes to is no hexadecimal text,
an answer does not decode the channel that is read, or a value does not go into the reply of
its register. -/
def Troubled (config : HeatPumpConfig) (ms : List Mark) : ServiceCall → Prop
  | readChannel channelId => config.channel channelId = none ∨
      ∃ request, config.requestForChannel channelId = some request ∧
        (Misspelt [request] ms ∨
          ∃ frames, sweepAnswers [request] ms = some [(request, frames)] ∧
            ∀ record ∈ request.records, record.channelId = channelId → ¬ ReadsIn record frames)
  | readChannels channelIds => (∃ channelId ∈ channelIds, config.channel channelId = none) ∨
      Misspelt (HeatPumpService.requestsFor config channelIds) ms
  | readAll dataTypes => Misspelt (config.requests.filter fun request =>
      request.records.any (·.dataType ∈ HeatPumpService.typesOrDefault dataTypes)) ms
  | getVersion => ∃ request, config.requestByBytes "FD" = some request ∧ Misspelt [request] ms
  | setTime now => ClockTroubled config now ms
  | writeChannel channelId value =>
      ∃ record coerced, config.channel channelId = some record ∧
        HeatPumpService.coerce record value = .ok coerced ∧ WriteTroubled coerced record ms

theorem path_discard_error {α : Type} {p : Talk α} {tr : Trace} {e : Exc}
    (h : Path (do let _ ← p) tr (.error e : Except Exc Unit)) : Path p tr (.error e) := by
  rcases Path.bind_iff.mp h with ⟨e', he, hp⟩ | ⟨_, _, _, _, _, hret⟩
  · cases he
    exact hp
  · cases (Path.ret_iff.mp hret).2

theorem readChannel_error_iff {channelId : String} {tr : Trace} {e : Exc}
    (h : Path (HeatPumpService.readChannel config waitingTime channelId) tr (.error e)) :
    e.isProtocolError = true ↔
      refusedLast tr = none ∧ ¬ Troubled config (marks tr) (.readChannel channelId) := by
  rw [HeatPumpService.readChannel, HeatPumpService.prepareReadChannel,
    HeatPumpService.requireChannel] at h
  cases hrecord : config.channel channelId with
  | none =>
      rw [hrecord] at h
      obtain ⟨_, hr⟩ := Path.raise_iff.mp h
      cases hr
      exact iff_of_false (fun hc => by cases hc) fun hc => hc.2 (.inl hrecord)
  | some record =>
  obtain ⟨hmem, hid⟩ := HeatPumpConfig.channel_mem hrecord
  obtain ⟨request, hrequest, _⟩ := HeatPumpConfig.requestForChannel_isSome hmem hid
  have htroubled : Troubled config (marks tr) (.readChannel channelId) ↔
      Misspelt [request] (marks tr) ∨
        ∃ frames, sweepAnswers [request] (marks tr) = some [(request, frames)] ∧
          ∀ record ∈ request.records, record.channelId = channelId → ¬ ReadsIn record frames := by
    rw [Troubled, hrecord, hrequest]
    simp
  rw [htroubled]
  rw [hrecord] at h
  simp only [Fallible.ok_bind, hrequest] at h
  rcases Path.bind_iff.mp h with ⟨e', he, hp⟩ | ⟨data, tr₁, tr₂, rfl, hp, hrest⟩
  · cases he
    obtain ⟨hnone, hiff⟩ := readRequest_error hp []
    rw [hiff, hnone]
    simp
  · cases hdata : data.get? channelId with
    | some value =>
        rw [hdata] at hrest
        cases (Path.ret_iff.mp hrest).2
    | none =>
        rw [hdata] at hrest
        obtain ⟨rfl, hr⟩ := Path.raise_iff.mp hrest
        cases hr
        rw [List.append_nil]
        obtain ⟨commands, frames, hcommands, rfl, _, hanswer⟩ := readRequest_ok hp
        have hhere := hanswer []
        rw [List.append_nil] at hhere
        refine iff_of_false (fun hc => by cases hc) fun hc => hc.2 (.inr ⟨frames, ?_, ?_⟩)
        · exact (sweep_cons hcommands hhere []).1
        · intro record' hrecord' hid' hreads
          rw [← readable_iff] at hreads
          exact Dict.get?_eq_none_iff.mp hdata ((Dict.mem_keys_update _).mpr
            (.inr (mem_readings_keys.mpr ⟨record', hrecord', hid', hreads⟩)))

/-- The two reads that sweep, and whatever is made of their values. -/
theorem sweep_error_iff {α : Type} {requests : List Request}
    {f : Dict String DecodedValue → Talk α} (hf : ∀ data, ∃ a, f data = .ret a)
    {tr : Trace} {e : Exc} (h : Path (readRequests waitingTime requests >>= f) tr (.error e)) :
    e.isProtocolError = true ↔ refusedLast tr = none ∧ ¬ Misspelt requests (marks tr) := by
  rcases Path.bind_iff.mp h with ⟨e', he, hp⟩ | ⟨data, tr₁, tr₂, rfl, hp, hrest⟩
  · cases he
    rcases readRequestsFrom_outcome _ hp with ⟨_, he, _, hiff⟩ | ⟨_, hok, _⟩
    · cases he
      exact hiff
    · cases hok
  · obtain ⟨a, ha⟩ := hf data
    rw [ha] at hrest
    cases (Path.ret_iff.mp hrest).2

theorem readChannels_error_iff {channelIds : List String} {tr : Trace} {e : Exc}
    (h : Path (HeatPumpService.readChannels config waitingTime channelIds) tr (.error e)) :
    e.isProtocolError = true ↔
      refusedLast tr = none ∧ ¬ Troubled config (marks tr) (.readChannels channelIds) := by
  rw [HeatPumpService.readChannels, HeatPumpService.prepareReadChannels] at h
  by_cases hunknown : ∃ channelId ∈ channelIds, config.channel channelId = none
  · have hne : channelIds.filter (fun channelId => (config.channel channelId).isNone) ≠ [] := by
      obtain ⟨channelId, hmem, hnone⟩ := hunknown
      exact List.ne_nil_of_mem (List.mem_filter.mpr ⟨hmem, by rw [hnone]; rfl⟩)
    simp only [if_pos hne] at h
    obtain ⟨_, hr⟩ := Path.raise_iff.mp h
    cases hr
    exact iff_of_false (fun hc => by cases hc) fun hc => hc.2 (.inl hunknown)
  · have hknown : channelIds.filter (fun channelId => (config.channel channelId).isNone) = [] := by
      rw [List.filter_eq_nil_iff]
      intro channelId hmem hnone
      exact hunknown ⟨channelId, hmem, Option.isNone_iff_eq_none.mp hnone⟩
    simp only [hknown, ne_eq, not_true_eq_false, if_false] at h
    rw [Troubled, or_iff_right hunknown]
    exact sweep_error_iff (fun data => ⟨_, rfl⟩) h

theorem getVersion_error_iff {tr : Trace} {e : Exc}
    (h : Path (HeatPumpService.getVersion config waitingTime) tr (.error e)) :
    e.isProtocolError = true ↔
      refusedLast tr = none ∧ ¬ Troubled config (marks tr) .getVersion := by
  rw [HeatPumpService.getVersion, HeatPumpService.prepareGetVersion] at h
  rw [Troubled]
  cases hfind : config.requestByBytes "FD" with
  | none =>
      rw [hfind] at h
      cases (Path.ret_iff.mp h).2
  | some request =>
      rw [hfind] at h
      simp only [Option.some.injEq, exists_eq_left']
      rcases Path.bind_iff.mp h with ⟨e', he, hp⟩ | ⟨data, tr₁, tr₂, rfl, hp, hrest⟩
      · cases he
        exact (readRequest_error hp []).2
      · split at hrest <;> cases (Path.ret_iff.mp hrest).2

theorem writeChannel_error_iff {channelId : String} {value : CallerValue}
    {record : ChannelDefinition} {coerced : DecodedValue}
    (hrecord : config.channel channelId = some record) (hwritable : record.writable = true)
    (hcoerced : HeatPumpService.coerce record value = .ok coerced) {tr : Trace} {e : Exc}
    (h : Path (HeatPumpService.writeChannel config waitingTime channelId value) tr (.error e)) :
    e.isProtocolError = true ↔
      refusedLast tr = none ∧ ¬ Troubled config (marks tr) (.writeChannel channelId value) := by
  obtain ⟨r, hdata, hr⟩ := (writeChannel_path hrecord hwritable hcoerced).mp h
  obtain rfl : r = .error e := by
    cases r with
    | error e' =>
        cases hr
        rfl
    | ok data => cases hr
  rw [writeValues_error_iff hdata, Troubled, hrecord]
  simp [hcoerced]

/-- A call past its checks that fails does so with a `ProtocolError` exactly if the last
thing it asked of the link was not refused and nothing troubled it. -/
theorem fault_is_protocolError {call : ServiceCall} (hchecked : call.Checked config)
    {tr : Trace} {e : Exc} (h : Path (call.talk config waitingTime) tr (.error e)) :
    e.isProtocolError = true ↔ refusedLast tr = none ∧ ¬ Troubled config (marks tr) call := by
  cases call with
  | readChannel channelId => exact readChannel_error_iff (path_discard_error h)
  | readChannels channelIds => exact readChannels_error_iff (path_discard_error h)
  | readAll dataTypes => exact sweep_error_iff (fun data => ⟨_, rfl⟩) (path_discard_error h)
  | getVersion => exact getVersion_error_iff (path_discard_error h)
  | setTime now => exact setTime_error_iff (path_discard_error h)
  | writeChannel channelId value =>
      obtain ⟨record, coerced, hrecord, hwritable, hcoerced⟩ := hchecked
      exact writeChannel_error_iff hrecord hwritable hcoerced (path_discard_error h)

def roomTempTalk : Talk Unit := talk roomTempConfig 0 (.readChannel "p01RoomTempDay")

def roomTempWriteTalk : Talk Unit :=
  talk roomTempConfig 0 (.writeChannel "p01RoomTempDay" (.int 20))

/-- To a write the device says nothing at all, and nothing else is wrong. -/
theorem fault_is_protocolError_silent :
    refusedLast (trace scripted roomTempWriteTalk []) = none ∧
      ¬ Troubled roomTempConfig (marks (trace scripted roomTempWriteTalk []))
        (.writeChannel "p01RoomTempDay" (.int 20)) := by
  have hchecked : Checked roomTempConfig (.writeChannel "p01RoomTempDay" (.int 20)) :=
    ⟨roomTempDay, .float (.finite 20), by decide +kernel⟩
  have hrun : (run scripted roomTempWriteTalk []).1 = .error (.protocolError
      "Heat pump communication could not be established! No data available!") := by
    decide +kernel
  exact (fault_is_protocolError hchecked (path_of_run scripted hrun)).mp rfl

theorem closedRead_path :
    Path roomTempTalk (trace closedPort roomTempTalk ())
      (.error (.runtimeError "serial port is not open")) :=
  path_of_run closedPort (by decide +kernel)

/-- A closed port escapes from a read as a `RuntimeError`, and a short reply from a
write as an `IndexError`. -/
theorem faults_escape :
    (∃ tr e, Path roomTempTalk tr (.error e) ∧ e.isProtocolError = false) ∧
      ∃ tr e, Path roomTempWriteTalk tr (.error e) ∧
        e = .indexError "bytearray index out of range" ∧ e.isProtocolError = false := by
  refine ⟨⟨_, _, closedRead_path, rfl⟩, ?_⟩
  have hrun : (run scripted roomTempWriteTalk shortReplyScript).1
      = .error (.indexError "bytearray index out of range") := by
    decide +kernel
  exact ⟨_, _, path_of_run scripted hrun, rfl, rfl⟩

end ServiceCall

end HeatpumpGateway
