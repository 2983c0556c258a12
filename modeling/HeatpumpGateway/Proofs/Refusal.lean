import HeatpumpGateway.Proofs.Coercion
import HeatpumpGateway.Proofs.Faults

/-!
# What a refused write says

`WriteNotConfirmed` tells the caller that the link works and that the device would not
have the value. It is raised wherever the reply to the SET frame has a wrong header, and a
conversation that broke off leaves an empty reply, which has one.

The file says for every write what was exchanged when it is raised.
-/

namespace HeatpumpGateway
open CommunicationService Dialogue Fallible

/-- `isinstance(exc, WriteNotConfirmed)`. -/
def Exc.isWriteNotConfirmed : Exc → Bool
  | .writeNotConfirmed .. => true
  | _ => false

section verdicts
variable {α : Type}

def Refusal (r : Except Exc α) : Prop := ∃ e, r = .error e ∧ e.isWriteNotConfirmed = true

/-- A `ProtocolError` that does not blame the device. -/
def PlainFailure (r : Except Exc α) : Prop :=
  ∃ e, r = .error e ∧ e.isProtocolError = true ∧ e.isWriteNotConfirmed = false

theorem refusal_error {e : Exc} :
    Refusal (.error e : Except Exc α) ↔ e.isWriteNotConfirmed = true := by
  simp [Refusal]

theorem plainFailure_error {e : Exc} :
    PlainFailure (.error e : Except Exc α) ↔
      e.isProtocolError = true ∧ e.isWriteNotConfirmed = false := by
  simp [PlainFailure]

theorem not_refusal_ok {a : α} : ¬ Refusal (.ok a : Except Exc α) := by
  simp [Refusal]

theorem not_plainFailure_ok {a : α} : ¬ PlainFailure (.ok a : Except Exc α) := by
  simp [PlainFailure]

end verdicts

/-! ## The exchange of a SET frame -/

def isSet (ev : Exchange) : Bool :=
  match markOf ev with
  | some (.setData _) => true
  | _ => false

/-- What is exchanged from the call of `set_data` on. -/
def fromSet (tr : Trace) : Trace := tr.dropWhile fun ev => !isSet ev

/-- Enough bytes for `_receive_data` to look for a footer, with one at their end. -/
def WholeFrame (bytes : Bytes) : Prop := 4 < bytes.length ∧ isFrameEnd bytes bytes.length = true

instance (bytes : Bytes) : Decidable (WholeFrame bytes) := inferInstanceAs (Decidable (_ ∧ _))

/-- The SET frame was transmitted, the device signalled for it, and a reply came. -/
def Refused (tr : Trace) : Prop :=
  ∃ message, .setData message ∈ marks tr ∧ sent message ∈ fromSet tr ∧
    AckedOnSignal message (fromSet tr) ∧ WholeFrame (sinceAck (fromSet tr))

/-- The read before the write came to nothing, or the SET frame's handshake failed, its
request went unanswered, or silence followed. -/
def Broken (tr : Trace) : Prop :=
  (∃ message, marks tr = [.getData message]) ∨ .gotData [] ∈ marks tr ∨
    ((∃ message, .setData message ∈ marks tr) ∧
      (sinceAck (fromSet tr) = [] ∨ MAX_RETRY < answeredStarts (fromSet tr)))

/-- The bytes behind the final acknowledge fit in the buffer and have a wrong header, while
the register's old value can be decoded: a refusal, though none was received. -/
def BlamesDevice (record : ChannelDefinition) (reply message : Bytes) (tr : Trace) : Prop :=
  (sinceAck (fromSet tr)).length ≤ INPUT_BUFFER_LENGTH ∧
    headerCheck (fixDuplicatedBytes (sinceAck (fromSet tr))) = false ∧
    (parseRecord reply record).toOption.isSome ∧
    (Stale 0 (tries message (fromSet tr)) ∨ MAX_RETRY < answeredStarts (fromSet tr) ∨
      ¬ WholeFrame (sinceAck (fromSet tr)))

/-- No try was answered, yet a valid reply came to the acknowledge that was sent all the
same, and the new value can be decoded: the write succeeds. -/
def IgnoresSilence (record : ChannelDefinition) (frame : Bytes) (tr : Trace) : Prop :=
  (sinceAck (fromSet tr)).length ≤ INPUT_BUFFER_LENGTH ∧
    headerCheck (fixDuplicatedBytes (sinceAck (fromSet tr))) = true ∧
    (parseRecord frame record).toOption.isSome ∧ MAX_RETRY < answeredStarts (fromSet tr)

/-- What goes wrong: the transport refuses a write of the read before, or the end of the
SET frame's exchange is misread. -/
def Misjudged (record : ChannelDefinition) (v : DecodedValue) (tr : Trace) : Prop :=
  ((∃ message, marks tr = [.getData message]) ∧ refusedLast tr ≠ none) ∨
    ∃ reply frame, .gotData reply ∈ marks tr ∧ composeRecord v reply record = .ok frame ∧
      .setData (addDuplicatedBytes frame) ∈ marks tr ∧
      (BlamesDevice record reply (addDuplicatedBytes frame) tr ∨
        IgnoresSilence record frame tr)

theorem composed_long {v : DecodedValue} {record : ChannelDefinition} {reply frame : Bytes}
    (h : composeRecord v reply record = .ok frame) : 1 < (addDuplicatedBytes frame).length := by
  obtain ⟨⟨hlen, _⟩, _⟩ := composeRecord_ok_iff.mp h
  have hframe : frame.length = reply.length := composeRecord_length h
  rw [addDuplicatedBytes, List.length_append, List.length_append, List.length_take]
  omega

/-! ## The verdict -/

theorem not_refusal_of_not_protocolError {e : Exc} (h : e.isProtocolError = false) :
    e.isWriteNotConfirmed = false := by
  cases e with
  | writeNotConfirmed ids reason unchanged => cases h
  | _ => rfl

theorem composeRecord_not_refusal {v : DecodedValue} {frame : Bytes}
    {record : ChannelDefinition} {e : Exc} (h : composeRecord v frame record = .error e) :
    e.isWriteNotConfirmed = false := by
  rw [composeRecord_def] at h
  rcases bind_eq_error.mp h with hset | ⟨_, _, hrest⟩
  · exact not_refusal_of_not_protocolError (setItem_not_protocolError hset)
  rcases bind_eq_error.mp hrest with hfield | ⟨_, _, hrest⟩
  · exact not_refusal_of_not_protocolError (fieldWritten_error hfield)
  rcases bind_eq_error.mp hrest with hsum | ⟨_, _, hset⟩
  · rw [calculateChecksum] at hsum
    split at hsum
    · cases hsum
      rfl
    · cases hsum
  · exact not_refusal_of_not_protocolError (setItem_not_protocolError hset)

theorem coerce_not_refusal {record : ChannelDefinition} {value : CallerValue} {e : Exc}
    (h : HeatPumpService.coerce record value = .error e) : e.isWriteNotConfirmed = false := by
  cases hvalue : e.isValueError with
  | false =>
      obtain ⟨text, hraised⟩ := ((coerce_error h).mp hvalue).raises
      rw [h] at hraised
      cases hraised
      rfl
  | true =>
      cases e with
      | writeNotConfirmed ids reason unchanged => cases hvalue
      | _ => rfl

theorem FromLink.not_refusal {e : Exc} (h : FromLink e) : e.isWriteNotConfirmed = false := by
  rcases h with ⟨text, rfl⟩ | ⟨l, rfl⟩
  · rfl
  · cases l <;> rfl

section set
variable {waitingTime : Nat} {v : DecodedValue} {record : ChannelDefinition}
  {message reply frame : Bytes} {tr tr₁ tr₂ : Trace} {r₂ : Except Exc Bytes}
  (hread : marks tr₁ = [.getData message, .gotData reply])
  (hframe : composeRecord v reply record = .ok frame)
  (hset : Path (Connector.setData (addDuplicatedBytes frame)) tr₂ r₂)
  (htr : tr = tr₁ ++ ⟨.sleep waitingTime, ()⟩ :: tr₂)
include hread hset htr

theorem marks_of_set : marks tr = .getData message :: .gotData reply ::
    .setData (addDuplicatedBytes frame) :: (r₂.toOption.map Mark.didSet).toList := by
  rw [htr, marks_append, hread, marks_cons, setData_marks hset]
  rfl

theorem gotData_of_set {reply' : Bytes} : .gotData reply' ∈ marks tr ↔ reply' = reply := by
  rw [marks_of_set hread hset htr]
  cases r₂ <;> simp [Except.toOption]

theorem setData_of_set {message' : Bytes} :
    .setData message' ∈ marks tr ↔ message' = addDuplicatedBytes frame := by
  rw [marks_of_set hread hset htr]
  cases r₂ <;> simp [Except.toOption]

theorem fromSet_of_set : fromSet tr = tr₂ := by
  have hquiet : ∀ ev ∈ tr₁, (!isSet ev) = true := by
    intro ev hev
    rw [isSet]
    split
    · next m hm =>
        have hmem : .setData m ∈ marks tr₁ := List.mem_filterMap.mpr ⟨ev, hev, hm⟩
        rw [hread] at hmem
        simp at hmem
    · rfl
  obtain ⟨ending, rest, rfl, _⟩ := setData_conversation hset
  rw [htr, fromSet, List.dropWhile_append_of_pos hquiet]
  rfl

theorem not_single_of_set : ¬ ∃ m, marks tr = [.getData m] := by
  rw [marks_of_set hread hset htr]
  simp

theorem broken_of_set (hne : reply ≠ []) :
    Broken tr ↔ sinceAck tr₂ = [] ∨ MAX_RETRY < answeredStarts tr₂ := by
  simp [Broken, fromSet_of_set hread hset htr, not_single_of_set hread hset htr,
    gotData_of_set hread hset htr, setData_of_set hread hset htr, Ne.symm hne]

include hframe

theorem misjudged_of_set : Misjudged record v tr ↔
    BlamesDevice record reply (addDuplicatedBytes frame) tr ∨ IgnoresSilence record frame tr := by
  simp [Misjudged, not_single_of_set hread hset htr, gotData_of_set hread hset htr,
    setData_of_set hread hset htr, hframe]

theorem refused_of_set (hlen : (sinceAck tr₂).length ≤ INPUT_BUFFER_LENGTH) :
    Refused tr ↔ ¬ Stale 0 (tries (addDuplicatedBytes frame) tr₂) ∧
      answeredStarts tr₂ ≤ MAX_RETRY ∧ WholeFrame (sinceAck tr₂) := by
  have hm := composed_long hframe
  rw [Refused, fromSet_of_set hread hset htr]
  simp only [setData_of_set hread hset htr, exists_eq_left, setData_acked_iff hm hset,
    and_assoc]
  refine and_iff_right_of_imp ?_
  intro hc
  obtain ⟨_, _, hfive, _⟩ := hc
  rcases setData_heard (ne_escape_of_long hm) hset with ⟨hover, _⟩ | ⟨_, rfl⟩
  · omega
  · refine setData_written hset ?_
    rw [fixDuplicatedBytes_eq _ (by omega)]
    simp [FOOTER]

/-- What a write of one item makes of the exchange of its SET frame. -/
theorem verdict_of_set (hne : reply ≠ []) {r : Except Exc (Dict String DecodedValue)}
    (hlong : INPUT_BUFFER_LENGTH < (sinceAck tr₂).length → PlainFailure r)
    (hvalid : headerCheck (fixDuplicatedBytes (sinceAck tr₂)) = true →
      (sinceAck tr₂).length ≤ INPUT_BUFFER_LENGTH → ¬ Refusal r ∧
        (PlainFailure r ↔ ¬ (parseRecord frame record).toOption.isSome))
    (hinvalid : headerCheck (fixDuplicatedBytes (sinceAck tr₂)) = false →
      (sinceAck tr₂).length ≤ INPUT_BUFFER_LENGTH →
        (Refusal r ↔ (parseRecord reply record).toOption.isSome) ∧
        (PlainFailure r ↔ ¬ (parseRecord reply record).toOption.isSome)) :
    ((Refusal r → Refused tr) ∧ (Broken tr → PlainFailure r)) ↔ ¬ Misjudged record v tr := by
  rw [misjudged_of_set hread hframe hset htr, broken_of_set hread hset htr hne, BlamesDevice,
    IgnoresSilence, fromSet_of_set hread hset htr]
  by_cases hlen : (sinceAck tr₂).length ≤ INPUT_BUFFER_LENGTH
  · rw [refused_of_set hread hframe hset htr hlen]
    cases hheader : headerCheck (fixDuplicatedBytes (sinceAck tr₂)) with
    | true =>
        obtain ⟨hno, hplain⟩ := hvalid hheader hlen
        have hbytes : sinceAck tr₂ ≠ [] := by
          intro hc
          rw [hc] at hheader
          cases hheader
        by_cases hsome : (parseRecord frame record).toOption.isSome
        · simp [hno, hplain, hlen, hbytes, hsome]
        · simp [hno, hplain, hsome]
    | false =>
        obtain ⟨hrefusal, hplain⟩ := hinvalid hheader hlen
        rw [hrefusal, hplain]
        by_cases hsome : (parseRecord reply record).toOption.isSome
        · simp only [hsome, hlen, forall_const, not_true_eq_false, imp_false, not_or, true_and,
            Nat.not_lt, not_not, Bool.false_eq_true, false_and, and_false, not_false_eq_true,
            and_true]
          refine ⟨And.left, fun hc => ⟨hc, ?_, hc.2.1⟩⟩
          intro hnil
          obtain ⟨_, _, hwhole⟩ := hc
          rw [hnil] at hwhole
          exact absurd hwhole (by decide)
        · simp [hsome]
  · obtain ⟨e, rfl, hprotocol, hno⟩ := hlong (by omega)
    simp [hlen, refusal_error, plainFailure_error, hprotocol, hno]

end set

theorem refusal_map {α β : Type} {r : Except Exc α} {f : α → β} :
    Refusal (r.map f) ↔ Refusal r := by
  simp only [Refusal, map_eq_error]

theorem plainFailure_map {α β : Type} {r : Except Exc α} {f : α → β} :
    PlainFailure (r.map f) ↔ PlainFailure r := by
  simp only [PlainFailure, map_eq_error]

/-- A record that cannot be decoded is a plain failure. -/
theorem parseRecord_verdict {frame : Bytes} {record : ChannelDefinition} :
    ¬ Refusal (parseRecord frame record) ∧
      (PlainFailure (parseRecord frame record) ↔
        ¬ (parseRecord frame record).toOption.isSome) := by
  cases h : parseRecord frame record with
  | ok decoded => simp [not_refusal_ok, not_plainFailure_ok, Except.toOption]
  | error e =>
      obtain ⟨text, rfl⟩ := parseRecord_error h
      simp [refusal_error, plainFailure_error, Exc.isProtocolError, Exc.isWriteNotConfirmed,
        Except.toOption]

theorem WriteRun.verdict_iff {waitingTime : Nat} {v : DecodedValue} {record : ChannelDefinition}
    {message : Bytes} (hm : message ≠ []) {tr : Trace}
    {r : Except Exc (Dict String DecodedValue)}
    (h : WriteRun waitingTime [(v, record)] message tr r) :
    ((Refusal r → Refused tr) ∧ (Broken tr → PlainFailure r)) ↔ ¬ Misjudged record v tr := by
  cases h with
  | @unread _ e hread =>
      have hmarks : marks tr = [.getData message] := getData_marks hread
      rw [refusal_error, plainFailure_error, (getData_fromLink hread).not_refusal]
      simp [Misjudged, Broken, hmarks, getData_error_iff hread]
  | echoed hread =>
      have hmarks : marks tr = [.getData message, .gotData message] := getData_ok_marks hread
      simp [Misjudged, Broken, hmarks, not_refusal_ok, not_plainFailure_ok, Ne.symm hm]
  | silent text hread =>
      have hmarks : marks tr = [.getData message, .gotData []] := getData_ok_marks hread
      simp [Misjudged, hmarks, refusal_error, plainFailure_error, Exc.isProtocolError,
        Exc.isWriteNotConfirmed]
  | @unfit _ reply e hread _ hne hframe =>
      have hmarks : marks tr = [.getData message, .gotData reply] := getData_ok_marks hread
      rw [composeAll_single] at hframe
      simp [Misjudged, Broken, hmarks, refusal_error, composeRecord_not_refusal hframe,
        Ne.symm hne]
  | @unsent tr₁ tr₂ reply frame e hread _ hne hframe hset =>
      rw [composeAll_single] at hframe
      have hover := setData_heard (ne_escape_of_long (composed_long hframe)) hset
      rcases hover with ⟨hlen, text, he⟩ | ⟨_, he⟩
      · cases he
        refine verdict_of_set (getData_ok_marks hread) hframe hset rfl hne ?_ ?_ ?_
        · exact fun _ => plainFailure_error.mpr ⟨rfl, rfl⟩
        · intro _ hshort
          omega
        · intro _ hshort
          omega
      · cases he
  | @confirmed tr₁ tr₂ reply frame setReply hread _ hne hframe hset hverify =>
      rw [composeAll_single] at hframe
      obtain ⟨hlen, rfl⟩ := setData_ended (ne_escape_of_long (composed_long hframe)) hset
      refine verdict_of_set (getData_ok_marks hread) hframe hset rfl hne ?_ ?_ ?_
      · intro hlong
        omega
      · intro _ _
        rw [decodeAll_single, refusal_map, plainFailure_map]
        exact parseRecord_verdict
      · intro hinvalid
        rw [headerCheck, hverify] at hinvalid
        cases hinvalid
  | @refused tr₁ tr₂ reply frame setReply exc ids hread _ hne hframe hset hverify =>
      rw [composeAll_single] at hframe
      obtain ⟨hlen, rfl⟩ := setData_ended (ne_escape_of_long (composed_long hframe)) hset
      refine verdict_of_set (getData_ok_marks hread) hframe hset rfl hne ?_ ?_ ?_
      · intro hlong
        omega
      · intro hvalid
        rw [headerCheck, hverify] at hvalid
        cases hvalid
      · intro _ _
        rw [decodeAll_single]
        cases hold : parseRecord reply record with
        | ok decoded =>
            simp [Except.map, refusal_error, plainFailure_error, Exc.isWriteNotConfirmed,
              Except.toOption]
        | error e =>
            obtain ⟨text, rfl⟩ := parseRecord_error hold
            simp [Except.map, refusal_error, plainFailure_error, Exc.isProtocolError,
              Exc.isWriteNotConfirmed, Except.toOption]

/-- A write raises `WriteNotConfirmed` only where the device refused it, and something else
where a handshake broke off, unless its last exchange is misjudged. -/
theorem refused_by_device_iff {config : HeatPumpConfig} {waitingTime : Nat} {channelId : String}
    {value : CallerValue} {tr : Trace} {r : Except Exc ChannelValue}
    (h : Path (HeatPumpService.writeChannel config waitingTime channelId value) tr r) :
    ((Refusal r → Refused tr) ∧ (Broken tr → PlainFailure r)) ↔
      ¬ ∃ record v, config.channel channelId = some record ∧
        HeatPumpService.coerce record value = .ok v ∧ Misjudged record v tr := by
  have unasked : ∀ {e : Exc}, e.isWriteNotConfirmed = false →
      ((Refusal (.error e : Except Exc ChannelValue) → Refused []) ∧
        (Broken [] → PlainFailure (.error e : Except Exc ChannelValue))) ∧
      ¬ ∃ record v, config.channel channelId = some record ∧
        HeatPumpService.coerce record value = .ok v ∧ Misjudged record v [] := by
    intro e he
    simp [refusal_error, he, Broken, Misjudged]
  rcases writeChannel_cases h with
    ⟨record, v, hrecord, hwritable, hv⟩ | ⟨rfl, e, rfl, hcause⟩
  · have hmisjudged : (∃ record v, config.channel channelId = some record ∧
        HeatPumpService.coerce record value = .ok v ∧ Misjudged record v tr) ↔
          Misjudged record v tr := by
      simp [hrecord, hv]
    obtain ⟨r', hp, rfl⟩ := (writeChannel_path hrecord hwritable hv).mp h
    cases hcommand : fromHex record.requestByte with
    | error e =>
        obtain ⟨rfl, rfl⟩ := writeValues_unhex hcommand hp
        obtain ⟨why, rfl⟩ := fromHex_error hcommand
        have hno : (Exc.valueError why).isWriteNotConfirmed = false := rfl
        exact iff_of_true (unasked hno).1 (unasked hno).2
    | ok command =>
        rw [hmisjudged, refusal_map, plainFailure_map]
        refine (writeValues_path hcommand hp).verdict_iff ?_
        rw [createRequestMessage_eq]
        simp [bareFrame, frameWith, addDuplicatedBytes]
  · have hno : e.isWriteNotConfirmed = false := by
      rcases hcause with rfl | rfl | ⟨record, hraised⟩
      · rfl
      · rfl
      · exact coerce_not_refusal hraised
    exact iff_of_true (unasked hno).1 (unasked hno).2

/-- The register is read, and then the device answers nothing more. -/
def hangUpScript : List (Option UInt8) :=
  [0x10, 0x10, 0x02, 0x01, 0x00, 0xE3, 0x0B, 0x00, 0x05, 0x00, 0xD2, 0x10, 0x03].map some

theorem refused_by_device_roomTemp :
    ((Refusal (run scripted roomTempCall hangUpScript).1 →
          Refused (trace scripted roomTempCall hangUpScript)) ∧
        (Broken (trace scripted roomTempCall hangUpScript) →
          PlainFailure (run scripted roomTempCall hangUpScript).1)) ↔
      ¬ ∃ record v, roomTempConfig.channel "p01RoomTempDay" = some record ∧
        HeatPumpService.coerce record (.int 20) = .ok v ∧
        Misjudged record v (trace scripted roomTempCall hangUpScript) :=
  refused_by_device_iff (path_run scripted roomTempCall hangUpScript)

/-- The start before the SET frame is not answered, the frame is never sent, and the device
is said to have refused it. -/
theorem refused_before_sent :
    ∃ tr r, Path roomTempCall tr r ∧
      (∃ unchanged, r = .error (.writeNotConfirmed "p01RoomTempDay"
        "invalid response length: " unchanged)) ∧
      (∀ message, .setData message ∈ marks tr → sent message ∉ tr) ∧
      ¬ Refused tr ∧ Broken tr ∧ ¬ PlainFailure r := by
  have hrun : (run scripted roomTempCall hangUpScript).1
      = .error (.writeNotConfirmed "p01RoomTempDay" "invalid response length: "
        [("p01RoomTempDay", .float (.finite 21))]) := by
    decide +kernel
  have hmarks : marks (trace scripted roomTempCall hangUpScript)
      = [.getData [0x01, 0x00, 0x11, 0x0B, 0x00, 0x05, 0x10, 0x03],
        .gotData [0x01, 0x00, 0xE3, 0x0B, 0x00, 0x05, 0x00, 0xD2, 0x10, 0x03],
        .setData [0x01, 0x80, 0x59, 0x0B, 0x00, 0x05, 0x00, 0xC8, 0x10, 0x03],
        .didSet []] := by
    decide +kernel
  have hunsent : ∀ message, .setData message ∈ marks (trace scripted roomTempCall hangUpScript) →
      sent message ∉ trace scripted roomTempCall hangUpScript := by
    intro message hmem
    obtain rfl : message = [0x01, 0x80, 0x59, 0x0B, 0x00, 0x05, 0x00, 0xC8, 0x10, 0x03] := by
      rw [hmarks] at hmem
      simpa using hmem
    decide +kernel
  refine ⟨_, _, path_of_run scripted hrun, ⟨_, rfl⟩, hunsent, ?_, ?_, ?_⟩
  · intro hc
    obtain ⟨message, hmem, hsent, _⟩ := hc
    exact hunsent message hmem (List.dropWhile_subset _ hsent)
  · refine .inr (.inr ⟨?_, .inl ?_⟩)
    · rw [hmarks]
      simp
    · decide +kernel
  · rw [plainFailure_error]
    simp [Exc.isWriteNotConfirmed]

end HeatpumpGateway
