import HeatpumpGateway.Proofs.Acknowledge
import HeatpumpGateway.Proofs.Faults

/-!
# Whether the clock was set

`set_time` writes the clock field by field where there are registers for it, and in one
frame where there are none. Then it reads the clock back, and the values it wrote go over
the values it read.

The file says of every entry of its result where it comes from, and when all the writes
were confirmed.
-/

namespace HeatpumpGateway
open CommunicationService Dialogue Fallible

/-- One read-modify-write of the clock: the command of its register, and the values. -/
structure ClockWrite where
  command : Except Exc Bytes
  items : List (DecodedValue × ChannelDefinition)

/-- The write of a clock field that has a register of its own. -/
def registerWrite (item : DecodedValue × ChannelDefinition) : ClockWrite :=
  ⟨fromHex item.2.requestByte, [item]⟩

/-- The writes a call is to make. -/
def clockWrites (config : HeatPumpConfig) (now : DateTime) : List ClockWrite :=
  if HeatPumpService.clockRecords config ≠ [] then
    (timeItems (HeatPumpService.clockRecords config) now).map registerWrite
  else
    match config.requestByBytes "FC" with
    | some request => [⟨request.requestBytes, timeFrameItems request now⟩]
    | none => []

/-- The writes were made one after the other: each register was read, the values were
composed into its reply, the frame that came of it carries them and was transmitted, and the
device's reply to that has a right header. -/
def CarriedInTurn (tr : Trace) : List ClockWrite → List Mark → Prop
  | [], _ => True
  | w :: ws, ms => ∃ command reply frame setReply rest, w.command = .ok command ∧
      ms = .getData (createRequestMessage command GET) :: .gotData reply ::
        .setData (addDuplicatedBytes frame) :: .didSet setReply :: rest ∧
      composeAll w.items reply = .ok frame ∧
      (∀ item ∈ w.items, CarriesValue frame item.2 item.1) ∧
      sent (addDuplicatedBytes frame) ∈ tr ∧ verifyHeader setReply = .ok () ∧
      CarriedInTurn tr ws rest

/-- The write has a field of that name, and its confirmed frame says so of all of them. -/
def Shown (w : ClockWrite) (ms : List Mark) (channelId : String) (v : DecodedValue) : Prop :=
  (∃ item ∈ w.items, item.2.channelId = channelId) ∧ ∃ reply frame setReply,
    [.gotData reply, .setData (addDuplicatedBytes frame), .didSet setReply] <:+: ms ∧
    composeAll w.items reply = .ok frame ∧ verifyHeader setReply = .ok () ∧
    ∀ item ∈ w.items, item.2.channelId = channelId → parseRecord frame item.2 = .ok v

/-- The last reply of the call says so. -/
def ReadBack (config : HeatPumpConfig) (tr : Trace) (channelId : String)
    (v : DecodedValue) : Prop :=
  ∃ request command reply data, config.requestByBytes "FC" = some request ∧
    request.requestBytes = .ok command ∧
    [.getData (createRequestMessage command GET), .gotData reply] <:+ marks tr ∧
    headerCheck reply = true ∧ parseRecords reply request.records none = .ok data ∧
    data.get? channelId = some v

/-- Every write was carried and confirmed. What the call reports of a field that was to be
written is what the confirmed frame says; the other fields were read back. -/
structure ClockSet (config : HeatPumpConfig) (now : DateTime) (tr : Trace)
    (result : Dict String Reported) : Prop where
  performed : CarriedInTurn tr (clockWrites config now) (marks tr)
  reported : ∀ channelId v, result.get? channelId = some (.value v) →
    (∃ w ∈ clockWrites config now, Shown w (marks tr) channelId v) ∨
      ((∀ w ∈ clockWrites config now, ∀ item ∈ w.items, item.2.channelId ≠ channelId) ∧
        ReadBack config tr channelId v)

/-- A register answers the read with the request itself, or with a frame in which the value
does not come to lie. -/
def RegistersSpoilt : List (DecodedValue × ChannelDefinition) → List Mark → Prop
  | [], _ => False
  | item :: items, ms => ∃ message reply rest, ms = .getData message :: .gotData reply :: rest ∧
      (reply = message ∨ ¬ Lodged item.1 reply item.2 ∨ RegistersSpoilt items (rest.drop 2))

/-- The clock frame could not be read, what was composed from it does not say what was to be
written, or the device did not confirm it. -/
def FrameSpoilt (request : Request) (items : List (DecodedValue × ChannelDefinition))
    (ms : List Mark) : Prop :=
  ∃ command reply, request.requestBytes = .ok command ∧
    [.getData (createRequestMessage command GET), .gotData reply] <+: ms ∧
    (headerCheck reply = false ∨
      (∃ frame, composeAll items reply = .ok frame ∧ ∃ item ∈ items,
        ¬ (CarriesValue frame item.2 item.1 ∧ parseRecord frame item.2 = .ok item.1)) ∨
      ∃ message setReply, [.getData (createRequestMessage command GET), .gotData reply,
        .setData message, .didSet setReply] <+: ms ∧ headerCheck setReply = false)

/-- The registers of the clock, or where there are none its frame, do not take the time. -/
def Spoilt (config : HeatPumpConfig) (now : DateTime) (ms : List Mark) : Prop :=
  if HeatPumpService.clockRecords config ≠ [] then
    RegistersSpoilt (timeItems (HeatPumpService.clockRecords config) now) ms
  else ∃ request, config.requestByBytes "FC" = some request ∧
    FrameSpoilt request (timeFrameItems request now) ms

theorem Shown.mono {w : ClockWrite} {ms ms' : List Mark} {channelId : String} {v : DecodedValue}
    (h : Shown w ms channelId v) (hle : ms <:+: ms') : Shown w ms' channelId v := by
  obtain ⟨hitem, reply, frame, setReply, hmarks, hrest⟩ := h
  exact ⟨hitem, reply, frame, setReply, hmarks.trans hle, hrest⟩

/-! ## Registers -/

/-- No frame is set before something is read. -/
def NoSet (ms : List Mark) : Prop := ∀ message, ms.head? ≠ some (.setData message)

theorem registersSpoilt_cons {item : DecodedValue × ChannelDefinition}
    {items : List (DecodedValue × ChannelDefinition)} {message reply : Bytes} {rest : List Mark} :
    RegistersSpoilt (item :: items) (.getData message :: .gotData reply :: rest) ↔
      reply = message ∨ ¬ Lodged item.1 reply item.2 ∨ RegistersSpoilt items (rest.drop 2) := by
  rw [RegistersSpoilt]
  refine ⟨?_, fun hwhy => ⟨_, _, _, rfl, hwhy⟩⟩
  rintro ⟨message', reply', rest', hms, hwhy⟩
  simp only [List.cons.injEq, Mark.getData.injEq, Mark.gotData.injEq] at hms
  obtain ⟨rfl, rfl, rfl⟩ := hms
  exact hwhy

/-- A confirmed write is carried where its frame carries its values. -/
theorem carriedInTurn_cons {w : ClockWrite} {ws : List ClockWrite} {tr : Trace}
    {command reply frame setReply : Bytes} {rest : List Mark} (hcommand : w.command = .ok command)
    (hframe : composeAll w.items reply = .ok frame)
    (hsent : sent (addDuplicatedBytes frame) ∈ tr) (hverify : verifyHeader setReply = .ok ()) :
    CarriedInTurn tr (w :: ws) (.getData (createRequestMessage command GET) :: .gotData reply ::
        .setData (addDuplicatedBytes frame) :: .didSet setReply :: rest) ↔
      (∀ item ∈ w.items, CarriesValue frame item.2 item.1) ∧ CarriedInTurn tr ws rest := by
  rw [CarriedInTurn]
  refine ⟨?_, ?_⟩
  · rintro ⟨_, reply', frame', _, rest', _, hms, hframe', hvalues, _, _, hlater⟩
    simp only [List.cons.injEq, Mark.gotData.injEq] at hms
    obtain ⟨_, rfl, _, _, rfl⟩ := hms
    rw [hframe] at hframe'
    cases hframe'
    exact ⟨hvalues, hlater⟩
  · rintro ⟨hvalues, hlater⟩
    exact ⟨command, reply, frame, setReply, rest, hcommand, rfl, hframe, hvalues, hsent, hverify,
      hlater⟩

/-- What the writes of some fields come to: they were made in turn unless one is spoilt, and
then the result has them all, as their frames say. -/
structure WritesTold (whole : Trace) (items : List (DecodedValue × ChannelDefinition))
    (ms rest : List Mark) (written written' : Dict String DecodedValue) : Prop where
  noSet : NoSet (ms ++ rest)
  turns : CarriedInTurn whole (items.map registerWrite) (ms ++ rest) ↔
    ¬ RegistersSpoilt items (ms ++ rest)
  keys : ¬ RegistersSpoilt items (ms ++ rest) → ∀ channelId,
    (channelId ∈ written.keys ∨ ∃ item ∈ items, item.2.channelId = channelId) →
      channelId ∈ written'.keys
  values : ¬ RegistersSpoilt items (ms ++ rest) → ∀ channelId v,
    (channelId, v) ∈ written' → (channelId, v) ∈ written ∨
      ∃ item ∈ items, Shown (registerWrite item) ms channelId v

section told
variable {whole : Trace} {items : List (DecodedValue × ChannelDefinition)} {ms rest : List Mark}
  {written written' : Dict String DecodedValue} {value : DecodedValue}
  {record : ChannelDefinition} {command : Bytes}

theorem WritesTold.skipped
    (h : WritesTold whole items ms rest written written') :
    WritesTold whole ((value, record) :: items)
      (.getData (createRequestMessage command GET) ::
        .gotData (createRequestMessage command GET) :: ms) rest written written' := by
  have hspoilt : RegistersSpoilt ((value, record) :: items)
      (.getData (createRequestMessage command GET) ::
        .gotData (createRequestMessage command GET) :: (ms ++ rest)) :=
    registersSpoilt_cons.mpr (.inl rfl)
  refine ⟨by simp [NoSet], iff_of_false ?_ (not_not.mpr hspoilt), fun hc => absurd hspoilt hc,
    fun hc => absurd hspoilt hc⟩
  rintro ⟨_, _, frame, _, _, _, hms, _⟩
  simp only [List.cons_append, List.cons.injEq] at hms
  refine h.noSet (addDuplicatedBytes frame) ?_
  rw [hms.2.2]
  rfl

theorem WritesTold.confirmed {reply frame setReply : Bytes} {decoded : DecodedValue}
    (hcommand : fromHex record.requestByte = .ok command)
    (hecho : reply ≠ createRequestMessage command GET)
    (hframe : composeRecord value reply record = .ok frame)
    (hdecoded : parseRecord frame record = .ok decoded)
    (hsent : sent (addDuplicatedBytes frame) ∈ whole) (hverify : verifyHeader setReply = .ok ())
    (h : WritesTold whole items ms rest (written.update [(record.channelId, decoded)]) written') :
    WritesTold whole ((value, record) :: items)
      (.getData (createRequestMessage command GET) :: .gotData reply ::
        .setData (addDuplicatedBytes frame) :: .didSet setReply :: ms) rest written written' := by
  have hcompose : composeAll [(value, record)] reply = .ok frame := composeAll_single.trans hframe
  have hspoilt : RegistersSpoilt ((value, record) :: items)
      (.getData (createRequestMessage command GET) :: .gotData reply ::
        .setData (addDuplicatedBytes frame) :: .didSet setReply :: (ms ++ rest)) ↔
      ¬ Lodged value reply record ∨ RegistersSpoilt items (ms ++ rest) :=
    registersSpoilt_cons.trans (or_iff_right hecho)
  have hlater : ¬ RegistersSpoilt ((value, record) :: items)
      (.getData (createRequestMessage command GET) :: .gotData reply ::
        .setData (addDuplicatedBytes frame) :: .didSet setReply :: (ms ++ rest)) →
      ¬ RegistersSpoilt items (ms ++ rest) := fun hgood hc => hgood (hspoilt.mpr (.inr hc))
  refine ⟨by simp [NoSet], ?_, ?_, ?_⟩
  · have hturn := @carriedInTurn_cons (registerWrite (value, record)) (items.map registerWrite)
      whole command reply frame setReply (ms ++ rest) hcommand hcompose hsent hverify
    refine hturn.trans ?_
    simp only [List.cons_append]
    rw [hspoilt, not_or, not_not, h.turns, ← carries_iff_lodged hframe hdecoded]
    simp [registerWrite]
  · rintro hgood channelId (hold | ⟨item, hitem, hid⟩)
    · exact h.keys (hlater hgood) _ (.inl ((Dict.mem_keys_update _).mpr (.inl hold)))
    · rcases List.mem_cons.mp hitem with rfl | hitem
      · exact h.keys (hlater hgood) _
          (.inl ((Dict.mem_keys_update _).mpr (.inr (by simp [← hid]))))
      · exact h.keys (hlater hgood) _ (.inr ⟨item, hitem, hid⟩)
  · intro hgood channelId v hv
    rcases h.values (hlater hgood) channelId v hv with hold | ⟨item, hitem, hshown⟩
    · rcases Dict.mem_of_mem_update _ hold with hmem | hold
      · cases List.mem_singleton.mp hmem
        refine .inr ⟨_, List.mem_cons_self, ⟨_, List.mem_cons_self, rfl⟩, reply, frame, setReply,
          ⟨[.getData _], ms, rfl⟩, hcompose, hverify, ?_⟩
        intro item hitem _
        rw [List.mem_singleton.mp hitem]
        exact hdecoded
      · exact .inl hold
    · have hms : ms <:+: .getData (createRequestMessage command GET) :: .gotData reply ::
          .setData (addDuplicatedBytes frame) :: .didSet setReply :: ms :=
        (List.suffix_append [_, _, _, _] ms).isInfix
      exact .inr ⟨item, List.mem_cons_of_mem _ hitem, hshown.mono hms⟩

end told

theorem setTimeViaRegisters_returned {waitingTime : Nat}
    {clockRecords : Dict String ChannelDefinition} {values : Dict String DecodedValue}
    {whole : Trace} {rest : List Mark} (hrest : NoSet rest) (fields : List String) :
    ∀ {written written' : Dict String DecodedValue} {tr : Trace},
    Path (setTimeViaRegisters waitingTime clockRecords values fields written) tr (.ok written') →
    tr ⊆ whole → WritesTold whole (registerItems clockRecords values fields) (marks tr) rest
      written written' := by
  induction fields with
  | nil =>
      intro written written' tr h _
      obtain ⟨rfl, hr⟩ := Path.ret_iff.mp h
      cases hr
      refine ⟨hrest, iff_of_true trivial id, fun _ => ?_, fun _ _ _ hv => .inl hv⟩
      rintro channelId (hmem | ⟨item, hitem, _⟩)
      · exact hmem
      · cases hitem
  | cons field fields ih =>
      intro written written' tr h hsub
      rw [registerItems, List.filterMap_cons]
      rw [setTimeViaRegisters] at h
      cases hrecord : clockRecords.get? field with
      | none =>
          rw [hrecord] at h
          exact ih h hsub
      | some record =>
          cases hvalue : values.get? field with
          | none =>
              rw [hrecord, hvalue] at h
              exact ih h hsub
          | some value =>
              rw [hrecord, hvalue] at h
              obtain ⟨result, tr₁, tr₂, rfl, hwrite, hnext⟩ := Path.bind_ok h
              obtain ⟨tr₃, rfl, hlater⟩ := path_sleep.mp hnext
              have hsub₁ : tr₁ ⊆ whole := fun ev hev => hsub (List.mem_append_left _ hev)
              have htold := ih hlater fun ev hev =>
                hsub (List.mem_append_right _ (List.mem_cons_of_mem _ hev))
              have hmarks : marks (tr₁ ++ ⟨.sleep waitingTime, ()⟩ :: tr₃)
                  = marks tr₁ ++ marks tr₃ := by
                rw [marks_append, marks_cons]
                rfl
              rw [hmarks]
              obtain ⟨command, hcommand, ⟨rfl, hskip⟩ | ⟨reply, frame, setReply, decoded, hecho,
                hmarks₁, hframe, hdecoded, hsent, hverify, rfl⟩⟩ := writeValues_returned hwrite
              · rw [hskip]
                exact htold.skipped
              · rw [hmarks₁]
                exact .confirmed hcommand hecho hframe hdecoded (hsub₁ hsent) hverify htold

/-! ## The clock frame -/

/-- Reading a register and going on with its reply. -/
theorem readRegister_ok {request : Request} {β : Type} {f : Bytes → Talk β} {tr : Trace} {b : β}
    (h : Path (do
      let command ← Dialogue.ofExcept request.requestBytes
      let response ← Connector.getData (createRequestMessage command GET)
      f response) tr (.ok b)) :
    ∃ command reply tr₁ tr₂, request.requestBytes = .ok command ∧ tr = tr₁ ++ tr₂ ∧
      marks tr₁ = [.getData (createRequestMessage command GET), .gotData reply] ∧
      Path (f reply) tr₂ (.ok b) := by
  cases hcommand : request.requestBytes with
  | error e =>
      rw [hcommand] at h
      cases (Path.raise_iff.mp h).2
  | ok command =>
      rw [hcommand, ofExcept_ok, ret_bind] at h
      obtain ⟨reply, tr₁, tr₂, htr, hread, hrest⟩ := Path.bind_ok h
      exact ⟨command, reply, tr₁, tr₂, rfl, htr, getData_ok_marks hread, hrest⟩

/-- The frame's write that returns: the frame was not read, or it was sent. -/
theorem setTimeViaFrame_returned {waitingTime : Nat} {request : Request}
    {values : Dict String DecodedValue} {tr : Trace} {written : Dict String DecodedValue}
    (h : Path (setTimeViaFrame waitingTime request values) tr (.ok written)) :
    ∃ command reply, request.requestBytes = .ok command ∧
      ((headerCheck reply = false ∧ written = [] ∧
          marks tr = [.getData (createRequestMessage command GET), .gotData reply]) ∨
        ∃ frame setReply, headerCheck reply = true ∧
          composeAll (clockItems request.records values) reply = .ok frame ∧
          marks tr = [.getData (createRequestMessage command GET), .gotData reply,
            .setData (addDuplicatedBytes frame), .didSet setReply] ∧
          (setReply ≠ [] → sent (addDuplicatedBytes frame) ∈ tr) ∧
          written = Dict.ofPairs ((clockItems request.records values).map fun item =>
            (item.2.channelId, item.1))) := by
  rw [setTimeViaFrame] at h
  obtain ⟨command, reply, tr₁, tr₂, hcommand, rfl, hread, hrest⟩ := readRegister_ok h
  refine ⟨command, reply, hcommand, ?_⟩
  split at hrest
  · next hcheck =>
      obtain ⟨rfl, hr⟩ := Path.ret_iff.mp hrest
      cases hr
      refine .inl ⟨by simpa using hcheck, rfl, ?_⟩
      rw [List.append_nil]
      exact hread
  · next hcheck =>
      simp only [] at hrest
      cases hframe : composeAll (clockItems request.records values) reply with
      | error e =>
          rw [hframe] at hrest
          cases (Path.raise_iff.mp hrest).2
      | ok frame =>
          rw [hframe] at hrest
          simp only [ofExcept_ok, ret_bind] at hrest
          obtain ⟨tr₃, rfl, hlater⟩ := path_sleep.mp hrest
          obtain ⟨setReply, tr₄, tr₅, rfl, hset, hlast⟩ := Path.bind_ok hlater
          obtain ⟨tr₆, rfl, hret⟩ := path_sleep.mp hlast
          obtain ⟨rfl, hr⟩ := Path.ret_iff.mp hret
          cases hr
          refine .inr ⟨frame, setReply, by simpa using hcheck, rfl, ?_, ?_, rfl⟩
          · simp [hread, setData_ok_marks hset, markOf]
          · intro hne
            have hsent : sent (addDuplicatedBytes frame) ∈ tr₄ := setData_written hset hne
            simp [hsent]

/-! ## Reading back -/

theorem readClock_returned {readRequest : Option Request} {tr : Trace}
    {data : Dict String DecodedValue} (h : Path (readClock readRequest) tr (.ok data)) :
    (readRequest = none ∧ tr = [] ∧ data = []) ∨
      ∃ request command reply, readRequest = some request ∧
        request.requestBytes = .ok command ∧
        marks tr = [.getData (createRequestMessage command GET), .gotData reply] ∧
        (data = [] ∨ headerCheck reply = true ∧
          parseRecords reply request.records none = .ok data) := by
  cases readRequest with
  | none =>
      obtain ⟨rfl, hr⟩ := Path.ret_iff.mp h
      cases hr
      exact .inl ⟨rfl, rfl, rfl⟩
  | some request =>
      rw [readClock] at h
      obtain ⟨command, reply, tr₁, tr₂, hcommand, rfl, hread, hrest⟩ := readRegister_ok h
      refine .inr ⟨request, command, reply, rfl, hcommand, ?_⟩
      split at hrest
      · next hcheck =>
          obtain ⟨rfl, hr⟩ := Path.ofExcept_iff.mp hrest
          rw [List.append_nil]
          exact ⟨hread, .inr ⟨hcheck, hr.symm⟩⟩
      · obtain ⟨rfl, hr⟩ := Path.ret_iff.mp hrest
        cases hr
        rw [List.append_nil]
        exact ⟨hread, .inl rfl⟩

/-- What a call returns: the values written over those read back, and the time. -/
def report (now : DateTime) (data written : Dict String DecodedValue) : Dict String Reported :=
  Dict.set ((data.update written).map fun kv => (kv.1, .value kv.2)) "lastUpdate"
    (.text now.stamp)

section calls
variable {config : HeatPumpConfig} {waitingTime : Nat} {now : DateTime} {tr : Trace}
  {written data : Dict String DecodedValue} {channelId : String} {v : DecodedValue}

/-- An entry that is a value was written, or read back and not written. -/
theorem report_cases (h : (report now data written).get? channelId = some (.value v)) :
    (channelId, v) ∈ written ∨ (channelId ∉ written.keys ∧ data.get? channelId = some v) := by
  rw [report, Dict.get?_set] at h
  split at h
  · cases h
  · rw [Dict.get?_map] at h
    obtain ⟨v', hv', heq⟩ := Option.map_eq_some_iff.mp h
    cases heq
    rcases Dict.get?_update_last written hv' with ⟨front, back, rfl, _⟩ | hdata
    · exact .inl (List.mem_append_right _ List.mem_cons_self)
    · exact .inr hdata

/-- A value that was written is reported. -/
theorem report_written (hstamp : channelId ≠ "lastUpdate") (hmem : (channelId, v) ∈ written)
    (hall : ∀ v', (channelId, v') ∈ written → v' = v) :
    (report now data written).get? channelId = some (.value v) := by
  have hkey : channelId ∈ (data.update written).keys :=
    (Dict.mem_keys_update _).mpr (.inr (Dict.mem_keys.mpr ⟨v, hmem⟩))
  obtain ⟨v', hv'⟩ := Dict.exists_get?_of_mem_keys hkey
  rw [report, Dict.get?_set_ne _ (Ne.symm hstamp), Dict.get?_map, hv']
  rcases Dict.get?_update_last written hv' with ⟨front, back, rfl, _⟩ | ⟨hno, _⟩
  · rw [hall v' (List.mem_append_right _ List.mem_cons_self)]
    rfl
  · exact absurd (Dict.mem_keys.mpr ⟨v, hmem⟩) hno

theorem setTime_returned {result : Dict String Reported}
    (h : Path (HeatPumpService.setTime config waitingTime now) tr (.ok result)) :
    (HeatPumpService.clockRecords config = [] ∧ config.requestByBytes "FC" = none ∧
        result = []) ∨
      ∃ written data tr₁ tr₂, tr = tr₁ ++ tr₂ ∧
        Path (readClock (config.requestByBytes "FC")) tr₂ (.ok data) ∧
        result = report now data written ∧
        ((HeatPumpService.clockRecords config ≠ [] ∧
            Path (setTimeViaRegisters waitingTime (HeatPumpService.clockRecords config)
              (clockValues now) CLOCK_FIELDS []) tr₁ (.ok written)) ∨
          (HeatPumpService.clockRecords config = [] ∧ ∃ request,
            config.requestByBytes "FC" = some request ∧
            Path (setTimeViaFrame waitingTime request (clockValues now)) tr₁ (.ok written))) := by
  rw [HeatPumpService.setTime, HeatPumpService.prepareSetTime, HeatPumpService.perform] at h
  unfold CommunicationService.setTime at h
  simp only [] at h
  have hreport : ∀ {written : Dict String DecodedValue} {tr₂ : Trace},
      Path (do
        let data ← readClock (config.requestByBytes "FC")
        return Dict.set ((data.update written).map fun kv => (kv.1, Reported.value kv.2))
          "lastUpdate" (.text now.stamp)) tr₂ (.ok result) →
      ∃ data, Path (readClock (config.requestByBytes "FC")) tr₂ (.ok data) ∧
        result = report now data written := by
    intro written tr₂ hp
    obtain ⟨data, tr₃, tr₄, rfl, hread, hret⟩ := Path.bind_ok hp
    obtain ⟨rfl, hr⟩ := Path.ret_iff.mp hret
    cases hr
    rw [List.append_nil]
    exact ⟨data, hread, rfl⟩
  split at h
  · next hrecords =>
      obtain ⟨written, tr₁, tr₂, rfl, hwrite, hrest⟩ := Path.bind_ok h
      obtain ⟨data, hread, hresult⟩ := hreport hrest
      exact .inr ⟨written, data, tr₁, tr₂, rfl, hread, hresult, .inl ⟨hrecords, hwrite⟩⟩
  · next hrecords =>
      have hnone : HeatPumpService.clockRecords config = [] := by simpa using hrecords
      cases hrequest : config.requestByBytes "FC" with
      | none =>
          rw [hrequest] at h
          obtain ⟨_, hr⟩ := Path.ret_iff.mp h
          cases hr
          exact .inl ⟨hnone, rfl, rfl⟩
      | some request =>
          rw [hrequest] at h hreport
          obtain ⟨written, tr₁, tr₂, rfl, hwrite, hrest⟩ := Path.bind_ok h
          obtain ⟨data, hread, hresult⟩ := hreport hrest
          exact .inr ⟨written, data, tr₁, tr₂, rfl, hread, hresult,
            .inr ⟨hnone, request, rfl, hwrite⟩⟩

/-- What is read back is the call's last reply. -/
theorem readBack_of_returned {tr₁ tr₂ : Trace}
    (h : Path (readClock (config.requestByBytes "FC")) tr₂ (.ok data))
    (hget : data.get? channelId = some v) : ReadBack config (tr₁ ++ tr₂) channelId v := by
  rcases readClock_returned h with
    ⟨_, _, rfl⟩ | ⟨request, command, reply, hrequest, hcommand, hmarks, hdata⟩
  · cases hget
  · rcases hdata with rfl | ⟨hcheck, hparse⟩
    · cases hget
    · refine ⟨request, command, reply, data, hrequest, hcommand, ?_, hcheck, hparse, hget⟩
      rw [marks_append, hmarks]
      exact List.suffix_append _ _

theorem readClock_noSet {readRequest : Option Request}
    (h : Path (readClock readRequest) tr (.ok data)) : NoSet (marks tr) := by
  rcases readClock_returned h with ⟨_, rfl, _⟩ | ⟨_, _, _, _, _, hmarks, _⟩
  · simp [NoSet, marks]
  · simp [NoSet, hmarks]

theorem clockSet_of_registers {tr₁ tr₂ : Trace}
    (hrecords : HeatPumpService.clockRecords config ≠ [])
    (hwrite : Path (setTimeViaRegisters waitingTime (HeatPumpService.clockRecords config)
      (clockValues now) CLOCK_FIELDS []) tr₁ (.ok written))
    (hread : Path (readClock (config.requestByBytes "FC")) tr₂ (.ok data)) :
    ClockSet config now (tr₁ ++ tr₂) (report now data written) ↔
      ¬ Spoilt config now (marks (tr₁ ++ tr₂)) := by
  have htold : WritesTold (tr₁ ++ tr₂) (timeItems (HeatPumpService.clockRecords config) now)
      (marks tr₁) (marks tr₂) [] written :=
    setTimeViaRegisters_returned (readClock_noSet hread) CLOCK_FIELDS hwrite
      (List.subset_append_left _ _)
  have hall : clockWrites config now
      = (timeItems (HeatPumpService.clockRecords config) now).map registerWrite := if_pos hrecords
  rw [Spoilt, if_pos hrecords, marks_append]
  refine ⟨fun hc => htold.turns.mp ?_, fun hgood => ⟨?_, ?_⟩⟩
  · rw [← marks_append, ← hall]
    exact hc.performed
  · rw [hall, marks_append]
    exact htold.turns.mpr hgood
  · intro channelId v hv
    rcases report_cases hv with hwritten | ⟨hunwritten, hdata⟩
    · rcases htold.values hgood channelId v hwritten with hnil | ⟨item, hitem, hshown⟩
      · cases hnil
      · refine .inl ⟨registerWrite item, ?_, hshown.mono ?_⟩
        · rw [hall]
          exact List.mem_map_of_mem hitem
        · rw [marks_append]
          exact (List.prefix_append _ _).isInfix
    · refine .inr ⟨?_, readBack_of_returned hread hdata⟩
      intro w hw item hitem hid
      rw [hall] at hw
      obtain ⟨item', hitem', rfl⟩ := List.mem_map.mp hw
      obtain rfl := List.mem_singleton.mp hitem
      exact hunwritten (htold.keys hgood channelId (.inr ⟨item, hitem', hid⟩))

/-- A clock field has one value, and its name is none of the other entries'. -/
theorem clockItems_value {records : List ChannelDefinition}
    {item : DecodedValue × ChannelDefinition} (h : item ∈ clockItems records (clockValues now)) :
    (clockValues now).get? item.2.channelId = some item.1 ∧ item.2.channelId ≠ "lastUpdate" := by
  obtain ⟨record, _, hvalue⟩ := List.mem_filterMap.mp h
  obtain ⟨value, hget, rfl⟩ := Option.map_eq_some_iff.mp hvalue
  refine ⟨hget, ?_⟩
  intro hid
  rw [hid] at hget
  cases hget

/-- What a clock frame is reported with: the values of its items. -/
def frameWritten (request : Request) (now : DateTime) : Dict String DecodedValue :=
  Dict.ofPairs ((timeFrameItems request now).map fun item => (item.2.channelId, item.1))

theorem mem_keys_frameWritten {request : Request} {item : DecodedValue × ChannelDefinition}
    (h : item ∈ timeFrameItems request now) :
    item.2.channelId ∈ (frameWritten request now).keys :=
  (Dict.mem_keys_update _).mpr (.inr (Dict.mem_keys.mpr ⟨item.1, List.mem_map_of_mem
    (f := fun item : DecodedValue × ChannelDefinition => (item.2.channelId, item.1)) h⟩))

theorem mem_frameWritten {request : Request} (h : (channelId, v) ∈ frameWritten request now) :
    (clockValues now).get? channelId = some v ∧
      ∃ item ∈ timeFrameItems request now, item.2.channelId = channelId := by
  rcases Dict.mem_of_mem_update _ h with hpair | hnil
  · obtain ⟨item, hitem, heq⟩ := List.mem_map.mp hpair
    cases heq
    exact ⟨(clockItems_value hitem).1, item, hitem, rfl⟩
  · cases hnil

/-- A clock frame that was sent has set the clock when it says what was to be written and
the device confirmed it. -/
theorem clockSet_of_sent {request : Request} {tr : Trace}
    {command reply frame setReply message last : Bytes}
    (hall : clockWrites config now = [⟨request.requestBytes, timeFrameItems request now⟩])
    (hcommand : request.requestBytes = .ok command)
    (hframe : composeAll (timeFrameItems request now) reply = .ok frame)
    (hmarks : marks tr = [.getData (createRequestMessage command GET), .gotData reply,
      .setData (addDuplicatedBytes frame), .didSet setReply, .getData message, .gotData last])
    (hsent : setReply ≠ [] → sent (addDuplicatedBytes frame) ∈ tr)
    (hback : ∀ channelId v, data.get? channelId = some v → ReadBack config tr channelId v) :
    ClockSet config now tr (report now data (frameWritten request now)) ↔
      headerCheck setReply = true ∧ ∀ item ∈ timeFrameItems request now,
        CarriesValue frame item.2 item.1 ∧ parseRecord frame item.2 = .ok item.1 := by
  refine ⟨?_, ?_⟩
  · intro hc
    obtain ⟨_, reply', frame', _, rest, _, hms, hframe', hcarried, _, hverify, _⟩ :=
      hall ▸ hc.performed
    rw [hmarks] at hms
    simp only [List.cons.injEq, Mark.gotData.injEq, Mark.didSet.injEq] at hms
    obtain ⟨_, rfl, _, rfl, _⟩ := hms
    obtain rfl := Except.ok.inj (hframe.symm.trans hframe')
    refine ⟨headerCheck_iff.mpr hverify, fun item hitem => ⟨hcarried item hitem, ?_⟩⟩
    obtain ⟨hvalue, hstamp⟩ := clockItems_value hitem
    have hentry : (item.2.channelId, item.1) ∈ frameWritten request now := by
      obtain ⟨v, hv⟩ := Dict.mem_keys.mp (mem_keys_frameWritten hitem)
      obtain ⟨hv', _⟩ := mem_frameWritten hv
      rw [hvalue] at hv'
      cases hv'
      exact hv
    have hreported : (report now data (frameWritten request now)).get? item.2.channelId
        = some (.value item.1) := by
      refine report_written hstamp hentry fun v hv => ?_
      obtain ⟨hv', _⟩ := mem_frameWritten hv
      rw [hvalue] at hv'
      exact (Option.some.inj hv').symm
    rcases hc.reported _ _ hreported with ⟨w, hw, hshown⟩ | ⟨hnone, _⟩
    · rw [hall, List.mem_singleton] at hw
      obtain rfl := hw
      obtain ⟨_, reply', frame', setReply', hinfix, hframe', _, hsays⟩ := hshown
      have hreply : reply' = reply := by
        rw [hmarks] at hinfix
        simp only [List.infix_cons_iff, List.cons_prefix_cons, Mark.gotData.injEq, reduceCtorEq,
          List.prefix_nil, List.infix_nil, false_and, and_false, or_false, false_or] at hinfix
        exact hinfix.1
      rw [hreply, hframe] at hframe'
      cases hframe'
      exact hsays item hitem rfl
    · exact absurd rfl (hnone _ (hall ▸ List.mem_singleton_self _) item hitem)
  · rintro ⟨hvalid, hgood⟩
    have hne : setReply ≠ [] := by
      rintro rfl
      cases hvalid
    have hverify := headerCheck_iff.mp hvalid
    refine ⟨?_, ?_⟩
    · rw [hall, hmarks]
      exact (carriedInTurn_cons hcommand hframe (hsent hne) hverify).mpr
        ⟨fun item hitem => (hgood item hitem).1, trivial⟩
    · intro channelId v hv
      rcases report_cases hv with hentry | ⟨hunwritten, hdata⟩
      · obtain ⟨hvalue, hitem⟩ := mem_frameWritten hentry
        refine .inl ⟨_, by rw [hall]; exact List.mem_cons_self, hitem, reply, frame, setReply, ?_,
          hframe, hverify, ?_⟩
        · rw [hmarks]
          exact ⟨[.getData _], [.getData _, .gotData _], rfl⟩
        · intro item hitem hid
          have hsame := (clockItems_value hitem).1
          rw [hid, hvalue] at hsame
          rw [(hgood item hitem).2, ← Option.some.inj hsame]
      · refine .inr ⟨?_, hback channelId v hdata⟩
        intro w hw item hitem hid
        rw [hall, List.mem_singleton] at hw
        obtain rfl := hw
        exact hunwritten (hid ▸ mem_keys_frameWritten hitem)

/-- Of a frame that was composed and sent. -/
theorem frameSpoilt_iff {request : Request} {items : List (DecodedValue × ChannelDefinition)}
    {command reply frame setReply : Bytes} {rest : List Mark}
    (hcommand : request.requestBytes = .ok command) (hcheck : headerCheck reply = true)
    (hframe : composeAll items reply = .ok frame) :
    FrameSpoilt request items (.getData (createRequestMessage command GET) :: .gotData reply ::
        .setData (addDuplicatedBytes frame) :: .didSet setReply :: rest) ↔
      headerCheck setReply = false ∨ ∃ item ∈ items,
        ¬ (CarriesValue frame item.2 item.1 ∧ parseRecord frame item.2 = .ok item.1) := by
  refine ⟨?_, ?_⟩
  · rintro ⟨command', reply', hcommand', hread, hwhy⟩
    simp only [List.cons_prefix_cons, Mark.gotData.injEq] at hread
    obtain ⟨_, rfl, _⟩ := hread
    rcases hwhy with hinvalid | ⟨frame', hframe', hitem⟩ | ⟨message, setReply', hset, hinvalid⟩
    · rw [hcheck] at hinvalid
      cases hinvalid
    · rw [hframe] at hframe'
      cases hframe'
      exact .inr hitem
    · simp only [List.cons_prefix_cons, Mark.didSet.injEq] at hset
      obtain ⟨_, _, _, rfl, _⟩ := hset
      exact .inl hinvalid
  · intro hwhy
    refine ⟨command, reply, hcommand, List.prefix_append [_, _] _, .inr ?_⟩
    rcases hwhy with hinvalid | hitem
    · exact .inr ⟨_, setReply, List.prefix_append [_, _, _, _] _, hinvalid⟩
    · exact .inl ⟨frame, hframe, hitem⟩

theorem clockSet_of_frame {tr₁ tr₂ : Trace} {request : Request}
    (hrecords : HeatPumpService.clockRecords config = [])
    (hrequest : config.requestByBytes "FC" = some request)
    (hwrite : Path (setTimeViaFrame waitingTime request (clockValues now)) tr₁ (.ok written))
    (hread : Path (readClock (config.requestByBytes "FC")) tr₂ (.ok data)) :
    ClockSet config now (tr₁ ++ tr₂) (report now data written) ↔
      ¬ Spoilt config now (marks (tr₁ ++ tr₂)) := by
  have hall : clockWrites config now = [⟨request.requestBytes, timeFrameItems request now⟩] := by
    rw [clockWrites, if_neg (by simpa using hrecords), hrequest]
  obtain ⟨message, last, hlast⟩ : ∃ message last,
      marks tr₂ = [.getData message, .gotData last] := by
    rcases readClock_returned hread with ⟨hnone, _⟩ | ⟨_, _, last, _, _, hmarks, _⟩
    · rw [hrequest] at hnone
      cases hnone
    · exact ⟨_, last, hmarks⟩
  have hspoilt : Spoilt config now (marks (tr₁ ++ tr₂)) ↔
      FrameSpoilt request (timeFrameItems request now) (marks (tr₁ ++ tr₂)) := by
    rw [Spoilt, if_neg (by simpa using hrecords)]
    simp [hrequest]
  rw [hspoilt]
  obtain ⟨command, reply, hcommand, hcases⟩ := setTimeViaFrame_returned hwrite
  rcases hcases with
    ⟨hcheck, _, hmarks₁⟩ | ⟨frame, setReply, hcheck, hframe, hmarks₁, hsent, hwritten⟩
  · have hmarks : marks (tr₁ ++ tr₂) = [.getData (createRequestMessage command GET),
        .gotData reply, .getData message, .gotData last] := by
      rw [marks_append, hmarks₁, hlast]
      rfl
    refine iff_of_false ?_ (not_not.mpr ⟨command, reply, hcommand, ?_, .inl hcheck⟩)
    · intro hc
      obtain ⟨_, _, _, _, _, _, hms, _⟩ := hall ▸ hc.performed
      rw [hmarks] at hms
      simp at hms
    · rw [hmarks]
      exact List.prefix_append [_, _] _
  · have hmarks : marks (tr₁ ++ tr₂) = [.getData (createRequestMessage command GET),
        .gotData reply, .setData (addDuplicatedBytes frame), .didSet setReply,
        .getData message, .gotData last] := by
      rw [marks_append, hmarks₁, hlast]
      rfl
    obtain rfl : written = frameWritten request now := hwritten
    rw [clockSet_of_sent hall hcommand hframe hmarks
      (fun hne => List.mem_append_left _ (hsent hne))
      fun channelId v hget => readBack_of_returned hread hget]
    have hitems : composeAll (timeFrameItems request now) reply = .ok frame := hframe
    rw [hmarks, frameSpoilt_iff hcommand hcheck hitems, not_or, Bool.not_eq_false]
    refine and_congr_right fun _ => ⟨?_, ?_⟩
    · rintro hgood ⟨item, hitem, hbad⟩
      exact hbad (hgood item hitem)
    · intro hnone item hitem
      by_contra hbad
      exact hnone ⟨item, hitem, hbad⟩

/-- A call that returns has set the clock, unless a register or the frame of it is spoilt. -/
theorem clock_set_iff {result : Dict String Reported}
    (h : Path (HeatPumpService.setTime config waitingTime now) tr (.ok result)) :
    ClockSet config now tr result ↔ ¬ Spoilt config now (marks tr) := by
  rcases setTime_returned h with
    ⟨hrecords, hrequest, rfl⟩ | ⟨written, data, tr₁, tr₂, rfl, hread, rfl, hwrites⟩
  · have hall : clockWrites config now = [] := by simp [clockWrites, hrecords, hrequest]
    refine iff_of_true ⟨?_, ?_⟩ ?_
    · rw [hall]
      trivial
    · intro channelId v hv
      cases hv
    · simp [Spoilt, hrecords, hrequest]
  · rcases hwrites with ⟨hrecords, hwrite⟩ | ⟨hrecords, request, hrequest, hwrite⟩
    · exact clockSet_of_registers hrecords hwrite hread
    · exact clockSet_of_frame hrecords hrequest hwrite hread

end calls

def clockField (channelId : String) (position : Int) (max : ℚ) : ChannelDefinition :=
  { channelId := channelId, requestByte := "FC", dataType := .settings
    position := position, length := 1, max := .finite max }

/-- A clock without registers of its own. -/
def frameClock : HeatPumpConfig :=
  { channels := [clockField "hours" 6 23, clockField "minutes" 7 59, clockField "year" 9 99,
      clockField "month" 11 12, clockField "day" 12 31] }

def frameClockRequest : Request :=
  { requestByte := "FC", requestByte2 := none, records := frameClock.channels }

def noon : DateTime :=
  { year := 2026, month := 3, day := 14, hour := 12, minute := 0, second := 0 }

def setNoon : Talk (Dict String Reported) := HeatPumpService.setTime frameClock 0 noon

/-- The frame of a clock that is at four minutes past three on 13 March 2025. -/
def oldTime : List UInt8 :=
  [0x10, 0x10, 0x02, 0x01, 0x00, 0x37, 0xFC, 0x00, 0x05, 0x03, 0x04, 0x05, 0x19, 0x00, 0x03,
    0x0D, 0x10, 0x03]

/-- The clock is read, the device answers the frame it is sent with an error, and the clock
is read again. -/
def refusingScript : List (Option UInt8) :=
  (oldTime ++ [0x10, 0x10, 0x02, 0x01, 0x01, 0xFE, 0xFC, 0x10, 0x03] ++ oldTime).map some

def reportedNoon : Dict String Reported :=
  [("hours", .value (.int 12)), ("minutes", .value (.int 0)), ("year", .value (.int 26)),
    ("month", .value (.int 3)), ("day", .value (.int 14)),
    ("lastUpdate", .text "2026-03-14 12:00:00")]

/-- The same, but the device confirms the frame. -/
def confirmingScript : List (Option UInt8) :=
  (oldTime ++ [0x10, 0x10, 0x02, 0x01, 0x80, 0x7D, 0xFC, 0x10, 0x03] ++ oldTime).map some

theorem setNoon_path :
    Path setNoon (trace scripted setNoon refusingScript) (.ok reportedNoon) :=
  path_of_run scripted (by decide +kernel)

theorem clock_set_noon :
    ClockSet frameClock noon (trace scripted setNoon confirmingScript) reportedNoon := by
  have hpath : Path setNoon (trace scripted setNoon confirmingScript) (.ok reportedNoon) :=
    path_of_run scripted (by decide +kernel)
  have hmarks : marks (trace scripted setNoon confirmingScript)
      = [.getData [0x01, 0x00, 0xFD, 0xFC, 0x10, 0x03], .gotData (oldTime.drop 3),
        .setData [0x01, 0x80, 0xBE, 0xFC, 0x00, 0x05, 0x0C, 0x00, 0x05, 0x1A, 0x00, 0x03, 0x0E,
          0x10, 0x03],
        .didSet [0x01, 0x80, 0x7D, 0xFC, 0x10, 0x03],
        .getData [0x01, 0x00, 0xFD, 0xFC, 0x10, 0x03], .gotData (oldTime.drop 3)] := by
    decide +kernel
  have hrequest : frameClock.requestByBytes "FC" = some frameClockRequest := by decide +kernel
  have hspoilt : Spoilt frameClock noon (marks (trace scripted setNoon confirmingScript)) ↔
      FrameSpoilt frameClockRequest (timeFrameItems frameClockRequest noon)
        (marks (trace scripted setNoon confirmingScript)) := by
    rw [Spoilt, if_neg (by decide +kernel), hrequest]
    simp
  refine (clock_set_iff hpath).mpr ?_
  rw [hspoilt, hmarks]
  have hiff := @frameSpoilt_iff frameClockRequest (timeFrameItems frameClockRequest noon) [0xFC]
    (oldTime.drop 3) [0x01, 0x80, 0xBE, 0xFC, 0x00, 0x05, 0x0C, 0x00, 0x05, 0x1A, 0x00, 0x03,
      0x0E, 0x10, 0x03] [0x01, 0x80, 0x7D, 0xFC, 0x10, 0x03]
    [.getData [0x01, 0x00, 0xFD, 0xFC, 0x10, 0x03], .gotData (oldTime.drop 3)] rfl
    (by decide +kernel) (by decide +kernel)
  refine hiff.not.mpr ?_
  decide +kernel

/-- The device refuses the new time and is still at the old one, and noon is reported. -/
theorem refused_clock_reported :
    ∃ tr, Path setNoon tr (.ok reportedNoon) ∧
      (∀ setReply, .didSet setReply ∈ marks tr → headerCheck setReply = false) ∧
      ¬ ClockSet frameClock noon tr reportedNoon := by
  have hmarks : marks (trace scripted setNoon refusingScript)
      = [.getData [0x01, 0x00, 0xFD, 0xFC, 0x10, 0x03], .gotData (oldTime.drop 3),
        .setData [0x01, 0x80, 0xBE, 0xFC, 0x00, 0x05, 0x0C, 0x00, 0x05, 0x1A, 0x00, 0x03, 0x0E,
          0x10, 0x03],
        .didSet [0x01, 0x01, 0xFE, 0xFC, 0x10, 0x03],
        .getData [0x01, 0x00, 0xFD, 0xFC, 0x10, 0x03], .gotData (oldTime.drop 3)] := by
    decide +kernel
  have hrefused : ∀ setReply, .didSet setReply ∈ marks (trace scripted setNoon refusingScript) →
      headerCheck setReply = false := by
    intro setReply hmem
    obtain rfl : setReply = [0x01, 0x01, 0xFE, 0xFC, 0x10, 0x03] := by
      simpa [hmarks] using hmem
    decide +kernel
  refine ⟨_, setNoon_path, hrefused, ?_⟩
  intro hc
  have hsome : (clockWrites frameClock noon).isEmpty = false := by decide +kernel
  obtain ⟨w, ws, hw⟩ := List.exists_cons_of_ne_nil
    (show clockWrites frameClock noon ≠ [] by simpa using hsome)
  obtain ⟨_, _, _, setReply, rest, _, hms, _, _, _, hverify, _⟩ := hw ▸ hc.performed
  have hmem : .didSet setReply ∈ marks (trace scripted setNoon refusingScript) := by
    rw [hms]
    simp
  have hinvalid := hrefused setReply hmem
  rw [headerCheck_iff.mpr hverify] at hinvalid
  cases hinvalid

end HeatpumpGateway
