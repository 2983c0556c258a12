import HeatpumpGateway.Proofs.Rest

/-!
# The whole service as a map

Every call on a device at rest is a call on the map the device stands for (`run_serves`), so
however the clients' steps are ordered the service is one map (`whole_service_is_a_map`). What
holds of the map holds of the service: setting the clock changes nothing but the clock, a
channel reads the same until something changes it, and what is turned down is turned down for
what the caller sent.
-/

namespace HeatpumpGateway

open Dialogue Fallible CommunicationService

/-! ## What the map leaves alone -/

/-- The channels that setting the clock may change. -/
def clockChannels (config : HeatPumpConfig) : List String :=
  if HeatPumpService.clockRecords config ≠ [] then
    (HeatPumpService.clockRecords config).map fun entry => entry.2.channelId
  else CLOCK_FIELDS

/-- A call that may have changed the channel: an accepted write, or any setting of the clock. -/
def Changes (config : HeatPumpConfig) (channelId : String) :
    ServiceCall × Except Exc Body → Prop
  | (.writeChannel id _, .ok _) => id = channelId
  | (.setTime _, _) => channelId ∈ clockChannels config
  | _ => False

/-- Reads of a channel agree where nothing between them may have changed it. -/
def Steady (config : HeatPumpConfig) (log : List (ServiceCall × Except Exc Body)) : Prop :=
  ∀ before between after channelId r r',
    log = before ++ (.readChannel channelId, r) ::
      (between ++ (.readChannel channelId, r') :: after) →
    (∀ entry ∈ between, ¬ Changes config channelId entry) → r' = r

section steady

variable {config : HeatPumpConfig} {m : Values}

theorem Values.set_other {channelId id : String} (h : id ≠ channelId) (m : Values)
    (value : DecodedValue) : m.set id value channelId = m channelId :=
  if_neg h.symm

/-- Registers that are set leave every channel but their own. -/
theorem setRegisters_other {clockRecords : Dict String ChannelDefinition}
    {values : Dict String DecodedValue} {channelId : String}
    (h : channelId ∉ clockRecords.map fun entry => entry.2.channelId) (fields : List String) :
    ∀ (written : Dict String DecodedValue) (m : Values),
      (setRegisters clockRecords values fields written m).2 channelId = m channelId := by
  induction fields with
  | nil => intro written m; rfl
  | cons field fields ih =>
      intro written m
      rw [setRegisters]
      cases hrecord : clockRecords.get? field with
      | none => exact ih written m
      | some record =>
          cases values.get? field with
          | none => exact ih written m
          | some value =>
              simp only []
              cases accept record value with
              | error e => rfl
              | ok stored =>
                  have hne : record.channelId ≠ channelId := by
                    rintro rfl
                    exact h (List.mem_map_of_mem (Dict.mem_of_get? hrecord))
                  exact (ih _ _).trans (Values.set_other hne m stored)

theorem setItems_other {channelId : String} (items : List (DecodedValue × ChannelDefinition)) :
    ∀ {m m' : Values}, setItems items m = .ok m' →
      (∀ item ∈ items, item.2.channelId ≠ channelId) → m' channelId = m channelId := by
  induction items with
  | nil =>
      intro m m' h _
      cases h
      rfl
  | cons item items ih =>
      intro m m' h hne
      obtain ⟨stored, _, hrest⟩ := bind_eq_ok.mp h
      rw [ih hrest fun other hother => hne other (List.mem_cons_of_mem _ hother)]
      exact Values.set_other (hne item List.mem_cons_self) m stored

theorem setClock_other {channelId : String} (h : channelId ∉ clockChannels config) (now : DateTime)
    (m : Values) : (setClock config now m).2 channelId = m channelId := by
  rw [clockChannels] at h
  rw [setClock]
  by_cases hregisters : HeatPumpService.clockRecords config ≠ []
  · rw [if_pos hregisters] at h
    simp only [if_pos hregisters]
    exact setRegisters_other h CLOCK_FIELDS [] m
  · rw [if_neg hregisters] at h
    simp only [if_neg hregisters]
    cases config.requestByBytes "FC" with
    | none => rfl
    | some request =>
        simp only []
        cases hitems : setItems (clockItems request.records (clockValues now)) m with
        | error e => rfl
        | ok m' =>
            refine setItems_other _ hitems fun item hmem hid => h ?_
            obtain ⟨record, _, hitem⟩ := List.mem_filterMap.mp hmem
            obtain ⟨value, hvalue, rfl⟩ := Option.map_eq_some_iff.mp hitem
            rw [← hid]
            exact Dict.mem_keys.mpr ⟨value, Dict.mem_of_get? hvalue⟩

theorem answerCall_unchanged {channelId : String} (call : ServiceCall) (m : Values)
    (h : ¬ Changes config channelId (call, (answerCall config call m).1)) :
    (answerCall config call m).2 channelId = m channelId := by
  cases call with
  | readAll dataTypes => rfl
  | getVersion => rfl
  | readChannel id => exact answer_unchanged (.readChannel id) m fun hc => hc
  | readChannels ids => exact answer_unchanged (.readChannels ids) m fun hc => hc
  | setTime now => exact setClock_other h now m
  | writeChannel id given =>
      refine answer_unchanged (.writeChannel id given) m fun hc => h ?_
      rw [answerCall]
      cases hreply : (answer config (.writeChannel id given) m).1 with
      | error e =>
          rw [hreply] at hc
          exact False.elim hc
      | ok reply =>
          rw [hreply] at hc
          exact hc

theorem steady_of_behaves {log : List (ServiceCall × Except Exc Body)} {m' : Values}
    (h : Locked.Behaves (answerCall config) m log m') : Steady config log := by
  intro before between after channelId r r' hlog hbetween
  rw [hlog] at h
  obtain ⟨m₁, _, hfirst, hrest⟩ := Locked.behaves_append.mp h
  obtain ⟨m₂, hmid, hsecond, _⟩ := Locked.behaves_append.mp hrest
  have hsame := Locked.Behaves.unchanged (f := fun m : Values => m channelId)
    (P := Changes config channelId) answerCall_unchanged hmid hbetween
  have hleft : (answerCall config (.readChannel channelId) m₁).2 channelId = m₁ channelId :=
    answerCall_unchanged _ _ fun hc => hc
  have hvalue : m₂ channelId = m₁ channelId := hsame.trans hleft
  rw [hfirst, hsecond, answerCall, answerCall, answer, answer]
  cases HeatPumpService.requireChannel config channelId with
  | error e => rfl
  | ok record =>
      simp only []
      rw [hvalue]

end steady

/-! ## What a call is turned down for -/

section errors

variable {config : HeatPumpConfig} {m : Values} {e : Exc}

theorem accept_not_protocolError {record : ChannelDefinition} {v : DecodedValue}
    (h : accept record v = .error e) : e.isProtocolError = false := by
  have number : ∀ v : DecodedValue,
      (if record.max.lt v.toFloat || v.toFloat.lt record.min then
        Except.error (.valueOutOfRange record.channelId v record.min record.max)
      else do
        let raw ← rawOf v record
        return quantised record (raw.bmod (fieldRange record))) = Except.error e →
      e.isProtocolError = false := by
    intro v h
    split at h
    · cases h
      rfl
    · rcases bind_eq_error.mp h with hraw | ⟨_, _, hret⟩
      · exact rawOf_error hraw
      · cases hret
  cases v with
  | bool b => cases h
  | int n => exact number (.int n) h
  | float x => exact number (.float x) h

theorem answer_not_protocolError {c : Call} (h : (answer config c m).1 = .error e) :
    e.isProtocolError = false := by
  cases c with
  | readChannel id =>
      rw [answer] at h
      split at h
      · next hrequire =>
          cases h
          exact requireChannel_error hrequire
      · cases h
  | readChannels ids =>
      rw [answer] at h
      split at h
      · cases h
        rfl
      · cases h
  | writeChannel id given =>
      rw [answer] at h
      split at h
      · next hrequire =>
          cases h
          exact requireChannel_error hrequire
      · split at h
        · cases h
          rfl
        · split at h
          · next hstored =>
              cases h
              rcases bind_eq_error.mp hstored with hcoerce | ⟨_, _, haccept⟩
              · exact coerce_not_protocolError hcoerce
              · exact accept_not_protocolError haccept
          · cases h

theorem setRegisters_not_protocolError {clockRecords : Dict String ChannelDefinition}
    {values : Dict String DecodedValue} (fields : List String) :
    ∀ {written : Dict String DecodedValue} {m : Values},
      (setRegisters clockRecords values fields written m).1 = .error e →
        e.isProtocolError = false := by
  induction fields with
  | nil => intro written m h; cases h
  | cons field fields ih =>
      intro written m h
      rw [setRegisters] at h
      split at h
      · split at h
        · next haccept =>
            cases h
            exact accept_not_protocolError haccept
        · exact ih h
      · exact ih h

theorem setItems_not_protocolError (items : List (DecodedValue × ChannelDefinition)) :
    ∀ {m : Values}, setItems items m = .error e → e.isProtocolError = false := by
  induction items with
  | nil => intro m h; cases h
  | cons item items ih =>
      intro m h
      rcases bind_eq_error.mp h with haccept | ⟨_, _, hrest⟩
      · exact accept_not_protocolError haccept
      · exact ih hrest

theorem setClock_not_protocolError {now : DateTime} (h : (setClock config now m).1 = .error e) :
    e.isProtocolError = false := by
  rw [setClock] at h
  by_cases hregisters : HeatPumpService.clockRecords config ≠ []
  · simp only [if_pos hregisters] at h
    exact setRegisters_not_protocolError CLOCK_FIELDS (map_eq_error.mp h)
  · simp only [if_neg hregisters] at h
    split at h
    · cases h
    · split at h
      · next hitems =>
          cases h
          exact setItems_not_protocolError _ hitems
      · cases h

/-- A call on the map is turned down for what the caller sent. -/
theorem answerCall_not_protocolError {call : ServiceCall}
    (h : (answerCall config call m).1 = .error e) : e.isProtocolError = false := by
  cases call with
  | readAll dataTypes => cases h
  | getVersion => cases h
  | readChannel id => exact answer_not_protocolError (c := .readChannel id) (map_eq_error.mp h)
  | readChannels ids => exact answer_not_protocolError (c := .readChannels ids) (map_eq_error.mp h)
  | writeChannel id given =>
      exact answer_not_protocolError (c := .writeChannel id given) (map_eq_error.mp h)
  | setTime now => exact setClock_not_protocolError (map_eq_error.mp h)

end errors

/-! ## The service -/

/-- A simulator that was just made stands for the map that its frames decode to. -/
theorem StoreOf.represents {config : HeatPumpConfig} (hregular : Regular config)
    {seeds : Dict String DecodedValue} {created : HeatPumpSimulator}
    (hcreated : HeatPumpSimulator.create config seeds = .ok created) {store : Dict String Bytes}
    (hstore : StoreOf config store) :
    Commands config created.commandToRequest ∧ ∃ m, Decodes config store m ∧
      Represents config created.commandToRequest
        { simulator := { created with store := store } } m := by
  obtain ⟨hidle, hcommands⟩ := HeatPumpSimulator.create_commands hregular hcreated
  refine ⟨hcommands, _, hstore.decodes hregular hcommands, store, ⟨hidle, rfl, rfl, rfl⟩, ?_⟩
  intro request hrequest
  exact hstore.holds hregular hcommands hrequest

/-- However the clients' steps are ordered, all six calls of the service are calls on one map,
which began as what the frames decode to: a channel reads the same until it is written or the
clock is set, and no call fails on account of the device. -/
theorem whole_service_is_a_map {ι : Type} [DecidableEq ι] {config : HeatPumpConfig}
    (hregular : Regular config) (hclock : ClockIntegers config)
    {seeds : Dict String DecodedValue} {created : HeatPumpSimulator}
    (hcreated : HeatPumpSimulator.create config seeds = .ok created) {store : Dict String Bytes}
    (hstore : StoreOf config store) (waitingTime : Nat)
    {history : List (Locked.Event ι ServiceCall Exc Body)}
    {s : Locked.System Op Op.Ans Exc Body SimulatorTransport ServiceCall ι}
    (h : Locked.Reachable SimulatorTransport.answer (prepareCall config waitingTime)
      { simulator := { created with store := store } } history s) :
    ∃ before after : Values, Decodes config store before ∧
      Locked.Behaves (answerCall config) before (Locked.served history) after ∧
      Steady config (Locked.served history) ∧
      (∀ call e, (call, .error e) ∈ Locked.served history → e.isProtocolError = false) ∧
      ∀ i, Locked.Alternates i (Locked.ofClient i history) (s.phase i) := by
  obtain ⟨hcommands, before, hdecodes, hinitial⟩ := hstore.represents hregular hcreated
  obtain ⟨rest, hserial, _⟩ := h.serial
  obtain ⟨after, hbehaves, _⟩ := hserial.simulates
    (R := Represents config created.commandToRequest)
    (fun c t m hrep => run_serves hregular hcommands hclock hrep c) hinitial
  refine ⟨before, after, hdecodes, hbehaves, steady_of_behaves hbehaves,
    fun call e hmem => ?_, h.alternates.alternates⟩
  obtain ⟨front, back, hlog⟩ := List.append_of_mem hmem
  rw [hlog] at hbehaves
  obtain ⟨m₁, _, hanswer, _⟩ := Locked.behaves_append.mp hbehaves
  exact answerCall_not_protocolError hanswer.symm

def clockHours : ChannelDefinition :=
  { channelId := "hours", requestByte := "FC", dataType := .settings, position := 5, length := 1
    min := .finite 0, max := .finite 23 }

def clockMinutes : ChannelDefinition :=
  { clockHours with channelId := "minutes", position := 6, max := .finite 59 }

def clockRequest : Request :=
  { requestByte := "FC", requestByte2 := none, records := [clockHours, clockMinutes] }

def clockConfig : HeatPumpConfig := { channels := [roomTempDay, clockHours, clockMinutes] }

/-- 21 degrees by day, at half past eight. -/
def clockStore : Dict String Bytes :=
  [("0B0005", [0x01, 0x00, 0xE3, 0x0B, 0x00, 0x05, 0x00, 0xD2, 0x10, 0x03]),
    ("FC", [0x01, 0x00, 0x23, 0xFC, 0x00, 0x08, 0x1E, 0x10, 0x03])]

theorem clockConfig_requests {request : Request} (h : request ∈ clockConfig.requests) :
    (request = { requestByte := "0B0005", requestByte2 := none, records := [roomTempDay] } ∧
        fromHex request.requestByte = .ok [0x0B, 0x00, 0x05]) ∨
      (request = clockRequest ∧
        fromHex request.requestByte = .ok [0xFC]) := by
  have hrequests : clockConfig.requests
      = [{ requestByte := "0B0005", requestByte2 := none, records := [roomTempDay] },
        clockRequest] := by
    decide +kernel
  rw [hrequests, List.mem_cons, List.mem_singleton] at h
  rcases h with rfl | rfl
  · exact .inl ⟨rfl, by decide +kernel⟩
  · exact .inr ⟨rfl, by decide +kernel⟩

theorem clockConfig_regular : Regular clockConfig := by
  have hroom : RegularRecord 3 roomTempDay :=
    have hscale : roomTempDay.scale = .finite (PyFloat.double.nearest (1 / 10)) := by
      decide +kernel
    ⟨.inr rfl, legible_of_le (.inr rfl) hscale (by decide +kernel), by decide, by decide +kernel,
      by decide⟩
  have hclock : ∀ record ∈ [clockHours, clockMinutes], RegularRecord 1 record := by
    intro record h
    rw [List.mem_cons, List.mem_singleton] at h
    rcases h with rfl | rfl
    · exact ⟨.inl rfl, legible_of_le (.inl rfl) rfl (by decide +kernel), by decide,
        fun _ => rfl, by decide⟩
    · exact ⟨.inl rfl, legible_of_le (.inl rfl) rfl (by decide +kernel), by decide,
        fun _ => rfl, by decide⟩
  refine ⟨by decide +kernel, ?_, ?_, ?_, ?_, ?_, ?_⟩
  · simp only [clockConfig, List.forall_mem_cons]
    exact ⟨⟨[0x0B, 0x00, 0x05], by decide +kernel⟩, ⟨[0xFC], by decide +kernel⟩,
      ⟨[0xFC], by decide +kernel⟩, by simp⟩
  · intro request hrequest
    rcases clockConfig_requests hrequest with ⟨rfl, _⟩ | ⟨rfl, _⟩ <;> rfl
  · intro request hrequest
    rcases clockConfig_requests hrequest with ⟨_, hhex⟩ | ⟨_, hhex⟩
    · exact ⟨_, hhex, by decide, by decide⟩
    · exact ⟨_, hhex, by decide, by decide⟩
  · intro request hrequest request' hrequest' command command' hcommand hcommand' hprefix
    rcases clockConfig_requests hrequest with ⟨rfl, hhex⟩ | ⟨rfl, hhex⟩ <;>
      rcases clockConfig_requests hrequest' with ⟨rfl, hhex'⟩ | ⟨rfl, hhex'⟩
    all_goals
      obtain rfl := Except.ok.inj (hhex.symm.trans hcommand)
      obtain rfl := Except.ok.inj (hhex'.symm.trans hcommand')
      first
        | rfl
        | exact absurd hprefix (by decide)
  · intro request hrequest command hcommand record hin
    rcases clockConfig_requests hrequest with ⟨rfl, hhex⟩ | ⟨rfl, hhex⟩
    · obtain rfl := Except.ok.inj (hhex.symm.trans hcommand)
      obtain rfl := List.mem_singleton.mp hin
      exact hroom
    · obtain rfl := Except.ok.inj (hhex.symm.trans hcommand)
      exact hclock record hin
  · intro request hrequest record hin record' hin' hne
    rcases clockConfig_requests hrequest with ⟨rfl, _⟩ | ⟨rfl, _⟩
    · exact absurd ((List.mem_singleton.mp hin).trans (List.mem_singleton.mp hin').symm) hne
    · simp only [clockRequest, List.mem_cons, List.not_mem_nil, or_false] at hin hin'
      rcases hin with rfl | rfl <;> rcases hin' with rfl | rfl
      · exact absurd rfl hne
      · intro byte bit _ _ h h'
        simp only [Occupies, clockHours, clockMinutes] at h h'
        omega
      · intro byte bit _ _ h h'
        simp only [Occupies, clockHours, clockMinutes] at h h'
        omega
      · exact absurd rfl hne

theorem clockConfig_integers : ClockIntegers clockConfig := by
  have hnone : HeatPumpService.clockRecords clockConfig = [] := by decide +kernel
  refine ⟨fun entry hentry => ?_, fun request hfind record hin _ => ?_⟩
  · rw [hnone] at hentry
    cases hentry
  · have hfc : clockConfig.requestByBytes "FC" = some clockRequest := by decide +kernel
    obtain rfl := Option.some.inj (hfc.symm.trans hfind)
    simp only [clockRequest, List.mem_cons, List.not_mem_nil, or_false] at hin
    rcases hin with rfl | rfl
    · decide +kernel
    · decide +kernel

theorem clockStore_storeOf : StoreOf clockConfig clockStore := by
  intro request hrequest command built hcommand hbuilt
  rcases clockConfig_requests hrequest with ⟨rfl, hhex⟩ | ⟨rfl, hhex⟩
  · obtain rfl := Except.ok.inj (hhex.symm.trans hcommand)
    have hframe : HeatPumpSimulator.buildFrame
        { requestByte := "0B0005", requestByte2 := none, records := [roomTempDay] }
        [0x0B, 0x00, 0x05]
          = .ok [0x01, 0x00, 0x11, 0x0B, 0x00, 0x05, 0x00, 0x00, 0x10, 0x03] := by
      decide +kernel
    obtain rfl := Except.ok.inj (hframe.symm.trans hbuilt)
    exact ⟨_, rfl, ⟨by decide, by decide, by decide, by decide, by decide +kernel⟩, by decide⟩
  · obtain rfl := Except.ok.inj (hhex.symm.trans hcommand)
    have hframe : HeatPumpSimulator.buildFrame
        clockRequest [0xFC]
          = .ok [0x01, 0x00, 0xFD, 0xFC, 0x00, 0x00, 0x00, 0x10, 0x03] := by
      decide +kernel
    obtain rfl := Except.ok.inj (hframe.symm.trans hbuilt)
    exact ⟨_, rfl, ⟨by decide, by decide, by decide, by decide, by decide +kernel⟩, by decide⟩

theorem clockConfig_created :
    ∃ created, HeatPumpSimulator.create clockConfig [] = .ok created := by
  have hok : (HeatPumpSimulator.create clockConfig []).toOption.isSome := by decide +kernel
  exact Option.isSome_iff_exists.mp hok |>.imp fun _ h => toOption_eq_some.mp h

/-- One client sets the clock while another is waiting to read the hours. -/
theorem whole_service_is_a_map_clock : ∃ created history s,
    HeatPumpSimulator.create clockConfig [] = .ok created ∧
    Locked.Reachable SimulatorTransport.answer (prepareCall clockConfig 0)
      { simulator := { created with store := clockStore } } history
      (s : Locked.System Op Op.Ans Exc Body SimulatorTransport ServiceCall Bool) ∧
    Locked.served history
      = [(.setTime ⟨2024, 5, 17, 12, 45, 0⟩,
          .ok (.clock [("hours", .value (.int 12)), ("minutes", .value (.int 45)),
            ("lastUpdate", .text "2024-05-17 12:45:00")])),
        (.readChannel "hours",
          .ok (.value (HeatPumpService.toChannelValue clockHours (.int 12))))] := by
  obtain ⟨created, hcreated⟩ := clockConfig_created
  obtain ⟨q, hq⟩ : ∃ q, prepareCall clockConfig 0 (.readChannel "hours") = .ok q := by
    have hok : (prepareCall clockConfig 0 (.readChannel "hours")).toOption.isSome := by
      decide +kernel
    exact Option.isSome_iff_exists.mp hok |>.imp fun _ h => toOption_eq_some.mp h
  have hstart : Locked.Reachable SimulatorTransport.answer (prepareCall clockConfig 0)
      { simulator := { created with store := clockStore } } []
      { device := { simulator := { created with store := clockStore } }
        phase := fun _ : Bool => .away } := .start
  have hwaiting := (hstart.step (.invoke false (.setTime ⟨2024, 5, 17, 12, 45, 0⟩) rfl)).step
    (.invoke true (.readChannel "hours") rfl)
  have hset := (hwaiting.step (.acquire false _ _ rfl rfl rfl)).serve rfl
  have hread := (hset.step (.acquire true _ q rfl hq rfl)).serve rfl
  refine ⟨created, _, _, hcreated, hread, ?_⟩
  obtain ⟨before, after, _, ⟨hfirst, hsecond, _⟩, _⟩ := whole_service_is_a_map clockConfig_regular
    clockConfig_integers hcreated clockStore_storeOf 0 hread
  have hchannel : HeatPumpService.requireChannel clockConfig "hours" = .ok clockHours := by
    decide +kernel
  have hnone : HeatPumpService.clockRecords clockConfig = [] := by decide +kernel
  have hfc : clockConfig.requestByBytes "FC" = some clockRequest := by decide +kernel
  have hitems : setItems (clockItems clockRequest.records
        (clockValues ⟨2024, 5, 17, 12, 45, 0⟩)) before
      = .ok ((before.set "hours" (.int 12)).set "minutes" (.int 45)) := by
    have hhours : accept clockHours (.int 12) = .ok (.int 12) := by decide +kernel
    have hminutes : accept clockMinutes (.int 45) = .ok (.int 45) := by decide +kernel
    show (accept clockHours (.int 12) >>= fun stored => _) = _
    rw [hhours, ok_bind]
    show (accept clockMinutes (.int 45) >>= fun stored => _) = _
    rw [hminutes]
    rfl
  have hclock : setClock clockConfig ⟨2024, 5, 17, 12, 45, 0⟩ before
      = (.ok [("hours", .value (.int 12)), ("minutes", .value (.int 45)),
          ("lastUpdate", .text "2024-05-17 12:45:00")],
        (before.set "hours" (.int 12)).set "minutes" (.int 45)) := by
    have hread : clockOf clockConfig ((before.set "hours" (.int 12)).set "minutes" (.int 45))
        = [("hours", .int 12), ("minutes", .int 45)] := by
      rw [clockOf, hfc]
      rfl
    rw [setClock_frame hnone hfc hitems, clockReport, hread]
    refine congrArg₂ Prod.mk (congrArg Except.ok ?_) rfl
    decide +kernel
  rw [answerCall, hclock] at hfirst hsecond
  rw [answerCall, answer, hchannel] at hsecond
  exact congrArg₂ _ (congrArg _ hfirst) (congrArg₂ _ (congrArg _ hsecond) rfl)

end HeatpumpGateway
