import HeatpumpGateway.Proofs.Parts
import HeatpumpGateway.Proofs.Rest
import HeatpumpGateway.Proofs.Statuses

/-!
# A device that is left in the middle of an exchange

The simulator leaves its idle state at the start byte and goes back there when the exchange is
over. A client that gives up in between leaves it waiting for the rest of a frame or for an
acknowledge, and the start byte of the next attempt is taken for more of the frame. Restarting
the port is nothing to it. So from there on no conversation gets anywhere and the store stays
as it is, in whatever order the clients call (`wedged_for_good`), and one channel whose command
has no bytes is enough to bring it about.
-/

namespace HeatpumpGateway

open Dialogue CommunicationService

variable {config : HeatPumpConfig} {waitingTime : Nat} {store : Dict String Bytes}
  {t t' : SimulatorTransport}

/-- The device is not idle, and has nothing to say. -/
structure Wedged (store : Dict String Bytes) (t : SimulatorTransport) : Prop where
  busy : t.simulator.state ≠ .idle
  quiet : t.rx = []
  store : t.simulator.store = store

/-- The start byte neither ends a frame nor acknowledges one. -/
theorem feed_start {sim : HeatPumpSimulator} (h : sim.state ≠ .idle) :
    ∃ sim', sim.feed [START_COMMUNICATION] = ([], sim') ∧ sim'.state ≠ .idle ∧
      sim'.store = sim.store := by
  cases hstate : sim.state with
  | idle => exact absurd hstate h
  | awaitAck =>
      refine ⟨sim, ?_, h, rfl⟩
      rw [HeatPumpSimulator.feed, HeatPumpSimulator.feedByte, hstate]
      rfl
  | collecting =>
      have hopen : isFrameEnd (sim.frameBuffer ++ [START_COMMUNICATION])
          (sim.frameBuffer ++ [START_COMMUNICATION]).length = false := by
        rw [isFrameEnd, if_pos]
        refine .inr (.inl ?_)
        rw [List.length_append, List.length_singleton, Nat.add_sub_cancel,
          List.getElem?_concat_length]
        decide
      refine ⟨{ sim with frameBuffer := sim.frameBuffer ++ [START_COMMUNICATION] }, ?_, ?_, rfl⟩
      · rw [HeatPumpSimulator.feed, HeatPumpSimulator.feedByte, hstate]
        simp only [hopen, Bool.false_eq_true, and_false, if_false]
        rfl
      · show sim.state ≠ .idle
        rw [hstate]
        decide

/-- What a wedged device can be asked and stay wedged: anything but to take another byte than
the start byte. -/
def Harmless (ev : Exchange) : Prop := ∀ data, ev.1 = .write data → data = [START_COMMUNICATION]

theorem Wedged.answered (o : Op) (h : Harmless ⟨o, (SimulatorTransport.answer o t).1⟩)
    (hwedged : Wedged store t) : Wedged store (SimulatorTransport.answer o t).2 := by
  obtain ⟨sim, rx⟩ := t
  obtain ⟨hbusy, rfl, hstore⟩ := hwedged
  cases o with
  | write data =>
      obtain rfl := h data rfl
      obtain ⟨sim', hfeed, hbusy', hstore'⟩ := feed_start hbusy
      rw [SimulatorTransport.answer]
      simp only [hfeed]
      exact ⟨hbusy', rfl, hstore'.trans hstore⟩
  | get | openPort | closePort | sleep | mark => exact ⟨hbusy, rfl, hstore⟩

theorem Wedged.follows {tr : Trace} (hwedged : Wedged store t)
    (hfollows : Follows SimulatorTransport.answer t tr t') (h : ∀ ev ∈ tr, Harmless ev) :
    Wedged store t' :=
  Follows.keeps _ (fun o _ ho hw => Wedged.answered o ho hw) hfollows h hwedged

/-! ## Programs that get nowhere -/

/-- Begun on a wedged device the program fails, and asks nothing of it that would help. -/
def Fails {α : Type} (store : Dict String Bytes) (p : Talk α) : Prop :=
  ∀ (tr : Trace) (r : Except Exc α) (t t' : SimulatorTransport), Path p tr r →
    Follows SimulatorTransport.answer t tr t' → Wedged store t →
    (∀ ev ∈ tr, Harmless ev) ∧ ∃ e, r = .error e

/-- It fails, or the device hears nothing of it. -/
def Futile (store : Dict String Bytes) {α : Type} (p : Talk α) : Prop :=
  ∀ (tr : Trace) (r : Except Exc α) (t t' : SimulatorTransport), Path p tr r →
    Follows SimulatorTransport.answer t tr t' → Wedged store t →
    (∀ ev ∈ tr, Harmless ev) ∧ ((∀ ev ∈ tr, ∃ n, ev = ⟨.sleep n, ()⟩) ∨ ∃ e, r = .error e)

theorem Fails.futile {α : Type} {p : Talk α} (h : Fails store p) : Futile store p :=
  fun tr r t t' hp hfollows hwedged =>
    ⟨(h tr r t t' hp hfollows hwedged).1, .inr (h tr r t t' hp hfollows hwedged).2⟩

theorem Fails.run {α : Type} {p : Talk α} (h : Fails store p) (hwedged : Wedged store t) :
    ∃ e t', run SimulatorTransport.answer p t = (.error e, t') ∧ Wedged store t' := by
  have hfollows := follows_run SimulatorTransport.answer p t
  obtain ⟨hall, e, he⟩ := h _ _ _ _ (path_run _ p t) hfollows hwedged
  exact ⟨e, _, Prod.ext he rfl, hwedged.follows hfollows hall⟩

theorem Fails.bind {α β : Type} {p : Talk α} (h : Fails store p) (f : α → Talk β) :
    Fails store (p >>= f) := by
  intro tr r t t' hp hfollows hwedged
  rcases Path.bind_iff.mp hp with ⟨e, rfl, hfirst⟩ | ⟨a, tr₁, tr₂, rfl, hfirst, _⟩
  · exact ⟨(h _ _ _ _ hfirst hfollows hwedged).1, e, rfl⟩
  · obtain ⟨t₁, hfollows₁, _⟩ := (follows_append _).mp hfollows
    obtain ⟨_, e, he⟩ := h _ _ _ _ hfirst hfollows₁ hwedged
    cases he

theorem Fails.ofExcept_bind {α β : Type} {x : Except Exc α} {f : α → Talk β}
    (h : ∀ a, Fails store (f a)) : Fails store (Dialogue.ofExcept x >>= f) := by
  cases x with
  | ok a => exact h a
  | error e =>
      intro tr r t t' hp _ _
      obtain ⟨rfl, rfl⟩ := Path.raise_iff.mp hp
      exact ⟨fun ev hev => (by cases hev), e, rfl⟩

theorem fails_startCommunication : Fails store Connector.startCommunication := by
  intro tr r t t' hp hfollows hwedged
  obtain ⟨sim, rx⟩ := t
  obtain ⟨hbusy, rfl, hstore⟩ := hwedged
  obtain ⟨sim', hfeed, hbusy', hstore'⟩ := feed_start hbusy
  have hanswer : SimulatorTransport.answer (.write [START_COMMUNICATION]) ⟨sim, []⟩
      = (none, ⟨sim', []⟩) := by
    rw [SimulatorTransport.answer]
    simp only [hfeed]
    rfl
  rcases path_write.mp hp with ⟨e, rfl, rfl⟩ | ⟨tr', rfl, hrest⟩
  · obtain ⟨he, _⟩ := hfollows
    rw [hanswer] at he
    cases he
  · obtain ⟨a, tr'', rfl, hlast⟩ := path_get.mp hrest
    obtain ⟨_, ha, _⟩ := hfollows
    rw [hanswer] at ha
    obtain rfl : a = none := ha
    obtain ⟨rfl, rfl⟩ := Path.raise_iff.mp hlast
    refine ⟨fun ev hev data hdata => ?_, _, rfl⟩
    rcases List.mem_pair.mp hev with rfl | rfl
    · cases hdata
      rfl
    · cases hdata

theorem fails_getData (message : Bytes) : Fails store (Connector.getData message) := by
  intro tr r t t' hp hfollows hwedged
  obtain ⟨tr', rfl, hrest⟩ := path_mark.mp hp
  obtain ⟨hall, hfailed⟩ :=
    fails_startCommunication.bind _ _ _ _ _ hrest hfollows.2 hwedged
  exact ⟨List.forall_mem_cons.mpr ⟨fun _ hdata => (by cases hdata), hall⟩, hfailed⟩

namespace Futile

theorem modular : Modular (@Futile store) := by
  refine ⟨fun a => ?_, fun e _ => ?_, fun {α β p f} hp hf => ?_⟩
  · intro tr r t t' h _ _
    obtain ⟨rfl, rfl⟩ := Path.ret_iff.mp h
    exact ⟨fun ev hev => (by cases hev), .inl fun ev hev => (by cases hev)⟩
  · intro tr r t t' h _ _
    obtain ⟨rfl, rfl⟩ := Path.raise_iff.mp h
    exact ⟨fun ev hev => (by cases hev), .inr ⟨e, rfl⟩⟩
  · intro tr r t t' h hfollows hwedged
    rcases Path.bind_iff.mp h with ⟨e, rfl, hfirst⟩ | ⟨a, tr₁, tr₂, rfl, hfirst, hrest⟩
    · exact ⟨(hp _ _ _ _ hfirst hfollows hwedged).1, .inr ⟨e, rfl⟩⟩
    · obtain ⟨t₁, hfollows₁, hfollows₂⟩ := (follows_append _).mp hfollows
      obtain ⟨hall, hwaits | ⟨e, he⟩⟩ := hp _ _ _ _ hfirst hfollows₁ hwedged
      · obtain ⟨hall', hend⟩ := hf a _ _ _ _ hrest hfollows₂ (hwedged.follows hfollows₁ hall)
        exact ⟨List.forall_mem_append.mpr ⟨hall, hall'⟩,
          hend.imp_left fun h => List.forall_mem_append.mpr ⟨hwaits, h⟩⟩
      · cases he

theorem sleep (n : Nat) : Futile store (HeatpumpGateway.sleep n) := by
  intro tr r t t' h _ _
  obtain ⟨_, _, rfl, hend⟩ := Path.ask_iff.mp h
  obtain ⟨rfl, rfl⟩ := Path.ret_iff.mp hend
  refine ⟨fun ev hev data hdata => ?_, .inl (by simp)⟩
  obtain rfl := List.mem_singleton.mp hev
  cases hdata

end Futile

/-- A restart is nothing to the simulator. -/
theorem restart_harmless {tr : Trace} {r : Except Exc Unit} (h : Path restart tr r) :
    ∀ ev ∈ tr, Harmless ev := by
  refine Within.path ?_ h
  have hchecked : ∀ o : Option LinkError, Within Harmless (Transport.checked o) := by
    intro o
    cases o <;> trivial
  refine Within.bind (fun a => ⟨fun _ hdata => (by cases hdata), hchecked a⟩) fun _ => ?_
  exact Within.bind (fun a => ⟨fun _ hdata => (by cases hdata), trivial⟩) fun _ a =>
    ⟨fun _ hdata => (by cases hdata), hchecked a⟩

theorem fails_readAttempt (request : Request) : Fails store (readAttempt waitingTime request) :=
  Fails.ofExcept_bind fun _ => (fails_getData _).bind _

/-- Each attempt fails, and so does what is left of them. -/
theorem fails_readLoop (request : Request) (attempts : Nat) :
    ∀ lastError, Fails store (readLoop waitingTime request attempts lastError) := by
  induction attempts with
  | zero =>
      intro _ tr r t t' h _ _
      obtain ⟨rfl, rfl⟩ := Path.raise_iff.mp h
      exact ⟨fun ev hev => (by cases hev), _, rfl⟩
  | succ attempts ih =>
      intro _ tr r t t' h hfollows hwedged
      rcases Path.handle_iff.mp h with ⟨values, rfl, hp⟩ | ⟨e, tr₁, tr₂, rfl, hp, hrest⟩
      · obtain ⟨_, e, he⟩ := fails_readAttempt request _ _ _ _ hp hfollows hwedged
        cases he
      · obtain ⟨t₁, hfollows₁, hfollows₂⟩ := (follows_append _).mp hfollows
        obtain ⟨hall, _⟩ := fails_readAttempt request _ _ _ _ hp hfollows₁ hwedged
        have hwedged₁ := hwedged.follows hfollows₁ hall
        have happend : (∀ ev ∈ tr₂, Harmless ev) ∧ (∃ e, r = .error e) →
            (∀ ev ∈ tr₁ ++ tr₂, Harmless ev) ∧ ∃ e, r = .error e :=
          And.imp_left fun h => List.forall_mem_append.mpr ⟨hall, h⟩
        refine happend ?_
        split at hrest
        · rcases Path.bind_iff.mp hrest with ⟨e', rfl, hre⟩ | ⟨_, tr₃, tr₄, rfl, hre, hloop⟩
          · exact ⟨restart_harmless hre, e', rfl⟩
          · obtain ⟨t₂, hfollows₃, hfollows₄⟩ := (follows_append _).mp hfollows₂
            have hwedged₂ := hwedged₁.follows hfollows₃ (restart_harmless hre)
            obtain ⟨hall', hfailed⟩ := ih _ _ _ _ _ hloop hfollows₄ hwedged₂
            exact ⟨List.forall_mem_append.mpr ⟨restart_harmless hre, hall'⟩, hfailed⟩
        · obtain ⟨rfl, rfl⟩ := Path.raise_iff.mp hrest
          exact ⟨fun ev hev => (by cases hev), e, rfl⟩

theorem futile_call (config : HeatPumpConfig) (call : ServiceCall) :
    Futile store (call.talk config waitingTime) :=
  Futile.modular.talk (fun message f => ((fails_getData message).bind f).futile)
    (Futile.sleep waitingTime) (fun request => (fails_readLoop request MAX_TRIES none).futile)
    config call

/-! ## A command without bytes -/

theorem run_awaitDataAvailable_quiet (fuel : Nat) : ∀ (retry numRead : Nat) (buffer : Bytes)
    (sim : HeatPumpSimulator),
    run SimulatorTransport.answer (Connector.awaitDataAvailable fuel retry numRead buffer) ⟨sim, []⟩
      = (.ok (false, buffer), ⟨sim, []⟩) := by
  induction fuel with
  | zero => intro _ _ _ _; rfl
  | succ fuel ih =>
      intro retry numRead buffer sim
      rw [Connector.awaitDataAvailable]
      split
      · exact ih _ _ _ _
      · rfl

/-- The message for no command is too short for a frame. -/
theorem feed_bare (sim : HeatPumpSimulator) :
    ({ sim with state := .collecting, frameBuffer := [] } : HeatPumpSimulator).feed
      (createRequestMessage [] GET)
      = ([], { sim with state := .collecting, frameBuffer := createRequestMessage [] GET }) := by
  refine HeatPumpSimulator.feed_collecting _ _ rfl fun n _ _ hcomplete => ?_
  have hsix := hcomplete.1
  have hfive : ([] ++ createRequestMessage [] GET : Bytes).length = 5 := by decide
  rw [List.length_take, hfive] at hsix
  omega

/-- An idle device is wedged by it. -/
theorem run_getData_bare {sim : HeatPumpSimulator} (hidle : sim.state = .idle) :
    ∃ e t', run SimulatorTransport.answer (Connector.getData (createRequestMessage [] GET))
        ⟨sim, []⟩ = (.error e, t') ∧ Wedged sim.store t' := by
  have hwedged : Wedged sim.store ⟨{ sim with
      state := .collecting, frameBuffer := createRequestMessage [] GET }, []⟩ :=
    ⟨SimulatorState.noConfusion, rfl, rfl⟩
  -- The device hears the message and is silent; the next start is lost on it.
  obtain ⟨e, t', hestablish, hwedged'⟩ : ∃ e t', run SimulatorTransport.answer
        (Connector.establishRequest (createRequestMessage [] GET))
        ⟨{ sim with state := .collecting, frameBuffer := [] }, []⟩ = (.error e, t') ∧
      Wedged sim.store t' := by
    rw [Connector.establishRequest, show MAX_RETRY = 4 + 1 from rfl, Connector.establishLoop,
      run_bind_ok _ (run_write _ _)]
    simp only [feed_bare, List.append_nil]
    rw [run_bind_ok _ (run_awaitDataAvailable_quiet _ _ _ _ _)]
    exact (fails_startCommunication.bind _).run hwedged
  refine ⟨e, t', ?_, hwedged'⟩
  rw [Connector.getData, mark, ask_bind, run_ask]
  change run _ (Connector.startCommunication >>= _) (⟨sim, []⟩ : SimulatorTransport) = _
  rw [run_bind_ok _ (run_startCommunication hidle), run_bind_error _ hestablish]

theorem run_readRequest_bare {sim : HeatPumpSimulator} (hidle : sim.state = .idle)
    {request : Request} (hcommand : request.requestBytes = .ok []) :
    ∃ e t', run SimulatorTransport.answer (readRequest waitingTime request) ⟨sim, []⟩
        = (.error e, t') ∧ Wedged sim.store t' := by
  obtain ⟨e, t₁, hget, hwedged⟩ := run_getData_bare hidle
  have hattempt : run SimulatorTransport.answer (readAttempt waitingTime request) ⟨sim, []⟩
      = (.error e, t₁) := by
    rw [readAttempt, hcommand]
    show run _ (Connector.getData _ >>= _) _ = _
    rw [run_bind_error _ hget]
  rw [readRequest, show MAX_TRIES = 2 + 1 from rfl, readLoop, run_handle, hattempt]
  simp only []
  split
  · exact (fails_readLoop request 2 (some e.str)).run hwedged
  · exact ⟨e, t₁, rfl, hwedged⟩

/-! ## The service on a wedged device -/

/-- The device hears nothing of the call. -/
def Unheard (config : HeatPumpConfig) (waitingTime : Nat) (call : ServiceCall)
    (r : Except Exc Body) : Prop :=
  ∃ tr, Path (Locked.whole (prepareCall config waitingTime) call) tr r ∧
    ∀ ev ∈ tr, ∃ n, ev = ⟨.sleep n, ()⟩

/-- What a call returns is made from what its conversation does. -/
theorem path_mapped {α β : Type} {p : Talk α} {f : α → β} {tr : Trace} {r : Except Exc β}
    (h : Path (do return f (← p)) tr r) : ∃ r', Path p tr r' ∧ r = r'.map f := by
  rcases Path.bind_iff.mp h with ⟨e, rfl, hp⟩ | ⟨a, tr₁, tr₂, rfl, hp, hret⟩
  · exact ⟨.error e, hp, rfl⟩
  · obtain ⟨rfl, rfl⟩ := Path.ret_iff.mp hret
    rw [List.append_nil]
    exact ⟨.ok a, hp, rfl⟩

theorem path_perform {α : Type} {prepared : Except Exc (Talk α)} {f : α → Body} {tr : Trace}
    {r : Except Exc Body} {call : ServiceCall}
    (hprepare : prepareCall config waitingTime call
      = prepared.map fun talk => do return f (← talk))
    (h : Path (Locked.whole (prepareCall config waitingTime) call) tr r) :
    ∃ r', Path (HeatPumpService.perform prepared) tr r' ∧ r = r'.map f := by
  rw [Locked.whole, hprepare] at h
  cases prepared with
  | error e =>
      obtain ⟨rfl, rfl⟩ := Path.raise_iff.mp h
      exact ⟨.error e, .raise e, rfl⟩
  | ok talk => exact path_mapped h

theorem path_whole {call : ServiceCall} {tr : Trace} {r : Except Exc Body}
    (h : Path (Locked.whole (prepareCall config waitingTime) call) tr r) :
    ∃ r' : Except Exc Unit, Path (call.talk config waitingTime) tr r' ∧
      ∀ e, r' = .error e → r = .error e := by
  have hperformed : ∀ {α : Type} {prepared : Except Exc (Talk α)} {f : α → Body},
      prepareCall config waitingTime call = prepared.map (fun talk => do return f (← talk)) →
      call.talk config waitingTime = (do let _ ← HeatPumpService.perform prepared) →
      ∃ r' : Except Exc Unit, Path (call.talk config waitingTime) tr r' ∧
        ∀ e, r' = .error e → r = .error e := by
    intro α prepared f hprepare htalk
    obtain ⟨r', hp, rfl⟩ := path_perform hprepare h
    refine ⟨r'.map fun _ => (), htalk ▸ path_discard hp, fun e he => ?_⟩
    rw [Fallible.map_eq_error.mp he]
    rfl
  cases call with
  | readChannel | readChannels | writeChannel | readAll | getVersion | setTime =>
      exact hperformed rfl rfl

/-- A call on a wedged device fails, or the device hears nothing of it. -/
theorem whole_wedged (config : HeatPumpConfig) (waitingTime : Nat) (call : ServiceCall)
    (hwedged : Wedged store t) :
    ((∃ e, (run SimulatorTransport.answer (Locked.whole (prepareCall config waitingTime) call) t).1
        = .error e) ∨
      Unheard config waitingTime call (run SimulatorTransport.answer
        (Locked.whole (prepareCall config waitingTime) call) t).1) ∧
    ∀ ev ∈ trace SimulatorTransport.answer
      (Locked.whole (prepareCall config waitingTime) call) t, Harmless ev := by
  have hpath := path_run SimulatorTransport.answer
    (Locked.whole (prepareCall config waitingTime) call) t
  obtain ⟨r', htalk, herror⟩ := path_whole hpath
  obtain ⟨hall, hsleeps | ⟨e, he⟩⟩ :=
    futile_call config call _ _ _ _ htalk (follows_run _ _ t) hwedged
  · exact ⟨.inr ⟨_, hpath, hsleeps⟩, hall⟩
  · exact ⟨.inl ⟨e, herror e he⟩, hall⟩

/-- Reading a channel whose command has no bytes fails and wedges an idle device. -/
theorem run_readChannel_bare {sim : HeatPumpSimulator} (hidle : sim.state = .idle)
    {channelId : String} {request : Request}
    (hrequest : config.requestForChannel channelId = some request)
    (hcommand : request.requestBytes = .ok []) :
    ∃ e t', run SimulatorTransport.answer
        (Locked.whole (prepareCall config waitingTime) (.readChannel channelId)) ⟨sim, []⟩
          = (.error e, t') ∧ Wedged sim.store t' := by
  obtain ⟨e, t', hread, hwedged⟩ := @run_readRequest_bare waitingTime _ hidle _ hcommand
  obtain ⟨record, hrecord⟩ : ∃ record, config.channel channelId = some record := by
    refine Option.ne_none_iff_exists'.mp fun hnone => channel_eq_none_iff.mp hnone ?_
    rw [HeatPumpConfig.requestForChannel] at hrequest
    have hfound := List.find?_some hrequest
    obtain ⟨found, hin, hid⟩ := List.any_eq_true.mp hfound
    obtain rfl : found.channelId = channelId := of_decide_eq_true hid
    have hmem := (HeatPumpConfig.mem_records (List.mem_of_find?_eq_some hrequest)).mp hin
    exact List.mem_map_of_mem hmem.1
  obtain ⟨toValue, hprepared⟩ : ∃ toValue : Dict String DecodedValue → Talk ChannelValue,
      HeatPumpService.prepareReadChannel config waitingTime channelId
        = .ok (readRequest waitingTime request >>= toValue) := by
    rw [HeatPumpService.prepareReadChannel, HeatPumpService.requireChannel, hrecord, hrequest]
    exact ⟨_, rfl⟩
  refine ⟨e, t', ?_, hwedged⟩
  have hwhole := @run_whole _ _ _ (prepareCall config waitingTime) (.readChannel channelId)
    (HeatPumpService.prepareReadChannel config waitingTime channelId) Body.value rfl ⟨sim, []⟩
  rw [hwhole, hprepared, HeatPumpService.perform, run_bind_error _ hread]
  rfl

theorem serial_wedged {config : HeatPumpConfig} {log : List (ServiceCall × Except Exc Body)}
    (h : Locked.Serial SimulatorTransport.answer (prepareCall config waitingTime) t log t')
    (hwedged : Wedged store t) :
    (∀ entry ∈ log, (∃ e, entry.2 = .error e) ∨ Unheard config waitingTime entry.1 entry.2) ∧
      Wedged store t' := by
  refine h.keeps (I := Wedged store)
    (Q := fun call r => (∃ e, r = .error e) ∨ Unheard config waitingTime call r) ?_ hwedged
  intro call t hw
  obtain ⟨hresult, hall⟩ := whole_wedged config waitingTime call hw
  exact ⟨hresult, hw.follows (follows_run _ _ t) hall⟩

/-- Half way through a call the device is as wedged as before it. -/
theorem always_wedged {ι : Type} {config : HeatPumpConfig}
    {log : List (ServiceCall × Except Exc Body)}
    {s : Locked.System Op Op.Ans Exc Body SimulatorTransport ServiceCall ι}
    (h : Locked.Accounted SimulatorTransport.answer (prepareCall config waitingTime) t log s)
    (hrest : ∀ rest, Locked.Serial SimulatorTransport.answer (prepareCall config waitingTime) t log
      rest → Wedged store rest) : Wedged store s.device :=
  h.always (fun o _ ho hw => Wedged.answered o ho hw)
    (fun call _ hw => (whole_wedged config waitingTime call hw).2) hrest

/-- Once it is wedged a device stays so: in whatever order the clients call, each call fails or
is none of the device's business, and at every moment the device stores what it stored. -/
theorem wedged_for_good {ι : Type} [DecidableEq ι] {config : HeatPumpConfig}
    (hwedged : Wedged store t) {history : List (Locked.Event ι ServiceCall Exc Body)}
    {s : Locked.System Op Op.Ans Exc Body SimulatorTransport ServiceCall ι}
    (h : Locked.Reachable SimulatorTransport.answer (prepareCall config waitingTime) t history s) :
    (∀ entry ∈ Locked.served history,
      (∃ e, entry.2 = .error e) ∨ Unheard config waitingTime entry.1 entry.2) ∧
    s.device.simulator.store = store := by
  have haccount := h.serial
  have hstore := (always_wedged haccount fun _ hserial => (serial_wedged hserial hwedged).2).store
  obtain ⟨_, hserial, _⟩ := haccount
  exact ⟨(serial_wedged hserial hwedged).1, hstore⟩

/-- A client has asked a device at rest for the room's temperature, and gone away when it had
heard that there is an answer. -/
def abandoned (sim : HeatPumpSimulator) : SimulatorTransport :=
  { simulator := (sim.feed (START_COMMUNICATION :: roomTempRequest)).2 }

theorem wedged_for_good_abandoned : ∃ created history s r,
    HeatPumpSimulator.create roomTempsConfig [] = .ok created ∧
    Locked.Reachable SimulatorTransport.answer (prepareCall roomTempsConfig 0)
      (abandoned created) history
      (s : Locked.System Op Op.Ans Exc Body SimulatorTransport ServiceCall Bool) ∧
    Locked.served history = [(.readChannel "p01RoomTempDay", r)] ∧
    ((∃ e, r = .error e) ∨ Unheard roomTempsConfig 0 (.readChannel "p01RoomTempDay") r) ∧
    s.device.simulator.store = created.store := by
  have hleft : (HeatPumpSimulator.create roomTempsConfig []).toOption.map (fun sim =>
      ((abandoned sim).simulator.state, decide ((abandoned sim).simulator.store = sim.store)))
      = some (.awaitAck, true) := by
    decide +kernel
  obtain ⟨created, hcreated, hleft⟩ := Option.map_eq_some_iff.mp hleft
  obtain ⟨hstate, hkept⟩ := Prod.mk.inj hleft
  have hwedged : Wedged created.store (abandoned created) :=
    ⟨by rw [hstate]; decide, rfl, of_decide_eq_true hkept⟩
  obtain ⟨p, hp⟩ : ∃ p, prepareCall roomTempsConfig 0 (.readChannel "p01RoomTempDay") = .ok p := by
    have hok : (prepareCall roomTempsConfig 0
        (.readChannel "p01RoomTempDay")).toOption.isSome := by decide +kernel
    exact Option.isSome_iff_exists.mp hok |>.imp fun _ h => Fallible.toOption_eq_some.mp h
  have hstart : Locked.Reachable SimulatorTransport.answer (prepareCall roomTempsConfig 0)
      (abandoned created) []
      { device := abandoned created, phase := fun _ : Bool => .away } := .start
  have hread := ((hstart.step (.invoke false (.readChannel "p01RoomTempDay") rfl)).step
    (.acquire false _ p rfl hp rfl)).serve rfl
  obtain ⟨hall, hstore⟩ := wedged_for_good hwedged hread
  exact ⟨created, _, _, _, Fallible.toOption_eq_some.mp hcreated, hread, rfl,
    hall _ (List.mem_singleton.mpr rfl), hstore⟩

/-- One channel whose command has no bytes is enough: from a read of it on, a device that was at
rest, as a fresh one is, serves nobody. -/
theorem empty_command_wedges {ι : Type} [DecidableEq ι] {config : HeatPumpConfig}
    {seeds : Dict String DecodedValue} {created : HeatPumpSimulator}
    (hcreated : HeatPumpSimulator.create config seeds = .ok created)
    {channelId : String} {request : Request}
    (hrequest : config.requestForChannel channelId = some request)
    (hcommand : request.requestBytes = .ok [])
    {history : List (Locked.Event ι ServiceCall Exc Body)}
    {s : Locked.System Op Op.Ans Exc Body SimulatorTransport ServiceCall ι}
    (h : Locked.Reachable SimulatorTransport.answer (prepareCall config waitingTime)
      { simulator := created } history s)
    {r : Except Exc Body} {before later : List (ServiceCall × Except Exc Body)}
    (hserved : Locked.served history = before ++ (.readChannel channelId, r) :: later)
    (hatRest : before ≠ [] → ∀ t, Locked.Serial SimulatorTransport.answer
      (prepareCall config waitingTime) { simulator := created } before t →
        t.simulator.state = .idle ∧ t.rx = []) :
    ∃ t, Locked.Serial SimulatorTransport.answer (prepareCall config waitingTime)
        { simulator := created } before t ∧
      (∃ e, r = .error e) ∧
      (∀ entry ∈ later,
        (∃ e, entry.2 = .error e) ∨ Unheard config waitingTime entry.1 entry.2) ∧
      s.device.simulator.store = t.simulator.store := by
  have haccount := h.serial
  rw [hserved] at haccount
  obtain ⟨_, hserial, _⟩ := id haccount
  obtain ⟨⟨sim, rx⟩, hbefore, hrest⟩ := Locked.serial_append.mp hserial
  obtain ⟨hidle, rfl⟩ : sim.state = .idle ∧ rx = [] := by
    by_cases hnone : before = []
    · subst hnone
      cases hbefore
      exact ⟨(HeatPumpSimulator.create_tables hcreated).1, rfl⟩
    · exact hatRest hnone _ hbefore
  -- What the read leaves, and so what every run of the served calls leaves.
  have hwedges : ∀ {t' : SimulatorTransport}, Locked.Serial SimulatorTransport.answer
        (prepareCall config waitingTime) ⟨sim, []⟩ ((.readChannel channelId, r) :: later) t' →
      (∃ e, r = .error e) ∧ (∀ entry ∈ later,
        (∃ e, entry.2 = .error e) ∨ Unheard config waitingTime entry.1 entry.2) ∧
      Wedged sim.store t' := by
    intro _ hlog
    cases hlog with
    | cons hrun hlater =>
        obtain ⟨e, t', hfailed, hwedged⟩ :=
          @run_readChannel_bare config waitingTime sim hidle _ _ hrequest hcommand
        obtain ⟨rfl, rfl⟩ := Prod.mk.inj (hfailed.symm.trans hrun)
        exact ⟨⟨e, rfl⟩, serial_wedged hlater hwedged⟩
  obtain ⟨hfailed, hall, _⟩ := hwedges hrest
  refine ⟨⟨sim, []⟩, hbefore, hfailed, hall, (always_wedged haccount fun rest hany => ?_).store⟩
  obtain ⟨t', hbefore', hrest'⟩ := Locked.serial_append.mp hany
  obtain rfl := hbefore.unique hbefore'
  exact (hwedges hrest').2.2

/-- A channel somebody left without a command. -/
def spareChannel : ChannelDefinition :=
  { channelId := "spare", requestByte := "", dataType := .sensor, position := 3, length := 1 }

def spareConfig : HeatPumpConfig := { channels := [roomTempDay, spareChannel] }

def spareRequest : Request :=
  { requestByte := "", requestByte2 := none, records := [spareChannel] }

/-- The room's temperature is read, then the spare channel, and then nothing any more. -/
theorem empty_command_wedges_spare : ∃ created history s r r' r'',
    HeatPumpSimulator.create spareConfig [] = .ok created ∧
    Locked.Reachable SimulatorTransport.answer (prepareCall spareConfig 0)
      { simulator := created } history
      (s : Locked.System Op Op.Ans Exc Body SimulatorTransport ServiceCall Unit) ∧
    Locked.served history = [(.readChannel "p01RoomTempDay", .ok r), (.readChannel "spare", r'),
      (.readChannel "p01RoomTempDay", r'')] ∧
    (∃ e, r' = .error e) ∧
    ((∃ e, r'' = .error e) ∨ Unheard spareConfig 0 (.readChannel "p01RoomTempDay") r'') := by
  have hfirst : (HeatPumpSimulator.create spareConfig []).toOption.map (fun sim =>
      let answered := run SimulatorTransport.answer (Locked.whole (prepareCall spareConfig 0)
        (.readChannel "p01RoomTempDay")) { simulator := sim }
      (answered.1.toOption.isSome, answered.2.simulator.state, answered.2.rx))
      = some (true, .idle, []) := by
    decide +kernel
  obtain ⟨created, hcreated, hfirst⟩ := Option.map_eq_some_iff.mp hfirst
  simp only [Prod.mk.injEq] at hfirst
  obtain ⟨hok, hidle, hquiet⟩ := hfirst
  obtain ⟨r, hr⟩ := Option.isSome_iff_exists.mp hok
  have hread := Fallible.toOption_eq_some.mp hr
  have hbefore : Locked.Serial SimulatorTransport.answer (prepareCall spareConfig 0)
      { simulator := created } [(.readChannel "p01RoomTempDay", .ok r)] _ :=
    .cons (Prod.ext hread rfl) (.nil _)
  obtain ⟨r', r'', _, hserial⟩ : ∃ r' r'' t, Locked.Serial SimulatorTransport.answer
      (prepareCall spareConfig 0) { simulator := created }
      [(.readChannel "p01RoomTempDay", .ok r), (.readChannel "spare", r'),
        (.readChannel "p01RoomTempDay", r'')] t :=
    ⟨_, _, _, (hbefore.next (.readChannel "spare")).next (.readChannel "p01RoomTempDay")⟩
  obtain ⟨history, s, hreach, hserved⟩ := hserial.reachable () .start rfl rfl rfl
  have hrequest : spareConfig.requestForChannel "spare" = some spareRequest := by decide +kernel
  have hatRest : ∀ t, Locked.Serial SimulatorTransport.answer (prepareCall spareConfig 0)
      { simulator := created } [(.readChannel "p01RoomTempDay", .ok r)] t →
        t.simulator.state = .idle ∧ t.rx = [] := by
    intro t ht
    obtain rfl := hbefore.unique ht
    exact ⟨hidle, hquiet⟩
  obtain ⟨_, _, hfailed, hlater, _⟩ := @empty_command_wedges 0 _ _ _ _ _
    (Fallible.toOption_eq_some.mp hcreated) _ _ hrequest (by decide +kernel) _ _ hreach r'
    [(.readChannel "p01RoomTempDay", .ok r)] [(.readChannel "p01RoomTempDay", r'')] hserved
    fun _ => hatRest
  exact ⟨created, history, s, r, r', r'', Fallible.toOption_eq_some.mp hcreated, hreach, hserved,
    hfailed, hlater _ (List.mem_singleton.mpr rfl)⟩

end HeatpumpGateway
