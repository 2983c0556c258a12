import HeatpumpGateway.Proofs.Faults

/-!
# The flag and the port

The service has a flag that is to say whether the transport is open. `connect` and `close`
keep it; the retry loop two layers below closes the transport and opens it again, and knows
nothing of the flag.

The file follows both through every sequence of operations and says when they agree.
-/

namespace HeatpumpGateway
open CommunicationService Dialogue Fallible

variable {α β : Type} {waitingTime : Nat}

/-! ## What leaves the port alone -/

/-- An `open` or a `close` that is refused. -/
def isLost : Exchange → Bool
  | ⟨.openPort, some _⟩ => true
  | ⟨.closePort, some _⟩ => true
  | _ => false

def LeavesPort (ev : Exchange) : Prop := ev.1 ≠ .openPort ∧ ev.1 ≠ .closePort

theorem LeavesPort.not_lost {ev : Exchange} (h : LeavesPort ev) : isLost ev = false := by
  obtain ⟨o, a⟩ := ev
  cases o with
  | openPort => exact absurd rfl h.1
  | closePort => exact absurd rfl h.2
  | write _ | get | sleep _ | mark _ => rfl

theorem LeavesPort.after {ev : Exchange} (h : LeavesPort ev) :
    ∀ b b', SerialTransport.after b ev = some b' → b' = b := by
  intro b b' hafter
  obtain ⟨o, a⟩ := ev
  cases o with
  | openPort => exact absurd rfl h.1
  | closePort => exact absurd rfl h.2
  | get | sleep _ | mark _ =>
      cases hafter
      rfl
  | write data =>
      rcases a with _ | _ | _ <;> cases b <;> cases hafter <;> rfl

theorem leavesPort_get (a : Option UInt8) : LeavesPort ⟨.get, a⟩ := by
  simp [LeavesPort]

theorem leavesPort_write (data : Bytes) (a : Option LinkError) :
    LeavesPort ⟨.write data, a⟩ := by
  simp [LeavesPort]

theorem leavesPort_handshaking (message : Bytes) : Handshaking message LeavesPort :=
  ⟨leavesPort_write _, leavesPort_write _, leavesPort_get⟩

theorem receiveLoop_leavesPort (fuel : Nat) :
    ∀ retry buffer, Within LeavesPort (Connector.receiveLoop fuel retry buffer) := by
  induction fuel with
  | zero => intro _ _; trivial
  | succ fuel ih =>
      intro retry buffer
      rw [Connector.receiveLoop]
      split
      · refine Within.bind (within_get leavesPort_get) fun a => ?_
        cases a with
        | none => exact ih _ _
        | some b =>
            simp only []
            split
            · trivial
            · split
              · trivial
              · exact ih _ _
      · trivial

theorem receiveData_leavesPort : Within LeavesPort Connector.receiveData :=
  Within.bind (receiveLoop_leavesPort _ _ _) fun _ => trivial

theorem mark_leavesPort (m : Mark) : Within LeavesPort (mark m) :=
  fun _ => ⟨by simp [LeavesPort], trivial⟩

theorem sleep_leavesPort (n : Nat) : Within LeavesPort (HeatpumpGateway.sleep n) :=
  fun _ => ⟨by simp [LeavesPort], trivial⟩

theorem acknowledge_leavesPort : Within LeavesPort (Transport.write [ESCAPE]) :=
  within_write (leavesPort_write _)

theorem getData_leavesPort (message : Bytes) : Within LeavesPort (Connector.getData message) := by
  have hhandshake := leavesPort_handshaking message
  refine Within.bind (mark_leavesPort _) fun _ =>
    Within.bind hhandshake.startCommunication fun _ =>
    Within.bind hhandshake.establishRequest fun established => ?_
  refine Within.bind ?_ fun _ => Within.bind (mark_leavesPort _) fun _ => trivial
  split
  · trivial
  · exact Within.handle (Within.bind acknowledge_leavesPort fun _ => receiveData_leavesPort)
      fun _ => trivial

theorem setData_leavesPort (message : Bytes) : Within LeavesPort (Connector.setData message) := by
  have hhandshake := leavesPort_handshaking message
  refine Within.bind (mark_leavesPort _) fun _ => Within.bind ?_ fun transmitted => ?_
  · exact Within.handle (Within.bind hhandshake.startCommunication fun _ =>
      Within.bind hhandshake.establishRequest fun _ =>
      Within.bind acknowledge_leavesPort fun _ => trivial) fun _ => trivial
  · refine Within.bind ?_ fun _ => Within.bind (mark_leavesPort _) fun _ => trivial
    split
    · trivial
    · exact receiveData_leavesPort

theorem ofExcept_leavesPort (x : Except Exc α) : Within LeavesPort (.ofExcept x : Talk α) := by
  cases x <;> trivial

theorem readAttempt_leavesPort (request : Request) :
    Within LeavesPort (readAttempt waitingTime request) := by
  refine Within.bind (ofExcept_leavesPort _) fun command =>
    Within.bind (getData_leavesPort _) fun response => ?_
  split
  · trivial
  · refine Within.bind (ofExcept_leavesPort _) fun second => ?_
    cases second with
    | none => exact ofExcept_leavesPort _
    | some command2 =>
        refine Within.bind (sleep_leavesPort _) fun _ =>
          Within.bind (getData_leavesPort _) fun response2 => ?_
        split
        · trivial
        · exact ofExcept_leavesPort _

theorem writeValues_leavesPort (items : List (DecodedValue × ChannelDefinition)) :
    Within LeavesPort (writeValues waitingTime items) := by
  rcases items with _ | ⟨⟨v, record⟩, items⟩
  · trivial
  · refine Within.bind (ofExcept_leavesPort _) fun command =>
      Within.bind (getData_leavesPort _) fun reply => ?_
    split
    · trivial
    · split
      · trivial
      · refine Within.bind (ofExcept_leavesPort _) fun frame =>
          Within.bind (sleep_leavesPort _) fun _ =>
          Within.bind (setData_leavesPort _) fun setReply => ?_
        split
        · exact ofExcept_leavesPort _
        · split
          · exact Within.bind (ofExcept_leavesPort _) fun _ => trivial
          · trivial

theorem setTimeViaRegisters_leavesPort (clockRecords : Dict String ChannelDefinition)
    (values : Dict String DecodedValue) (fields : List String) : ∀ written,
    Within LeavesPort (setTimeViaRegisters waitingTime clockRecords values fields written) := by
  induction fields with
  | nil => intro _; trivial
  | cons field fields ih =>
      intro written
      rw [setTimeViaRegisters]
      split
      · exact Within.bind (writeValues_leavesPort _) fun _ =>
          Within.bind (sleep_leavesPort _) fun _ => ih _
      · exact ih _

theorem setTimeViaFrame_leavesPort (request : Request) (values : Dict String DecodedValue) :
    Within LeavesPort (setTimeViaFrame waitingTime request values) := by
  refine Within.bind (ofExcept_leavesPort _) fun command =>
    Within.bind (getData_leavesPort _) fun reply => ?_
  split
  · trivial
  · exact Within.bind (ofExcept_leavesPort _) fun _ =>
      Within.bind (sleep_leavesPort _) fun _ =>
      Within.bind (setData_leavesPort _) fun _ =>
      Within.bind (sleep_leavesPort _) fun _ => trivial

theorem readClock_leavesPort (readRequest : Option Request) :
    Within LeavesPort (readClock readRequest) := by
  cases readRequest with
  | none => trivial
  | some request =>
      refine Within.bind (ofExcept_leavesPort _) fun command =>
        Within.bind (getData_leavesPort _) fun reply => ?_
      split
      · exact ofExcept_leavesPort _
      · trivial

theorem setTime_leavesPort (now : DateTime) (readRequest : Option Request)
    (clockRecords : Dict String ChannelDefinition) :
    Within LeavesPort (CommunicationService.setTime waitingTime now readRequest clockRecords) := by
  unfold CommunicationService.setTime
  simp only []
  split
  · exact Within.bind (setTimeViaRegisters_leavesPort _ _ _ _) fun _ =>
      Within.bind (readClock_leavesPort _) fun _ => trivial
  · cases readRequest with
    | none => trivial
    | some request =>
        exact Within.bind (setTimeViaFrame_leavesPort _ _) fun _ =>
          Within.bind (readClock_leavesPort _) fun _ => trivial

/-! ## What becomes of the port -/

/-- The port is as it was; or it was open and is not, as the program's last step, an `open`
or a `close`, was refused. -/
def Kept (p : Talk α) : Prop :=
  ∀ (tr : Trace) (r : Except Exc α) (b b' : Bool), Path p tr r →
    Takes SerialTransport.after b tr b' →
    ((∀ ev ∈ tr, isLost ev = false) ∧ b' = b) ∨
      ((∃ ev ∈ tr, isLost ev = true) ∧ b = true ∧ b' = false ∧ ∃ e : LinkError, r = .error e.toExc)

namespace Kept

theorem of_leavesPort {p : Talk α} (h : Within LeavesPort p) : Kept p := by
  intro tr r b b' hpath htakes
  have hleaves := h.path hpath
  exact .inl ⟨fun ev hev => (hleaves ev hev).not_lost,
    takes_unchanged _ (fun ev hev => (hleaves ev hev).after) htakes⟩

theorem ret (a : α) : Kept (.ret a : Talk α) := of_leavesPort trivial

theorem raise (e : Exc) : Kept (.raise e : Talk α) := of_leavesPort trivial

theorem bind {p : Talk α} {f : α → Talk β} (hp : Kept p) (hf : ∀ a, Kept (f a)) :
    Kept (p >>= f) := by
  intro tr r b b' hpath htakes
  rcases Path.bind_iff.mp hpath with ⟨e, rfl, hp'⟩ | ⟨a, tr₁, tr₂, rfl, hp₁, hp₂⟩
  · rcases hp _ _ _ _ hp' htakes with hkept | ⟨hlost, hb, hb', e', he'⟩
    · exact .inl hkept
    · cases he'
      exact .inr ⟨hlost, hb, hb', e', rfl⟩
  · obtain ⟨b₁, htakes₁, htakes₂⟩ := (takes_append _).mp htakes
    rcases hp _ _ _ _ hp₁ htakes₁ with ⟨hquiet, rfl⟩ | ⟨_, _, _, _, he⟩
    · rcases hf a _ _ _ _ hp₂ htakes₂ with ⟨hquiet₂, hb'⟩ | ⟨⟨ev, hev, hlost⟩, hrest⟩
      · refine .inl ⟨fun ev hev => ?_, hb'⟩
        rcases List.mem_append.mp hev with hev | hev
        · exact hquiet ev hev
        · exact hquiet₂ ev hev
      · exact .inr ⟨⟨ev, List.mem_append_right _ hev, hlost⟩, hrest⟩
    · cases he

end Kept

/-- A port that is not open refuses the first write of a conversation. -/
theorem startCommunication_closed {tr : Trace} {r : Except Exc Unit} {b : Bool}
    (h : Path Connector.startCommunication tr r)
    (htakes : Takes SerialTransport.after false tr b) :
    r = .error LinkError.notOpen.toExc := by
  rw [Connector.startCommunication] at h
  rcases path_write.mp h with ⟨e, rfl, rfl⟩ | ⟨tr', rfl, _⟩
  · obtain ⟨b₁, hwrite, _⟩ := (takes_cons _).mp htakes
    cases e with
    | os text => cases hwrite
    | notOpen => rfl
  · obtain ⟨b₁, hwrite, _⟩ := (takes_cons _).mp htakes
    cases hwrite

theorem getData_closed {message : Bytes} {tr : Trace} {r : Except Exc Bytes} {b : Bool}
    (h : Path (Connector.getData message) tr r)
    (htakes : Takes SerialTransport.after false tr b) :
    r = .error LinkError.notOpen.toExc := by
  rw [Connector.getData] at h
  obtain ⟨tr', rfl, hrest⟩ := path_mark.mp h
  obtain ⟨b₁, hmark, htakes'⟩ := (takes_cons _).mp htakes
  cases hmark
  rcases Path.bind_iff.mp hrest with ⟨e, rfl, hstart⟩ | ⟨_, tr₁, tr₂, rfl, hstart, _⟩
  · cases startCommunication_closed hstart htakes'
    rfl
  · obtain ⟨b₂, hfirst, _⟩ := (takes_append _).mp htakes'
    cases startCommunication_closed hstart hfirst

/-- The retry loop does not take that for a fault of the protocol. -/
theorem readAttempt_closed {request : Request} {tr : Trace}
    {r : Except Exc (Dict String DecodedValue)} {b : Bool}
    (h : Path (readAttempt waitingTime request) tr r)
    (htakes : Takes SerialTransport.after false tr b) :
    ∃ e, r = .error e ∧ e.isProtocolError = false := by
  rw [readAttempt] at h
  cases hcommand : request.requestBytes with
  | error e =>
      rw [hcommand] at h
      obtain ⟨_, rfl⟩ := Path.raise_iff.mp h
      obtain ⟨why, rfl⟩ := fromHex_error hcommand
      exact ⟨_, rfl, rfl⟩
  | ok command =>
      rw [hcommand] at h
      simp only [ofExcept_ok, ret_bind] at h
      rcases Path.bind_iff.mp h with ⟨e, rfl, hread⟩ | ⟨reply, tr₁, tr₂, rfl, hread, _⟩
      · cases getData_closed hread htakes
        exact ⟨_, rfl, rfl⟩
      · obtain ⟨b₁, htakes₁, _⟩ := (takes_append _).mp htakes
        cases getData_closed hread htakes₁

/-- A restart of an open port opens it again, or leaves it closed. -/
theorem restart_port {tr : Trace} {r : Except Exc Unit} {b : Bool} (h : Path restart tr r)
    (htakes : Takes SerialTransport.after true tr b) :
    ((∀ ev ∈ tr, isLost ev = false) ∧ b = true) ∨
      ((∃ ev ∈ tr, isLost ev = true) ∧ b = false ∧ ∃ e : LinkError, r = .error e.toExc) := by
  rw [restart, Transport.closePort, ask_bind, Path.ask_iff] at h
  obtain ⟨a, tr', rfl, hclosed⟩ := h
  obtain ⟨b₁, hclose, htakes'⟩ := (takes_cons _).mp htakes
  cases a with
  | some e =>
      cases hclose
      obtain ⟨rfl, rfl⟩ := Path.raise_iff.mp hclosed
      cases (takes_nil _).mp htakes'
      exact .inr ⟨⟨_, List.mem_cons_self, rfl⟩, rfl, e, rfl⟩
  | none =>
      cases hclose
      obtain ⟨tr₂, rfl, hopen⟩ := path_sleep.mp hclosed
      obtain ⟨b₂, hsleep, htakes₂⟩ := (takes_cons _).mp htakes'
      cases hsleep
      rw [Transport.openPort, Path.ask_iff] at hopen
      obtain ⟨a, tr₃, rfl, hend⟩ := hopen
      obtain ⟨b₃, hafter, htakes₃⟩ := (takes_cons _).mp htakes₂
      cases a with
      | some e =>
          cases hafter
          obtain ⟨rfl, rfl⟩ := Path.raise_iff.mp hend
          cases (takes_nil _).mp htakes₃
          exact .inr ⟨⟨⟨.openPort, some e⟩, by simp, rfl⟩, rfl, e, rfl⟩
      | none =>
          cases hafter
          obtain ⟨rfl, rfl⟩ := Path.ret_iff.mp hend
          cases (takes_nil _).mp htakes₃
          exact .inl ⟨by simp [isLost], rfl⟩

theorem quiet_append {tr tr' : Trace} (h : ∀ ev ∈ tr, isLost ev = false)
    (h' : ∀ ev ∈ tr', isLost ev = false) : ∀ ev ∈ tr ++ tr', isLost ev = false := by
  intro ev hev
  rcases List.mem_append.mp hev with hev | hev
  · exact h ev hev
  · exact h' ev hev

theorem lost_append {tr tr' : Trace} (h : ∃ ev ∈ tr', isLost ev = true) :
    ∃ ev ∈ tr ++ tr', isLost ev = true := by
  obtain ⟨ev, hev, hlost⟩ := h
  exact ⟨ev, List.mem_append_right _ hev, hlost⟩

/-- An attempt that is retried found the port open, so the restart closes an open port. -/
theorem readLoop_kept (request : Request) (attempts : Nat) :
    ∀ lastError, Kept (readLoop waitingTime request attempts lastError) := by
  induction attempts with
  | zero => exact fun _ => Kept.raise _
  | succ attempts ih =>
      intro lastError tr r b b' hpath htakes
      rw [readLoop] at hpath
      have hattempt := @readAttempt_leavesPort waitingTime request
      rcases Path.handle_iff.mp hpath with ⟨values, rfl, hp⟩ | ⟨e, tr₁, tr₂, rfl, hp, hrest⟩
      · exact Kept.of_leavesPort hattempt _ _ _ _ hp htakes
      obtain ⟨b₁, htakes₁, htakes₂⟩ := (takes_append _).mp htakes
      have hleaves := hattempt.path hp
      have hquiet : ∀ ev ∈ tr₁, isLost ev = false := fun ev hev => (hleaves ev hev).not_lost
      obtain rfl := takes_unchanged _ (fun ev hev => (hleaves ev hev).after) htakes₁
      split at hrest
      · next hprotocol =>
          cases b₁ with
          | false =>
              obtain ⟨e', he, hno⟩ := readAttempt_closed hp htakes₁
              cases he
              rw [hprotocol] at hno
              cases hno
          | true =>
              rcases Path.bind_iff.mp hrest with
                ⟨e', rfl, hrestart⟩ | ⟨_, tr₃, tr₄, rfl, hrestart, hloop⟩
              · rcases restart_port hrestart htakes₂ with ⟨hquiet₂, hb⟩ | ⟨hlost, hb, he⟩
                · exact .inl ⟨quiet_append hquiet hquiet₂, hb⟩
                · obtain ⟨e'', he''⟩ := he
                  cases he''
                  exact .inr ⟨lost_append hlost, rfl, hb, e'', rfl⟩
              · obtain ⟨b₂, htakes₃, htakes₄⟩ := (takes_append _).mp htakes₂
                rcases restart_port hrestart htakes₃ with ⟨hquiet₂, rfl⟩ | ⟨_, _, _, he⟩
                · rcases ih _ _ _ _ _ hloop htakes₄ with ⟨hquiet₃, hb⟩ | ⟨hlost, hrest⟩
                  · exact .inl ⟨quiet_append hquiet (quiet_append hquiet₂ hquiet₃), hb⟩
                  · exact .inr ⟨lost_append (lost_append hlost), hrest⟩
                · cases he
      · obtain ⟨rfl, rfl⟩ := Path.raise_iff.mp hrest
        cases (takes_nil _).mp htakes₂
        rw [List.append_nil]
        exact .inl ⟨hquiet, rfl⟩

theorem readRequestsFrom_kept (requests : List Request) :
    ∀ data, Kept (readRequestsFrom waitingTime requests data) := by
  induction requests with
  | nil => exact fun _ => Kept.ret _
  | cons request rest ih =>
      intro data
      refine Kept.bind (readLoop_kept _ _ _) fun values => ?_
      simp only []
      split
      · exact Kept.ret _
      · exact Kept.bind (Kept.of_leavesPort (sleep_leavesPort _)) fun _ => ih _

/-! ## The calls -/

theorem perform_kept {prepared : Except Exc (Talk α)}
    (h : ∀ talk, prepared = .ok talk → Kept talk) : Kept (HeatPumpService.perform prepared) := by
  cases prepared with
  | error e => exact Kept.raise e
  | ok talk => exact h talk rfl

/-- Every call keeps the port, or loses it in a restart. -/
theorem call_kept (config : HeatPumpConfig) (call : ServiceCall) :
    Kept (call.talk config waitingTime) := by
  cases call with
  | readChannel channelId =>
      refine Kept.bind (perform_kept fun talk htalk => ?_) fun _ => Kept.ret _
      obtain ⟨record, _, hrest⟩ := bind_eq_ok.mp htalk
      cases hrest
      split
      · exact Kept.raise _
      · refine Kept.bind (readLoop_kept _ _ _) fun data => ?_
        split
        · exact Kept.raise _
        · exact Kept.ret _
  | readChannels channelIds =>
      refine Kept.bind (perform_kept fun talk htalk => ?_) fun _ => Kept.ret _
      rw [HeatPumpService.prepareReadChannels] at htalk
      split at htalk
      · cases htalk
      · cases htalk
        exact Kept.bind (readRequestsFrom_kept _ _) fun _ => Kept.ret _
  | readAll dataTypes =>
      refine Kept.bind ?_ fun _ => Kept.ret _
      exact Kept.bind (readRequestsFrom_kept _ _) fun _ => Kept.ret _
  | getVersion =>
      refine Kept.bind (perform_kept fun talk htalk => ?_) fun _ => Kept.ret _
      rw [HeatPumpService.prepareGetVersion] at htalk
      split at htalk
      · cases htalk
        exact Kept.ret _
      · cases htalk
        refine Kept.bind (readLoop_kept _ _ _) fun data => ?_
        split
        · exact Kept.ret _
        · exact Kept.ret _
  | setTime now =>
      refine Kept.bind ?_ fun _ => Kept.ret _
      exact Kept.of_leavesPort (setTime_leavesPort _ _ _)
  | writeChannel channelId value =>
      refine Kept.bind (perform_kept fun talk htalk => ?_) fun _ => Kept.ret _
      obtain ⟨record, _, hrest⟩ := bind_eq_ok.mp htalk
      split at hrest
      · cases hrest
      · obtain ⟨coerced, _, hret⟩ := bind_eq_ok.mp hrest
        cases hret
        exact Kept.bind (Kept.of_leavesPort (writeValues_leavesPort _)) fun _ => Kept.ret _

/-! ## Sequences of operations -/

inductive Operation where
  | connect
  | close
  | call (call : ServiceCall)

/-- The operation with the flag it finds, returning the flag it leaves. -/
def Operation.talk (config : HeatPumpConfig) (waitingTime : Nat) (connected : Bool) :
    Operation → Talk Bool
  | connect => HeatPumpService.connect connected
  | close => HeatPumpService.close connected
  | call c => do
      c.talk config waitingTime
      return connected

/-- Between two operations: the flag, and whether the transport is open. -/
structure Connection where
  connected : Bool
  isOpen : Bool
  deriving DecidableEq, Repr

/-- An operation that raises leaves the flag as it is. -/
def flagAfter (connected : Bool) : Except Exc Bool → Bool
  | .ok b => b
  | .error _ => connected

inductive LinkStep (config : HeatPumpConfig) (waitingTime : Nat) :
    Connection → Operation → Trace → Connection → Prop
  | mk {s : Connection} {op : Operation} {tr : Trace} {r : Except Exc Bool} {isOpen : Bool} :
      Path (op.talk config waitingTime s.connected) tr r →
      Takes SerialTransport.after s.isOpen tr isOpen →
      LinkStep config waitingTime s op tr ⟨flagAfter s.connected r, isOpen⟩

/-- Operations one after another, each with its exchange and the state it leaves. -/
inductive LinkRun (config : HeatPumpConfig) (waitingTime : Nat) :
    Connection → List (Operation × Trace × Connection) → Prop
  | nil (s : Connection) : LinkRun config waitingTime s []
  | cons {s s' : Connection} {op : Operation} {tr : Trace}
      {rest : List (Operation × Trace × Connection)} :
      LinkStep config waitingTime s op tr s' → LinkRun config waitingTime s' rest →
      LinkRun config waitingTime s ((op, tr, s') :: rest)

/-- The flag says whether the transport is open; so a service that takes itself to be
connected is, and `connect` opens a transport that is not open. -/
structure Tracked (s : Connection) : Prop where
  agrees : s.connected = true ↔ s.isOpen = true
  reopens : s.isOpen = false → ∀ tr r, Path (HeatPumpService.connect s.connected) tr r →
    ∃ a, tr = [⟨.openPort, a⟩]

/-- An operation other than `connect` was refused an `open` or a `close`. -/
def LosesPort (op : Operation) (tr : Trace) : Prop :=
  op ≠ .connect ∧ ∃ ev ∈ tr, isLost ev = true

theorem connect_path {tr : Trace} {r : Except Exc Bool}
    (h : Path (HeatPumpService.connect false) tr r) :
    ∃ a, tr = [⟨.openPort, a⟩] ∧
      ((a = none ∧ r = .ok true) ∨ ∃ e, a = some e ∧ r = .error e.toExc) := by
  rw [HeatPumpService.connect, if_neg (by decide), CommunicationService.connect,
    Connector.connect, Transport.openPort, ask_bind, Path.ask_iff] at h
  obtain ⟨a, tr', rfl, hend⟩ := h
  cases a with
  | none =>
      obtain ⟨rfl, rfl⟩ := Path.ret_iff.mp hend
      exact ⟨none, rfl, .inl ⟨rfl, rfl⟩⟩
  | some e =>
      obtain ⟨rfl, rfl⟩ := Path.raise_iff.mp hend
      exact ⟨some e, rfl, .inr ⟨e, rfl, rfl⟩⟩

theorem close_path {tr : Trace} {r : Except Exc Bool}
    (h : Path (HeatPumpService.close true) tr r) :
    ∃ a, tr = [⟨.closePort, a⟩] ∧
      ((a = none ∧ r = .ok false) ∨ ∃ e, a = some e ∧ r = .error e.toExc) := by
  rw [HeatPumpService.close, if_pos rfl, CommunicationService.close, Connector.disconnect,
    Transport.closePort, ask_bind, Path.ask_iff] at h
  obtain ⟨a, tr', rfl, hend⟩ := h
  cases a with
  | none =>
      obtain ⟨rfl, rfl⟩ := Path.ret_iff.mp hend
      exact ⟨none, rfl, .inl ⟨rfl, rfl⟩⟩
  | some e =>
      obtain ⟨rfl, rfl⟩ := Path.raise_iff.mp hend
      exact ⟨some e, rfl, .inr ⟨e, rfl, rfl⟩⟩

theorem tracked_iff {s : Connection} : Tracked s ↔ s.connected = s.isOpen := by
  refine ⟨fun h => Bool.eq_iff_iff.mpr h.agrees, fun h => ⟨Bool.eq_iff_iff.mp h, ?_⟩⟩
  intro hclosed tr r hpath
  rw [h, hclosed] at hpath
  obtain ⟨a, rfl, _⟩ := connect_path hpath
  exact ⟨a, rfl⟩

theorem connect_step {connected isOpen : Bool} {tr : Trace} {r : Except Exc Bool}
    (hpath : Path (HeatPumpService.connect connected) tr r)
    (htakes : Takes SerialTransport.after connected tr isOpen) :
    flagAfter connected r = isOpen := by
  cases connected with
  | true =>
      obtain ⟨rfl, rfl⟩ := Path.ret_iff.mp hpath
      exact ((takes_nil _).mp htakes).symm
  | false =>
      obtain ⟨a, rfl, ⟨rfl, rfl⟩ | ⟨e, rfl, rfl⟩⟩ := connect_path hpath
      · obtain ⟨b, hafter, hnil⟩ := (takes_cons _).mp htakes
        cases hafter
        exact ((takes_nil _).mp hnil).symm
      · obtain ⟨b, hafter, hnil⟩ := (takes_cons _).mp htakes
        cases hafter
        exact ((takes_nil _).mp hnil).symm

theorem close_step {connected isOpen : Bool} {tr : Trace} {r : Except Exc Bool}
    (hpath : Path (HeatPumpService.close connected) tr r)
    (htakes : Takes SerialTransport.after connected tr isOpen) :
    flagAfter connected r = isOpen ↔ ¬ ∃ ev ∈ tr, isLost ev = true := by
  cases connected with
  | false =>
      obtain ⟨rfl, rfl⟩ := Path.ret_iff.mp hpath
      exact iff_of_true ((takes_nil _).mp htakes).symm (by simp)
  | true =>
      obtain ⟨a, rfl, ⟨rfl, rfl⟩ | ⟨e, rfl, rfl⟩⟩ := close_path hpath
      · obtain ⟨b, hafter, hnil⟩ := (takes_cons _).mp htakes
        cases hafter
        exact iff_of_true ((takes_nil _).mp hnil).symm (by simp [isLost])
      · obtain ⟨b, hafter, hnil⟩ := (takes_cons _).mp htakes
        cases hafter
        cases (takes_nil _).mp hnil
        exact iff_of_false nofun (by simp [isLost])

theorem call_step {config : HeatPumpConfig} {call : ServiceCall} {connected isOpen : Bool}
    {tr : Trace} {r : Except Exc Bool}
    (hpath : Path (do call.talk config waitingTime; return connected) tr r)
    (htakes : Takes SerialTransport.after connected tr isOpen) :
    flagAfter connected r = isOpen ↔ ¬ ∃ ev ∈ tr, isLost ev = true := by
  have hflag : flagAfter connected r = connected := by
    rcases Path.bind_iff.mp hpath with ⟨e, rfl, _⟩ | ⟨_, tr₁, tr₂, _, _, hret⟩
    · rfl
    · obtain ⟨_, rfl⟩ := Path.ret_iff.mp hret
      rfl
  have hkept : Kept (do call.talk config waitingTime; return connected : Talk Bool) :=
    Kept.bind (call_kept config call) fun _ => Kept.ret _
  rw [hflag]
  rcases hkept _ _ _ _ hpath htakes with ⟨hquiet, rfl⟩ | ⟨hlost, rfl, rfl, _⟩
  · refine iff_of_true rfl fun hc => ?_
    obtain ⟨ev, hev, hlost⟩ := hc
    rw [hquiet ev hev] at hlost
    cases hlost
  · exact iff_of_false nofun fun hc => hc hlost

/-- An operation keeps the flag right unless it loses the port, and then it does not. -/
theorem LinkStep.tracked_iff {config : HeatPumpConfig} {s s' : Connection} {op : Operation}
    {tr : Trace} (h : LinkStep config waitingTime s op tr s') (hs : s.connected = s.isOpen) :
    s'.connected = s'.isOpen ↔ ¬ LosesPort op tr := by
  obtain ⟨connected, isOpen⟩ := s
  obtain rfl : connected = isOpen := hs
  cases h with
  | mk hpath htakes =>
      cases op with
      | connect => exact iff_of_true (connect_step hpath htakes) fun hc => hc.1 rfl
      | close => simpa [LosesPort] using close_step hpath htakes
      | call c => simpa [LosesPort] using call_step hpath htakes

/-- The flag is right after each of the operations if none but `connect` is refused an `open`
or a `close`, and otherwise it is wrong after one of them. -/
theorem link_tracked_iff {config : HeatPumpConfig} {history : List (Operation × Trace × Connection)}
    (h : LinkRun config waitingTime ⟨false, false⟩ history) :
    (∀ entry ∈ history, Tracked entry.2.2) ↔
      ∀ entry ∈ history, ¬ LosesPort entry.1 entry.2.1 := by
  -- From any state in which the flag is right; the first loss is where it goes wrong.
  have hrun : ∀ {s : Connection}, s.connected = s.isOpen → LinkRun config waitingTime s history →
      ((∀ entry ∈ history, entry.2.2.connected = entry.2.2.isOpen) ↔
        ∀ entry ∈ history, ¬ LosesPort entry.1 entry.2.1) := by
    intro s hs hrun
    clear h
    induction hrun with
    | nil s => simp
    | @cons s s' op tr rest hstep hrest ih =>
        have hfirst := hstep.tracked_iff hs
        rw [List.forall_mem_cons, List.forall_mem_cons]
        refine ⟨?_, ?_⟩
        · intro hc
          obtain ⟨hright, hlater⟩ := hc
          exact ⟨hfirst.mp hright, (ih hright).mp hlater⟩
        · intro hc
          obtain ⟨hkept, hlater⟩ := hc
          exact ⟨hfirst.mpr hkept, (ih (hfirst.mpr hkept)).mpr hlater⟩
  rw [← hrun rfl h]
  simp only [HeatpumpGateway.tracked_iff]

theorem linkStep_run {σ : Type} (env : Environment Op Op.Ans σ) (s₀ : σ)
    {config : HeatPumpConfig} {s : Connection} {op : Operation} {flag isOpen : Bool}
    (htakes : Takes SerialTransport.after s.isOpen
      (trace env (op.talk config waitingTime s.connected) s₀) isOpen)
    (hflag : flagAfter s.connected (run env (op.talk config waitingTime s.connected) s₀).1
      = flag) :
    LinkStep config waitingTime s op (trace env (op.talk config waitingTime s.connected) s₀)
      ⟨flag, isOpen⟩ :=
  hflag ▸ .mk (path_run env _ s₀) htakes

/-- A silent device on a port that is open, but cannot be opened again: the adapter is gone. -/
def unplugged : Environment Op Op.Ans Bool
  | .openPort, isOpen => (some (.os "could not open port"), isOpen)
  | .closePort, _ => (none, false)
  | .write _, isOpen => (if isOpen then none else some .notOpen, isOpen)
  | .get, isOpen => (none, isOpen)
  | .sleep _, isOpen => ((), isOpen)
  | .mark _, isOpen => ((), isOpen)

def roomTempRead : Operation := .call (.readChannel "p01RoomTempDay")

/-- The service connects and reads, connects again and reads again. -/
def unpluggedHistory : List (Operation × Trace × Connection) :=
  [(.connect, [⟨.openPort, none⟩], ⟨true, true⟩),
    (roomTempRead, trace unplugged (roomTempRead.talk roomTempConfig 0 true) true, ⟨true, false⟩),
    (.connect, [], ⟨true, false⟩),
    (roomTempRead, trace unplugged (roomTempRead.talk roomTempConfig 0 true) false,
      ⟨true, false⟩)]

theorem unpluggedHistory_run : LinkRun roomTempConfig 0 ⟨false, false⟩ unpluggedHistory := by
  have hopened : Path (Operation.connect.talk roomTempConfig 0 false) [⟨.openPort, none⟩]
      (.ok true) := Path.ask_iff.mpr ⟨none, [], rfl, .ret true⟩
  have hidle : Path (Operation.connect.talk roomTempConfig 0 true) [] (.ok true) := .ret true
  have hconnect : LinkStep roomTempConfig 0 ⟨false, false⟩ .connect [⟨.openPort, none⟩]
      ⟨true, true⟩ := LinkStep.mk (s := ⟨false, false⟩) (r := .ok true) hopened rfl
  have hagain : LinkStep roomTempConfig 0 ⟨true, false⟩ .connect [] ⟨true, false⟩ :=
    LinkStep.mk (s := ⟨true, false⟩) (r := .ok true) hidle rfl
  refine .cons hconnect (.cons (linkStep_run unplugged true ?_ ?_)
    (.cons hagain (.cons (linkStep_run unplugged false ?_ ?_) (.nil _))))
  · decide +kernel
  · decide +kernel
  · decide +kernel
  · decide +kernel

theorem link_tracked_unplugged :
    (∀ entry ∈ unpluggedHistory, Tracked entry.2.2) ↔
      ∀ entry ∈ unpluggedHistory, ¬ LosesPort entry.1 entry.2.1 :=
  link_tracked_iff unpluggedHistory_run

/-- The retry loop closes the port and cannot open it again. The service goes on taking itself
to be connected: `connect` does nothing, and the next read finds the port closed. -/
theorem connected_to_closed_port :
    LinkRun roomTempConfig 0 ⟨false, false⟩ unpluggedHistory ∧
      (∃ entry ∈ unpluggedHistory, ¬ Tracked entry.2.2) ∧
      Path (HeatPumpService.connect true) [] (.ok true) ∧
      Path (roomTempRead.talk roomTempConfig 0 true)
        (trace unplugged (roomTempRead.talk roomTempConfig 0 true) false)
        (.error (.runtimeError "serial port is not open")) := by
  have hrun : (run unplugged (roomTempRead.talk roomTempConfig 0 true) false).1
      = .error (.runtimeError "serial port is not open") := by
    decide +kernel
  refine ⟨unpluggedHistory_run, ⟨(.connect, [], ⟨true, false⟩), ?_, ?_⟩, .ret true,
    path_of_run unplugged hrun⟩
  · simp [unpluggedHistory]
  · rw [tracked_iff]
    decide

end HeatpumpGateway
