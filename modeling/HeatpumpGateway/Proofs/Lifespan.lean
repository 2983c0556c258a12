import HeatpumpGateway.Proofs.Connection
import HeatpumpGateway.Proofs.Routes

/-!
# The port over the application's life

The port is opened before the first request, and that may fail; it is closed after the last.
In between a read may restart it, and nothing else touches it. The file says what that means
for every sequence of requests: when the port is still open after it (`port_open_iff`), what
requests are answered once it is not (`closed_port_requests`), and that nothing is left open
in the end (`lifetime_closes`).
-/

namespace HeatpumpGateway
open CommunicationService Dialogue

variable {α β : Type} {app : App} {waitingTime : Nat}

/-! ## Programs on a closed port -/

/-- A program that starts on a closed port leaves it alone. It does nothing but wait and has
no complaint of the device, or it was refused a write. -/
def Dead (p : Talk α) : Prop :=
  ∀ (tr : Trace) (r : Except Exc α) (b : Bool), Path p tr r →
    Takes SerialTransport.after false tr b →
    (∀ ev ∈ tr, LeavesPort ev) ∧
      (((∀ ev ∈ tr, ∃ n, ev = ⟨.sleep n, ()⟩) ∧ ∀ e, r = .error e → e.isProtocolError = false) ∨
        r = .error LinkError.notOpen.toExc)

namespace Dead

theorem ret (a : α) : Dead (.ret a : Talk α) := by
  intro tr r b h _
  obtain ⟨rfl, rfl⟩ := Path.ret_iff.mp h
  simp

theorem raise (e : Exc) (he : e.isProtocolError = false) : Dead (.raise e : Talk α) := by
  intro tr r b h _
  obtain ⟨rfl, rfl⟩ := Path.raise_iff.mp h
  simp [he]

/-- The second part matters where the first can end well. -/
theorem bind_path {p : Talk α} {f : α → Talk β} (hp : Dead p)
    (hf : ∀ a tr, Path p tr (.ok a) → Takes SerialTransport.after false tr false → Dead (f a)) :
    Dead (p >>= f) := by
  intro tr r b hpath htakes
  rcases Path.bind_iff.mp hpath with ⟨e, rfl, hp'⟩ | ⟨a, tr₁, tr₂, rfl, hp₁, hp₂⟩
  · obtain ⟨hleaves, ⟨hwaits, hno⟩ | he⟩ := hp _ _ _ hp' htakes
    · refine ⟨hleaves, .inl ⟨hwaits, fun e' he => ?_⟩⟩
      cases he
      exact hno e rfl
    · cases he
      exact ⟨hleaves, .inr rfl⟩
  · obtain ⟨b₁, htakes₁, htakes₂⟩ := (takes_append _).mp htakes
    obtain ⟨hleaves₁, ⟨hwaits₁, _⟩ | he⟩ := hp _ _ _ hp₁ htakes₁
    · obtain rfl := takes_unchanged _ (fun ev hev => (hleaves₁ ev hev).after) htakes₁
      obtain ⟨hleaves₂, hend⟩ := hf a tr₁ hp₁ htakes₁ _ _ _ hp₂ htakes₂
      refine ⟨List.forall_mem_append.mpr ⟨hleaves₁, hleaves₂⟩, hend.imp_left ?_⟩
      exact fun hc => ⟨List.forall_mem_append.mpr ⟨hwaits₁, hc.1⟩, hc.2⟩
    · cases he

theorem modular : Modular @Dead :=
  ⟨ret, raise, fun hp hf => hp.bind_path fun a _ _ _ => hf a⟩

theorem sleep (n : Nat) : Dead (HeatpumpGateway.sleep n) := by
  intro tr r b h _
  obtain ⟨_, _, rfl, hend⟩ := Path.ask_iff.mp h
  obtain ⟨rfl, rfl⟩ := Path.ret_iff.mp hend
  simp [LeavesPort]

theorem getData (message : Bytes) : Dead (Connector.getData message) :=
  fun _ _ _ h htakes =>
    ⟨(getData_leavesPort message).path h, .inr (getData_closed h htakes)⟩

/-- Nothing comes after a read. -/
theorem getData_bind (message : Bytes) (f : Bytes → Talk α) :
    Dead (Connector.getData message >>= f) := by
  refine (getData message).bind_path fun a tr h htakes => ?_
  cases getData_closed h htakes

/-- The first attempt is the last: the refusal is no fault of the protocol. -/
theorem readRequest (request : Request) :
    Dead (CommunicationService.readRequest waitingTime request) := by
  have hattempt : Dead (readAttempt waitingTime request) :=
    modular.readAttempt getData_bind request
  intro tr r b h htakes
  rcases Path.handle_iff.mp h with ⟨values, rfl, hp⟩ | ⟨e, tr₁, tr₂, rfl, hp, hrest⟩
  · exact hattempt _ _ _ hp htakes
  · obtain ⟨b₁, htakes₁, _⟩ := (takes_append _).mp htakes
    obtain ⟨_, he, hno⟩ := readAttempt_closed hp htakes₁
    cases he
    rw [if_neg (by rw [hno]; decide)] at hrest
    obtain ⟨rfl, rfl⟩ := Path.raise_iff.mp hrest
    rw [List.append_nil] at htakes ⊢
    exact hattempt _ _ _ hp htakes

theorem call (config : HeatPumpConfig) (call : ServiceCall) :
    Dead (call.talk config waitingTime) :=
  modular.talk getData_bind (sleep waitingTime) readRequest config call

end Dead

/-! ## Sequences of requests -/

/-- Requests as they are served one after another, each with its exchange and its response,
from a port that is open or not. The service's lock puts the conversations of requests that
are served at once into some such order. -/
inductive Requests (app : App) : Bool → List (HttpRequest × Trace × Response) → Bool → Prop
  | nil (isOpen : Bool) : Requests app isOpen [] isOpen
  | cons {isOpen isOpen' isOpen'' : Bool} {request : HttpRequest} {tr : Trace}
      {response : Response} {rest : List (HttpRequest × Trace × Response)} :
      Path (app.serve true request) tr (.ok response) →
      Takes SerialTransport.after isOpen tr isOpen' →
      Requests app isOpen' rest isOpen'' →
      Requests app isOpen ((request, tr, response) :: rest) isOpen''

theorem serve_port {request : HttpRequest} {tr : Trace} {response : Response}
    {isOpen isOpen' : Bool} (h : Path (app.serve true request) tr (.ok response))
    (htakes : Takes SerialTransport.after isOpen tr isOpen') :
    isOpen' = true ↔ isOpen = true ∧ ∀ ev ∈ tr, isLost ev = false := by
  cases hcall : request.call with
  | none =>
      obtain ⟨rfl, _⟩ := served_plain hcall h
      obtain rfl := (takes_nil _).mp htakes
      simp
  | some call =>
      obtain ⟨r', _, hp, _⟩ := served_call hcall h
      rcases call_kept app.config call _ _ _ _ hp htakes with
        ⟨hquiet, rfl⟩ | ⟨⟨ev, hev, hlost⟩, rfl, rfl, _⟩
      · exact ⟨fun hopen => ⟨hopen, hquiet⟩, And.left⟩
      · refine iff_of_false (by decide) fun hc => ?_
        rw [hc.2 ev hev] at hlost
        cases hlost

/-- After any requests the port is open exactly if it was before them and no restart of it
failed. -/
theorem port_open_iff {isOpen isOpen' : Bool}
    {history : List (HttpRequest × Trace × Response)} (h : Requests app isOpen history isOpen') :
    isOpen' = true ↔
      isOpen = true ∧ ∀ entry ∈ history, ∀ ev ∈ entry.2.1, isLost ev = false := by
  induction h with
  | nil isOpen => simp
  | cons hserve htakes _ ih =>
      rw [ih, serve_port hserve htakes, List.forall_mem_cons, and_assoc]

theorem HttpRequest.except_status {request : HttpRequest} {e : Exc} {response : Response}
    (h : request.except e = some response) : response.status < 500 := by
  have unknown : ∀ {id : String}, App.exceptRead id e = some response ∨
      App.unknownChannels e = some response → response.status < 500 := by
    intro id hc
    cases e with
    | channelNotFound ids => rcases hc with hc | hc <;> cases hc <;> simp [App.unknownChannel]
    | _ => rcases hc with hc | hc <;> cases hc
  cases request with
  | readValues ids dataType =>
      rw [HttpRequest.except] at h
      split at h
      · exact @unknown "" (.inr h)
      · cases h
  | readChannel channelId => exact unknown (.inl h)
  | writeChannel channelId value =>
      cases e with
      | channelNotFound _ | channelNotWritable _ | valueError _ | valueOutOfRange _ _ _ _ =>
          cases h
          simp [App.unknownChannel]
      | _ => cases h
  | _ => cases h

theorem HttpRequest.status_plain (request : HttpRequest) {e : Exc}
    (h : e.isProtocolError = false) : request.status (.error e) ≤ 500 := by
  rw [HttpRequest.status]
  cases hexcept : request.except e with
  | some response => exact Nat.le_of_lt (HttpRequest.except_status hexcept)
  | none =>
      cases e with
      | protocolError _ | invalidData _ | writeNotConfirmed _ _ _ => cases h
      | _ => exact Nat.le_refl 500

theorem HttpRequest.status_notOpen (request : HttpRequest) :
    request.status (.error LinkError.notOpen.toExc) = 500 := by
  cases request with
  | readValues ids dataType =>
      rw [HttpRequest.status, HttpRequest.except]
      split <;> rfl
  | _ => rfl

/-- What a request does to a closed port, and how it is answered. -/
structure OnClosedPort (tr : Trace) (status : Nat) : Prop where
  leaves : ∀ ev ∈ tr, LeavesPort ev
  plain : status ≤ 500
  refused : (∃ ev ∈ tr, ∀ n, ev ≠ ⟨.sleep n, ()⟩) → status = 500

theorem serve_closed {request : HttpRequest} {tr : Trace} {response : Response} {b : Bool}
    (h : Path (app.serve true request) tr (.ok response))
    (htakes : Takes SerialTransport.after false tr b) : OnClosedPort tr response.status := by
  cases hcall : request.call with
  | none =>
      obtain ⟨rfl, _, hr, hstatus⟩ := served_plain hcall h
      cases hr
      exact ⟨by simp, by simp [hstatus], by simp⟩
  | some call =>
      obtain ⟨r', _, hp, hr, hstatus⟩ := served_call hcall h
      cases hr
      rw [hstatus]
      obtain ⟨hleaves, ⟨hwaits, hno⟩ | rfl⟩ := Dead.call app.config call _ _ _ hp htakes
      · refine ⟨hleaves, ?_, fun hc => ?_⟩
        · cases r' with
          | ok u => simp [HttpRequest.status]
          | error e => exact request.status_plain (hno e rfl)
        · obtain ⟨ev, hev, hnot⟩ := hc
          obtain ⟨n, rfl⟩ := hwaits ev hev
          exact absurd rfl (hnot n)
      · rw [request.status_notOpen]
        exact ⟨hleaves, Nat.le_refl 500, fun _ => rfl⟩

theorem requests_closed {isOpen isOpen' : Bool}
    {history : List (HttpRequest × Trace × Response)} (h : Requests app isOpen history isOpen')
    (hclosed : isOpen = false) :
    isOpen' = false ∧ ∀ entry ∈ history, OnClosedPort entry.2.1 entry.2.2.status := by
  induction h with
  | nil isOpen => exact ⟨hclosed, by simp⟩
  | cons hserve htakes _ ih =>
      subst hclosed
      have hfirst := serve_closed hserve htakes
      have hsame := takes_unchanged _ (fun ev hev => (hfirst.leaves ev hev).after) htakes
      obtain ⟨hend, hrest⟩ := ih hsame
      exact ⟨hend, List.forall_mem_cons.mpr ⟨hfirst, hrest⟩⟩

/-- Once the port is closed it stays so, whatever is requested: no request opens it. One that
goes further than to wait is the server's error, and none is answered with the statuses that
say the device could not be reached. -/
theorem closed_port_requests {isOpen' : Bool}
    {history : List (HttpRequest × Trace × Response)} (h : Requests app false history isOpen') :
    isOpen' = false ∧ ∀ entry ∈ history, OnClosedPort entry.2.1 entry.2.2.status :=
  requests_closed h rfl

/-! ## From the first to the last -/

/-- A lifespan: what starts it up, requests, and what shuts it down. The port is closed before
it. -/
inductive Lifetime (app : App) (connectOnStartup : Bool) :
    Trace → List (HttpRequest × Trace × Response) → Trace → Bool → Prop
  | mk {connected connected' isOpen isOpen' isOpen'' : Bool} {started ended : Trace}
      {history : List (HttpRequest × Trace × Response)} :
      Path (App.startup connectOnStartup) started (.ok connected) →
      Takes SerialTransport.after false started isOpen →
      Requests app isOpen history isOpen' →
      Path (App.shutdown connected) ended (.ok connected') →
      Takes SerialTransport.after isOpen' ended isOpen'' →
      Lifetime app connectOnStartup started history ended isOpen''

/-- The service takes itself to be connected exactly if the port was opened. -/
theorem startup_path {connectOnStartup connected isOpen : Bool} {tr : Trace}
    (h : Path (App.startup connectOnStartup) tr (.ok connected))
    (htakes : Takes SerialTransport.after false tr isOpen) : connected = isOpen := by
  cases connectOnStartup with
  | false =>
      obtain ⟨rfl, hr⟩ := Path.ret_iff.mp h
      cases hr
      exact ((takes_nil _).mp htakes).symm
  | true =>
      rcases Path.handle_iff.mp h with ⟨_, hr, hp⟩ | ⟨e, tr₁, tr₂, rfl, hp, hend⟩
      · cases hr
        exact connect_step hp htakes
      · obtain ⟨rfl, hr⟩ := Path.ret_iff.mp hend
        cases hr
        rw [List.append_nil] at htakes
        exact connect_step hp htakes

theorem shutdown_path {connected connected' isOpen isOpen' : Bool} {tr : Trace}
    (h : Path (App.shutdown connected) tr (.ok connected'))
    (htakes : Takes SerialTransport.after isOpen tr isOpen')
    (hopen : connected = false → isOpen = false) : isOpen' = false := by
  cases connected with
  | false =>
      obtain ⟨rfl, _⟩ := Path.ret_iff.mp h
      rw [(takes_nil _).mp htakes, hopen rfl]
  | true =>
      have hclose : ∃ a, tr = [⟨.closePort, a⟩] := by
        rcases Path.handle_iff.mp h with ⟨_, _, hp⟩ | ⟨e, tr₁, tr₂, rfl, hp, hend⟩
        · obtain ⟨a, rfl, _⟩ := close_path hp
          exact ⟨a, rfl⟩
        · obtain ⟨a, rfl, _⟩ := close_path hp
          obtain ⟨rfl, _⟩ := Path.ret_iff.mp hend
          exact ⟨a, rfl⟩
      obtain ⟨a, rfl⟩ := hclose
      obtain ⟨b, hafter, hnil⟩ := (takes_cons _).mp htakes
      obtain rfl := (takes_nil _).mp hnil
      cases a with
      | none =>
          cases hafter
          rfl
      | some l =>
          cases isOpen with
          | false => cases hafter
          | true =>
              cases hafter
              rfl

/-- However the port is opened, restarted and lost, it is closed after the last request. -/
theorem lifetime_closes {connectOnStartup isOpen : Bool} {started ended : Trace}
    {history : List (HttpRequest × Trace × Response)}
    (h : Lifetime app connectOnStartup started history ended isOpen) : isOpen = false := by
  obtain ⟨hstart, hopened, hrequests, hend, hclosed⟩ := h
  refine shutdown_path hend hclosed fun hconnected => ?_
  have hopen := startup_path hstart hopened
  rw [hconnected] at hopen
  subst hopen
  exact (requests_closed hrequests rfl).1

/-! ## An adapter that is unplugged -/

def roomTempGet : Talk Response := roomTempApp.serve true (.readChannel "p01RoomTempDay")

def serverError : Response := ⟨500, .detail "Internal Server Error"⟩

/-- The first read finds the device silent and cannot open the port again, the second finds
it closed. -/
def unpluggedRequests : List (HttpRequest × Trace × Response) :=
  [(.readChannel "p01RoomTempDay", trace unplugged roomTempGet true, serverError),
    (.readChannel "p01RoomTempDay", trace unplugged roomTempGet false, serverError)]

theorem unplugged_second :
    Requests roomTempApp false (unpluggedRequests.drop 1) false := by
  have hrun : (run unplugged roomTempGet false).1 = .ok serverError := by decide +kernel
  have htakes : Takes SerialTransport.after false (trace unplugged roomTempGet false) false := by
    rw [Takes]
    decide +kernel
  exact .cons (path_of_run unplugged hrun) htakes (.nil false)

theorem unplugged_requests : Requests roomTempApp true unpluggedRequests false := by
  have hrun : (run unplugged roomTempGet true).1 = .ok serverError := by decide +kernel
  have htakes : Takes SerialTransport.after true (trace unplugged roomTempGet true) false := by
    rw [Takes]
    decide +kernel
  exact .cons (path_of_run unplugged hrun) htakes unplugged_second

theorem port_open_unplugged :
    false = true ↔ true = true ∧
      ∀ entry ∈ unpluggedRequests, ∀ ev ∈ entry.2.1, isLost ev = false :=
  port_open_iff unplugged_requests

theorem closed_port_unplugged :
    false = false ∧
      ∀ entry ∈ unpluggedRequests.drop 1, OnClosedPort entry.2.1 entry.2.2.status :=
  closed_port_requests unplugged_second

theorem lifetime_closes_unplugged :
    ∃ isOpen, Lifetime roomTempApp true [⟨.openPort, none⟩] unpluggedRequests
      [⟨.closePort, none⟩] isOpen ∧ isOpen = false := by
  have hstart : Path (App.startup true) [⟨.openPort, none⟩] (.ok true) :=
    Path.ask_iff.mpr ⟨none, [], rfl, .ret true⟩
  have hend : Path (App.shutdown true) [⟨.closePort, none⟩] (.ok false) :=
    Path.ask_iff.mpr ⟨none, [], rfl, .ret false⟩
  have hlifetime := Lifetime.mk hstart rfl unplugged_requests hend rfl
  exact ⟨_, hlifetime, lifetime_closes hlifetime⟩

end HeatpumpGateway
