import HeatpumpGateway.Model.Api
import HeatpumpGateway.Proofs.Parts
import HeatpumpGateway.Proofs.Refusal

/-!
# What a response comes from

A response is all that a client of the API sees of a conversation. This file takes a request
to its call of the service (`served_path`) and looks at the requests that only read: whatever
the device answers, it has been told nothing.
-/

namespace HeatpumpGateway

open Dialogue CommunicationService

variable {α : Type} {app : App} {hasService : Bool} {waitingTime : Nat} {tr : Trace}

/-! ## From a call to its response -/

namespace App

variable {call : Talk α} {body : α → Body} {except : Exc → Option Response}

/-- The response to what came of a call. -/
def responseTo (body : α → Body) (except : Exc → Option Response) : Except Exc α → Response
  | .ok a => ⟨200, body a⟩
  | .error e => (except e).getD (handleException e)

theorem answered_path {r : Except Exc Response} :
    Path (answered call body except) tr r ↔
      (∃ a, Path call tr (.ok a) ∧ r = .ok ⟨200, body a⟩) ∨
      ∃ e, Path call tr (.error e) ∧
        r = match except e with
          | some response => .ok response
          | none => .error e := by
  rw [answered, Path.handle_iff]
  refine ⟨?_, ?_⟩
  · intro h
    rcases h with ⟨response, rfl, hp⟩ | ⟨e, tr₁, tr₂, rfl, hp, hend⟩
    · rcases Path.bind_iff.mp hp with ⟨_, he, _⟩ | ⟨a, tr₁, tr₂, rfl, hcall, hret⟩
      · cases he
      · obtain ⟨rfl, hr⟩ := Path.ret_iff.mp hret
        rw [List.append_nil]
        exact .inl ⟨a, hcall, hr⟩
    · rcases Path.bind_iff.mp hp with ⟨_, he, hcall⟩ | ⟨_, _, _, _, _, hret⟩
      · cases he
        refine .inr ⟨e, ?_⟩
        cases hexcept : except e with
        | some response =>
            rw [hexcept] at hend
            obtain ⟨rfl, rfl⟩ := Path.ret_iff.mp hend
            rw [List.append_nil]
            exact ⟨hcall, rfl⟩
        | none =>
            rw [hexcept] at hend
            obtain ⟨rfl, rfl⟩ := Path.raise_iff.mp hend
            rw [List.append_nil]
            exact ⟨hcall, rfl⟩
      · cases (Path.ret_iff.mp hret).2
  · intro h
    rcases h with ⟨a, hcall, rfl⟩ | ⟨e, hcall, rfl⟩
    · exact .inl ⟨_, rfl, Path.bind_iff.mpr
        (.inr ⟨a, tr, [], (List.append_nil _).symm, hcall, .ret _⟩)⟩
    · refine .inr ⟨e, tr, [], (List.append_nil _).symm,
        Path.bind_iff.mpr (.inl ⟨e, rfl, hcall⟩), ?_⟩
      cases except e with
      | some response => exact .ret response
      | none => exact .raise e

/-- A route around a call, with the handlers of the application around the route. -/
theorem served_path {r : Except Exc Response} :
    Path ((answered call body except).handle fun exc => return handleException exc) tr r ↔
      ∃ r', Path call tr r' ∧ r = .ok (responseTo body except r') := by
  rw [Path.handle_iff]
  simp only [answered_path]
  refine ⟨?_, ?_⟩
  · intro h
    rcases h with ⟨response, rfl, ⟨a, hcall, hr⟩ | ⟨e, hcall, hr⟩⟩ |
      ⟨e, tr₁, tr₂, rfl, hraised, hend⟩
    · exact ⟨.ok a, hcall, hr⟩
    · refine ⟨.error e, hcall, ?_⟩
      rw [responseTo]
      cases hexcept : except e with
      | some response' =>
          rw [hexcept] at hr
          exact hr
      | none =>
          rw [hexcept] at hr
          cases hr
    · obtain ⟨rfl, rfl⟩ := Path.ret_iff.mp hend
      rcases hraised with ⟨_, _, hr⟩ | ⟨e', hcall, hr⟩
      · cases hr
      · rw [List.append_nil]
        refine ⟨.error e', hcall, ?_⟩
        rw [responseTo]
        cases hexcept : except e' with
        | some response' =>
            rw [hexcept] at hr
            cases hr
        | none =>
            rw [hexcept] at hr
            cases hr
            rfl
  · intro h
    obtain ⟨r', hcall, rfl⟩ := h
    cases r' with
    | ok a => exact .inl ⟨_, rfl, .inl ⟨a, hcall, rfl⟩⟩
    | error e =>
        cases hexcept : except e with
        | some response =>
            refine .inl ⟨response, ?_, .inr ⟨e, hcall, ?_⟩⟩
            · rw [responseTo, hexcept]
              rfl
            · rw [hexcept]
        | none =>
            refine .inr ⟨e, tr, [], (List.append_nil _).symm, .inr ⟨e, hcall, ?_⟩, ?_⟩
            · rw [hexcept]
            · rw [responseTo, hexcept]
              exact .ret _

end App

/-! ## The call behind a request -/

/-- The call that a request makes of the service, if it makes one. -/
def HttpRequest.call : HttpRequest → Option ServiceCall
  | .version => some .getVersion
  | .readValues ids dataType =>
      some (if ids.getD "" ≠ "" then .readChannels (App.splitIds (ids.getD ""))
        else .readAll dataType.toList)
  | .readChannel channelId => some (.readChannel channelId)
  | .writeChannel channelId value => some (.writeChannel channelId value)
  | .setTime now => some (.setTime now)
  | _ => none

/-- The route's own response to an exception, if it has one. -/
def HttpRequest.except : HttpRequest → Exc → Option Response
  | .readValues ids _ => if ids.getD "" ≠ "" then App.unknownChannels else fun _ => none
  | .readChannel channelId => App.exceptRead channelId
  | .writeChannel channelId _ => App.exceptWrite channelId
  | _ => fun _ => none

/-- The status that comes of a call's end. -/
def HttpRequest.status (request : HttpRequest) : Except Exc Unit → Nat
  | .ok _ => 200
  | .error e => ((request.except e).getD (handleException e)).status

theorem path_discard {p : Talk α} {r : Except Exc α} (h : Path p tr r) :
    Path (do let _ ← p) tr (r.map fun _ => ()) := by
  cases r with
  | error e => exact Path.bind_iff.mpr (.inl ⟨e, rfl, h⟩)
  | ok a => exact Path.bind_iff.mpr (.inr ⟨a, tr, [], (List.append_nil _).symm, h, .ret _⟩)

theorem served_call {request : HttpRequest} {call : ServiceCall} (hcall : request.call = some call)
    {r : Except Exc Response} (h : Path (app.serve true request) tr r) :
    ∃ r' response, Path (call.talk app.config app.waitingTime) tr r' ∧ r = .ok response ∧
      response.status = request.status r' := by
  have responds : ∀ {α : Type} {p : Talk α} {body : α → Body} {except : Exc → Option Response},
      request.except = except →
      Path ((App.answered p body except).handle fun exc => return handleException exc) tr r →
      ∃ r' response, Path (do let _ ← p) tr r' ∧ r = .ok response ∧
        response.status = request.status r' := by
    intro α p body except hexcept hp
    obtain ⟨r', hp', rfl⟩ := App.served_path.mp hp
    refine ⟨_, _, path_discard hp', rfl, ?_⟩
    cases r' with
    | ok a => rfl
    | error e => rw [App.responseTo, Except.map, HttpRequest.status, hexcept]
  cases request with
  | root | health | listChannels => cases hcall
  | version =>
      cases hcall
      exact responds rfl h
  | readValues ids dataType =>
      rw [App.serve, App.route, App.readValues] at h
      rw [HttpRequest.call] at hcall
      split at h
      · next hids =>
          rw [if_pos hids] at hcall
          cases hcall
          exact responds (by rw [HttpRequest.except, if_pos hids]) h
      · next hids =>
          rw [if_neg hids] at hcall
          cases hcall
          have hexcept : HttpRequest.except (.readValues ids dataType) = fun _ => none := by
            rw [HttpRequest.except, if_neg hids]
          exact responds hexcept h
  | readChannel channelId =>
      cases hcall
      exact responds rfl h
  | writeChannel channelId value =>
      cases hcall
      exact responds rfl h
  | setTime now =>
      cases hcall
      exact responds rfl h

theorem served_plain {request : HttpRequest} (hcall : request.call = none)
    {r : Except Exc Response} (h : Path (app.serve true request) tr r) :
    tr = [] ∧ ∃ response, r = .ok response ∧ response.status = 200 := by
  cases request with
  | root | health | listChannels =>
      obtain ⟨rfl, rfl⟩ := Path.ret_iff.mp h
      exact ⟨rfl, _, rfl, rfl⟩
  | _ => cases hcall

/-! ## Requests that only read -/

theorem within_receiveLoop {P : Exchange → Prop} (hget : ∀ a, P ⟨.get, a⟩) (fuel : Nat) :
    ∀ retry buffer, Within P (Connector.receiveLoop fuel retry buffer) := by
  induction fuel with
  | zero => intro _ _; trivial
  | succ fuel ih =>
      intro retry buffer
      rw [Connector.receiveLoop]
      split
      · refine Within.bind (within_get hget) fun a => ?_
        cases a with
        | none => exact ih _ _
        | some b =>
            simp only []
            split
            · trivial
            · split
              · trivial
              · exact ih _ _
      · trivial

/-- What the exchanges of one read have in common. -/
structure Reading (message : Bytes) (P : Exchange → Prop) : Prop extends Handshaking message P where
  acknowledge : ∀ a, P ⟨.write [ESCAPE], a⟩
  mark : ∀ m, m = .getData message ∨ (∃ reply, m = .gotData reply) → P ⟨.mark m, ()⟩

theorem Reading.getData {message : Bytes} {P : Exchange → Prop} (h : Reading message P) :
    Within P (Connector.getData message) := by
  refine Within.bind (fun _ => ⟨h.mark _ (.inl rfl), trivial⟩) fun _ =>
    Within.bind h.toHandshaking.startCommunication fun _ =>
    Within.bind h.toHandshaking.establishRequest fun established => ?_
  refine Within.bind ?_ fun reply =>
    Within.bind (fun _ => ⟨h.mark _ (.inr ⟨reply, rfl⟩), trivial⟩) fun _ => trivial
  split
  · trivial
  · refine Within.handle (Within.bind (within_write h.acknowledge) fun _ => ?_) fun _ => trivial
    exact Within.bind (within_receiveLoop h.get _ _ _) fun _ => trivial

/-- The first or the second command of a configured request. -/
def ReadCommand (config : HeatPumpConfig) (command : Bytes) : Prop :=
  ∃ request ∈ config.requests, request.requestBytes = .ok command ∨
    request.requestBytes2 = .ok (some command)

/-- Bytes that ask the device for something and tell it nothing. -/
def IsQuestion (config : HeatPumpConfig) (data : Bytes) : Prop :=
  data = [START_COMMUNICATION] ∨ data = [ESCAPE] ∨
    ∃ command, ReadCommand config command ∧ data = createRequestMessage command GET

def OnlyAsks (config : HeatPumpConfig) : Exchange → Prop
  | ⟨.write data, _⟩ => IsQuestion config data
  | ⟨.mark (.setData _), _⟩ => False
  | ⟨.mark (.didSet _), _⟩ => False
  | _ => True

theorem reading_onlyAsks {config : HeatPumpConfig} {command : Bytes}
    (h : ReadCommand config command) :
    Reading (createRequestMessage command GET) (OnlyAsks config) where
  start _ := .inl rfl
  request _ := .inr (.inr ⟨command, h, rfl⟩)
  get _ := trivial
  acknowledge _ := .inr (.inl rfl)
  mark m hm := by
    rcases hm with rfl | ⟨reply, rfl⟩ <;> trivial

theorem within_ofExcept {P : Exchange → Prop} (x : Except Exc α) :
    Within P (.ofExcept x : Talk α) := by
  cases x <;> trivial

theorem readAttempt_onlyAsks {config : HeatPumpConfig} {request : Request}
    (hin : request ∈ config.requests) :
    Within (OnlyAsks config) (readAttempt waitingTime request) := by
  rw [readAttempt]
  cases hcommand : request.requestBytes with
  | error e => trivial
  | ok command =>
      simp only [ofExcept_ok, ret_bind]
      refine Within.bind (reading_onlyAsks ⟨request, hin, .inl hcommand⟩).getData fun reply => ?_
      split
      · trivial
      · cases hsecond : request.requestBytes2 with
        | error e => trivial
        | ok second =>
            simp only [ofExcept_ok, ret_bind]
            cases second with
            | none => exact within_ofExcept _
            | some command2 =>
                refine Within.bind (fun _ => ⟨trivial, trivial⟩) fun _ => Within.bind
                  (reading_onlyAsks ⟨request, hin, .inr hsecond⟩).getData fun reply2 => ?_
                split
                · trivial
                · exact within_ofExcept _

theorem restart_onlyAsks {config : HeatPumpConfig} : Within (OnlyAsks config) restart := by
  have hcommand : ∀ a, Within (OnlyAsks config) (Transport.checked a) := by
    intro a
    cases a <;> trivial
  exact Within.bind (fun a => ⟨trivial, hcommand a⟩) fun _ =>
    Within.bind (fun _ => ⟨trivial, trivial⟩) fun _ => fun a => ⟨trivial, hcommand a⟩

theorem readRequest_onlyAsks {config : HeatPumpConfig} {request : Request}
    (hin : request ∈ config.requests) :
    Within (OnlyAsks config) (readRequest waitingTime request) := by
  have hloop : ∀ attempts lastError,
      Within (OnlyAsks config) (readLoop waitingTime request attempts lastError) := by
    intro attempts
    induction attempts with
    | zero => intro _; trivial
    | succ attempts ih =>
        intro lastError
        refine Within.handle (readAttempt_onlyAsks hin) fun e => ?_
        split
        · exact Within.bind restart_onlyAsks fun _ => ih _
        · trivial
  exact hloop _ _

theorem onlyAsks_modular (config : HeatPumpConfig) :
    Modular @(fun {α : Type} (p : Talk α) => Within (OnlyAsks config) p) :=
  ⟨fun _ => trivial, fun _ _ => trivial, Within.bind⟩

/-- The calls behind the routes that are registered for `GET`. -/
theorem get_onlyAsks {request : HttpRequest} (hget : request.method = .get) :
    Within (OnlyAsks app.config) (app.serve hasService request) := by
  have hQ := onlyAsks_modular app.config
  have hread : ∀ request ∈ app.config.requests,
      Within (OnlyAsks app.config) (readRequest app.waitingTime request) :=
    fun request hin => readRequest_onlyAsks hin
  have hsleep : Within (OnlyAsks app.config) (HeatpumpGateway.sleep app.waitingTime) :=
    fun _ => ⟨trivial, trivial⟩
  have hanswered : ∀ {α : Type} {call : Talk α} {body : α → Body}
      {except : Exc → Option Response}, Within (OnlyAsks app.config) call →
      Within (OnlyAsks app.config)
        (App.withService hasService (App.answered call body except)) := by
    intro α call body except hcall
    rw [App.withService]
    split
    · refine Within.handle (Within.bind hcall fun _ => trivial) fun e => ?_
      split <;> trivial
    · trivial
  refine Within.handle ?_ fun _ => trivial
  cases request with
  | root | health | listChannels => trivial
  | version => exact hanswered (hQ.getVersion hread)
  | readValues ids dataType =>
      rw [App.route, App.readValues]
      split
      · exact hanswered (hQ.readChannels hsleep hread _)
      · exact hanswered (hQ.readAll hsleep hread _)
  | readChannel channelId => exact hanswered (hQ.readChannel hread channelId)
  | writeChannel | setTime => cases hget

/-! ## What a read raises -/

/-- Its own complaints about the device, what the link refused with, and a command that is
no hexadecimal text. -/
def ReadFault (e : Exc) : Prop := FromLink e ∨ ∃ text, e = .valueError text

theorem getData_ne_nil {message : Bytes} {r : Except Exc Bytes}
    (h : Path (Connector.getData message) tr r) : tr ≠ [] := by
  obtain ⟨tr', rfl, _⟩ := path_mark.mp h
  exact List.cons_ne_nil _ _

theorem requestBytes2_unhex {request : Request} {e : Exc}
    (h : request.requestBytes2 = .error e) : ∃ text, e = .valueError text := by
  rw [Request.requestBytes2] at h
  split at h
  · cases h
  · split at h
    · cases h
    · exact fromHex_error (Fallible.map_eq_error.mp h)

theorem readAttempt_fault {request : Request} {r : Except Exc (Dict String DecodedValue)}
    (h : Path (readAttempt waitingTime request) tr r) :
    (∀ e, r = .error e → ReadFault e) ∧ (tr = [] → ∃ text, r = .error (.valueError text)) := by
  cases hcommand : request.requestBytes with
  | error e =>
      obtain ⟨rfl, rfl⟩ := readAttempt_unhex hcommand h
      obtain ⟨text, rfl⟩ := fromHex_error hcommand
      exact ⟨fun e he => by cases he; exact .inr ⟨text, rfl⟩, fun _ => ⟨text, rfl⟩⟩
  | ok command =>
      have hparsed : ∀ {reply : Bytes} {second : Option Bytes} {e : Exc},
          parseRecords reply request.records second ≠ .error e := by
        intro reply second e he
        obtain ⟨values, hvalues⟩ := parseRecords_succeeds reply request.records second
        rw [hvalues] at he
        cases he
      cases readAttempt_path hcommand h with
      | unread hp =>
          exact ⟨fun e he => by cases he; exact .inl (getData_fromLink hp),
            fun hc => absurd hc (getData_ne_nil hp)⟩
      | invalid text hp _ =>
          exact ⟨fun e he => by cases he; exact .inl (.inl ⟨text, rfl⟩),
            fun hc => absurd hc (getData_ne_nil hp)⟩
      | unhex hp _ hsecond =>
          exact ⟨fun e he => by cases he; exact .inr (requestBytes2_unhex hsecond),
            fun hc => absurd hc (getData_ne_nil hp)⟩
      | single hp _ _ =>
          exact ⟨fun e he => absurd he hparsed, fun hc => absurd hc (getData_ne_nil hp)⟩
      | unread2 hp _ _ hp₂ =>
          exact ⟨fun e he => by cases he; exact .inl (getData_fromLink hp₂),
            fun hc => by simp at hc⟩
      | invalid2 text hp _ _ _ _ =>
          exact ⟨fun e he => by cases he; exact .inl (.inl ⟨text, rfl⟩), fun hc => by simp at hc⟩
      | double hp _ _ _ _ => exact ⟨fun e he => absurd he hparsed, fun hc => by simp at hc⟩

theorem restart_fault {r : Except Exc Unit} (h : Path restart tr r) :
    (∀ e, r = .error e → FromLink e) ∧ tr ≠ [] := by
  rw [restart, Transport.closePort, ask_bind, Path.ask_iff] at h
  obtain ⟨closed, tr, rfl, h⟩ := h
  refine ⟨fun e he => ?_, List.cons_ne_nil _ _⟩
  obtain rfl := he
  cases closed with
  | some l =>
      cases (Path.raise_iff.mp h).2
      exact .inr ⟨l, rfl⟩
  | none =>
      obtain ⟨tr, rfl, hopen⟩ := path_sleep.mp h
      rw [Transport.openPort, Path.ask_iff] at hopen
      obtain ⟨opened, tr, rfl, hend⟩ := hopen
      cases opened with
      | some l =>
          cases (Path.raise_iff.mp hend).2
          exact .inr ⟨l, rfl⟩
      | none => cases (Path.ret_iff.mp hend).2

theorem readLoop_fault {request : Request} (attempts : Nat) :
    ∀ {lastError : Option String} {tr : Trace} {r : Except Exc (Dict String DecodedValue)},
      Path (readLoop waitingTime request attempts lastError) tr r →
      (∀ e, r = .error e → ReadFault e) ∧
        (tr = [] → attempts ≠ 0 → ∃ text, r = .error (.valueError text)) := by
  induction attempts with
  | zero =>
      intro lastError tr r h
      obtain ⟨_, rfl⟩ := Path.raise_iff.mp h
      exact ⟨fun e he => by cases he; exact .inl (.inl ⟨_, rfl⟩), fun _ hc => absurd rfl hc⟩
  | succ attempts ih =>
      intro lastError tr r h
      rw [readLoop] at h
      rcases Path.handle_iff.mp h with ⟨values, rfl, hp⟩ | ⟨e, tr₁, tr₂, rfl, hp, hrest⟩
      · exact ⟨fun _ he => (by cases he), fun hnil _ => (readAttempt_fault hp).2 hnil⟩
      · obtain ⟨hfault, hquiet⟩ := readAttempt_fault hp
        split at hrest
        · next hprotocol =>
            rcases Path.bind_iff.mp hrest with ⟨e', rfl, hre⟩ | ⟨_, tr₂, tr₃, rfl, hre, hloop⟩
            · obtain ⟨hlink, hne⟩ := restart_fault hre
              exact ⟨fun e he => by cases he; exact .inl (hlink _ rfl),
                fun hc => by simp [hne] at hc⟩
            · exact ⟨(ih hloop).1, fun hc => by simp [(restart_fault hre).2] at hc⟩
        · obtain ⟨rfl, rfl⟩ := Path.raise_iff.mp hrest
          rw [List.append_nil]
          exact ⟨fun e' he => by cases he; exact hfault _ rfl, fun hnil _ => hquiet hnil⟩

theorem readRequestsFrom_fault (requests : List Request) :
    ∀ {data : Dict String DecodedValue} {tr : Trace} {e : Exc},
      Path (readRequestsFrom waitingTime requests data) tr (.error e) → ReadFault e := by
  induction requests with
  | nil =>
      intro data tr e h
      cases (Path.ret_iff.mp h).2
  | cons request rest ih =>
      intro data tr e h
      rcases Path.bind_iff.mp h with ⟨_, he, hp⟩ | ⟨values, tr₁, tr₂, rfl, _, hrest⟩
      · cases he
        exact (readLoop_fault MAX_TRIES hp).1 _ rfl
      · simp only [] at hrest
        split at hrest
        · cases (Path.ret_iff.mp hrest).2
        · obtain ⟨tr₃, rfl, hnext⟩ := path_sleep.mp hrest
          exact ih hnext

/-! ## The responses to a `GET` -/

theorem ReadFault.not_refusal {e : Exc} (h : ReadFault e) : e.isWriteNotConfirmed = false := by
  rcases h with hlink | ⟨text, rfl⟩
  · exact hlink.not_refusal
  · rfl

/-- No exception of these is the device's refusal of a write. -/
def NeverRefused (p : Talk α) : Prop :=
  ∀ tr e, Path p tr (.error e) → e.isWriteNotConfirmed = false

theorem neverRefused_modular : Modular @NeverRefused where
  ret _ _ _ h := by cases (Path.ret_iff.mp h).2
  raise e he _ _ h := by
    cases (Path.raise_iff.mp h).2
    exact not_refusal_of_not_protocolError he
  bind hp hf _ _ h := by
    rcases Path.bind_iff.mp h with ⟨_, he, hraise⟩ | ⟨_, _, _, _, _, hrest⟩
    · cases he
      exact hp _ _ hraise
    · exact hf _ _ _ hrest

theorem handleException_status {e : Exc} (h : e.isWriteNotConfirmed = false) :
    (handleException e).status = 500 ∨ (handleException e).status = 503 := by
  cases e with
  | writeNotConfirmed ids reason unchanged => cases h
  | protocolError | invalidData => exact .inr rfl
  | _ => exact .inl rfl

/-- The statuses of responses to `GET`. -/
def readStatuses : List Nat := [200, 404, 500, 503]

theorem answered_status {call : Talk α} {body : α → Body} {except : Exc → Option Response}
    (hcall : NeverRefused call)
    (hexcept : ∀ e response, except e = some response → response.status = 404)
    {r : Except Exc Response}
    (h : Path ((App.withService hasService (App.answered call body except)).handle fun exc =>
      return handleException exc) tr r) :
    ∃ response, r = .ok response ∧ response.status ∈ readStatuses := by
  cases hasService with
  | false =>
      rcases Path.handle_iff.mp h with ⟨_, rfl, hp⟩ | ⟨_, _, _, _, hp, _⟩
      · cases (Path.ret_iff.mp hp).2
        exact ⟨_, rfl, by simp [readStatuses]⟩
      · cases (Path.ret_iff.mp hp).2
  | true =>
      obtain ⟨r', hp, rfl⟩ := App.served_path.mp h
      refine ⟨_, rfl, ?_⟩
      cases r' with
      | ok a => simp [App.responseTo, readStatuses]
      | error e =>
          rw [App.responseTo]
          cases he : except e with
          | some response => simp [hexcept e response he, readStatuses]
          | none =>
              have hstatus := handleException_status (hcall _ _ hp)
              simp only [Option.getD_none, readStatuses]
              rcases hstatus with h | h <;> simp [h]

/-- Whatever the device answers, a `GET` only asks, and none of the statuses that speak of a
write come of it. -/
theorem get_asks_only {request : HttpRequest} (hget : request.method = .get)
    {r : Except Exc Response} (h : Path (app.serve hasService request) tr r) :
    (∀ ev ∈ tr, OnlyAsks app.config ev) ∧
      ∃ response, r = .ok response ∧ response.status ∈ readStatuses := by
  refine ⟨(get_onlyAsks hget).path h, ?_⟩
  have hread : ∀ request ∈ app.config.requests,
      NeverRefused (readRequest app.waitingTime request) :=
    fun request _ tr e hp => ((readLoop_fault MAX_TRIES hp).1 e rfl).not_refusal
  have hsleep : NeverRefused (HeatpumpGateway.sleep app.waitingTime) := by
    intro tr e hp
    obtain ⟨_, _, _, hend⟩ := Path.ask_iff.mp hp
    cases (Path.ret_iff.mp hend).2
  have answers : ∀ {response : Response}, response.status = 200 →
      Path ((return response : Talk Response).handle fun exc => return handleException exc) tr r →
      ∃ response, r = .ok response ∧ response.status ∈ readStatuses := by
    intro response hok hp
    obtain ⟨_, rfl⟩ := Path.ret_iff.mp hp
    exact ⟨response, rfl, by simp [hok, readStatuses]⟩
  have hQ := neverRefused_modular
  cases request with
  | root => exact answers rfl h
  | health => exact answers rfl h
  | listChannels dataType writable => exact answers rfl h
  | version =>
      exact answered_status (hQ.getVersion hread) (fun _ _ he => (by cases he)) h
  | readValues ids dataType =>
      rw [App.serve, App.route, App.readValues] at h
      split at h
      · refine answered_status (hQ.readChannels hsleep hread _) (fun e response he => ?_) h
        cases e with
        | channelNotFound ids =>
            cases he
            rfl
        | _ => cases he
      · exact answered_status (hQ.readAll hsleep hread _) (fun _ _ he => (by cases he)) h
  | readChannel channelId =>
      refine answered_status (hQ.readChannel hread channelId) (fun e response he => ?_) h
      cases e with
      | channelNotFound ids =>
          cases he
          rfl
      | _ => cases he
  | writeChannel | setTime => cases hget

def roomTempApp : App := ⟨"Heat Pump", roomTempConfig, 0⟩

/-- The device answers one read, with 21 degrees, and no start after that. -/
def oneAnswerScript : List (Option UInt8) :=
  [0x10, 0x10, 0x02, 0x01, 0x00, 0xE3, 0x0B, 0x00, 0x05, 0x00, 0xD2, 0x10, 0x03].map some

theorem get_asks_only_roomTemp :
    let talk := roomTempApp.serve true (.readChannel "p01RoomTempDay")
    (run scripted talk oneAnswerScript).1 = .ok ⟨200, .value
        (HeatPumpService.toChannelValue roomTempDay (.float (.finite 21)))⟩ ∧
      (∀ ev ∈ trace scripted talk oneAnswerScript, OnlyAsks roomTempConfig ev) ∧
      ∃ response, (run scripted talk oneAnswerScript).1 = .ok response ∧
        response.status ∈ readStatuses :=
  ⟨by decide +kernel, get_asks_only rfl (path_run scripted _ oneAnswerScript)⟩

end HeatpumpGateway
