import HeatpumpGateway.Proofs.Lifespan
import HeatpumpGateway.Proofs.Spelling
import HeatpumpGateway.Proofs.Statuses
import HeatpumpGateway.Proofs.Whole

/-!
# The gateway as a map

A request to the application is a call of the service with a response made of its result
(`serve_call`), and on a device at rest a call is one on a map. So from the request to the bytes
on the line and back the gateway is a map that is read and written over HTTP: `App.respond` says
what it answers, without a device.
-/

namespace HeatpumpGateway

open Dialogue

variable {app : App} {request : HttpRequest}

/-! ## A request as a call -/

/-- A route around a call ends in a response, whatever comes of the call. -/
theorem run_served {α σ : Type} (env : Environment Op Op.Ans σ) (call : Talk α) (body : α → Body)
    (except : Exc → Option Response) (s : σ) :
    run env ((App.answered call body except).handle fun exc => return handleException exc) s
      = (.ok (App.responseTo body except (run env call s).1), (run env call s).2) := by
  rw [run_handle, App.answered, run_handle, run_bind]
  obtain ⟨r, s'⟩ := run env call s
  cases r with
  | ok a => rfl
  | error e =>
      simp only [App.responseTo]
      cases hexcept : except e <;> rfl

/-- A request that makes a call is answered by what comes of the whole call. -/
theorem serve_call {call : ServiceCall} (hcall : request.call = some call)
    (t : SimulatorTransport) :
    run SimulatorTransport.answer (app.serve true request) t
      = (.ok (App.responseTo id request.except (run SimulatorTransport.answer
          (Locked.whole (prepareCall app.config app.waitingTime) call) t).1),
        (run SimulatorTransport.answer
          (Locked.whole (prepareCall app.config app.waitingTime) call) t).2) := by
  have hserved : ∀ {α : Type} {prepared : Except Exc (Talk α)} {body : α → Body}
      {except : Exc → Option Response},
      prepareCall app.config app.waitingTime call
        = prepared.map (fun talk => do return body (← talk)) →
      request.except = except →
      run SimulatorTransport.answer ((App.answered (HeatPumpService.perform prepared) body
          except).handle fun exc => return handleException exc) t
        = (.ok (App.responseTo id request.except (run SimulatorTransport.answer
            (Locked.whole (prepareCall app.config app.waitingTime) call) t).1),
          (run SimulatorTransport.answer
            (Locked.whole (prepareCall app.config app.waitingTime) call) t).2) := by
    intro α prepared body except hprepare hexcept
    rw [run_served, run_whole hprepare, hexcept]
    cases (run SimulatorTransport.answer (HeatPumpService.perform prepared) t).1 <;> rfl
  cases request with
  | root | health | listChannels => cases hcall
  | version | readChannel | writeChannel | setTime =>
      cases hcall
      exact hserved rfl rfl
  | readValues ids dataType =>
      rw [HttpRequest.call] at hcall
      rw [App.serve, App.route, App.readValues]
      by_cases hids : ids.getD "" ≠ ""
      · rw [if_pos hids] at hcall ⊢
        cases hcall
        exact hserved rfl (if_pos hids)
      · rw [if_neg hids] at hcall ⊢
        cases hcall
        exact hserved rfl (if_neg hids)

/-- One that makes none asks nothing of the device. -/
theorem serve_plain {σ τ : Type} (env : Environment Op Op.Ans σ) (env' : Environment Op Op.Ans τ)
    (hcall : request.call = none) (s : σ) (s' : τ) :
    run env (app.serve true request) s = ((run env' (app.serve true request) s').1, s) := by
  cases request with
  | root | health | listChannels => rfl
  | _ => cases hcall

/-! ## Requests to a map -/

/-- What the gateway answers, and the map that is left. A request that makes no call is
answered as it would be without a device. -/
def App.respond (app : App) (m : Values) (request : HttpRequest) : Except Exc Response × Values :=
  match request.call with
  | none => ((run ServiceCall.closedPort (app.serve true request) ()).1, m)
  | some call =>
      (.ok (App.responseTo id request.except (answerCall app.config call m).1),
        (answerCall app.config call m).2)

/-- The map that requests leave. -/
def App.leave (app : App) (requests : List HttpRequest) (m : Values) : Values :=
  requests.foldl (fun m request => (app.respond m request).2) m

/-- The answers to requests one after another. -/
def App.respondAll (app : App) : List HttpRequest → Values → List (Except Exc Response)
  | [], _ => []
  | request :: requests, m =>
      let (response, m') := app.respond m request
      response :: app.respondAll requests m'

theorem respondAll_append (requests requests' : List HttpRequest) :
    ∀ m, app.respondAll (requests ++ requests') m
      = app.respondAll requests m ++ app.respondAll requests' (app.leave requests m) := by
  induction requests with
  | nil => intro m; rfl
  | cons request requests ih =>
      intro m
      exact congrArg _ (ih _)

theorem respondAll_length (requests : List HttpRequest) :
    ∀ m, (app.respondAll requests m).length = requests.length := by
  induction requests with
  | nil => intro m; rfl
  | cons request requests ih =>
      intro m
      exact congrArg (· + 1) (ih _)

/-- What is requested first is answered first. -/
theorem respondAll_drop (before requests : List HttpRequest) (m : Values) :
    (app.respondAll (before ++ requests) m).drop before.length
      = app.respondAll requests (app.leave before m) := by
  rw [respondAll_append, ← @respondAll_length app before m, List.drop_left]

/-- The answer to a request is the one to it on the map that those before it left. -/
theorem respondAll_at (before after : List HttpRequest) (m : Values) :
    (app.respondAll (before ++ request :: after) m)[before.length]?
      = some (app.respond (app.leave before m) request).1 := by
  have hdrop := @respondAll_drop app before (request :: after) m
  rw [← Nat.add_zero before.length, ← List.getElem?_drop, hdrop]
  rfl

/-- Later requests are nothing to the answers to earlier ones. -/
theorem respondAll_zip (requests after : List HttpRequest) (m : Values) :
    requests.zip (app.respondAll (requests ++ after) m)
      = requests.zip (app.respondAll requests m) := by
  have hlength := @respondAll_length app requests m
  have hzip := @List.zip_append _ _ requests [] _
    (app.respondAll after (app.leave requests m)) hlength.symm
  rwa [List.append_nil, List.zip_nil_left, List.append_nil, ← respondAll_append] at hzip

/-! ## The device as the map -/

section device

variable {commands : Dict Command Request} {m : Values} {t : SimulatorTransport}

theorem run_respond (hregular : Regular app.config) (hcommands : Commands app.config commands)
    (hclock : ClockIntegers app.config) (h : Represents app.config commands t m)
    (request : HttpRequest) :
    (run SimulatorTransport.answer (app.serve true request) t).1 = (app.respond m request).1 ∧
      Represents app.config commands
        (run SimulatorTransport.answer (app.serve true request) t).2 (app.respond m request).2 := by
  cases hcall : request.call with
  | none =>
      rw [serve_plain SimulatorTransport.answer ServiceCall.closedPort hcall t ()]
      simp only [App.respond, hcall]
      exact ⟨trivial, h⟩
  | some call =>
      obtain ⟨hanswer, hrep⟩ := @run_serves app.config commands app.waitingTime _ _ hregular
        hcommands hclock h call
      rw [serve_call hcall, hanswer]
      simp only [App.respond, hcall]
      exact ⟨trivial, hrep⟩

theorem responses_eq (hregular : Regular app.config) (hcommands : Commands app.config commands)
    (hclock : ClockIntegers app.config) (requests : List HttpRequest) :
    ∀ {t m}, Represents app.config commands t m →
      app.responses requests t = app.respondAll requests m := by
  induction requests with
  | nil => intro t m _; rfl
  | cons request requests ih =>
      intro t m h
      obtain ⟨hresponse, hrep⟩ := run_respond hregular hcommands hclock h request
      exact congrArg₂ List.cons hresponse (ih hrep)

/-- What a map answers has none of the statuses that speak of a device. -/
theorem respond_status (app : App) (m : Values) (request : HttpRequest) :
    ∃ response, (app.respond m request).1 = .ok response ∧ response.status ≤ 500 := by
  rw [App.respond]
  cases hcall : request.call with
  | none =>
      obtain ⟨_, response, hresponse, hstatus⟩ :=
        served_plain hcall (path_run ServiceCall.closedPort (app.serve true request) ())
      exact ⟨response, hresponse, by omega⟩
  | some call =>
      refine ⟨_, rfl, ?_⟩
      cases hanswer : (answerCall app.config call m).1 with
      | ok body => simp [App.responseTo]
      | error e =>
          have hplain := answerCall_not_protocolError hanswer
          exact request.status_plain hplain

end device

/-! ## Reading what was written -/

/-- A request that may have changed a channel: a `PUT` that was answered with 200, or any setting
of the clock. -/
def Sets (config : HeatPumpConfig) (channelId : String) :
    HttpRequest × Except Exc Response → Prop
  | (.writeChannel id _, r) => id = channelId ∧ ∃ body, r = .ok ⟨200, body⟩
  | (.setTime _, _) => channelId ∈ clockChannels config
  | _ => False

theorem respond_unchanged {channelId : String} {m : Values} {request : HttpRequest}
    (h : ¬ Sets app.config channelId (request, (app.respond m request).1)) :
    (app.respond m request).2 channelId = m channelId := by
  rw [App.respond] at h ⊢
  cases hcall : request.call with
  | none => rfl
  | some call =>
      simp only [hcall] at h
      refine answerCall_unchanged call m fun hchanges => h ?_
      cases request with
      | root | health | listChannels => cases hcall
      | version | readChannel =>
          cases hcall
          exact hchanges
      | setTime now =>
          cases hcall
          exact hchanges
      | readValues ids dataType =>
          rw [HttpRequest.call] at hcall
          split at hcall <;> cases hcall <;> exact hchanges
      | writeChannel id value =>
          cases hcall
          cases hanswer : (answerCall app.config (.writeChannel id value) m).1 with
          | ok body =>
              rw [hanswer] at hchanges
              exact ⟨hchanges, body, rfl⟩
          | error e =>
              rw [hanswer] at hchanges
              exact hchanges.elim

theorem leave_unchanged {channelId : String} (requests : List HttpRequest) :
    ∀ {m : Values}, (∀ entry ∈ requests.zip (app.respondAll requests m),
        ¬ Sets app.config channelId entry) →
      app.leave requests m channelId = m channelId := by
  induction requests with
  | nil => intro m _; rfl
  | cons request requests ih =>
      intro m h
      obtain ⟨hfirst, hrest⟩ := List.forall_mem_cons.mp h
      exact (ih hrest).trans (respond_unchanged hfirst)

theorem writeStatus_ne_ok (e : Exc) : writeStatus e ≠ 200 := by
  cases e <;> simp [writeStatus, Exc.isValueError, Exc.isProtocolError]

/-- A write that was answered with 200 is what a read of the map is answered with. -/
theorem respond_put {channelId : String} {value : CallerValue} {body : Body} {m m' : Values}
    (hput : (app.respond m (.writeChannel channelId value)).1 = .ok ⟨200, body⟩)
    (hkept : m' channelId = (app.respond m (.writeChannel channelId value)).2 channelId) :
    (app.respond m' (.readChannel channelId)).1 = .ok ⟨200, body⟩ := by
  have failed : ∀ e, Except.ok (App.responseTo id (App.exceptWrite channelId) (.error e))
      ≠ (.ok ⟨200, body⟩ : Except Exc Response) := by
    intro e he
    have hstatus := @exceptWrite_status Body channelId id e
    rw [Except.ok.inj he] at hstatus
    exact writeStatus_ne_ok e hstatus.symm
  simp only [App.respond, HttpRequest.call, HttpRequest.except, answerCall, answer] at hput hkept ⊢
  cases hrequire : HeatPumpService.requireChannel app.config channelId with
  | error e =>
      rw [hrequire] at hput
      exact absurd hput (failed e)
  | ok record =>
      simp only [hrequire] at hput hkept
      split at hput
      · exact absurd hput (failed _)
      · next hwritable =>
          simp only [if_neg hwritable] at hkept
          cases hstored : HeatPumpService.coerce record value >>= accept record with
          | error e =>
              simp only [hstored] at hput
              exact absurd hput (failed e)
          | ok stored =>
              simp only [hstored] at hput hkept
              rw [hkept, Values.set, if_pos rfl]
              exact hput

/-! ## The whole gateway -/

section whole

variable {seeds : Dict String DecodedValue} {created : HeatPumpSimulator}
  {store : Dict String Bytes}

theorem responses_represented (hregular : Regular app.config) (hclock : ClockIntegers app.config)
    (hcreated : HeatPumpSimulator.create app.config seeds = .ok created)
    (hstore : StoreOf app.config store) :
    ∃ m, Decodes app.config store m ∧ ∀ requests,
      app.responses requests { simulator := { created with store := store } }
        = app.respondAll requests m := by
  obtain ⟨hcommands, m, hdecodes, hrep⟩ := hstore.represents hregular hcreated
  exact ⟨m, hdecodes, fun requests => responses_eq hregular hcommands hclock requests hrep⟩

/-- From the requests to the bytes on the line and back, the gateway with its simulated device
is a map, which begins as what the frames decode to. Every request is answered, and none with
a status that speaks of the device. -/
theorem gateway_is_a_map (hregular : Regular app.config) (hclock : ClockIntegers app.config)
    (hcreated : HeatPumpSimulator.create app.config seeds = .ok created)
    (hstore : StoreOf app.config store) :
    ∃ m, Decodes app.config store m ∧ ∀ requests,
      app.responses requests { simulator := { created with store := store } }
          = app.respondAll requests m ∧
        ∀ r ∈ app.respondAll requests m, ∃ response, r = .ok response ∧ response.status ≤ 500 := by
  obtain ⟨m, hdecodes, hresponses⟩ := responses_represented hregular hclock hcreated hstore
  refine ⟨m, hdecodes, fun requests => ⟨hresponses requests, ?_⟩⟩
  have hall : ∀ m, ∀ r ∈ app.respondAll requests m,
      ∃ response, r = .ok response ∧ response.status ≤ 500 := by
    induction requests with
    | nil => intro m r hr; cases hr
    | cons request requests ih =>
        intro m
        exact List.forall_mem_cons.mpr ⟨respond_status app m request, ih _⟩
  exact hall m

/-- What a `PUT` was answered with is what a `GET` of the channel is answered with, whatever
else is requested in between, as long as no other `PUT` of the channel is answered with 200 and
nobody sets its clock. -/
theorem put_then_get (hregular : Regular app.config) (hclock : ClockIntegers app.config)
    (hcreated : HeatPumpSimulator.create app.config seeds = .ok created)
    (hstore : StoreOf app.config store) {channelId : String} {value : CallerValue}
    {before between after : List HttpRequest} {responses : List (Except Exc Response)}
    (hresponses : app.responses (before ++ .writeChannel channelId value ::
      (between ++ .readChannel channelId :: after))
        { simulator := { created with store := store } } = responses)
    {body : Body} (hput : responses[before.length]? = some (.ok ⟨200, body⟩))
    (hbetween : ∀ entry ∈ between.zip (responses.drop (before.length + 1)),
      ¬ Sets app.config channelId entry) :
    responses[before.length + 1 + between.length]? = some (.ok ⟨200, body⟩) := by
  obtain ⟨m, _, heq⟩ := responses_represented hregular hclock hcreated hstore
  rw [heq] at hresponses
  subst hresponses
  have hget := @respondAll_at app (.readChannel channelId)
    (before ++ .writeChannel channelId value :: between) after m
  have hdrop := @respondAll_drop app (before ++ [.writeChannel channelId value])
    (between ++ .readChannel channelId :: after) m
  simp only [List.append_assoc, List.cons_append, List.nil_append, List.length_append,
    List.length_cons, List.length_nil, Nat.zero_add, App.leave, List.foldl_append,
    List.foldl_cons, List.foldl_nil] at hget hdrop
  rw [respondAll_at] at hput
  rw [hdrop, respondAll_zip] at hbetween
  rw [show before.length + 1 + between.length = before.length + (between.length + 1) by omega, hget]
  exact congrArg some (respond_put (Option.some.inj hput) (leave_unchanged between hbetween))

end whole

def clockApp : App := ⟨"Heat Pump", clockConfig, 0⟩

theorem gateway_is_a_map_clock : ∃ created m,
    HeatPumpSimulator.create clockConfig [] = .ok created ∧
    Decodes clockConfig clockStore m ∧
    ∀ requests, clockApp.responses requests { simulator := { created with store := clockStore } }
        = clockApp.respondAll requests m ∧
      ∀ r ∈ clockApp.respondAll requests m, ∃ response, r = .ok response ∧
        response.status ≤ 500 := by
  obtain ⟨created, hcreated⟩ := clockConfig_created
  obtain ⟨m, hm⟩ := @gateway_is_a_map clockApp _ _ _ clockConfig_regular clockConfig_integers
    hcreated clockStore_storeOf
  exact ⟨created, m, hcreated, hm⟩

/-- The minutes are put between a `PUT` and a `GET` of the hours. -/
def hoursRequests : List HttpRequest :=
  [.writeChannel "hours" (.int 12), .version, .writeChannel "minutes" (.int 45),
    .readChannel "hours"]

theorem put_then_get_clock : ∃ created, HeatPumpSimulator.create clockConfig [] = .ok created ∧
    (clockApp.responses hoursRequests { simulator := { created with store := clockStore } })[3]?
      = some (.ok ⟨200, .value ⟨"hours", .int 12, none, .settings, true⟩⟩) := by
  obtain ⟨created, hcreated⟩ := clockConfig_created
  refine ⟨created, hcreated, ?_⟩
  have hput : (clockApp.responses hoursRequests
      { simulator := { created with store := clockStore } })[0]?
        = some (.ok ⟨200, .value ⟨"hours", .int 12, none, .settings, true⟩⟩) := by
    have hrun : (HeatPumpSimulator.create clockConfig []).map (fun created =>
        (clockApp.responses hoursRequests
          { simulator := { created with store := clockStore } })[0]?.map Except.toOption)
        = .ok (some (some ⟨200, .value ⟨"hours", .int 12, none, .settings, true⟩⟩)) := by
      decide +kernel
    rw [hcreated] at hrun
    obtain ⟨r, hfirst, hr⟩ := Option.map_eq_some_iff.mp (Except.ok.inj hrun)
    rw [hfirst, Fallible.toOption_eq_some.mp hr]
  refine @put_then_get clockApp _ _ _ clockConfig_regular clockConfig_integers hcreated
    clockStore_storeOf "hours" (.int 12) [] [.version, .writeChannel "minutes" (.int 45)] [] _ rfl
    _ hput ?_
  rintro ⟨request, r⟩ hentry hsets
  have hin := (List.of_mem_zip hentry).1
  simp only [List.mem_cons, List.not_mem_nil, or_false] at hin
  rcases hin with rfl | rfl
  · exact hsets
  · exact absurd hsets.1 (by decide)

end HeatpumpGateway
