import HeatpumpGateway.Proofs.Grouping
import HeatpumpGateway.Proofs.Read
import HeatpumpGateway.Proofs.Write

/-!
# Which exceptions a conversation can end in

A fault of the link is meant to leave the service as a `ProtocolError`. Commands the
transport refuses get in the way: each raises an error of its own, and only some of the
commands are guarded.

`Wary p` says that this is all: when `p` ends in an exception, either the last thing it
asked was a command that was refused and the exception is the transport's, or the exception
is a `ProtocolError`. Refusals that a guard swallows are never last. The property is closed
under sequencing and under the retry loop's `except`, so each program needs only a line or
two. What is not `Wary` are the writes, which compose a value into a reply that may be too
short for it; `writeValues_error_iff` says when one ends in the `IndexError` of that.
-/

namespace HeatpumpGateway

open Dialogue CommunicationService

variable {α β : Type} {waitingTime : Nat}

/-- The end of a run: a refusal passed on, or no exception but a `ProtocolError`. -/
def Classified (tr : Trace) (r : Except Exc α) : Prop :=
  (∃ le : LinkError, refusedLast tr = some le ∧ r = .error le.toExc) ∨
    (refusedLast tr = none ∧ ∀ e, r = .error e → e.isProtocolError = true)

def Wary (p : Talk α) : Prop :=
  ∀ (tr : Trace) (r : Except Exc α), Path p tr r → Classified tr r

theorem toExc_not_protocolError (le : LinkError) : le.toExc.isProtocolError = false := by
  cases le <;> rfl

theorem refusedLast_concat (tr : Trace) (ev : Exchange) :
    refusedLast (tr ++ [ev]) = refusal ev := by
  rw [refusedLast_append (by simp)]
  rfl

theorem Classified.append {tr tr' : Trace} {r : Except Exc α} (h : refusedLast tr = none)
    (h' : Classified tr' r) : Classified (tr ++ tr') r := by
  unfold Classified
  rw [refusedLast_append_of_none h]
  exact h'

/-- A run that returned passed no refusal on. -/
theorem Classified.of_ok {tr : Trace} {a : α} (h : Classified tr (.ok a)) :
    refusedLast tr = none := by
  rcases h with ⟨_, _, hr⟩ | ⟨h, _⟩
  · cases hr
  · exact h

theorem Classified.cast {tr : Trace} {e : Exc} (h : Classified tr (.error e : Except Exc α)) :
    Classified tr (.error e : Except Exc β) := by
  rcases h with ⟨le, hle, hr⟩ | ⟨h, hr⟩
  · cases hr
    exact .inl ⟨le, hle, rfl⟩
  · refine .inr ⟨h, fun e' he' => ?_⟩
    cases he'
    exact hr e rfl

namespace Wary

theorem ret (a : α) : Wary (.ret a : Talk α) := by
  intro tr r h
  obtain ⟨rfl, rfl⟩ := Path.ret_iff.mp h
  exact .inr ⟨rfl, fun e he => by cases he⟩

theorem raise {e : Exc} (h : e.isProtocolError = true) : Wary (.raise e : Talk α) := by
  intro tr r hp
  obtain ⟨rfl, rfl⟩ := Path.raise_iff.mp hp
  refine .inr ⟨rfl, fun e' he' => ?_⟩
  cases he'
  exact h

theorem ofExcept {x : Except Exc α} (h : ∀ e, x = .error e → e.isProtocolError = true) :
    Wary (.ofExcept x) := by
  cases x with
  | ok a => exact ret a
  | error e => exact raise (h e rfl)

/-- The second part may rely on what the first part can return. -/
theorem bind {p : Talk α} {f : α → Talk β} (hp : Wary p)
    (hf : ∀ a tr, Path p tr (.ok a) → Wary (f a)) : Wary (p >>= f) := by
  intro tr r h
  rcases Path.bind_iff.mp h with ⟨e, rfl, he⟩ | ⟨a, tr₁, tr₂, rfl, ha, hrest⟩
  · exact (hp _ _ he).cast
  · exact Classified.append (hp _ _ ha).of_ok (hf a tr₁ ha _ _ hrest)

/-- `except ProtocolError`: other exceptions pass. -/
theorem retry {p : Talk α} {q : Exc → Talk α} (hp : Wary p) (hq : ∀ e, Wary (q e)) :
    Wary (p.handle fun e => if e.isProtocolError then q e else throw e) := by
  intro tr r h
  rcases Path.handle_iff.mp h with ⟨a, rfl, ha⟩ | ⟨e, tr₁, tr₂, rfl, he, hrest⟩
  · exact hp _ _ ha
  · split at hrest
    · next hprotocol =>
        rcases hp _ _ he with ⟨le, _, heq⟩ | ⟨hnone, _⟩
        · cases heq
          rw [toExc_not_protocolError] at hprotocol
          cases hprotocol
        · exact Classified.append hnone (hq e _ _ hrest)
    · obtain ⟨rfl, rfl⟩ := Path.raise_iff.mp hrest
      rw [List.append_nil]
      exact hp _ _ he

/-! ## The link -/

theorem checked_path {a : Option LinkError} {tr : Trace} {r : Except Exc Unit}
    (h : Path (Transport.checked a) tr r) :
    tr = [] ∧ ((∃ le, a = some le ∧ r = .error le.toExc) ∨ (a = none ∧ r = .ok ())) := by
  cases a with
  | none =>
      obtain ⟨rfl, rfl⟩ := Path.ret_iff.mp h
      exact ⟨rfl, .inr ⟨rfl, rfl⟩⟩
  | some le =>
      obtain ⟨rfl, rfl⟩ := Path.raise_iff.mp h
      exact ⟨rfl, .inl ⟨le, rfl, rfl⟩⟩

/-- A command's one exchange is refused, and that is passed on, or it is not. -/
theorem classified_command {ev : Exchange} {a : Option LinkError} (hrefusal : refusal ev = a)
    {tr : Trace} {r : Except Exc Unit} (h : Path (Transport.checked a) tr r) :
    Classified (ev :: tr) r := by
  obtain ⟨rfl, ⟨le, rfl, rfl⟩ | ⟨rfl, rfl⟩⟩ := checked_path h
  · exact .inl ⟨le, hrefusal, rfl⟩
  · exact .inr ⟨hrefusal, fun e he => by cases he⟩

theorem write (data : Bytes) : Wary (Transport.write data) := by
  intro tr r h
  obtain ⟨a, tr, rfl, hnext⟩ := Path.ask_iff.mp h
  exact classified_command rfl hnext

theorem openPort : Wary Transport.openPort := by
  intro tr r h
  obtain ⟨a, tr, rfl, hnext⟩ := Path.ask_iff.mp h
  exact classified_command rfl hnext

theorem closePort : Wary Transport.closePort := by
  intro tr r h
  obtain ⟨a, tr, rfl, hnext⟩ := Path.ask_iff.mp h
  exact classified_command rfl hnext

theorem get : Wary Transport.get := by
  intro tr r h
  obtain ⟨a, tr, rfl, hnext⟩ := Path.ask_iff.mp h
  obtain ⟨rfl, rfl⟩ := Path.ret_iff.mp hnext
  exact .inr ⟨rfl, fun e he => by cases he⟩

theorem sleep (n : Nat) : Wary (HeatpumpGateway.sleep n) := by
  intro tr r h
  obtain ⟨a, tr, rfl, hnext⟩ := Path.ask_iff.mp h
  obtain ⟨rfl, rfl⟩ := Path.ret_iff.mp hnext
  exact .inr ⟨rfl, fun e he => by cases he⟩

theorem mark (m : Mark) : Wary (HeatpumpGateway.mark m) := by
  intro tr r h
  obtain ⟨a, tr, rfl, hnext⟩ := Path.ask_iff.mp h
  obtain ⟨rfl, rfl⟩ := Path.ret_iff.mp hnext
  exact .inr ⟨rfl, fun e he => by cases he⟩

/-! ## The connector -/

theorem startCommunication : Wary Connector.startCommunication := by
  refine bind (write _) fun _ _ _ => bind get fun a _ _ => ?_
  cases a with
  | none => exact raise rfl
  | some b =>
      simp only []
      split
      · exact raise rfl
      · exact ret _

theorem awaitDataAvailable (fuel : Nat) : ∀ bufferRetry numRead buffer,
    Wary (Connector.awaitDataAvailable fuel bufferRetry numRead buffer) := by
  induction fuel with
  | zero => intro _ _ _; exact ret _
  | succ fuel ih =>
      intro bufferRetry numRead buffer
      rw [Connector.awaitDataAvailable]
      split
      · refine bind get fun a _ _ => ?_
        cases a with
        | none => exact ih _ _ _
        | some b =>
            simp only []
            split
            · exact raise rfl
            · split
              · exact ih _ _ _
              · exact ret _
      · exact ret _

theorem establishLoop (message : Bytes) (tries : Nat) :
    ∀ buffer, Wary (Connector.establishLoop message tries buffer) := by
  induction tries with
  | zero => intro _; exact ret _
  | succ tries ih =>
      intro buffer
      rw [Connector.establishLoop]
      refine bind (write _) fun _ _ _ => bind (awaitDataAvailable _ _ _ _) fun res _ _ => ?_
      obtain ⟨available, buffer'⟩ := res
      cases available with
      | true => exact ret _
      | false => exact bind startCommunication fun _ _ _ => ih buffer'

/-- The guarded end may have swallowed a refusal, but the return is marked after it. -/
theorem getData (message : Bytes) : Wary (Connector.getData message) := by
  refine bind (mark _) fun _ _ _ => bind startCommunication fun _ _ _ =>
    bind (establishLoop message _ _) fun established _ _ => ?_
  intro tr r h
  obtain ⟨reply, seen, rfl, rfl, _⟩ := replied_path h
  exact .inr ⟨refusedLast_concat _ _, fun e he => by cases he⟩

theorem setData (message : Bytes) : Wary (Connector.setData message) := by
  intro tr r h
  obtain ⟨pre, _, ⟨text, answers, rfl, _, rfl⟩ | ⟨reply, seen, rfl, _, _, _, rfl⟩⟩ := setData_path h
  · refine .inr ⟨?_, fun e he => by cases he; rfl⟩
    rw [← List.cons_append, refusedLast_append (by simp)]
    rcases List.eq_nil_or_concat answers with rfl | ⟨answers, a, rfl⟩
    · rfl
    · rw [show acked :: gets (answers.concat a) = (acked :: gets answers) ++ [⟨.get, a⟩] by
        simp [gets], refusedLast_concat]
      rfl
  · refine .inr ⟨?_, fun e he => by cases he⟩
    rw [← List.cons_append, refusedLast_concat]
    rfl

/-! ## The service -/

theorem restart : Wary CommunicationService.restart :=
  bind closePort fun _ _ _ => bind (sleep _) fun _ _ _ => openPort

theorem readAttempt {request : Request} {commands : List Bytes}
    (h : requestCommands request = .ok commands) :
    Wary (CommunicationService.readAttempt waitingTime request) := by
  obtain ⟨command, hcommand, hsecond⟩ := requestCommands_ok h
  have hrecords : ∀ response response2, Wary (Dialogue.ofExcept
      (parseRecords response request.records response2) : Talk (Dict String DecodedValue)) := by
    intro response response2
    obtain ⟨values, hvalues⟩ := parseRecords_succeeds response request.records response2
    exact ofExcept fun e he => by rw [hvalues] at he; cases he
  rw [CommunicationService.readAttempt, hcommand]
  simp only [ofExcept_ok, ret_bind]
  refine bind (getData _) fun response _ _ => ?_
  split
  · exact raise rfl
  · rcases hsecond with ⟨h2, _⟩ | ⟨command2, h2, _⟩
    · rw [h2]
      exact hrecords _ _
    · rw [h2]
      simp only [ofExcept_ok, ret_bind]
      refine bind (sleep _) fun _ _ _ => bind (getData _) fun response2 _ _ => ?_
      split
      · exact raise rfl
      · exact hrecords _ _

theorem readLoop {request : Request} {commands : List Bytes}
    (h : requestCommands request = .ok commands) (attempts : Nat) :
    ∀ lastError, Wary (CommunicationService.readLoop waitingTime request attempts lastError) := by
  induction attempts with
  | zero => intro _; exact raise rfl
  | succ attempts ih =>
      intro lastError
      rw [CommunicationService.readLoop]
      exact retry (readAttempt h) fun e => bind restart fun _ _ _ => ih _

theorem readRequest {request : Request} {commands : List Bytes}
    (h : requestCommands request = .ok commands) :
    Wary (CommunicationService.readRequest waitingTime request) :=
  readLoop h _ _

end Wary

/-! ## Exchanges and reads that fail -/

theorem Classified.error_iff {tr : Trace} {e : Exc}
    (h : Classified tr (.error e : Except Exc α)) :
    e.isProtocolError = true ↔ refusedLast tr = none := by
  rcases h with ⟨le, hle, hr⟩ | ⟨hnone, hr⟩
  · cases hr
    rw [toExc_not_protocolError, hle]
    simp
  · exact iff_of_true (hr e rfl) hnone

theorem Wary.error_iff {p : Talk α} (hp : Wary p) {tr : Trace} {e : Exc}
    (h : Path p tr (.error e)) : e.isProtocolError = true ↔ refusedLast tr = none :=
  (hp _ _ h).error_iff

theorem Wary.refusedLast_of_ok {p : Talk α} (hp : Wary p) {tr : Trace} {a : α}
    (h : Path p tr (.ok a)) : refusedLast tr = none :=
  (hp _ _ h).of_ok

/-- A failed exchange is a `ProtocolError` unless the transport refused its last command. -/
theorem getData_error_iff {message : Bytes} {tr : Trace} {e : Exc}
    (h : Path (Connector.getData message) tr (.error e)) :
    e.isProtocolError = true ↔ refusedLast tr = none :=
  (Wary.getData message).error_iff h

theorem refusedLast_sleep (tr : Trace) :
    refusedLast (⟨.sleep waitingTime, ()⟩ :: tr) = refusedLast tr :=
  @refusedLast_append_of_none [⟨.sleep waitingTime, ()⟩] tr rfl

theorem fromHex_not_protocolError {text : String} {e : Exc} (h : fromHex text = .error e) :
    e.isProtocolError = false := by
  obtain ⟨why, rfl⟩ := fromHex_error h
  rfl

/-! ## Writes -/

theorem decodeAll_error {frame : Bytes} {items : List (DecodedValue × ChannelDefinition)}
    {e : Exc} (h : decodeAll frame items = .error e) : e.isProtocolError = true := by
  refine Fallible.foldlM_error (Q := fun e => e.isProtocolError = true) ?_ items h
  intro values item e hstep
  rcases Fallible.bind_eq_error.mp hstep with hparse | ⟨_, _, hret⟩
  · obtain ⟨text, rfl⟩ := parseRecord_error hparse
    rfl
  · cases hret

/-- The command of the register is no hexadecimal text, or the value does not go into the
reply to it, which is neither empty nor the request. -/
def WriteTroubled (v : DecodedValue) (record : ChannelDefinition) (ms : List Mark) : Prop :=
  match fromHex record.requestByte with
  | .error _ => True
  | .ok command => ∃ reply,
      [.getData (createRequestMessage command GET), .gotData reply] <+: ms ∧ reply ≠ [] ∧
      reply ≠ createRequestMessage command GET ∧ ¬ Accommodates reply.length v record

theorem writeTroubled_reply {v : DecodedValue} {record : ChannelDefinition} {command : Bytes}
    (hcommand : fromHex record.requestByte = .ok command) (reply : Bytes) (rest : List Mark) :
    WriteTroubled v record
        (.getData (createRequestMessage command GET) :: .gotData reply :: rest) ↔
      reply ≠ [] ∧ reply ≠ createRequestMessage command GET ∧
        ¬ Accommodates reply.length v record := by
  rw [WriteTroubled, hcommand]
  simp [List.cons_prefix_cons, eq_comm]

/-- A write that fails does so with a `ProtocolError` unless the transport refused its last
command or the write was troubled. -/
theorem writeValues_error_iff {v : DecodedValue} {record : ChannelDefinition} {tr : Trace}
    {e : Exc} (h : Path (writeValues waitingTime [(v, record)]) tr (.error e)) :
    e.isProtocolError = true ↔ refusedLast tr = none ∧ ¬ WriteTroubled v record (marks tr) := by
  cases hcommand : fromHex record.requestByte with
  | error e₁ =>
      obtain ⟨rfl, hr⟩ := writeValues_unhex hcommand h
      cases hr
      rw [fromHex_not_protocolError hcommand, WriteTroubled, hcommand]
      simp
  | ok command =>
      generalize hr : Except.error e = r at h
      have read : ∀ {tr : Trace} {reply : Bytes},
          Path (Connector.getData (createRequestMessage command GET)) tr (.ok reply) →
          refusedLast tr = none := (Wary.getData _).refusedLast_of_ok
      -- Once there is a frame to set, only the device can make the write fail.
      have composed : ∀ {tr tr' : Trace} {reply frame : Bytes},
          Path (Connector.getData (createRequestMessage command GET)) tr (.ok reply) →
          composeAll [(v, record)] reply = .ok frame → refusedLast tr' = none →
          refusedLast (tr ++ ⟨.sleep waitingTime, ()⟩ :: tr') = none ∧
            ¬ WriteTroubled v record (marks (tr ++ ⟨.sleep waitingTime, ()⟩ :: tr')) := by
        intro tr tr' reply frame hp hframe hquiet
        rw [composeAll_single] at hframe
        rw [refusedLast_append_of_none (read hp), refusedLast_sleep, marks_append,
          getData_ok_marks hp]
        refine ⟨hquiet, fun hc => ?_⟩
        exact ((writeTroubled_reply hcommand _ _).mp hc).2.2
          (composeRecord_ok_iff.mp hframe).1.accommodates
      cases writeValues_path hcommand h with
      | unread hp =>
          cases hr
          rw [getData_error_iff hp, getData_marks hp, WriteTroubled, hcommand]
          simp [List.cons_prefix_cons, Except.toOption]
      | echoed hp => cases hr
      | silent text hp =>
          cases hr
          refine iff_of_true rfl ⟨read hp, fun hc => ?_⟩
          rw [getData_ok_marks hp] at hc
          exact ((writeTroubled_reply hcommand _ _).mp hc).1 rfl
      | unfit hp hecho hne hframe =>
          cases hr
          rw [composeAll_single] at hframe
          rw [getData_ok_marks hp, writeTroubled_reply hcommand, composeRecord_error_iff hframe]
          simp [read hp, hecho, hne]
      | unsent hp _ _ hframe hset =>
          cases hr
          obtain ⟨_, _, ⟨text, _, he, _⟩ | ⟨_, _, hok, _⟩⟩ := setData_path hset
          · cases he
            have hquiet := ((Wary.setData _).error_iff hset).mp rfl
            exact iff_of_true rfl (composed hp hframe hquiet)
          · cases hok
      | confirmed hp _ _ hframe hset _ =>
          exact iff_of_true (decodeAll_error hr.symm)
            (composed hp hframe ((Wary.setData _).refusedLast_of_ok hset))
      | refused _ hp _ _ hframe hset _ =>
          refine iff_of_true ?_ (composed hp hframe ((Wary.setData _).refusedLast_of_ok hset))
          rcases Fallible.bind_eq_error.mp hr.symm with hdecode | ⟨_, _, hwnc⟩
          · exact decodeAll_error hdecode
          · cases hwnc
            rfl

/-! ## Setting the clock -/

/-- The writes of `_set_time_via_registers`, in order. -/
def registerItems (clockRecords : Dict String ChannelDefinition)
    (values : Dict String DecodedValue) (fields : List String) :
    List (DecodedValue × ChannelDefinition) :=
  fields.filterMap fun field =>
    match clockRecords.get? field, values.get? field with
    | some record, some value => some (value, record)
    | _, _ => none

/-- What `set_time` writes through registers of their own, where there are any. -/
def timeItems (clockRecords : Dict String ChannelDefinition) (now : DateTime) :
    List (DecodedValue × ChannelDefinition) :=
  registerItems clockRecords (clockValues now) CLOCK_FIELDS

/-- What `set_time` writes into the clock frame, where there are none. -/
def timeFrameItems (request : Request) (now : DateTime) :
    List (DecodedValue × ChannelDefinition) :=
  clockItems request.records (clockValues now)

/-! ## The calls -/

/-- The calls of the service that talk to the device. -/
inductive ServiceCall where
  | readChannel (channelId : String)
  | readChannels (channelIds : List String)
  | readAll (dataTypes : List DataType)
  | getVersion
  | setTime (now : DateTime)
  | writeChannel (channelId : String) (value : CallerValue)

namespace ServiceCall

/-- The call, without what it returns. -/
def talk (config : HeatPumpConfig) (waitingTime : Nat) : ServiceCall → Talk Unit
  | readChannel channelId => do
      let _ ← HeatPumpService.readChannel config waitingTime channelId
  | readChannels channelIds => do
      let _ ← HeatPumpService.readChannels config waitingTime channelIds
  | readAll dataTypes => do
      let _ ← HeatPumpService.readAll config waitingTime dataTypes
  | getVersion => do
      let _ ← HeatPumpService.getVersion config waitingTime
  | setTime now => do
      let _ ← HeatPumpService.setTime config waitingTime now
  | writeChannel channelId value => do
      let _ ← HeatPumpService.writeChannel config waitingTime channelId value

/-- A port that was closed under the service. -/
def closedPort : Environment Op Op.Ans Unit
  | .write _, s => (some .notOpen, s)
  | .get, s => (none, s)
  | .openPort, s => (none, s)
  | .closePort, s => (none, s)
  | .sleep _, s => ((), s)
  | .mark _, s => ((), s)

/-- The register's reply is too short for the field. -/
def shortReplyScript : List (Option UInt8) :=
  [0x10, 0x10, 0x02, 0x01, 0x00, 0x0C, 0x0B, 0x10, 0x03].map some

end ServiceCall

end HeatpumpGateway
