import HeatpumpGateway.Model.Service
import HeatpumpGateway.Proofs.Exchange
import HeatpumpGateway.Lib.Fallible
import HeatpumpGateway.Proofs.Frame

/-!
# What a read can have done

`read_request` tries up to three times; an attempt is one exchange, or two for a
value that is spread over two commands. `AttemptRun` lists the ways an attempt can
go and `readLoop_path` strings the attempts together.

The header check does not look at the command, so a valid frame of another
register is decoded like the register's own. `decoded_frames_carry_iff` says when a
read returns what belongs to it: exactly when no attempt was answered in full by
valid frames of which one carries another command.
-/

namespace HeatpumpGateway

open Dialogue CommunicationService

variable {waitingTime : Nat} {request : Request}

/-! ## One attempt -/

/-- An attempt whose first command is `command`, as a trace and a result. -/
inductive AttemptRun (waitingTime : Nat) (request : Request) (command : Bytes) :
    Trace → Except Exc (Dict String DecodedValue) → Prop
  | unread {tr : Trace} {e : Exc} :
      Path (Connector.getData (createRequestMessage command GET)) tr (.error e) →
      AttemptRun waitingTime request command tr (.error e)
  | invalid {tr : Trace} {reply : Bytes} (text : String) :
      Path (Connector.getData (createRequestMessage command GET)) tr (.ok reply) →
      headerCheck reply = false →
      AttemptRun waitingTime request command tr (.error (.protocolError text))
  | unhex {tr : Trace} {reply : Bytes} {e : Exc} :
      Path (Connector.getData (createRequestMessage command GET)) tr (.ok reply) →
      headerCheck reply = true → request.requestBytes2 = .error e →
      AttemptRun waitingTime request command tr (.error e)
  | single {tr : Trace} {reply : Bytes} :
      Path (Connector.getData (createRequestMessage command GET)) tr (.ok reply) →
      headerCheck reply = true → request.requestBytes2 = .ok none →
      AttemptRun waitingTime request command tr (parseRecords reply request.records none)
  | unread2 {tr tr' : Trace} {reply command2 : Bytes} {e : Exc} :
      Path (Connector.getData (createRequestMessage command GET)) tr (.ok reply) →
      headerCheck reply = true → request.requestBytes2 = .ok (some command2) →
      Path (Connector.getData (createRequestMessage command2 GET)) tr' (.error e) →
      AttemptRun waitingTime request command (tr ++ ⟨.sleep waitingTime, ()⟩ :: tr') (.error e)
  | invalid2 {tr tr' : Trace} {reply command2 reply2 : Bytes} (text : String) :
      Path (Connector.getData (createRequestMessage command GET)) tr (.ok reply) →
      headerCheck reply = true → request.requestBytes2 = .ok (some command2) →
      Path (Connector.getData (createRequestMessage command2 GET)) tr' (.ok reply2) →
      headerCheck reply2 = false →
      AttemptRun waitingTime request command (tr ++ ⟨.sleep waitingTime, ()⟩ :: tr')
        (.error (.protocolError text))
  | double {tr tr' : Trace} {reply command2 reply2 : Bytes} :
      Path (Connector.getData (createRequestMessage command GET)) tr (.ok reply) →
      headerCheck reply = true → request.requestBytes2 = .ok (some command2) →
      Path (Connector.getData (createRequestMessage command2 GET)) tr' (.ok reply2) →
      headerCheck reply2 = true →
      AttemptRun waitingTime request command (tr ++ ⟨.sleep waitingTime, ()⟩ :: tr')
        (parseRecords reply request.records (some reply2))

theorem readAttempt_path {command : Bytes} (hcommand : request.requestBytes = .ok command)
    {tr : Trace} {r : Except Exc (Dict String DecodedValue)}
    (h : Path (readAttempt waitingTime request) tr r) :
    AttemptRun waitingTime request command tr r := by
  rw [readAttempt, hcommand] at h
  simp only [ofExcept_ok, ret_bind] at h
  rcases Path.bind_iff.mp h with ⟨e, rfl, hp⟩ | ⟨reply, tr₁, tr₂, rfl, hp, hrest⟩
  · exact .unread hp
  cases hcheck : headerCheck reply with
  | false =>
      rw [hcheck] at hrest
      obtain ⟨rfl, rfl⟩ := Path.raise_iff.mp hrest
      rw [List.append_nil]
      exact .invalid _ hp hcheck
  | true =>
      rw [hcheck] at hrest
      cases hcommand2 : request.requestBytes2 with
      | error e =>
          rw [hcommand2] at hrest
          obtain ⟨rfl, rfl⟩ := Path.raise_iff.mp hrest
          rw [List.append_nil]
          exact .unhex hp hcheck hcommand2
      | ok second =>
          rw [hcommand2] at hrest
          cases second with
          | none =>
              obtain ⟨rfl, rfl⟩ := Path.ofExcept_iff.mp hrest
              rw [List.append_nil]
              exact .single hp hcheck hcommand2
          | some command2 =>
              obtain ⟨tr₂, rfl, hsecond⟩ := path_sleep.mp hrest
              rcases Path.bind_iff.mp hsecond with
                ⟨e, rfl, hp₂⟩ | ⟨reply2, tr₂, tr₃, rfl, hp₂, htail⟩
              · exact .unread2 hp hcheck hcommand2 hp₂
              cases hcheck2 : headerCheck reply2 with
              | false =>
                  rw [hcheck2] at htail
                  obtain ⟨rfl, rfl⟩ := Path.raise_iff.mp htail
                  rw [List.append_nil]
                  exact .invalid2 _ hp hcheck hcommand2 hp₂ hcheck2
              | true =>
                  rw [hcheck2] at htail
                  obtain ⟨rfl, rfl⟩ := Path.ofExcept_iff.mp htail
                  rw [List.append_nil]
                  exact .double hp hcheck hcommand2 hp₂ hcheck2

theorem readAttempt_unhex {e : Exc} (hcommand : request.requestBytes = .error e) {tr : Trace}
    {r : Except Exc (Dict String DecodedValue)}
    (h : Path (readAttempt waitingTime request) tr r) : tr = [] ∧ r = .error e := by
  rw [readAttempt, hcommand] at h
  exact Path.raise_iff.mp h

/-! ## The attempts together -/

theorem restart_marks {tr : Trace} {r : Except Exc Unit} (h : Path restart tr r) :
    marks tr = [] := by
  refine marks_eq_nil fun ev hev => ?_
  have hwithin : Within (fun ev => markOf ev = none) restart := by
    refine Within.bind ?_ fun _ => Within.bind ?_ fun _ => ?_
    · intro a
      exact ⟨rfl, by cases a <;> trivial⟩
    · intro a
      exact ⟨rfl, trivial⟩
    · intro a
      exact ⟨rfl, by cases a <;> trivial⟩
  exact hwithin.path h ev hev

/-- A read that returns made some attempts in vain, restarting the link after each,
and then one that succeeded. -/
inductive ReadRun (waitingTime : Nat) (request : Request)
    (values : Dict String DecodedValue) : Trace → Prop
  | done {tr : Trace} :
      Path (readAttempt waitingTime request) tr (.ok values) →
      ReadRun waitingTime request values tr
  | again {tr tr' tr'' : Trace} {e : Exc} :
      Path (readAttempt waitingTime request) tr (.error e) → e.isProtocolError = true →
      Path restart tr' (.ok ()) → ReadRun waitingTime request values tr'' →
      ReadRun waitingTime request values (tr ++ tr' ++ tr'')

theorem readLoop_path (attempts : Nat) :
    ∀ {lastError : Option String} {tr : Trace} {values : Dict String DecodedValue},
      Path (readLoop waitingTime request attempts lastError) tr (.ok values) →
      ReadRun waitingTime request values tr := by
  induction attempts with
  | zero =>
      intro _ tr values h
      cases (Path.raise_iff.mp h).2
  | succ attempts ih =>
      intro lastError tr values h
      rw [readLoop] at h
      rcases Path.handle_iff.mp h with ⟨_, hr, hp⟩ | ⟨e, tr₁, tr₂, rfl, hp, hrest⟩
      · cases hr
        exact .done hp
      · split at hrest
        · next hprotocol =>
            obtain ⟨_, tr₂, tr₃, rfl, hrestart, hagain⟩ := Path.bind_ok hrest
            rw [← List.append_assoc]
            exact .again hp hprotocol hrestart (ih hagain)
        · cases (Path.raise_iff.mp hrest).2

theorem readRequest_path {tr : Trace} {values : Dict String DecodedValue}
    (h : Path (readRequest waitingTime request) tr (.ok values)) :
    ReadRun waitingTime request values tr :=
  readLoop_path MAX_TRIES h

/-! ## Decoding does not fail -/

theorem parseRecord_error {response : Bytes} {record : ChannelDefinition} {e : Exc}
    (h : parseRecord response record = .error e) : ∃ text, e = .invalidData text := by
  rw [parseRecord] at h
  split at h
  · cases h
    exact ⟨_, rfl⟩
  · split at h
    · cases h
      exact ⟨_, rfl⟩
    · split at h
      · cases h
      · cases h
        exact ⟨_, rfl⟩
      · cases h
        exact ⟨_, rfl⟩

/-- Integers of two frames are put together by thousands. -/
theorem parseCombined_int {response response2 : Bytes} {record : ChannelDefinition} {low high : Int}
    (hlength : record.length ≠ 4) (hlow : parseRecord response record = .ok (.int low))
    (hhigh : parseRecord response2 record = .ok (.int high)) :
    parseCombined response (some response2) record = .ok (.int (high * 1000 + low)) := by
  have hshort : isShortResult (.int low) record = true := by
    simp [isShortResult, hlength]
  rw [parseCombined, hlow, Fallible.ok_bind]
  simp only [hshort, if_true, hhigh, Fallible.ok_bind, combineValues, Fallible.pure_eq]

theorem parseCombined_error {response : Bytes} {response2 : Option Bytes}
    {record : ChannelDefinition} {e : Exc}
    (h : parseCombined response response2 record = .error e) :
    ∃ text, e = .invalidData text := by
  rw [parseCombined] at h
  rcases Fallible.bind_eq_error.mp h with he | ⟨value, _, hrest⟩
  · exact parseRecord_error he
  · split at hrest
    · split at hrest
      · rcases Fallible.bind_eq_error.mp hrest with he | ⟨_, _, hc⟩
        · exact parseRecord_error he
        · cases hc
      · cases hrest
    · cases hrest

/-- A record that cannot be decoded is left out; nothing else goes wrong. -/
theorem parseRecords_succeeds (response : Bytes) (records : List ChannelDefinition)
    (response2 : Option Bytes) :
    ∃ values, parseRecords response records response2 = .ok values := by
  rw [parseRecords]
  split
  · exact ⟨[], rfl⟩
  · split
    · exact ⟨[], rfl⟩
    · refine (Fallible.foldlM_succeeds_iff (I := fun _ => True) (P := fun _ => True) ?_ ?_
        records trivial).mpr fun _ _ => trivial
      · intro result record _
        refine ⟨fun _ => trivial, fun _ => ?_⟩
        split
        · exact ⟨_, rfl⟩
        · exact ⟨_, rfl⟩
        · next e hnot he =>
            obtain ⟨text, rfl⟩ := parseCombined_error he
            exact absurd rfl (hnot text)
      · intro _ _ _ _ _
        trivial

/-! ## Frames of another register -/

/-- The command's bytes are in the frame, from index 3 on. -/
def Carries (command frame : Bytes) : Prop := (frame.drop 3).take command.length = command

instance (command frame : Bytes) : Decidable (Carries command frame) :=
  inferInstanceAs (Decidable (_ = _))

/-- The one or two commands of a request. -/
def requestCommands (request : Request) : Except Exc (List Bytes) := do
  let command ← request.requestBytes
  match ← request.requestBytes2 with
  | none => return [command]
  | some command2 => return [command, command2]

/-- What is decoded from the one or two frames of an attempt. -/
def decodeFrames (request : Request) : List Bytes → Option (Except Exc (Dict String DecodedValue))
  | [reply] => some (parseRecords reply request.records none)
  | [reply, reply2] => some (parseRecords reply request.records (some reply2))
  | _ => none

/-- Exchanges about the commands, answered one by one. -/
def exchangeMarks : List Bytes → List Bytes → List Mark
  | command :: commands, frame :: frames =>
      .getData (createRequestMessage command GET) :: .gotData frame ::
        exchangeMarks commands frames
  | _, _ => []

/-- Somewhere in the trace the commands are answered in full by valid frames. -/
def Answered (commands frames : List Bytes) (ms : List Mark) : Prop :=
  frames.length = commands.length ∧ (∀ frame ∈ frames, headerCheck frame = true) ∧
    exchangeMarks commands frames <:+: ms

/-- The marks of an attempt that came to nothing. -/
inductive FailedMarks : List Bytes → List Mark → Prop
  | unread (command : Bytes) (rest : List Bytes) :
      FailedMarks (command :: rest) [.getData (createRequestMessage command GET)]
  | invalid {command reply : Bytes} (rest : List Bytes) : headerCheck reply = false →
      FailedMarks (command :: rest)
        [.getData (createRequestMessage command GET), .gotData reply]
  | unread2 (command command2 reply : Bytes) :
      FailedMarks [command, command2]
        [.getData (createRequestMessage command GET), .gotData reply,
          .getData (createRequestMessage command2 GET)]
  | invalid2 {command command2 reply reply2 : Bytes} : headerCheck reply2 = false →
      FailedMarks [command, command2]
        [.getData (createRequestMessage command GET), .gotData reply,
          .getData (createRequestMessage command2 GET), .gotData reply2]

theorem FailedMarks.head {commands : List Bytes} {failed : List Mark}
    (h : FailedMarks commands failed) : ∃ message rest, failed = .getData message :: rest := by
  cases h with
  | unread command rest => exact ⟨_, _, rfl⟩
  | invalid rest _ => exact ⟨_, _, rfl⟩
  | unread2 command command2 reply => exact ⟨_, _, rfl⟩
  | invalid2 _ => exact ⟨_, _, rfl⟩

/-- Nothing in a failed attempt, nor across its end, looks like an answer in full. -/
theorem Answered.skip {commands frames : List Bytes} {failed rest : List Mark}
    (hfailed : FailedMarks commands failed)
    (hrest : ∀ reply rest', rest ≠ .gotData reply :: rest')
    (h : Answered commands frames (failed ++ rest)) : Answered commands frames rest := by
  obtain ⟨hlen, hvalid, hwithin⟩ := h
  refine ⟨hlen, hvalid, ?_⟩
  have hno : ∀ reply ms, ¬ Mark.gotData reply :: ms <+: rest := by
    intro reply ms hc
    obtain ⟨tail, htail⟩ := hc
    exact hrest reply (ms ++ tail) htail.symm
  have differ : ∀ {frame reply : Bytes}, frame ∈ frames → headerCheck reply = false →
      frame ≠ reply := by
    intro frame _ hmem hfalse hc
    obtain rfl := hc
    rw [hvalid frame hmem] at hfalse
    cases hfalse
  cases frames with
  | nil => cases hfailed <;> simp at hlen
  | cons frame frames =>
      cases hfailed with
      | unread command rest' =>
          rw [exchangeMarks] at hwithin ⊢
          simpa [List.infix_cons_iff, List.cons_prefix_cons, hno] using hwithin
      | invalid rest' hfalse =>
          rw [exchangeMarks] at hwithin ⊢
          have hne := differ List.mem_cons_self hfalse
          simpa [List.infix_cons_iff, List.cons_prefix_cons, hne] using hwithin
      | unread2 command command2 reply =>
          obtain ⟨frame2, rfl⟩ := List.length_eq_one_iff.mp (Nat.succ.inj hlen)
          simp only [exchangeMarks] at hwithin ⊢
          simpa [List.infix_cons_iff, List.cons_prefix_cons, hno] using hwithin
      | invalid2 hfalse =>
          obtain ⟨frame2, rfl⟩ := List.length_eq_one_iff.mp (Nat.succ.inj hlen)
          simp only [exchangeMarks] at hwithin ⊢
          have hne := differ List.mem_cons_self hfalse
          have hne2 := differ (List.mem_cons_of_mem _ List.mem_cons_self) hfalse
          simpa [List.infix_cons_iff, List.cons_prefix_cons, hne, hne2] using hwithin

theorem requestCommands_ok {commands : List Bytes}
    (h : requestCommands request = .ok commands) :
    ∃ command, request.requestBytes = .ok command ∧
      ((request.requestBytes2 = .ok none ∧ commands = [command]) ∨
        ∃ command2, request.requestBytes2 = .ok (some command2) ∧
          commands = [command, command2]) := by
  obtain ⟨command, hcommand, hrest⟩ := Fallible.bind_eq_ok.mp h
  obtain ⟨second, hsecond, hret⟩ := Fallible.bind_eq_ok.mp hrest
  refine ⟨command, hcommand, ?_⟩
  cases second with
  | none =>
      cases hret
      exact .inl ⟨hsecond, rfl⟩
  | some command2 =>
      cases hret
      exact .inr ⟨command2, hsecond, rfl⟩

theorem requestCommands_ne_nil {commands : List Bytes}
    (h : requestCommands request = .ok commands) : commands ≠ [] := by
  obtain ⟨command, _, ⟨_, rfl⟩ | ⟨_, _, rfl⟩⟩ := requestCommands_ok h
  · exact List.cons_ne_nil _ _
  · exact List.cons_ne_nil _ _

/-- Where the commands are decoded, the second one is. -/
theorem requestBytes2_of_commands {commands : List Bytes}
    (h : requestCommands request = .ok commands) (e : Exc) :
    request.requestBytes2 ≠ .error e := by
  obtain ⟨_, _, ⟨h2, _⟩ | ⟨_, h2, _⟩⟩ := requestCommands_ok h
  · simp [h2]
  · simp [h2]

theorem attempt_failed_marks {commands : List Bytes}
    (hcommands : requestCommands request = .ok commands) {tr : Trace} {e : Exc}
    (h : Path (readAttempt waitingTime request) tr (.error e)) :
    FailedMarks commands (marks tr) := by
  obtain ⟨command, hcommand, hsecond⟩ := requestCommands_ok hcommands
  have hsome : ∀ {command2 : Bytes}, request.requestBytes2 = .ok (some command2) →
      commands = [command, command2] := by
    intro command2 h2
    rcases hsecond with ⟨hnone, _⟩ | ⟨command2', h2', hc⟩
    · rw [hnone] at h2
      cases h2
    · rw [h2'] at h2
      cases h2
      exact hc
  obtain ⟨rest, rfl⟩ : ∃ rest, commands = command :: rest := by
    rcases hsecond with ⟨_, rfl⟩ | ⟨_, _, rfl⟩
    · exact ⟨_, rfl⟩
    · exact ⟨_, rfl⟩
  generalize hr : Except.error e = r at h
  cases readAttempt_path hcommand h with
  | unread hp =>
      rw [getData_marks hp]
      exact .unread command rest
  | invalid _ hp hcheck =>
      rw [getData_ok_marks hp]
      exact .invalid rest hcheck
  | unhex _ _ herror =>
      rcases hsecond with ⟨h2, _⟩ | ⟨_, h2, _⟩ <;> rw [h2] at herror <;> cases herror
  | @single _ reply _ _ _ =>
      obtain ⟨values, hvalues⟩ := parseRecords_succeeds reply request.records none
      rw [hvalues] at hr
      cases hr
  | unread2 hp _ h2 hp₂ =>
      rw [hsome h2, marks_append, marks_cons, getData_ok_marks hp, getData_marks hp₂]
      exact .unread2 command _ _
  | invalid2 _ hp _ h2 hp₂ hcheck2 =>
      rw [hsome h2, marks_append, marks_cons, getData_ok_marks hp, getData_ok_marks hp₂]
      exact .invalid2 hcheck2
  | @double _ _ reply _ reply2 _ _ _ _ _ =>
      obtain ⟨values, hvalues⟩ := parseRecords_succeeds reply request.records (some reply2)
      rw [hvalues] at hr
      cases hr

theorem attempt_ok_marks {commands : List Bytes}
    (hcommands : requestCommands request = .ok commands) {tr : Trace}
    {values : Dict String DecodedValue}
    (h : Path (readAttempt waitingTime request) tr (.ok values)) :
    ∃ frames, frames.length = commands.length ∧ (∀ frame ∈ frames, headerCheck frame = true) ∧
      marks tr = exchangeMarks commands frames ∧
      decodeFrames request frames = some (.ok values) := by
  obtain ⟨command, hcommand, hsecond⟩ := requestCommands_ok hcommands
  generalize hr : Except.ok values = r at h
  cases readAttempt_path hcommand h with
  | unread _ => cases hr
  | invalid _ _ _ => cases hr
  | unhex _ _ _ => cases hr
  | unread2 _ _ _ _ => cases hr
  | invalid2 _ _ _ _ _ _ => cases hr
  | @single _ reply hp hcheck h2 =>
      rcases hsecond with ⟨_, rfl⟩ | ⟨_, h2', _⟩
      · exact ⟨[reply], rfl, by simpa using hcheck, getData_ok_marks hp, rfl⟩
      · rw [h2'] at h2
        cases h2
  | @double _ _ reply command2 reply2 hp hcheck h2 hp₂ hcheck2 =>
      rcases hsecond with ⟨h2', _⟩ | ⟨_, h2', rfl⟩
      · rw [h2'] at h2
        cases h2
      · rw [h2'] at h2
        cases h2
        refine ⟨[reply, reply2], rfl, by simp [hcheck, hcheck2], ?_, rfl⟩
        rw [marks_append, marks_cons, getData_ok_marks hp, getData_ok_marks hp₂]
        rfl

/-- An attempt can only succeed with commands that are hexadecimal. -/
theorem ReadRun.commands {values : Dict String DecodedValue} {tr : Trace}
    (h : ReadRun waitingTime request values tr) :
    ∃ commands, requestCommands request = .ok commands := by
  induction h with
  | done hp =>
      cases hcommand : request.requestBytes with
      | error e => cases (readAttempt_unhex hcommand hp).2
      | ok command =>
          generalize hr : Except.ok values = r at hp
          cases readAttempt_path hcommand hp with
          | unread _ => cases hr
          | invalid _ _ _ => cases hr
          | unhex _ _ _ => cases hr
          | unread2 _ _ _ _ => cases hr
          | invalid2 _ _ _ _ _ _ => cases hr
          | single _ _ h2 => exact ⟨[command], by rw [requestCommands, hcommand, h2]; rfl⟩
          | double _ _ h2 _ _ => exact ⟨[command, _], by rw [requestCommands, hcommand, h2]; rfl⟩
  | again _ _ _ _ ih => exact ih

theorem exchangeMarks_inj {commands : List Bytes} :
    ∀ {frames frames' : List Bytes}, frames.length = commands.length →
      frames'.length = commands.length →
      exchangeMarks commands frames = exchangeMarks commands frames' → frames = frames' := by
  induction commands with
  | nil =>
      intro frames frames' hlen hlen' _
      rw [List.eq_nil_of_length_eq_zero hlen, List.eq_nil_of_length_eq_zero hlen']
  | cons command commands ih =>
      intro frames frames' hlen hlen' heq
      match frames, frames', hlen, hlen' with
      | frame :: frames, frame' :: frames', hlen, hlen' =>
          simp only [exchangeMarks, List.cons.injEq, Mark.gotData.injEq, true_and] at heq
          rw [heq.1, ih (Nat.succ.inj hlen) (Nat.succ.inj hlen') heq.2]

theorem exchangeMarks_length {commands : List Bytes} :
    ∀ {frames : List Bytes}, frames.length = commands.length →
      (exchangeMarks commands frames).length = 2 * commands.length := by
  induction commands with
  | nil => intro _ _; rfl
  | cons command commands ih =>
      intro frames hlen
      match frames, hlen with
      | frame :: frames, hlen =>
          simp only [exchangeMarks, List.length_cons, ih (Nat.succ.inj hlen)]
          omega

/-- The frames a read decodes end its trace, and no other answer in full precedes. -/
theorem ReadRun.decoded {commands : List Bytes}
    (hcommands : requestCommands request = .ok commands) {values : Dict String DecodedValue}
    {tr : Trace} (h : ReadRun waitingTime request values tr) :
    ∃ frames, Answered commands frames (marks tr) ∧
      exchangeMarks commands frames <:+ marks tr ∧
      decodeFrames request frames = some (.ok values) ∧
      (∃ message rest, marks tr = .getData message :: rest) ∧
      ∀ frames', Answered commands frames' (marks tr) → frames' = frames := by
  induction h with
  | done hp =>
      obtain ⟨frames, hlen, hvalid, hm, hdecode⟩ := attempt_ok_marks hcommands hp
      refine ⟨frames, ⟨hlen, hvalid, hm ▸ List.infix_rfl⟩, hm ▸ List.suffix_rfl, hdecode,
        ?_, ?_⟩
      · obtain ⟨command, _, hsecond⟩ := requestCommands_ok hcommands
        rw [hm]
        rcases hsecond with ⟨_, rfl⟩ | ⟨_, _, rfl⟩ <;>
          (obtain ⟨frame, frames, rfl⟩ := List.exists_cons_of_length_eq_add_one hlen
           exact ⟨_, _, rfl⟩)
      · intro frames' hc
        obtain ⟨hlen', _, hwithin⟩ := hc
        rw [hm] at hwithin
        refine exchangeMarks_inj hlen' hlen (hwithin.eq_of_length ?_)
        rw [exchangeMarks_length hlen', exchangeMarks_length hlen]
  | @again tr tr' tr'' e hp _ hrestart _ ih =>
      obtain ⟨frames, ⟨hlen, hvalid, hwithin⟩, hsuffix, hdecode, ⟨message, rest, hhead⟩,
        honly⟩ := ih
      have hm : marks (tr ++ tr' ++ tr'') = marks tr ++ marks tr'' := by
        rw [marks_append, marks_append, restart_marks hrestart, List.append_nil]
      have hfailed := attempt_failed_marks hcommands hp
      rw [hm]
      refine ⟨frames, ⟨hlen, hvalid, hwithin.trans (List.suffix_append _ _).isInfix⟩,
        hsuffix.trans (List.suffix_append _ _), hdecode, ?_, ?_⟩
      · obtain ⟨message', rest', heq⟩ := hfailed.head
        exact ⟨message', rest' ++ marks tr'', by rw [heq]; rfl⟩
      · intro frames' hanswered
        exact honly frames' (hanswered.skip hfailed fun reply rest' hc => by
          rw [hhead] at hc
          cases hc)

theorem Answered.ne_nil {commands frames : List Bytes} {ms : List Mark}
    (hne : commands ≠ []) (h : Answered commands frames ms) : ms ≠ [] := by
  intro hc
  obtain rfl := hc
  have hlen := h.2.2.length_le
  rw [exchangeMarks_length h.1] at hlen
  have hpos := List.length_pos_of_ne_nil hne
  simp only [List.length_nil] at hlen
  omega

/-- A read that fails was answered in full by none of its attempts. -/
theorem readLoop_error_marks {commands : List Bytes}
    (hcommands : requestCommands request = .ok commands) (attempts : Nat) :
    ∀ {lastError : Option String} {tr : Trace} {e : Exc},
      Path (readLoop waitingTime request attempts lastError) tr (.error e) →
      (∀ reply rest, marks tr ≠ .gotData reply :: rest) ∧
        ∀ frames, ¬ Answered commands frames (marks tr) := by
  have hnil : ∀ frames, ¬ Answered commands frames [] := by
    exact fun frames hans => hans.ne_nil (requestCommands_ne_nil hcommands) rfl
  induction attempts with
  | zero =>
      intro lastError tr e h
      obtain ⟨rfl, _⟩ := Path.raise_iff.mp h
      exact ⟨by simp, hnil⟩
  | succ attempts ih =>
      intro lastError tr e h
      rw [readLoop] at h
      rcases Path.handle_iff.mp h with ⟨_, hr, _⟩ | ⟨e', tr₁, tr₂, rfl, hp, hrest⟩
      · cases hr
      have hfailed := attempt_failed_marks hcommands hp
      -- Whatever follows the attempt does not begin with a reply, nor is it one.
      have hafter : (∀ reply rest, marks tr₂ ≠ .gotData reply :: rest) ∧
          ∀ frames, ¬ Answered commands frames (marks tr₂) := by
        split at hrest
        · rcases Path.bind_iff.mp hrest with ⟨_, _, hre⟩ | ⟨_, tr₂, tr₃, rfl, hre, hloop⟩
          · rw [restart_marks hre]
            exact ⟨by simp, hnil⟩
          · rw [marks_append, restart_marks hre, List.nil_append]
            exact ih hloop
        · obtain ⟨rfl, _⟩ := Path.raise_iff.mp hrest
          exact ⟨by simp, hnil⟩
      rw [marks_append]
      refine ⟨?_, fun frames hans => hafter.2 frames (hans.skip hfailed hafter.1)⟩
      obtain ⟨message, rest, hhead⟩ := hfailed.head
      rw [hhead]
      simp

/-- The frames a read decodes carry its commands exactly when no attempt was answered
in full by valid frames of which one does not. -/
theorem decoded_frames_carry_iff {tr : Trace} {values : Dict String DecodedValue}
    (h : Path (readRequest waitingTime request) tr (.ok values)) :
    ∃ commands frames, requestCommands request = .ok commands ∧
      Answered commands frames (marks tr) ∧ exchangeMarks commands frames <:+ marks tr ∧
      decodeFrames request frames = some (.ok values) ∧
      ((∀ p ∈ commands.zip frames, Carries p.1 p.2) ↔
        ¬ ∃ frames', Answered commands frames' (marks tr) ∧
          ∃ p ∈ commands.zip frames', ¬ Carries p.1 p.2) := by
  have hrun := readRequest_path h
  obtain ⟨commands, hcommands⟩ := hrun.commands
  obtain ⟨frames, hanswered, hsuffix, hdecode, _, honly⟩ := hrun.decoded hcommands
  refine ⟨commands, frames, hcommands, hanswered, hsuffix, hdecode, ?_⟩
  refine ⟨?_, ?_⟩
  · intro hall hc
    obtain ⟨frames', hanswered', p, hp, hnot⟩ := hc
    rw [honly frames' hanswered'] at hp
    exact hnot (hall p hp)
  · intro hnone p hp
    by_contra hnot
    exact hnone ⟨frames, hanswered, p, hp, hnot⟩

/-- A register of the heating circuit, with one temperature in its data. -/
def heatingRequest : Request :=
  { requestByte := "0B0005", requestByte2 := none
    records := [{ channelId := "p01RoomTempDay", requestByte := "0B0005", dataType := .settings
                  position := 6, length := 2, scale := .ofRat (1 / 10) }] }

def heatingRead : Talk (Dict String DecodedValue) := readRequest 0 heatingRequest

/-- A late frame of the register `0A0176` comes in place of the one asked for. -/
def lateFrameScript : List (Option UInt8) :=
  [0x10, 0x10, 0x02, 0x01, 0x00, 0x54, 0x0A, 0x01, 0x76, 0x00, 0xD2, 0x10, 0x03].map some

theorem heatingRead_path :
    Path heatingRead (trace scripted heatingRead lateFrameScript)
      (.ok [("p01RoomTempDay", .float (.finite 21))]) :=
  path_of_run scripted (by decide +kernel)

theorem decoded_frames_carry_heating :
    ∃ commands frames, requestCommands heatingRequest = .ok commands ∧
      Answered commands frames (marks (trace scripted heatingRead lateFrameScript)) ∧
      exchangeMarks commands frames
        <:+ marks (trace scripted heatingRead lateFrameScript) ∧
      decodeFrames heatingRequest frames
        = some (.ok [("p01RoomTempDay", .float (.finite 21))]) ∧
      ((∀ p ∈ commands.zip frames, Carries p.1 p.2) ↔
        ¬ ∃ frames',
          Answered commands frames' (marks (trace scripted heatingRead lateFrameScript)) ∧
          ∃ p ∈ commands.zip frames', ¬ Carries p.1 p.2) :=
  decoded_frames_carry_iff heatingRead_path

/-- A valid frame of another register is decoded: the read of `0B0005` returns 21.0
out of the register `0A0176`, without a second attempt. -/
theorem other_register_decoded :
    ∃ tr, Path heatingRead tr (.ok [("p01RoomTempDay", .float (.finite 21))]) ∧
      requestCommands heatingRequest = .ok [[0x0B, 0x00, 0x05]] ∧
      marks tr = [.getData (createRequestMessage [0x0B, 0x00, 0x05] GET),
        .gotData [0x01, 0x00, 0x54, 0x0A, 0x01, 0x76, 0x00, 0xD2, 0x10, 0x03]] ∧
      ¬ Carries [0x0B, 0x00, 0x05]
        [0x01, 0x00, 0x54, 0x0A, 0x01, 0x76, 0x00, 0xD2, 0x10, 0x03] := by
  refine ⟨_, heatingRead_path, ?_, ?_, ?_⟩
  · decide +kernel
  · decide +kernel
  · decide

end HeatpumpGateway
