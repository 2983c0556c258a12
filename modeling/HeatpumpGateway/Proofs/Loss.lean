import HeatpumpGateway.Proofs.Device
import HeatpumpGateway.Proofs.Write

/-!
# Writes over a link that loses bytes

The simulator behind a link on which any byte of the device may be lost or arrive
as another one. What the client sees is then as bad as it likes, but the device sees
every byte the client sends, and keeps a frame at one moment only: when the byte `10`
finds it waiting to be acknowledged. So what a call does to the frames is a matter of
what it has sent (`Harmless`).

`WriteNotConfirmed` is meant to say that the device still has its old value. It has
it if no acknowledge of the call found the device with a SET frame in hand; and where
no earlier call has left anything behind, only then. A confirmation that is lost on
its way back comes after that acknowledge.
-/

namespace HeatpumpGateway

open Dialogue Stuffing Fallible CommunicationService

/-! ## The link -/

/-- What arrives of the device's `n`th byte. -/
abbrev Link := Nat → UInt8 → Option UInt8

def Link.deliver (link : Link) : Nat → Bytes → Bytes
  | _, [] => []
  | n, b :: bytes => (link n b).toList ++ link.deliver (n + 1) bytes

/-- The simulator, the bytes that have arrived, and how many were sent. -/
structure LossyTransport where
  simulator : HeatPumpSimulator
  rx : Bytes := []
  sent : Nat := 0

def LossyTransport.answer (link : Link) : Environment Op Op.Ans LossyTransport
  | .write data, t =>
      let (out, simulator) := t.simulator.feed data
      (none, { simulator := simulator
               rx := t.rx ++ link.deliver t.sent out
               sent := t.sent + out.length })
  | .get, t =>
      match t.rx with
      | [] => (none, t)
      | b :: rx => (some b, { t with rx := rx })
  | .openPort, t => (none, t)
  | .closePort, t => (none, t)
  | .sleep _, t => ((), t)
  | .mark _, t => ((), t)

/-- What a link that loses nothing leaves of the two. -/
def LossyTransport.plain (t : LossyTransport) : SimulatorTransport := ⟨t.simulator, t.rx⟩

theorem deliver_some (bytes : Bytes) : ∀ n, Link.deliver (fun _ b => some b) n bytes = bytes := by
  induction bytes with
  | nil => intro n; rfl
  | cons b bytes ih =>
      intro n
      rw [Link.deliver, ih]
      rfl

/-- Over a link that loses nothing every program runs as it does on the simulator. -/
theorem run_lossless {α : Type} (p : Talk α) : ∀ t : LossyTransport,
    run SimulatorTransport.answer p t.plain
      = ((run (LossyTransport.answer fun _ b => some b) p t).1,
        (run (LossyTransport.answer fun _ b => some b) p t).2.plain) := by
  induction p with
  | ret a => intro t; rfl
  | raise e => intro t; rfl
  | ask o k ih =>
      intro t
      have hstep : SimulatorTransport.answer o t.plain
          = ((LossyTransport.answer (fun _ b => some b) o t).1,
            (LossyTransport.answer (fun _ b => some b) o t).2.plain) := by
        cases o with
        | write data =>
            rw [SimulatorTransport.answer, LossyTransport.answer, LossyTransport.plain]
            simp only [deliver_some]
            rfl
        | get =>
            rw [SimulatorTransport.answer, LossyTransport.answer]
            cases hrx : t.rx with
            | nil =>
                rw [LossyTransport.plain]
                simp only [hrx]
            | cons b rx =>
                rw [LossyTransport.plain]
                simp only [hrx]
                rfl
        | openPort | closePort | sleep _ | mark _ => rfl
      rw [run_ask, run_ask, hstep]
      exact ih _ _

/-- The bytes of a trace that went to the device. -/
def writtenBy : Exchange → Bytes
  | ⟨.write data, none⟩ => data
  | _ => []

def written (tr : Trace) : Bytes := tr.flatMap writtenBy

@[simp] theorem written_nil : written [] = [] := rfl

@[simp] theorem written_cons (ev : Exchange) (tr : Trace) :
    written (ev :: tr) = writtenBy ev ++ written tr := List.flatMap_cons

@[simp] theorem written_append (tr tr' : Trace) :
    written (tr ++ tr') = written tr ++ written tr' := List.flatMap_append

@[simp] theorem written_gets (answers : List (Option UInt8)) : written (gets answers) = [] := by
  induction answers with
  | nil => rfl
  | cons a answers ih => exact ih

section link

variable {link : Link} {t t' : LossyTransport} {tr : Trace}

/-- Whatever arrives at the client, the device has been fed what the client sent. -/
theorem device_follows (h : Follows (LossyTransport.answer link) t tr t') :
    t'.simulator = (t.simulator.feed (written tr)).2 := by
  induction tr generalizing t with
  | nil =>
      rw [show t' = t from h]
      rfl
  | cons ev tr ih =>
      obtain ⟨o, a⟩ := ev
      obtain ⟨rfl, hrest⟩ := h
      rw [ih hrest, written_cons]
      cases o with
      | write data =>
          rw [show writtenBy ⟨.write data, (LossyTransport.answer link (.write data) t).1⟩ = data
            from rfl, HeatPumpSimulator.feed_append]
          rfl
      | get =>
          have hsame : (LossyTransport.answer link .get t).2.simulator = t.simulator := by
            rw [LossyTransport.answer]
            split <;> rfl
          rw [hsame]
          rfl
      | openPort | closePort | sleep _ | mark _ => rfl

end link

/-! ## What the device keeps -/

namespace HeatPumpSimulator

/-- An acknowledge now would change a stored frame. -/
def Stores (sim : HeatPumpSimulator) : Prop :=
  sim.state = .awaitAck ∧ (sim.buildResponse sim.pending).2.store ≠ sim.store

/-- No byte of these is an acknowledge that changes a stored frame. -/
def Harmless : HeatPumpSimulator → Bytes → Prop
  | _, [] => True
  | sim, b :: data => (b = ESCAPE → ¬ sim.Stores) ∧ Harmless (sim.feedByte b).2 data

theorem harmless_append {data data' : Bytes} : ∀ {sim : HeatPumpSimulator},
    sim.Harmless (data ++ data') ↔ sim.Harmless data ∧ (sim.feed data).2.Harmless data' := by
  induction data with
  | nil => intro sim; exact ⟨fun h => ⟨trivial, h⟩, And.right⟩
  | cons b data ih =>
      intro sim
      rw [List.cons_append, Harmless, Harmless, ih, and_assoc, feed_cons]

/-- The frames change at an acknowledge and nowhere else. -/
theorem feedByte_store {sim : HeatPumpSimulator} {b : UInt8} (h : b = ESCAPE → ¬ sim.Stores) :
    (sim.feedByte b).2.store = sim.store := by
  rw [feedByte]
  split
  · split <;> rfl
  · simp only []
    split <;> rfl
  · next hstate =>
      split
      · next hb =>
          by_contra hne
          exact h hb ⟨hstate, hne⟩
      · rfl

theorem Harmless.store {data : Bytes} : ∀ {sim : HeatPumpSimulator}, sim.Harmless data →
    (sim.feed data).2.store = sim.store := by
  induction data with
  | nil => intro sim _; rfl
  | cons b data ih =>
      intro sim h
      obtain ⟨hb, hrest⟩ := h
      rw [feed_cons, ih hrest, feedByte_store hb]

/-- A device that is not waiting to be acknowledged while it is fed keeps its frames. -/
theorem harmless_of_quiet {data : Bytes} : ∀ {sim : HeatPumpSimulator},
    (∀ n, n < data.length → (sim.feed (data.take n)).2.state ≠ .awaitAck) →
    sim.Harmless data := by
  induction data with
  | nil => intro sim _; trivial
  | cons b data ih =>
      intro sim h
      refine ⟨fun _ hstores => h 0 (Nat.succ_pos _) hstores.1, ih fun n hn => ?_⟩
      exact h (n + 1) (Nat.succ_lt_succ hn)

end HeatPumpSimulator

/-! ## One exchange, as the device sees it -/

/-- A frame that is escaped for sending, whose second byte is no `10`. -/
structure Escaped (message : Bytes) : Prop where
  split : ∃ b₀ b₁ payload x y, b₁ ≠ ESCAPE ∧
    message = b₀ :: b₁ :: (stuff escapeMark payload ++ [x, y])

/-- The device takes none for complete before its last byte. -/
theorem Escaped.incomplete {message : Bytes} (h : Escaped message) {n : Nat}
    (hn : n < message.length) : ¬ HeatPumpSimulator.Completes (message.take n) := by
  obtain ⟨b₀, b₁, payload, x, y, h₁, rfl⟩ := h
  intro hc
  obtain ⟨hsix, hend⟩ := hc
  rw [List.length_take] at hsix
  simp only [List.length_cons, List.length_append, List.length_nil] at hn hsix
  rw [isFrameEnd_iff (Nat.le_refl _), List.take_length] at hend
  rcases Nat.lt_or_ge n ((stuff escapeMark payload).length + 3) with hlt | hge
  · -- So far it is no different from a frame with the usual footer.
    have hnot := not_ends_prefix escapeMark_escape escapeMark_ne_escape
      (show END ≠ ESCAPE by decide) payload [b₀, b₁] n (trailing_header h₁)
      (by rw [show [b₀, b₁].length = 2 from rfl]; omega)
      (by simp only [List.length_append, List.length_cons, List.length_nil]; omega)
    refine hnot ?_
    rw [List.take_append_of_le_length (by
      simp only [List.length_append, List.length_cons, List.length_nil]
      omega)]
    rw [show b₀ :: b₁ :: (stuff escapeMark payload ++ [x, y])
        = ([b₀, b₁] ++ stuff escapeMark payload) ++ [x, y] by simp,
      List.take_append_of_le_length (by
        simp only [List.length_append, List.length_cons, List.length_nil]
        omega)] at hend
    exact hend
  · obtain rfl : n = (stuff escapeMark payload).length + 3 := by omega
    rw [show b₀ :: b₁ :: (stuff escapeMark payload ++ [x, y])
        = (([b₀, b₁] ++ stuff escapeMark payload) ++ [x]) ++ [y] by simp,
      List.take_left' (by simp), ends_concat_iff] at hend
    have heven := trailing_append_stuff escapeMark_escape escapeMark_ne_escape payload [b₀, b₁]
      (trailing_header h₁)
    omega

theorem escaped_addDuplicatedBytes {frame : Bytes} (hlong : 4 ≤ frame.length)
    (h : (addDuplicatedBytes frame)[1]? ≠ some ESCAPE) : Escaped (addDuplicatedBytes frame) := by
  obtain ⟨b₀, b₁, payload, x, y, rfl⟩ := exists_ends hlong
  rw [addDuplicatedBytes_split] at h ⊢
  exact ⟨b₀, b₁, payload, x, y, fun h₁ => h (congrArg some h₁), rfl⟩

namespace HeatPumpSimulator

/-- A device that has just been started. -/
def started (sim : HeatPumpSimulator) : HeatPumpSimulator :=
  { sim with state := .collecting, frameBuffer := [] }

variable {sim : HeatPumpSimulator} {message : Bytes}

theorem feed_started_incomplete (h : Escaped message) {n : Nat} (hn : n < message.length) :
    sim.started.feed (message.take n)
      = ([], { sim.started with frameBuffer := message.take n }) := by
  refine feed_collecting (message.take n) sim.started rfl ?_
  intro k _ hk
  rw [show sim.started.frameBuffer = [] from rfl, List.nil_append] at hk ⊢
  rw [List.length_take] at hk
  rw [List.take_take, Nat.min_eq_left (by omega)]
  exact h.incomplete (by omega)

theorem feed_started_open (h : Escaped message) (hopen : ¬ Completes message) :
    sim.started.feed message = ([], { sim.started with frameBuffer := message }) := by
  refine feed_collecting message sim.started rfl ?_
  intro n _ hn
  rw [show sim.started.frameBuffer = [] from rfl, List.nil_append] at hn ⊢
  rcases Nat.lt_or_ge n message.length with hlt | hge
  · exact h.incomplete hlt
  · rw [List.take_of_length_le hge]
    exact hopen

theorem feed_started_complete (h : Escaped message) (hcomplete : Completes message) :
    sim.started.feed message = (DATA_AVAILABLE,
      { sim.started with
        frameBuffer := message, pending := fixDuplicatedBytes message, state := .awaitAck }) :=
  feed_frame rfl rfl hcomplete fun _ hn => h.incomplete hn

/-- After a whole message the device is busy, and it has done no harm. -/
theorem feed_started (h : Escaped message) :
    (sim.started.feed message).2.state ≠ .idle ∧ sim.started.Harmless message := by
  refine ⟨?_, harmless_of_quiet fun n hn => ?_⟩
  · by_cases hcomplete : Completes message
    · rw [feed_started_complete h hcomplete]
      exact SimulatorState.noConfusion
    · rw [feed_started_open h hcomplete]
      exact SimulatorState.noConfusion
  · rw [feed_started_incomplete h hn]
    exact SimulatorState.noConfusion

theorem feed_start_message (hidle : sim.state = .idle) (data : Bytes) :
    (sim.feed (START_COMMUNICATION :: data)).2 = (sim.started.feed data).2 := by
  rw [feed_cons, feedByte, hidle]
  rfl

theorem harmless_start (sim : HeatPumpSimulator) : sim.Harmless [START_COMMUNICATION] :=
  ⟨fun h => absurd h (by decide), trivial⟩

end HeatPumpSimulator

/-- What an exchange about a message may have sent: it fails at the start, or before
the message's signal, or at the start after it, or it comes to its acknowledge. -/
inductive SentFor (message : Bytes) : Bytes → Prop
  | unstarted : SentFor message [START_COMMUNICATION]
  | unheard : SentFor message (START_COMMUNICATION :: message)
  | restarted : SentFor message (START_COMMUNICATION :: message ++ [START_COMMUNICATION])
  | acknowledged : SentFor message (START_COMMUNICATION :: message ++ [ESCAPE])

section sent

variable {sim : HeatPumpSimulator} {message data : Bytes}

theorem harmless_message (hescaped : Escaped message) (hidle : sim.state = .idle) :
    sim.Harmless (START_COMMUNICATION :: message) := by
  refine ⟨fun h => absurd h (by decide), ?_⟩
  rw [show (sim.feedByte START_COMMUNICATION).2 = sim.started by
    rw [HeatPumpSimulator.feedByte, hidle]
    rfl]
  exact (HeatPumpSimulator.feed_started hescaped).2

/-- The acknowledge is all that can do harm. -/
theorem SentFor.harmless (h : SentFor message data) (hescaped : Escaped message)
    (hidle : sim.state = .idle)
    (hlast : data = START_COMMUNICATION :: message ++ [ESCAPE] →
      ¬ (sim.feed (START_COMMUNICATION :: message)).2.Stores) : sim.Harmless data := by
  have hmessage := harmless_message hescaped hidle
  cases h with
  | unstarted => exact HeatPumpSimulator.harmless_start sim
  | unheard => exact hmessage
  | restarted =>
      exact HeatPumpSimulator.harmless_append.mpr ⟨hmessage, HeatPumpSimulator.harmless_start _⟩
  | acknowledged =>
      exact HeatPumpSimulator.harmless_append.mpr ⟨hmessage, fun _ => hlast rfl, trivial⟩

/-- An acknowledge of the message would change a stored frame. -/
def HeatPumpSimulator.Changes (sim : HeatPumpSimulator) (message : Bytes) : Prop :=
  HeatPumpSimulator.Completes message ∧
    (sim.buildResponse (fixDuplicatedBytes message)).2.store ≠ sim.store

/-- What is stored for a frame depends on the stored frames and the known commands. -/
theorem buildResponse_store {sim' : HeatPumpSimulator} (frame : Bytes)
    (hcommands : sim'.commandToRequest = sim.commandToRequest) (hstore : sim'.store = sim.store) :
    (sim'.buildResponse frame).2.store = (sim.buildResponse frame).2.store := by
  have hmatch : sim'.matchCommand frame = sim.matchCommand frame := by
    rw [HeatPumpSimulator.matchCommand, HeatPumpSimulator.matchCommand, hcommands]
  rw [HeatPumpSimulator.buildResponse, HeatPumpSimulator.buildResponse, hmatch, hstore]
  split
  · exact hstore
  · split
    · exact hstore
    · split
      · rfl
      · exact hstore

theorem changes_congr {sim' : HeatPumpSimulator}
    (hcommands : sim'.commandToRequest = sim.commandToRequest) (hstore : sim'.store = sim.store) :
    sim'.Changes message ↔ sim.Changes message := by
  rw [HeatPumpSimulator.Changes, HeatPumpSimulator.Changes,
    buildResponse_store _ hcommands hstore, hstore]

theorem feed_message_stores_iff (hescaped : Escaped message) (hidle : sim.state = .idle) :
    (sim.feed (START_COMMUNICATION :: message)).2.Stores ↔ sim.Changes message := by
  rw [HeatPumpSimulator.feed_start_message hidle]
  by_cases hcomplete : HeatPumpSimulator.Completes message
  · rw [HeatPumpSimulator.feed_started_complete hescaped hcomplete, HeatPumpSimulator.Stores,
      HeatPumpSimulator.Changes]
    refine and_congr (iff_of_true rfl hcomplete) (not_congr ?_)
    exact Eq.congr_left (buildResponse_store _ rfl rfl)
  · rw [HeatPumpSimulator.feed_started_open hescaped hcomplete]
    exact iff_of_false (fun h => SimulatorState.noConfusion h.1) fun h => hcomplete h.1

/-- The frames are kept unless the message was acknowledged and changes one. -/
theorem SentFor.kept_iff (h : SentFor message data) (hescaped : Escaped message)
    (hidle : sim.state = .idle) :
    (sim.feed data).2.store = sim.store ↔
      (data = START_COMMUNICATION :: message ++ [ESCAPE] → ¬ sim.Changes message) := by
  refine ⟨?_, ?_⟩
  · intro hkept hdata hchanges
    have hstores := (feed_message_stores_iff hescaped hidle).mpr hchanges
    rw [hdata, HeatPumpSimulator.feed_append,
      HeatPumpSimulator.feed_acknowledge hstores.1] at hkept
    exact hstores.2 (hkept.trans (harmless_message hescaped hidle).store.symm)
  · intro hlast
    refine (h.harmless hescaped hidle fun hdata hstores => hlast hdata ?_).store
    exact (feed_message_stores_iff hescaped hidle).mp hstores

/-- What was sent ends in a whole exchange about the message. -/
def EndsAcknowledged (message data : Bytes) : Prop :=
  START_COMMUNICATION :: message ++ [ESCAPE] <:+ data

/-- Nothing else that may be sent after an acknowledge ends like that. -/
theorem SentFor.endsAcknowledged_iff (h : SentFor message data) (before : Bytes) :
    EndsAcknowledged message (before ++ [ESCAPE] ++ data) ↔
      data = START_COMMUNICATION :: message ++ [ESCAPE] := by
  have hlast : ∀ front back : Bytes, front ++ [ESCAPE] ≠ back ++ [START_COMMUNICATION] := by
    intro front back heq
    exact absurd (List.append_inj' heq rfl).2 (by decide)
  refine ⟨?_, ?_⟩
  · intro hc
    obtain ⟨front, heq⟩ := hc
    rw [← List.append_assoc] at heq
    cases h with
    | unstarted => exact absurd heq (hlast _ _)
    | unheard =>
        rw [List.append_assoc, List.append_assoc] at heq
        have hexchange := (List.append_inj' heq (by simp)).2
        exact absurd (List.cons.inj hexchange).1 (by decide)
    | restarted =>
        rw [← List.append_assoc] at heq
        exact absurd heq (hlast _ _)
    | acknowledged => rfl
  · intro hc
    obtain rfl := hc
    exact List.suffix_append ..

end sent

/-- A read request is escaped. -/
theorem escaped_request (command : Bytes) : Escaped (createRequestMessage command GET) := by
  rw [createRequestMessage_eq]
  refine escaped_addDuplicatedBytes ?_ ?_
  · rw [bareFrame, frameWith_length]
    omega
  · rw [bareFrame, addDuplicatedBytes_frameWith, frameWith]
    show some GET ≠ some ESCAPE
    decide

/-- The device waits for a whole read request to be acknowledged. -/
theorem feed_request {sim : HeatPumpSimulator} {command : Bytes} (hne : command ≠ [])
    (hidle : sim.state = .idle) :
    (sim.feed (START_COMMUNICATION :: createRequestMessage command GET)).2
      = { sim with
          frameBuffer := createRequestMessage command GET
          pending := bareFrame GET command, state := .awaitAck } := by
  have hlong : 2 ≤ (byteSum (HEADER_START :: GET :: command) :: command).length := by
    have := List.length_pos_of_ne_nil hne
    rw [List.length_cons]
    omega
  rw [HeatPumpSimulator.feed_start_message hidle, createRequestMessage_eq, bareFrame,
    HeatPumpSimulator.feed_message (by decide) (by decide) hlong rfl rfl]
  rfl

/-- So nothing that is sent for a read changes a frame, and a whole read ends idle. -/
theorem feed_read {sim : HeatPumpSimulator} {command data : Bytes} (hne : command ≠ [])
    (hidle : sim.state = .idle) (h : SentFor (createRequestMessage command GET) data) :
    sim.Harmless data ∧
      (sim.feed (START_COMMUNICATION :: createRequestMessage command GET ++ [ESCAPE])).2.state
        = .idle := by
  have hrequest := feed_request hne hidle
  refine ⟨h.harmless (escaped_request command) hidle fun _ hstores => ?_, ?_⟩
  · rw [hrequest] at hstores
    refine hstores.2 ?_
    rw [HeatPumpSimulator.buildResponse]
    split
    · rfl
    · split
      · rfl
      · rw [if_neg (by simp [bareFrame, frameWith, GET, SET])]
  · rw [HeatPumpSimulator.feed_append, hrequest, HeatPumpSimulator.feed_acknowledge rfl]

/-! ## What the client sends -/

section client

variable {link : Link} {t t' : LossyTransport} {tr : Trace}

/-- The link refuses nothing, so a write goes through. -/
theorem path_write_lossy {α : Type} {data : Bytes} {f : Unit → Talk α} {r : Except Exc α}
    (h : Path (Transport.write data >>= f) tr r)
    (hfollows : Follows (LossyTransport.answer link) t tr t') :
    ∃ tr' t₁, tr = ⟨.write data, none⟩ :: tr' ∧ Path (f ()) tr' r ∧
      t₁ = (LossyTransport.answer link (.write data) t).2 ∧
      Follows (LossyTransport.answer link) t₁ tr' t' := by
  rcases path_write.mp h with ⟨e, rfl, _⟩ | ⟨tr', rfl, hrest⟩
  · obtain ⟨hrefused, _⟩ := hfollows
    cases hrefused
  · exact ⟨tr', _, rfl, hrest, rfl, hfollows.2⟩

/-- A start byte is all that a start sends; a device that is not idle leaves it
unanswered. -/
theorem startCommunication_lossy {r : Except Exc Unit}
    (h : Path Connector.startCommunication tr r)
    (hfollows : Follows (LossyTransport.answer link) t tr t') :
    written tr = [START_COMMUNICATION] ∧
      (t.simulator.state ≠ .idle → t.rx = [] → ∃ e, r = .error e) := by
  rw [Connector.startCommunication] at h
  obtain ⟨tr', t₁, rfl, hrest, ht₁, hfollows'⟩ := path_write_lossy h hfollows
  obtain ⟨a, tr'', rfl, hanswer⟩ := path_get.mp hrest
  have hsilent : t.simulator.state ≠ .idle → (t.simulator.feed [START_COMMUNICATION]).1 = [] := by
    intro hstate
    rw [HeatPumpSimulator.feed_cons, HeatPumpSimulator.feedByte]
    cases hs : t.simulator.state with
    | idle => exact absurd hs hstate
    | collecting =>
        simp only []
        rw [if_neg]
        · rfl
        · intro hc
          obtain ⟨_, hend⟩ := hc
          rw [isFrameEnd, if_pos] at hend
          · cases hend
          · refine .inr (.inl ?_)
            simp [START_COMMUNICATION, END]
    | awaitAck => rfl
  cases a with
  | none =>
      obtain ⟨rfl, rfl⟩ := Path.raise_iff.mp hanswer
      exact ⟨rfl, fun _ _ => ⟨_, rfl⟩⟩
  | some response =>
      refine ⟨?_, fun hstate hrx => ?_⟩
      · simp only [] at hanswer
        split at hanswer
        · obtain ⟨rfl, _⟩ := Path.raise_iff.mp hanswer
          rfl
        · obtain ⟨rfl, _⟩ := Path.ret_iff.mp hanswer
          rfl
      · have hquiet : t₁.rx = [] := by
          rw [ht₁]
          show t.rx ++ link.deliver t.sent (t.simulator.feed [START_COMMUNICATION]).1 = []
          rw [hsilent hstate, hrx]
          rfl
        obtain ⟨hgot, _⟩ := hfollows'
        rw [LossyTransport.answer, hquiet] at hgot
        cases hgot

/-- Waiting sends nothing, and is given up only when nothing is left to come. -/
theorem awaitDataAvailable_lossy (fuel : Nat) : ∀ {retry numRead : Nat} {buffer : Bytes}
    {t : LossyTransport} {tr : Trace} {r : Except Exc (Bool × Bytes)},
    Path (Connector.awaitDataAvailable fuel retry numRead buffer) tr r →
    Follows (LossyTransport.answer link) t tr t' → (0 < retry → t.rx = []) → retry ≤ MAX_RETRY →
    MAX_RETRY - retry + (buffer.length - numRead) < fuel →
    written tr = [] ∧ ∀ buffer', r = .ok (false, buffer') → t'.rx = [] := by
  induction fuel with
  | zero =>
      intro retry numRead buffer t tr r _ _ _ _ hfuel
      exact absurd hfuel (Nat.not_lt_zero _)
  | succ fuel ih =>
      intro retry numRead buffer t tr r h hfollows hempty hle hfuel
      rw [Connector.awaitDataAvailable] at h
      split at h
      · next hretry =>
          obtain ⟨a, tr', rfl, hrest⟩ := path_get.mp h
          obtain ⟨ha, hfollows'⟩ := hfollows
          rw [LossyTransport.answer] at ha hfollows'
          cases hrx : t.rx with
          | nil =>
              rw [hrx] at ha hfollows'
              subst ha
              have hnext := ih hrest hfollows' (fun _ => hrx) (by omega) (by omega)
              exact hnext
          | cons b rx =>
              rw [hrx] at ha hfollows'
              subst ha
              have hzero : ¬ 0 < retry := by
                intro hpos
                rw [hempty hpos] at hrx
                cases hrx
              simp only [] at hrest
              split at hrest
              · obtain ⟨rfl, rfl⟩ := Path.raise_iff.mp hrest
                exact ⟨rfl, fun _ hr => by cases hr⟩
              · next hroom =>
                  split at hrest
                  · have hnext := ih hrest hfollows' (fun hpos => absurd hpos hzero) hle (by
                      rw [List.length_set]
                      omega)
                    exact hnext
                  · obtain ⟨rfl, rfl⟩ := Path.ret_iff.mp hrest
                    exact ⟨rfl, fun _ hr => by cases hr⟩
      · next hretry =>
          obtain ⟨rfl, rfl⟩ := Path.ret_iff.mp h
          refine ⟨rfl, fun _ _ => ?_⟩
          rw [show t' = t from hfollows]
          exact hempty (by rw [MAX_RETRY] at hretry; omega)

/-- A message the device stays busy with is sent once: either its signal arrives, or
the next start is left unanswered. -/
theorem establishRequest_lossy {message : Bytes} {r : Except Exc Bool}
    (hbusy : (t.simulator.feed message).2.state ≠ .idle)
    (h : Path (Connector.establishRequest message) tr r)
    (hfollows : Follows (LossyTransport.answer link) t tr t') :
    (r = .ok true ∧ written tr = message) ∨ (∃ e, r = .error e) ∧
      (written tr = message ∨ written tr = message ++ [START_COMMUNICATION]) := by
  rw [Connector.establishRequest, show MAX_RETRY = 4 + 1 from rfl, Connector.establishLoop] at h
  obtain ⟨tr', t₁, rfl, hrest, ht₁, hfollows'⟩ := path_write_lossy h hfollows
  rw [written_cons, show writtenBy ⟨.write message, none⟩ = message from rfl]
  have hawait : ∀ {t₂ : LossyTransport} {tr₁ : Trace} {r₁ : Except Exc (Bool × Bytes)},
      Path (Connector.awaitDataAvailable LOOP_FUEL 0 0
        (List.replicate INPUT_BUFFER_LENGTH 0)) tr₁ r₁ →
      Follows (LossyTransport.answer link) t₁ tr₁ t₂ →
      written tr₁ = [] ∧ ∀ buffer', r₁ = .ok (false, buffer') → t₂.rx = [] := fun hp hf =>
    awaitDataAvailable_lossy LOOP_FUEL hp hf (fun hpos => absurd hpos (Nat.lt_irrefl 0))
      (Nat.zero_le _) (by rw [List.length_replicate]; decide)
  rcases Path.bind_iff.mp hrest with ⟨e, rfl, hp⟩ | ⟨⟨available, buffer⟩, tr₁, tr₂, rfl, hp, hloop⟩
  · refine .inr ⟨⟨e, rfl⟩, .inl ?_⟩
    rw [(hawait hp hfollows').1, List.append_nil]
  · obtain ⟨t₂, hf₁, hf₂⟩ := (follows_append _).mp hfollows'
    obtain ⟨hnothing, hdry⟩ := hawait hp hf₁
    rw [written_append, hnothing, List.nil_append]
    cases available with
    | true =>
        obtain ⟨rfl, rfl⟩ := Path.ret_iff.mp hloop
        exact .inl ⟨rfl, List.append_nil _⟩
    | false =>
        have hstill : t₂.simulator.state ≠ .idle := by
          rw [device_follows hf₁, hnothing, ht₁]
          exact hbusy
        rcases Path.bind_iff.mp hloop with ⟨e, rfl, hp'⟩ | ⟨_, tr₃, tr₄, rfl, hp', _⟩
        · exact .inr ⟨⟨e, rfl⟩, .inr (by rw [(startCommunication_lossy hp' hf₂).1])⟩
        · obtain ⟨t₃, hf₃, _⟩ := (follows_append _).mp hf₂
          obtain ⟨e, he⟩ := (startCommunication_lossy hp' hf₃).2 hstill (hdry _ rfl)
          cases he

/-- Up to its acknowledge an exchange has sent the start byte and its message, or has
failed. -/
theorem handshake_lossy {message : Bytes} {r : Except Exc Bool} (hescaped : Escaped message)
    (hidle : t.simulator.state = .idle)
    (h : Path (do
      Connector.startCommunication
      Connector.establishRequest message) tr r)
    (hfollows : Follows (LossyTransport.answer link) t tr t') :
    (r = .ok true ∧ written tr = START_COMMUNICATION :: message) ∨ (∃ e, r = .error e) ∧
      SentFor message (written tr) := by
  rcases Path.bind_iff.mp h with ⟨e, rfl, hp⟩ | ⟨_, tr₁, tr₂, rfl, hp, hrest⟩
  · refine .inr ⟨⟨e, rfl⟩, ?_⟩
    rw [(startCommunication_lossy hp hfollows).1]
    exact .unstarted
  · obtain ⟨t₁, hf₁, hf₂⟩ := (follows_append _).mp hfollows
    have hsent := (startCommunication_lossy hp hf₁).1
    have hbusy : (t₁.simulator.feed message).2.state ≠ .idle := by
      rw [device_follows hf₁, hsent, HeatPumpSimulator.feed_start hidle]
      exact (HeatPumpSimulator.feed_started hescaped).1
    rw [written_append, hsent]
    rcases establishRequest_lossy hbusy hrest hf₂ with ⟨rfl, hw⟩ | ⟨he, hw | hw⟩
    · exact .inl ⟨rfl, by rw [hw]; rfl⟩
    · exact .inr ⟨he, by rw [hw]; exact .unheard⟩
    · exact .inr ⟨he, by rw [hw]; exact .restarted⟩

/-- The two handshakes of a path that begins with them, as one path. -/
theorem path_handshake {α : Type} {message : Bytes} {f : Bool → Talk α} {r : Except Exc α}
    (h : Path (do
      Connector.startCommunication
      let established ← Connector.establishRequest message
      f established) tr r) :
    (∃ e, r = .error e ∧ Path (do
      Connector.startCommunication
      Connector.establishRequest message) tr (.error e)) ∨
    ∃ established tr₁ tr₂, tr = tr₁ ++ tr₂ ∧ Path (do
      Connector.startCommunication
      Connector.establishRequest message) tr₁ (.ok established) ∧
      Path (f established) tr₂ r := by
  rcases Path.bind_iff.mp h with ⟨e, rfl, hp⟩ | ⟨_, tr₁, tr₂, rfl, hp, hrest⟩
  · exact .inl ⟨e, rfl, Path.bind_iff.mpr (.inl ⟨e, rfl, hp⟩)⟩
  rcases Path.bind_iff.mp hrest with ⟨e, rfl, hp'⟩ | ⟨established, tr₂, tr₃, rfl, hp', htail⟩
  · exact .inl ⟨e, rfl, Path.bind_iff.mpr (.inr ⟨(), tr₁, tr₂, rfl, hp, hp'⟩)⟩
  · exact .inr ⟨established, tr₁ ++ tr₂, tr₃, (List.append_assoc ..).symm,
      Path.bind_iff.mpr (.inr ⟨(), tr₁, tr₂, rfl, hp, hp'⟩), htail⟩

/-- A read that returns has sent its message once and acknowledged the answer. -/
theorem getData_lossy {message : Bytes} {r : Except Exc Bytes} (hescaped : Escaped message)
    (hidle : t.simulator.state = .idle) (h : Path (Connector.getData message) tr r)
    (hfollows : Follows (LossyTransport.answer link) t tr t') :
    SentFor message (written tr) ∧ ∀ reply, r = .ok reply →
      written tr = START_COMMUNICATION :: message ++ [ESCAPE] := by
  rw [Connector.getData] at h
  obtain ⟨tr, rfl, hrest⟩ := path_mark.mp h
  obtain ⟨_, hfollows⟩ := hfollows
  rw [written_cons, show writtenBy ⟨.mark (.getData message), ()⟩ = [] from rfl, List.nil_append]
  rcases path_handshake hrest with ⟨e, rfl, hp⟩ | ⟨established, tr₁, tr₂, rfl, hp, htail⟩
  · rcases handshake_lossy hescaped hidle hp hfollows with ⟨he, _⟩ | ⟨_, hsent⟩
    · cases he
    · exact ⟨hsent, fun reply hr => by cases hr⟩
  · obtain ⟨t₁, hf₁, hf₂⟩ := (follows_append _).mp hfollows
    rcases handshake_lossy hescaped hidle hp hf₁ with ⟨he, hw⟩ | ⟨⟨_, he⟩, _⟩
    · cases he
      have hall : written (tr₁ ++ tr₂) = START_COMMUNICATION :: message ++ [ESCAPE] := by
        rw [written_append, hw]
        congr 1
        obtain ⟨reply, seen, rfl, rfl, hseen, hasked⟩ := replied_path htail
        cases hseen with
        | unasked => cases hasked.mpr rfl
        | refused e =>
            obtain ⟨hrefused, _⟩ := hf₂
            cases hrefused
        | heard answers =>
            rw [written_append, written_cons, written_gets]
            rfl
      rw [hall]
      exact ⟨.acknowledged, fun _ _ => rfl⟩
    · cases he

theorem transmit_lossy {message : Bytes} {r : Except Exc Bool} (hescaped : Escaped message)
    (hidle : t.simulator.state = .idle) (h : Path (Connector.transmit message) tr r)
    (hfollows : Follows (LossyTransport.answer link) t tr t') : SentFor message (written tr) := by
  rw [Connector.transmit] at h
  have hbody : ∀ {tr : Trace} {t' : LossyTransport} {r : Except Exc Bool}, Path (do
      Connector.startCommunication
      let _ ← Connector.establishRequest message
      Transport.write [ESCAPE]
      return true) tr r → Follows (LossyTransport.answer link) t tr t' →
      SentFor message (written tr) := by
    intro tr t' r hp hf
    rcases path_handshake hp with ⟨e, rfl, hp'⟩ | ⟨established, tr₁, tr₂, rfl, hp', hack⟩
    · rcases handshake_lossy hescaped hidle hp' hf with ⟨he, _⟩ | ⟨_, hsent⟩
      · cases he
      · exact hsent
    · obtain ⟨t₁, hf₁, hf₂⟩ := (follows_append _).mp hf
      rcases handshake_lossy hescaped hidle hp' hf₁ with ⟨_, hw⟩ | ⟨⟨_, he⟩, _⟩
      · obtain ⟨tr₃, _, rfl, hret, _, _⟩ := path_write_lossy hack hf₂
        obtain ⟨rfl, _⟩ := Path.ret_iff.mp hret
        rw [written_append, hw]
        exact .acknowledged
      · cases he
  rcases Path.handle_iff.mp h with ⟨_, _, hp⟩ | ⟨e, tr₁, tr₂, rfl, hp, hret⟩
  · exact hbody hp hfollows
  · obtain ⟨rfl, _⟩ := Path.ret_iff.mp hret
    rw [List.append_nil] at hfollows ⊢
    exact hbody hp hfollows

theorem setData_lossy {message : Bytes} {r : Except Exc Bytes} (hescaped : Escaped message)
    (hidle : t.simulator.state = .idle) (h : Path (Connector.setData message) tr r)
    (hfollows : Follows (LossyTransport.answer link) t tr t') : SentFor message (written tr) := by
  rw [Connector.setData] at h
  obtain ⟨tr, rfl, hrest⟩ := path_mark.mp h
  obtain ⟨_, hfollows⟩ := hfollows
  rw [written_cons, show writtenBy ⟨.mark (.setData message), ()⟩ = [] from rfl, List.nil_append]
  rcases Path.bind_iff.mp hrest with ⟨e, rfl, hp⟩ | ⟨transmitted, tr₁, tr₂, rfl, hp, htail⟩
  · exact transmit_lossy hescaped hidle hp hfollows
  · obtain ⟨t₁, hf₁, _⟩ := (follows_append _).mp hfollows
    have hsilent : written tr₂ = [] := by
      cases transmitted with
      | false =>
          obtain ⟨_, rfl, hret⟩ := path_mark.mp htail
          obtain ⟨rfl, _⟩ := Path.ret_iff.mp hret
          rfl
      | true =>
          rcases Path.bind_iff.mp htail with ⟨e, rfl, hp'⟩ | ⟨reply, tr₃, tr₄, rfl, hp', hlast⟩
          · obtain ⟨answers, rfl, _⟩ := receiveData_path hp'
            exact written_gets answers
          · obtain ⟨answers, rfl, _⟩ := receiveData_path hp'
            obtain ⟨_, rfl, hret⟩ := path_mark.mp hlast
            obtain ⟨rfl, _⟩ := Path.ret_iff.mp hret
            rw [written_append, written_gets]
            rfl
    rw [written_append, hsilent, List.append_nil]
    exact transmit_lossy hescaped hidle hp hf₁

end client

/-! ## Calls -/

/-- A write is one exchange or two. -/
theorem WriteRun.exchanges {waitingTime : Nat} {items : List (DecodedValue × ChannelDefinition)}
    {message : Bytes} {tr : Trace} {r : Except Exc (Dict String DecodedValue)}
    (h : WriteRun waitingTime items message tr r) :
    (∃ r', Path (Connector.getData message) tr r') ∨
      ∃ tr₁ tr₂ reply frame r', tr = tr₁ ++ ⟨.sleep waitingTime, ()⟩ :: tr₂ ∧
        Path (Connector.getData message) tr₁ (.ok reply) ∧ composeAll items reply = .ok frame ∧
        Path (Connector.setData (addDuplicatedBytes frame)) tr₂ r' := by
  cases h with
  | unread hp | echoed hp | silent _ hp | unfit hp => exact .inl ⟨_, hp⟩
  | unsent hp _ _ hframe hset => exact .inr ⟨_, _, _, _, _, rfl, hp, hframe, hset⟩
  | confirmed hp _ _ hframe hset => exact .inr ⟨_, _, _, _, _, rfl, hp, hframe, hset⟩
  | refused _ hp _ _ hframe hset => exact .inr ⟨_, _, _, _, _, rfl, hp, hframe, hset⟩

/-- A device in the middle of something, with nothing on its way back, is not read. -/
theorem getData_unanswered {link : Link} {t t' : LossyTransport} {message : Bytes} {tr : Trace}
    {r : Except Exc Bytes} (hstate : t.simulator.state ≠ .idle) (hrx : t.rx = [])
    (h : Path (Connector.getData message) tr r)
    (hfollows : Follows (LossyTransport.answer link) t tr t') :
    (∃ e, r = .error e) ∧ written tr = [START_COMMUNICATION] := by
  rw [Connector.getData] at h
  obtain ⟨tr, rfl, hrest⟩ := path_mark.mp h
  obtain ⟨_, hfollows⟩ := hfollows
  rcases Path.bind_iff.mp hrest with ⟨e, rfl, hp⟩ | ⟨_, tr₁, tr₂, rfl, hp, _⟩
  · exact ⟨⟨e, rfl⟩, (startCommunication_lossy hp hfollows).1⟩
  · obtain ⟨t₁, hf₁, _⟩ := (follows_append _).mp hfollows
    obtain ⟨e, he⟩ := (startCommunication_lossy hp hf₁).2 hstate hrx
    cases he

/-- What a write has done to the frames, where nothing was in its way. -/
theorem WriteRun.kept_iff {link : Link} {t t' : LossyTransport} {waitingTime : Nat}
    {v : DecodedValue} {record : ChannelDefinition} {command : Bytes} {tr : Trace}
    {r : Except Exc (Dict String DecodedValue)}
    (h : WriteRun waitingTime [(v, record)] (createRequestMessage command GET) tr r)
    (hfollows : Follows (LossyTransport.answer link) t tr t') (hne : command ≠ [])
    (hstart : t.rx = [] ∨ t.simulator.state = .idle)
    (hstatus : ∀ message, .setData message ∈ marks tr → message[1]? ≠ some ESCAPE) :
    t'.simulator.store = t.simulator.store ↔
      ∀ message, .setData message ∈ marks tr → EndsAcknowledged message (written tr) →
        ¬ t.simulator.Changes message := by
  have hescaped := escaped_request command
  -- One exchange only reads.
  have hread : ∀ {r'}, Path (Connector.getData (createRequestMessage command GET)) tr r' →
      t.simulator.Harmless (written tr) →
      (t'.simulator.store = t.simulator.store ↔
        ∀ message, .setData message ∈ marks tr → EndsAcknowledged message (written tr) →
          ¬ t.simulator.Changes message) := by
    intro r' hp hharmless
    refine iff_of_true ?_ fun message hmark => ?_
    · rw [device_follows hfollows, hharmless.store]
    · rw [getData_marks hp] at hmark
      cases r' <;> simp [Except.toOption] at hmark
  by_cases hidle : t.simulator.state = .idle
  · rcases h.exchanges with ⟨r', hp⟩ | ⟨tr₁, tr₂, reply, frame, r', rfl, hp, hframe, hset⟩
    · exact hread hp (feed_read hne hidle (getData_lossy hescaped hidle hp hfollows).1).1
    · obtain ⟨t₁, hf₁, _, hf₂⟩ := (follows_append _).mp hfollows
      obtain ⟨hsent, hwhole⟩ := getData_lossy hescaped hidle hp hf₁
      have hfirst := hwhole reply rfl
      obtain ⟨hharmless, hidle'⟩ := feed_read hne hidle hsent
      have hdevice := device_follows hf₁
      rw [← hfirst, ← hdevice] at hidle'
      have hkept : t₁.simulator.store = t.simulator.store := by
        rw [hdevice, hharmless.store]
      have hlong : 4 ≤ frame.length := by
        rw [composeAll_single] at hframe
        have := (composeRecord_ok_iff.mp hframe).1.1
        rw [composeRecord_length hframe]
        omega
      have hmarks : ∀ message, .setData message ∈ marks (tr₁ ++ ⟨.sleep waitingTime, ()⟩ :: tr₂) ↔
          message = addDuplicatedBytes frame := by
        intro message
        rw [marks_append, marks_cons, getData_ok_marks hp, setData_marks hset]
        cases r' <;> simp [markOf, Except.toOption]
      have hescaped' := escaped_addDuplicatedBytes hlong (hstatus _ ((hmarks _).mpr rfl))
      have hsecond : SentFor (addDuplicatedBytes frame) (written tr₂) :=
        setData_lossy hescaped' hidle' hset hf₂
      have hwritten : written (tr₁ ++ ⟨.sleep waitingTime, ()⟩ :: tr₂)
          = START_COMMUNICATION :: createRequestMessage command GET ++ [ESCAPE] ++ written tr₂ := by
        rw [written_append, hfirst]
        rfl
      have hend : t'.simulator = (t₁.simulator.feed (written tr₂)).2 := device_follows hf₂
      have hknown : t₁.simulator.commandToRequest = t.simulator.commandToRequest := by
        rw [hdevice, HeatPumpSimulator.feed_commands]
      rw [← hkept, hend, hsecond.kept_iff hescaped' hidle', hwritten]
      simp only [hmarks, forall_eq]
      rw [hsecond.endsAcknowledged_iff, changes_congr hknown hkept]
  · have hrx := hstart.resolve_right hidle
    have hfirst : ∀ {tr₁ : Trace} {t₁ : LossyTransport} {r' : Except Exc Bytes},
        Path (Connector.getData (createRequestMessage command GET)) tr₁ r' →
        Follows (LossyTransport.answer link) t tr₁ t₁ →
        (∃ e, r' = .error e) ∧ written tr₁ = [START_COMMUNICATION] :=
      fun hp hf => getData_unanswered hidle hrx hp hf
    rcases h.exchanges with ⟨r', hp⟩ | ⟨tr₁, tr₂, reply, frame, r', rfl, hp, _, _⟩
    · refine hread hp ?_
      rw [(hfirst hp hfollows).2]
      exact HeatPumpSimulator.harmless_start _
    · obtain ⟨t₁, hf₁, _⟩ := (follows_append _).mp hfollows
      obtain ⟨⟨e, he⟩, _⟩ := hfirst hp hf₁
      cases he

/-- Nothing that an earlier call has left behind is in the way: the device waits for a
start byte, or no byte is waiting to be received. And the frames that are sent begin
as frames of a command do. -/
structure Undisturbed (config : HeatPumpConfig) (channelId : String) (t : LossyTransport)
    (tr : Trace) : Prop where
  start : t.rx = [] ∨ t.simulator.state = .idle
  command : ∀ record, config.channel channelId = some record →
    fromHex record.requestByte ≠ .ok []
  status : ∀ message, .setData message ∈ marks tr → message[1]? ≠ some ESCAPE

/-- A call that is not confirmed has left the frames as they were if none of the bytes it
sent was an acknowledge that changes one. Where nothing was in its way it has left
them so exactly if its SET was not acknowledged or changes none. -/
theorem unconfirmed_write_kept_iff {link : Link} {config : HeatPumpConfig} {waitingTime : Nat}
    {channelId : String} {value : CallerValue} {t t' : LossyTransport} {ids text : String}
    {unchanged : Dict String DecodedValue} {tr : Trace}
    (h : run (LossyTransport.answer link)
      (HeatPumpService.writeChannel config waitingTime channelId value) t
        = (.error (.writeNotConfirmed ids text unchanged), t'))
    (htr : tr = trace (LossyTransport.answer link)
      (HeatPumpService.writeChannel config waitingTime channelId value) t) :
    (t.simulator.Harmless (written tr) → t'.simulator.store = t.simulator.store) ∧
      (Undisturbed config channelId t tr →
        (t'.simulator.store = t.simulator.store ↔
          ∀ message, .setData message ∈ marks tr → EndsAcknowledged message (written tr) →
            ¬ t.simulator.Changes message)) := by
  have hfollows := follows_run (LossyTransport.answer link)
    (HeatPumpService.writeChannel config waitingTime channelId value) t
  have hpath := path_run (LossyTransport.answer link)
    (HeatPumpService.writeChannel config waitingTime channelId value) t
  rw [h, ← htr] at hfollows hpath
  refine ⟨fun hharmless => ?_, fun hundisturbed => ?_⟩
  · rw [device_follows hfollows, hharmless.store]
  by_cases hany : tr = []
  · rw [hany] at hfollows ⊢
    refine iff_of_true (by rw [show t' = t from hfollows]) fun message hmark => ?_
    cases hmark
  · obtain ⟨record, coerced, hrecord, hwritable, hcoerced⟩ :=
      writeChannel_checked hpath (.inl hany)
    obtain ⟨r, hdata, _⟩ := (writeChannel_path hrecord hwritable hcoerced).mp hpath
    cases hcommand : fromHex record.requestByte with
    | error e => exact absurd (writeValues_unhex hcommand hdata).1 hany
    | ok command =>
        have hne : command ≠ [] := by
          intro hc
          obtain rfl := hc
          exact hundisturbed.command record hrecord hcommand
        exact (writeValues_path hcommand hdata).kept_iff hfollows hne hundisturbed.start
          hundisturbed.status

/-- A device at 21 degrees, as it is created. -/
def roomTempDevice : HeatPumpSimulator :=
  (HeatPumpSimulator.create roomTempConfig
    [("p01RoomTempDay", .float (.finite 21))]).toOption.getD { config := roomTempConfig }

theorem roomTempDevice_created :
    HeatPumpSimulator.create roomTempConfig [("p01RoomTempDay", .float (.finite 21))]
      = .ok roomTempDevice := by
  have hok : (HeatPumpSimulator.create roomTempConfig
      [("p01RoomTempDay", .float (.finite 21))]).toOption.isSome := by
    decide +kernel
  rw [roomTempDevice]
  cases h : HeatPumpSimulator.create roomTempConfig [("p01RoomTempDay", .float (.finite 21))] with
  | ok sim => rfl
  | error e =>
      rw [h] at hok
      cases hok

/-- Of the device's bytes the first of the second handshake is lost. -/
def unstartedLink : Link := fun n b => if n = 13 then none else some b

/-- Nothing of the confirmation arrives. -/
def unconfirmedLink : Link := fun n b => if n < 16 then some b else none

/-- The call is not confirmed, and leaves this store. -/
def leavesUnconfirmed (link : Link) (store : Dict String Bytes) : Bool :=
  match run (LossyTransport.answer link) roomTempCall { simulator := roomTempDevice } with
  | (.error (.writeNotConfirmed _ _ _), t') => t'.simulator.store = store
  | _ => false

theorem unconfirmed_of_leaves {link : Link} {store : Dict String Bytes}
    (h : leavesUnconfirmed link store = true) : ∃ t' ids text unchanged,
    run (LossyTransport.answer link) roomTempCall { simulator := roomTempDevice }
        = (.error (.writeNotConfirmed ids text unchanged), t') ∧ t'.simulator.store = store := by
  rw [leavesUnconfirmed] at h
  split at h
  · next ids text unchanged t' hrun => exact ⟨t', ids, text, unchanged, hrun, of_decide_eq_true h⟩
  · cases h

theorem unconfirmed_write_kept_unstarted : ∃ t' ids text unchanged,
    run (LossyTransport.answer unstartedLink) roomTempCall { simulator := roomTempDevice }
        = (.error (.writeNotConfirmed ids text unchanged), t') ∧
      t'.simulator.store = roomTempDevice.store := by
  obtain ⟨t', ids, text, unchanged, hrun, _⟩ := unconfirmed_of_leaves
    (show leavesUnconfirmed unstartedLink
      [("0B0005", [0x01, 0x00, 0xE3, 0x0B, 0x00, 0x05, 0x00, 0xD2, 0x10, 0x03])] = true by
        decide +kernel)
  have hmarks : ∀ message, .setData message ∈ marks (trace (LossyTransport.answer unstartedLink)
      roomTempCall { simulator := roomTempDevice }) →
      message = [0x01, 0x80, 0x59, 0x0B, 0x00, 0x05, 0x00, 0xC8, 0x10, 0x03] := by
    rw [show marks (trace (LossyTransport.answer unstartedLink) roomTempCall
        { simulator := roomTempDevice })
        = [.getData [0x01, 0x00, 0x11, 0x0B, 0x00, 0x05, 0x10, 0x03],
          .gotData [0x01, 0x00, 0xE3, 0x0B, 0x00, 0x05, 0x00, 0xD2, 0x10, 0x03],
          .setData [0x01, 0x80, 0x59, 0x0B, 0x00, 0x05, 0x00, 0xC8, 0x10, 0x03],
          .didSet []] by decide +kernel]
    simp
  refine ⟨t', ids, text, unchanged, hrun, ?_⟩
  refine ((unconfirmed_write_kept_iff hrun rfl).2 ⟨.inl rfl, ?_, ?_⟩).mpr ?_
  · intro record hrecord
    rw [show HeatPumpConfig.channel roomTempConfig "p01RoomTempDay" = some roomTempDay by
      decide +kernel] at hrecord
    cases hrecord
    decide +kernel
  · intro message hmark
    rw [hmarks message hmark]
    decide
  · intro message hmark hends
    rw [hmarks message hmark, EndsAcknowledged] at hends
    exact absurd hends (by decide +kernel)

/-- The device has stored 20 degrees when its confirmation is lost. -/
theorem lost_confirmation_changes_frame : ∃ t' ids text unchanged,
    HeatPumpSimulator.create roomTempConfig [("p01RoomTempDay", .float (.finite 21))]
      = .ok roomTempDevice ∧
    run (LossyTransport.answer unconfirmedLink)
        (HeatPumpService.writeChannel roomTempConfig 0 "p01RoomTempDay" (.int 20))
        { simulator := roomTempDevice }
      = (.error (.writeNotConfirmed ids text unchanged), t') ∧
    roomTempDevice.store
      = [("0B0005", [0x01, 0x00, 0xE3, 0x0B, 0x00, 0x05, 0x00, 0xD2, 0x10, 0x03])] ∧
    t'.simulator.store
      = [("0B0005", [0x01, 0x00, 0xD9, 0x0B, 0x00, 0x05, 0x00, 0xC8, 0x10, 0x03])] := by
  obtain ⟨t', ids, text, unchanged, hrun, hstore⟩ := unconfirmed_of_leaves
    (show leavesUnconfirmed unconfirmedLink
      [("0B0005", [0x01, 0x00, 0xD9, 0x0B, 0x00, 0x05, 0x00, 0xC8, 0x10, 0x03])] = true by
        decide +kernel)
  exact ⟨t', ids, text, unchanged, roomTempDevice_created, hrun, by decide +kernel, hstore⟩

end HeatpumpGateway
