import HeatpumpGateway.Model.Simulator
import HeatpumpGateway.Proofs.Frame
import HeatpumpGateway.Proofs.Receive

/-!
# What the device does with a message

The simulator's state machine, fed the bytes of one exchange: the start byte, an
escaped frame, the acknowledge. The frame is recognised at its last byte and no
earlier, and comes out of the de-escaping as it was; so an exchange from rest ends
at rest with `_build_response` applied to the frame that was meant.

The second half is `get_data` and `set_data` as the client runs them against such a
device over a link that loses nothing.
-/

namespace HeatpumpGateway

open Dialogue Stuffing

namespace HeatPumpSimulator

/-! ## Feeding bytes -/

@[simp] theorem feed_nil (sim : HeatPumpSimulator) : sim.feed [] = ([], sim) := rfl

theorem feed_cons (sim : HeatPumpSimulator) (b : UInt8) (data : Bytes) :
    sim.feed (b :: data) =
      ((sim.feedByte b).1 ++ ((sim.feedByte b).2.feed data).1, ((sim.feedByte b).2.feed data).2) :=
  rfl

theorem feed_append (data data' : Bytes) : ∀ sim : HeatPumpSimulator,
    sim.feed (data ++ data') =
      ((sim.feed data).1 ++ ((sim.feed data).2.feed data').1,
        ((sim.feed data).2.feed data').2) := by
  induction data with
  | nil => intro sim; rfl
  | cons b data ih =>
      intro sim
      rw [List.cons_append, feed_cons, ih, feed_cons, List.append_assoc]

theorem feed_start {sim : HeatPumpSimulator} (h : sim.state = .idle) :
    sim.feed [START_COMMUNICATION]
      = ([ESCAPE], { sim with state := .collecting, frameBuffer := [] }) := by
  rw [feed_cons, feedByte, h]
  rfl

/-- The device takes the buffer for a complete frame. -/
def Completes (buffer : Bytes) : Prop :=
  buffer.length ≥ 6 ∧ isFrameEnd buffer buffer.length = true

instance (buffer : Bytes) : Decidable (Completes buffer) := inferInstanceAs (Decidable (_ ∧ _))

/-- Until a frame is complete, bytes are only collected. -/
theorem feed_collecting (data : Bytes) : ∀ (sim : HeatPumpSimulator),
    sim.state = .collecting →
    (∀ n, sim.frameBuffer.length < n → n ≤ (sim.frameBuffer ++ data).length →
      ¬ Completes ((sim.frameBuffer ++ data).take n)) →
    sim.feed data = ([], { sim with frameBuffer := sim.frameBuffer ++ data }) := by
  induction data with
  | nil =>
      intro sim _ _
      rw [feed, List.append_nil]
  | cons b data ih =>
      intro sim hstate hquiet
      have hb : ¬ Completes (sim.frameBuffer ++ [b]) := by
        have h := hquiet (sim.frameBuffer.length + 1) (by omega) (by simp)
        rwa [List.take_length_add_append] at h
      have hbyte : sim.feedByte b = ([], { sim with frameBuffer := sim.frameBuffer ++ [b] }) := by
        rw [feedByte, hstate]
        exact if_neg hb
      have hrest := ih { sim with frameBuffer := sim.frameBuffer ++ [b] } hstate (by
        intro n hlo hhi
        rw [List.append_assoc, List.singleton_append] at hhi ⊢
        exact hquiet n (by rw [List.length_append] at hlo; omega) hhi)
      rw [feed_cons, hbyte]
      simp only [hrest, List.nil_append, List.append_assoc, List.singleton_append]

/-- The byte that completes a frame. -/
theorem feedByte_completes {sim : HeatPumpSimulator} {b : UInt8} (hstate : sim.state = .collecting)
    (h : Completes (sim.frameBuffer ++ [b])) :
    sim.feedByte b = (DATA_AVAILABLE,
      { sim with
        frameBuffer := sim.frameBuffer ++ [b]
        pending := fixDuplicatedBytes (sim.frameBuffer ++ [b]), state := .awaitAck }) := by
  rw [feedByte, hstate]
  exact if_pos h

/-- A text whose first complete frame is the whole of it is recognised as one. -/
theorem feed_frame {sim : HeatPumpSimulator} {text : Bytes} (hstate : sim.state = .collecting)
    (hbuffer : sim.frameBuffer = []) (hcomplete : Completes text)
    (hfirst : ∀ n, n < text.length → ¬ Completes (text.take n)) :
    sim.feed text = (DATA_AVAILABLE,
      { sim with
        frameBuffer := text, pending := fixDuplicatedBytes text, state := .awaitAck }) := by
  obtain ⟨front, b, rfl⟩ : ∃ front b, text = front ++ [b] := by
    rcases List.eq_nil_or_concat text with rfl | ⟨front, b, htext⟩
    · exact absurd hcomplete.1 (by simp)
    · exact ⟨front, b, by rw [htext, List.concat_eq_append]⟩
  have hfront := feed_collecting front sim hstate (by
    intro n _ hhi
    rw [hbuffer, List.nil_append] at hhi ⊢
    have h := hfirst n (by rw [List.length_append, List.length_singleton]; omega)
    rwa [List.take_append_of_le_length hhi] at h)
  rw [hbuffer, List.nil_append] at hfront
  rw [feed_append, hfront, feed_cons]
  simp only [feedByte_completes (show { sim with frameBuffer := front }.state = _ from hstate)
    hcomplete]
  rfl

theorem feed_acknowledge {sim : HeatPumpSimulator} (h : sim.state = .awaitAck) :
    sim.feed [ESCAPE] = (addDuplicatedBytes (sim.buildResponse sim.pending).1,
      { (sim.buildResponse sim.pending).2 with state := .idle }) := by
  rw [feed_cons, feedByte, h]
  simp only [if_pos, feed_nil, List.append_nil]

/-- An escaped frame with at least two bytes between its header and its footer is
complete at its end and nowhere before. -/
theorem completes_escaped {b₀ b₁ : UInt8} (h₁ : b₁ ≠ ESCAPE) {payload : Bytes}
    (hlong : 2 ≤ payload.length) :
    Completes (addDuplicatedBytes (frameWith b₀ b₁ payload)) ∧
      ∀ n, n < (addDuplicatedBytes (frameWith b₀ b₁ payload)).length →
        ¬ Completes ((addDuplicatedBytes (frameWith b₀ b₁ payload)).take n) := by
  refine ⟨⟨?_, isFrameEnd_escaped h₁ payload⟩, ?_⟩
  · have hle : payload.length ≤ (stuff escapeMark payload).length := length_le_stuff payload
    rw [addDuplicatedBytes_frameWith, frameWith_length]
    omega
  · intro n hn h
    obtain ⟨hsix, hend⟩ := h
    rw [List.length_take] at hsix
    have hnot := isFrameEnd_escaped_prefix h₁ payload (by omega) hn
    rw [isFrameEnd_iff (Nat.le_refl _), List.take_length] at hend
    rw [Bool.eq_false_iff, ne_eq, isFrameEnd_iff (Nat.le_of_lt hn)] at hnot
    exact hnot hend

/-- The exchange of one frame, as the device sees it. -/
theorem feed_message {sim : HeatPumpSimulator} {b₀ b₁ : UInt8} (h₀ : Plain b₀) (h₁ : Plain b₁)
    {payload : Bytes} (hlong : 2 ≤ payload.length) (hstate : sim.state = .collecting)
    (hbuffer : sim.frameBuffer = []) :
    sim.feed (addDuplicatedBytes (frameWith b₀ b₁ payload)) = (DATA_AVAILABLE,
      { sim with
        frameBuffer := addDuplicatedBytes (frameWith b₀ b₁ payload)
        pending := frameWith b₀ b₁ payload, state := .awaitAck }) := by
  obtain ⟨hcomplete, hfirst⟩ := completes_escaped h₁.1 hlong
  rw [feed_frame hstate hbuffer hcomplete hfirst, fix_add_frameWith h₀ h₁]

theorem buildResponse_commands (sim : HeatPumpSimulator) (frame : Bytes) :
    (sim.buildResponse frame).2.commandToRequest = sim.commandToRequest := by
  rw [buildResponse]
  split
  · rfl
  · split
    · rfl
    · split
      · rfl
      · rfl

theorem feedByte_commands (sim : HeatPumpSimulator) (byte : UInt8) :
    (sim.feedByte byte).2.commandToRequest = sim.commandToRequest := by
  rw [feedByte]
  split
  · split
    · rfl
    · rfl
  · simp only
    split
    · rfl
    · rfl
  · split
    · exact buildResponse_commands sim sim.pending
    · rfl

/-- No byte on the line changes what the device knows. -/
theorem feed_commands (data : Bytes) : ∀ sim : HeatPumpSimulator,
    (sim.feed data).2.commandToRequest = sim.commandToRequest := by
  induction data with
  | nil => intro sim; rfl
  | cons byte data ih =>
      intro sim
      rw [feed_cons]
      exact (ih _).trans (feedByte_commands sim byte)

end HeatPumpSimulator

/-! ## The client at the other end -/

/-- The device waits for a start byte, nothing is under way, and its store is this. -/
structure Rests (commands : Dict Command Request) (store : Dict String Bytes)
    (t : SimulatorTransport) : Prop where
  idle : t.simulator.state = .idle
  quiet : t.rx = []
  commands : t.simulator.commandToRequest = commands
  store : t.simulator.store = store

theorem answers_get (bytes : Bytes) : ∀ (sim : HeatPumpSimulator) (rest : Bytes),
    Answers SimulatorTransport.answer .get ⟨sim, bytes ++ rest⟩ (bytes.map some) ⟨sim, rest⟩ := by
  induction bytes with
  | nil => intro sim rest; exact .nil _
  | cons b bytes ih => intro sim rest; exact .cons rfl (ih sim rest)

theorem run_write (data : Bytes) (t : SimulatorTransport) :
    run SimulatorTransport.answer (Transport.write data) t
      = (.ok (), ⟨(t.simulator.feed data).2, t.rx ++ (t.simulator.feed data).1⟩) := rfl

theorem run_startCommunication {sim : HeatPumpSimulator} (h : sim.state = .idle) :
    run SimulatorTransport.answer Connector.startCommunication ⟨sim, []⟩
      = (.ok (), ⟨{ sim with state := .collecting, frameBuffer := [] }, []⟩) := by
  rw [Connector.startCommunication, run_bind_ok _ (run_write _ _)]
  simp only [HeatPumpSimulator.feed_start h, List.nil_append]
  rfl

theorem run_awaitDataAvailable_byte {fuel numRead : Nat} {buffer : Bytes} {b : UInt8} {rx : Bytes}
    (sim : HeatPumpSimulator) (h : numRead < buffer.length) :
    run SimulatorTransport.answer (Connector.awaitDataAvailable (fuel + 1) 0 numRead buffer)
        ⟨sim, b :: rx⟩
      = if (buffer.set numRead b).take 2 ≠ DATA_AVAILABLE then
          run SimulatorTransport.answer (Connector.awaitDataAvailable fuel 0 (numRead + 1)
            (buffer.set numRead b)) ⟨sim, rx⟩
        else (.ok (true, buffer.set numRead b), ⟨sim, rx⟩) := by
  rw [Connector.awaitDataAvailable, if_pos (by decide)]
  show run SimulatorTransport.answer (if numRead ≥ buffer.length then _ else _) ⟨sim, rx⟩ = _
  rw [if_neg (by omega)]
  split
  · rfl
  · rfl

/-- The data-available signal is found as soon as it is there. -/
theorem run_awaitDataAvailable (sim : HeatPumpSimulator) (x y : UInt8) (rest : Bytes)
    (hy : y ≠ START_COMMUNICATION) :
    run SimulatorTransport.answer (Connector.awaitDataAvailable LOOP_FUEL 0 0 (x :: y :: rest))
        ⟨sim, DATA_AVAILABLE⟩
      = (.ok (true, DATA_AVAILABLE ++ rest), ⟨sim, []⟩) := by
  rw [show LOOP_FUEL = LOOP_FUEL - 2 + 1 + 1 from rfl, DATA_AVAILABLE,
    run_awaitDataAvailable_byte sim (by simp), if_pos (by simp [DATA_AVAILABLE, hy]),
    run_awaitDataAvailable_byte sim (by simp), if_neg (by simp [DATA_AVAILABLE])]
  rfl

theorem run_establishRequest {sim : HeatPumpSimulator} {message : Bytes}
    (h : (sim.feed message).1 = DATA_AVAILABLE) :
    run SimulatorTransport.answer (Connector.establishRequest message) ⟨sim, []⟩
      = (.ok true, ⟨(sim.feed message).2, []⟩) := by
  rw [Connector.establishRequest, show MAX_RETRY = 4 + 1 from rfl, Connector.establishLoop,
    run_bind_ok _ (run_write _ _)]
  simp only [List.nil_append, h]
  rw [show List.replicate INPUT_BUFFER_LENGTH (0 : UInt8)
      = 0 :: 0 :: List.replicate (INPUT_BUFFER_LENGTH - 2) 0 from rfl,
    run_bind_ok _ (run_awaitDataAvailable _ 0 0 _ (by decide))]
  rfl

/-- A frame that is received as it was sent: its header needs no escaping, and it
fits into the client's buffer. -/
structure Receivable (frame : Bytes) : Prop where
  split : ∃ b₀ b₁ payload, Plain b₀ ∧ Plain b₁ ∧ payload ≠ [] ∧ frame = frameWith b₀ b₁ payload
  fits : (addDuplicatedBytes frame).length ≤ INPUT_BUFFER_LENGTH

theorem run_receiveData {sim : HeatPumpSimulator} {frame : Bytes} (h : Receivable frame) :
    run SimulatorTransport.answer Connector.receiveData ⟨sim, addDuplicatedBytes frame⟩
      = (.ok frame, ⟨sim, []⟩) := by
  obtain ⟨⟨b₀, b₁, payload, h₀, h₁, hne, rfl⟩, hfits⟩ := h
  have hanswers := answers_get (addDuplicatedBytes (frameWith b₀ b₁ payload)) sim []
  rw [List.append_nil] at hanswers
  have hreduce : ∀ bytes : Bytes, (bytes.map some).reduceOption = bytes := by
    intro bytes
    rw [List.reduceOption, List.filterMap_map]
    exact List.filterMap_some
  refine receiveData_frameWith _ h₀ h₁ hne hfits (hreduce _) ?_ ?_ hanswers
  · rw [List.count_eq_zero_of_not_mem (by simp)]
    decide
  · rw [List.getLast?_map]
    intro hnone
    obtain ⟨b, _, hb⟩ := Option.map_eq_some_iff.mp hnone
    cases hb

/-- A frame that would be received if it fitted into the client's buffer. -/
structure Overlong (frame : Bytes) : Prop where
  split : ∃ b₀ b₁ payload, Plain b₀ ∧ Plain b₁ ∧ payload ≠ [] ∧ frame = frameWith b₀ b₁ payload
  exceeds : INPUT_BUFFER_LENGTH < (addDuplicatedBytes frame).length

/-- The buffer is full before the frame has ended. -/
theorem run_receiveLoop_overlong (sim : HeatPumpSimulator) (rx : Bytes) :
    ∀ (fuel : Nat) (buffer : Bytes), INPUT_BUFFER_LENGTH < buffer.length + rx.length →
      buffer.length ≤ INPUT_BUFFER_LENGTH → INPUT_BUFFER_LENGTH < fuel + buffer.length →
      (∀ n, 4 < n → n < (buffer ++ rx).length → isFrameEnd (buffer ++ rx) n = false) →
      ∃ e t, run SimulatorTransport.answer (Connector.receiveLoop fuel 0 buffer) ⟨sim, rx⟩
        = (.error e, t) := by
  induction rx with
  | nil =>
      intro fuel buffer hover hroom
      rw [List.length_nil] at hover
      omega
  | cons b rx ih =>
      intro fuel buffer hover hroom hfuel hnoend
      obtain ⟨fuel, rfl⟩ : ∃ f, fuel = f + 1 := ⟨fuel - 1, by omega⟩
      rw [Connector.receiveLoop, if_pos (by decide)]
      show ∃ e t, run SimulatorTransport.answer (if buffer.length ≥ INPUT_BUFFER_LENGTH then _
        else _) ⟨sim, rx⟩ = (.error e, t)
      by_cases hfull : buffer.length ≥ INPUT_BUFFER_LENGTH
      · rw [if_pos hfull]
        exact ⟨_, _, rfl⟩
      · rw [if_neg hfull]
        rw [List.append_cons] at hnoend
        rw [List.length_cons] at hover
        have hlen : (buffer ++ [b]).length = buffer.length + 1 := List.length_append
        have hmore : ¬ ((buffer ++ [b]).length > 4 ∧
            isFrameEnd (buffer ++ [b]) (buffer ++ [b]).length = true) := by
          intro hc
          obtain ⟨hlong, hend⟩ := hc
          have hnot := hnoend (buffer ++ [b]).length hlong (by
            rw [@List.length_append _ _ rx]
            omega)
          rw [isFrameEnd_iff (Nat.le_refl _), List.take_length] at hend
          rw [Bool.eq_false_iff, ne_eq, isFrameEnd_iff (by simp), List.take_left] at hnot
          exact hnot hend
        rw [if_neg hmore]
        exact ih fuel (buffer ++ [b]) (by omega) (by omega) (by omega) hnoend

theorem run_receiveData_overlong {sim : HeatPumpSimulator} {frame : Bytes} (h : Overlong frame) :
    ∃ e t, run SimulatorTransport.answer Connector.receiveData ⟨sim, addDuplicatedBytes frame⟩
      = (.error e, t) := by
  obtain ⟨⟨b₀, b₁, payload, h₀, h₁, hne, rfl⟩, hover⟩ := h
  obtain ⟨e, t, hloop⟩ := run_receiveLoop_overlong sim
    (addDuplicatedBytes (frameWith b₀ b₁ payload)) LOOP_FUEL [] (by
      rw [List.length_nil]
      omega) (by decide) (by decide) (by
      intro n hlo hhi
      rw [List.nil_append] at hhi ⊢
      exact isFrameEnd_escaped_prefix h₁.1 payload (by omega) hhi)
  exact ⟨e, t, by rw [Connector.receiveData, run_bind_error _ hloop]⟩

/-- To receive asks nothing of the device. -/
theorem run_receiveLoop_simulator (fuel : Nat) : ∀ (retry : Nat) (buffer : Bytes)
    (t : SimulatorTransport),
    (run SimulatorTransport.answer (Connector.receiveLoop fuel retry buffer) t).2.simulator
      = t.simulator := by
  induction fuel with
  | zero => intro retry buffer t; rfl
  | succ fuel ih =>
      intro retry buffer t
      obtain ⟨sim, rx⟩ := t
      rw [Connector.receiveLoop]
      split
      · cases rx with
        | nil => exact ih (retry + 1) buffer ⟨sim, []⟩
        | cons b rx =>
            show (run SimulatorTransport.answer (if buffer.length ≥ INPUT_BUFFER_LENGTH then _
              else _) ⟨sim, rx⟩).2.simulator = sim
            split
            · rfl
            · split
              · rfl
              · exact ih retry (buffer ++ [b]) ⟨sim, rx⟩
      · rfl

theorem run_receiveData_simulator (t : SimulatorTransport) :
    (run SimulatorTransport.answer Connector.receiveData t).2.simulator = t.simulator := by
  have hloop := run_receiveLoop_simulator LOOP_FUEL 0 [] t
  rw [Connector.receiveData, run_bind]
  generalize run SimulatorTransport.answer (Connector.receiveLoop LOOP_FUEL 0 []) t = out at hloop ⊢
  obtain ⟨r, t'⟩ := out
  cases r with
  | ok buffer => exact hloop
  | error e => exact hloop

/-- The device as it waits for the acknowledge of a frame. -/
def HeatPumpSimulator.holding (sim : HeatPumpSimulator) (frame : Bytes) : HeatPumpSimulator :=
  { sim with
    frameBuffer := addDuplicatedBytes frame, pending := frame, state := .awaitAck }

/-- The device after it has answered a frame. -/
def HeatPumpSimulator.answered (sim : HeatPumpSimulator) (frame : Bytes) : HeatPumpSimulator :=
  { ((sim.holding frame).buildResponse frame).2 with state := .idle }

/-- A message whose header needs no escaping and that is long enough to be taken for
a frame. -/
structure Sendable (frame : Bytes) : Prop where
  split : ∃ b₀ b₁ payload, Plain b₀ ∧ Plain b₁ ∧ 2 ≤ payload.length ∧
    frame = frameWith b₀ b₁ payload

theorem Sendable.feed {frame : Bytes} (h : Sendable frame) (sim : HeatPumpSimulator) :
    ({ sim with state := .collecting, frameBuffer := [] } : HeatPumpSimulator).feed
        (addDuplicatedBytes frame) = (DATA_AVAILABLE, sim.holding frame) := by
  obtain ⟨b₀, b₁, payload, h₀, h₁, hlong, rfl⟩ := h
  rw [HeatPumpSimulator.feed_message h₀ h₁ hlong rfl rfl]
  rfl

theorem run_acknowledge (sim : HeatPumpSimulator) (frame : Bytes) :
    run SimulatorTransport.answer (Transport.write [ESCAPE]) ⟨sim.holding frame, []⟩
      = (.ok (), ⟨sim.answered frame,
          addDuplicatedBytes ((sim.holding frame).buildResponse frame).1⟩) := by
  rw [run_write, HeatPumpSimulator.feed_acknowledge rfl]
  rfl

/-- A GET up to the acknowledge: what is left is to receive the device's answer. -/
theorem run_getData_acknowledged {sim : HeatPumpSimulator} {frame : Bytes}
    (hidle : sim.state = .idle) (hsend : Sendable frame) :
    run SimulatorTransport.answer (Connector.getData (addDuplicatedBytes frame)) ⟨sim, []⟩
      = run SimulatorTransport.answer (handle Connector.receiveData fun _ => return [])
          ⟨sim.answered frame,
            addDuplicatedBytes ((sim.holding frame).buildResponse frame).1⟩ := by
  have hestablish := run_establishRequest (congrArg Prod.fst (hsend.feed sim))
  rw [hsend.feed] at hestablish
  have hack : run SimulatorTransport.answer Connector.acknowledgeAndReceive
      ⟨sim.holding frame, []⟩
      = run SimulatorTransport.answer (handle Connector.receiveData fun _ => return [])
          ⟨sim.answered frame,
            addDuplicatedBytes ((sim.holding frame).buildResponse frame).1⟩ := by
    rw [Connector.acknowledgeAndReceive, run_handle, run_bind_ok _ (run_acknowledge sim frame),
      run_handle]
  rw [Connector.getData, mark, ask_bind, run_ask]
  show run _ (Connector.startCommunication >>= _) (⟨sim, []⟩ : SimulatorTransport) = _
  rw [run_bind_ok _ (run_startCommunication hidle), run_bind_ok _ hestablish]
  show run _ (Connector.acknowledgeAndReceive >>= _) _ = _
  rw [run_bind, hack]
  -- The mark at the end answers nothing.
  obtain ⟨r, t⟩ := run SimulatorTransport.answer (handle Connector.receiveData fun _ => return [])
    ⟨sim.answered frame, addDuplicatedBytes ((sim.holding frame).buildResponse frame).1⟩
  cases r with
  | ok reply => rfl
  | error e => rfl

/-- An exchange about one frame: the reply is what the device builds for it, and the
device is at rest again. -/
theorem run_getData {sim : HeatPumpSimulator} {frame : Bytes} (hidle : sim.state = .idle)
    (hsend : Sendable frame) (hreply : Receivable ((sim.holding frame).buildResponse frame).1) :
    run SimulatorTransport.answer (Connector.getData (addDuplicatedBytes frame)) ⟨sim, []⟩
      = (.ok ((sim.holding frame).buildResponse frame).1, ⟨sim.answered frame, []⟩) := by
  rw [run_getData_acknowledged hidle hsend, run_handle, run_receiveData hreply]

/-- An answer that does not fit into the client's buffer is no answer. -/
theorem run_getData_overlong {sim : HeatPumpSimulator} {frame : Bytes} (hidle : sim.state = .idle)
    (hsend : Sendable frame) (hreply : Overlong ((sim.holding frame).buildResponse frame).1) :
    ∃ t, run SimulatorTransport.answer (Connector.getData (addDuplicatedBytes frame)) ⟨sim, []⟩
      = (.ok [], t) := by
  obtain ⟨e, t, hreceive⟩ := @run_receiveData_overlong (sim.answered frame) _ hreply
  refine ⟨t, ?_⟩
  rw [run_getData_acknowledged hidle hsend, run_handle, hreceive]
  rfl

/-- A SET up to the acknowledge. -/
theorem run_setData_acknowledged {sim : HeatPumpSimulator} {frame : Bytes}
    (hidle : sim.state = .idle) (hsend : Sendable frame) :
    run SimulatorTransport.answer (Connector.setData (addDuplicatedBytes frame)) ⟨sim, []⟩
      = run SimulatorTransport.answer Connector.receiveData ⟨sim.answered frame,
          addDuplicatedBytes ((sim.holding frame).buildResponse frame).1⟩ := by
  have hestablish := run_establishRequest (congrArg Prod.fst (hsend.feed sim))
  rw [hsend.feed] at hestablish
  have htransmit : run SimulatorTransport.answer (Connector.transmit (addDuplicatedBytes frame))
      ⟨sim, []⟩ = (.ok true, ⟨sim.answered frame,
        addDuplicatedBytes ((sim.holding frame).buildResponse frame).1⟩) := by
    rw [Connector.transmit, run_handle, run_bind_ok _ (run_startCommunication hidle),
      run_bind_ok _ hestablish, run_bind_ok _ (run_acknowledge sim frame)]
    rfl
  rw [Connector.setData, mark, ask_bind, run_ask]
  show run _ (Connector.transmit _ >>= _) (⟨sim, []⟩ : SimulatorTransport) = _
  rw [run_bind_ok _ htransmit]
  show run _ (Connector.receiveData >>= _) _ = _
  rw [run_bind]
  obtain ⟨r, t⟩ := run SimulatorTransport.answer Connector.receiveData
    ⟨sim.answered frame, addDuplicatedBytes ((sim.holding frame).buildResponse frame).1⟩
  cases r with
  | ok reply => rfl
  | error e => rfl

theorem run_setData {sim : HeatPumpSimulator} {frame : Bytes} (hidle : sim.state = .idle)
    (hsend : Sendable frame) (hreply : Receivable ((sim.holding frame).buildResponse frame).1) :
    run SimulatorTransport.answer (Connector.setData (addDuplicatedBytes frame)) ⟨sim, []⟩
      = (.ok ((sim.holding frame).buildResponse frame).1, ⟨sim.answered frame, []⟩) := by
  rw [run_setData_acknowledged hidle hsend, run_receiveData hreply]

/-- Whatever the client makes of the answer, the device has done what it was told. -/
theorem run_setData_simulator {sim : HeatPumpSimulator} {frame : Bytes} (hidle : sim.state = .idle)
    (hsend : Sendable frame) :
    (run SimulatorTransport.answer (Connector.setData (addDuplicatedBytes frame))
      ⟨sim, []⟩).2.simulator = sim.answered frame := by
  rw [run_setData_acknowledged hidle hsend, run_receiveData_simulator]

end HeatpumpGateway
