import HeatpumpGateway.Lib.Budget
import HeatpumpGateway.Proofs.Bounded
import HeatpumpGateway.Proofs.Routes

/-!
# What a request costs

A request holds the service's lock until its conversation ends, and how long that takes is up
to the device: it may answer late, or never, or never stop. Whatever it does, the loops of the
connector, the attempts of a read and the writes of a call put a limit to it. Every kind of
exchange is given a price here, and `request_cost` is what a request can come to at these
prices: with one price of 1 it counts the timeouts, the bytes or the messages, and with the
timeout of a `get` and the milliseconds of a `sleep` it is a time.
-/

namespace HeatpumpGateway

open Dialogue CommunicationService

/-! ## Prices -/

/-- What an exchange of each kind costs, a sleep by the millisecond. -/
structure Prices where
  timeout : Nat
  byte : Nat
  message : Nat
  slept : Nat
  opened : Nat
  closed : Nat

namespace Prices

def of (prices : Prices) : Exchange → Nat
  | ⟨.get, none⟩ => prices.timeout
  | ⟨.get, some _⟩ => prices.byte
  | ⟨.write _, _⟩ => prices.message
  | ⟨.sleep milliseconds, _⟩ => prices.slept * milliseconds
  | ⟨.openPort, _⟩ => prices.opened
  | ⟨.closePort, _⟩ => prices.closed
  | ⟨.mark _, _⟩ => 0

variable (prices : Prices)

/-- The start byte, and one byte or none. -/
def start : Nat := prices.message + max prices.timeout prices.byte

/-- A loop of the connector: five timeouts, and one byte more than the buffer holds. -/
def loop : Nat := MAX_RETRY * prices.timeout + (INPUT_BUFFER_LENGTH + 1) * prices.byte

/-- A handshake: the request and a loop and a new start, five times over. -/
def handshake : Nat := MAX_RETRY * (prices.message + (prices.loop + prices.start))

/-- A request and its reply. -/
def exchange : Nat := prices.start + (prices.handshake + (prices.message + prices.loop))

def restart : Nat := prices.closed + (prices.slept * 500 + prices.opened)

/-- Up to three attempts, each with a request for every command, and a restart. -/
def read (waitingTime : Nat) (request : Request) : Nat :=
  MAX_TRIES *
    ((match request.requestBytes2 with
      | .ok (some _) => prices.exchange + (prices.slept * waitingTime + prices.exchange)
      | _ => prices.exchange) + prices.restart)

/-- A read for each request, and a pause between any two. -/
def sweep (waitingTime : Nat) : List Request → Nat
  | [] => 0
  | [request] => prices.read waitingTime request
  | request :: requests =>
      prices.read waitingTime request + (prices.slept * waitingTime + sweep waitingTime requests)

/-- A read, a pause and a write. -/
def write (waitingTime : Nat) : Nat :=
  prices.exchange + (prices.slept * waitingTime + prices.exchange)

/-- Registers and the pauses after them, or one frame, and the `FC` register once more. -/
def clock (config : HeatPumpConfig) (waitingTime : Nat) (now : DateTime) : Nat :=
  let clockRecords := HeatPumpService.clockRecords config
  let readback :=
    match config.requestByBytes "FC" with
    | some _ => prices.exchange
    | none => 0
  if clockRecords ≠ [] then
    (registerItems clockRecords (clockValues now) CLOCK_FIELDS).length *
        (prices.write waitingTime + prices.slept * waitingTime) + readback
  else
    match config.requestByBytes "FC" with
    | some _ => prices.write waitingTime + prices.slept * waitingTime + readback
    | none => 0

/-- A call of the service. -/
def call (config : HeatPumpConfig) (waitingTime : Nat) : ServiceCall → Nat
  | .readChannel channelId =>
      match config.requestForChannel channelId with
      | some request => prices.read waitingTime request
      | none => 0
  | .readChannels channelIds =>
      prices.sweep waitingTime (HeatPumpService.requestsFor config channelIds)
  | .readAll dataTypes =>
      prices.sweep waitingTime (config.requests.filter fun request =>
        request.records.any (·.dataType ∈ HeatPumpService.typesOrDefault dataTypes))
  | .getVersion =>
      match config.requestByBytes "FD" with
      | some request => prices.read waitingTime request
      | none => 0
  | .setTime now => prices.clock config waitingTime now
  | .writeChannel _ _ => prices.write waitingTime

end Prices

section costs

variable {prices : Prices} {waitingTime : Nat}

/-! ## The connector -/

theorem spends_write (data : Bytes) : Spends prices.of (Transport.write data) prices.message := by
  refine Spends.ask fun a => ⟨0, Nat.le_refl _, ?_⟩
  cases a with
  | none => exact .ret ()
  | some e => exact .raise _

theorem spends_sleep (n : Nat) : Spends prices.of (sleep n) (prices.slept * n) :=
  Spends.ask fun _ => ⟨0, Nat.le_refl _, .ret ()⟩

theorem spends_mark (m : Mark) : Spends prices.of (mark m) 0 :=
  Spends.ask fun _ => ⟨0, Nat.le_refl _, .ret ()⟩

/-- What follows a byte, and what follows a timeout, each has a share of its own. -/
theorem spends_get {α : Type} {f : Option UInt8 → Talk α} {n : Nat}
    (h : ∀ a, ∃ m, prices.of ⟨.get, a⟩ + m ≤ n ∧ Spends prices.of (f a) m) :
    Spends prices.of (Transport.get >>= f) n :=
  Spends.ask h

theorem spends_startCommunication :
    Spends prices.of Connector.startCommunication prices.start := by
  refine Spends.bind (spends_write _) fun _ => spends_get fun a => ?_
  cases a with
  | none => exact ⟨0, Nat.le_max_left .., .raise _⟩
  | some b =>
      refine ⟨0, Nat.le_max_right .., ?_⟩
      simp only []
      split
      · exact .raise _
      · exact .ret _

/-- A round of a loop uses up a timeout or a byte. -/
theorem spends_round {α : Type} {f : Option UInt8 → Talk α} {left bytes : Nat}
    (hnone : Spends prices.of (f none) (left * prices.timeout + (bytes + 1) * prices.byte))
    (hsome : ∀ b, Spends prices.of (f (some b))
      ((left + 1) * prices.timeout + bytes * prices.byte)) :
    Spends prices.of (Transport.get >>= f)
      ((left + 1) * prices.timeout + (bytes + 1) * prices.byte) := by
  refine spends_get fun a => ?_
  cases a with
  | none =>
      refine ⟨_, ?_, hnone⟩
      simp only [Prices.of, Nat.succ_mul]
      omega
  | some b =>
      refine ⟨_, ?_, hsome b⟩
      simp only [Prices.of, Nat.succ_mul]
      omega

theorem spends_awaitDataAvailable (fuel : Nat) :
    ∀ {bufferRetry numRead retries bytes : Nat} {buffer : Bytes},
      buffer.length = INPUT_BUFFER_LENGTH → bufferRetry + retries = MAX_RETRY →
      numRead + bytes = INPUT_BUFFER_LENGTH →
      Spends prices.of (Connector.awaitDataAvailable fuel bufferRetry numRead buffer)
        (retries * prices.timeout + (bytes + 1) * prices.byte) := by
  induction fuel with
  | zero => intro _ _ _ _ _ _ _ _; exact .ret _
  | succ fuel ih =>
      intro bufferRetry numRead retries bytes buffer hlen hretries hbytes
      rw [Connector.awaitDataAvailable]
      split
      · next hretry =>
          obtain ⟨left, rfl⟩ : ∃ left, retries = left + 1 := ⟨retries - 1, by omega⟩
          refine spends_round (ih hlen (by omega) hbytes) fun single => ?_
          simp only []
          split
          · exact .raise _
          · next hroom =>
              obtain ⟨room, rfl⟩ : ∃ room, bytes = room + 1 := ⟨bytes - 1, by omega⟩
              split
              · exact ih (by rw [List.length_set, hlen]) hretries (by omega)
              · exact .ret _
      · exact .ret _

theorem spends_establishLoop (message : Bytes) (tries : Nat) :
    ∀ {buffer : Bytes}, buffer.length = INPUT_BUFFER_LENGTH →
      Spends prices.of (Connector.establishLoop message tries buffer)
        (tries * (prices.message + (prices.loop + prices.start))) := by
  induction tries with
  | zero => intro _ _; exact .ret _
  | succ tries ih =>
      intro buffer hlen
      rw [Connector.establishLoop, Nat.succ_mul, Nat.add_comm, Nat.add_assoc, Nat.add_assoc]
      refine Spends.bind (spends_write message) fun _ => ?_
      refine Spends.bind_path (spends_awaitDataAvailable LOOP_FUEL hlen (Nat.zero_add _)
        (Nat.zero_add _)) ?_
      intro res tr hres
      obtain ⟨available, buffer'⟩ := res
      cases available with
      | true => exact .ret _
      | false =>
          exact Spends.bind spends_startCommunication fun _ =>
            ih ((awaitDataAvailable_buffer _ hres).trans hlen)

theorem spends_establishRequest (message : Bytes) :
    Spends prices.of (Connector.establishRequest message) prices.handshake :=
  spends_establishLoop message MAX_RETRY List.length_replicate

theorem spends_receiveLoop (fuel : Nat) :
    ∀ {retry retries bytes : Nat} {buffer : Bytes}, retry + retries = MAX_RETRY →
      buffer.length + bytes = INPUT_BUFFER_LENGTH →
      Spends prices.of (Connector.receiveLoop fuel retry buffer)
        (retries * prices.timeout + (bytes + 1) * prices.byte) := by
  induction fuel with
  | zero => intro _ _ _ _ _ _; exact .ret _
  | succ fuel ih =>
      intro retry retries bytes buffer hretries hbytes
      rw [Connector.receiveLoop]
      split
      · next hretry =>
          obtain ⟨left, rfl⟩ : ∃ left, retries = left + 1 := ⟨retries - 1, by omega⟩
          refine spends_round (ih (by omega) hbytes) fun single => ?_
          simp only []
          split
          · exact .raise _
          · next hroom =>
              obtain ⟨room, rfl⟩ : ∃ room, bytes = room + 1 := ⟨bytes - 1, by omega⟩
              split
              · exact .ret _
              · refine ih hretries ?_
                rw [List.length_append, List.length_singleton]
                omega
      · exact .ret _

theorem spends_receiveData : Spends prices.of Connector.receiveData prices.loop :=
  (spends_receiveLoop LOOP_FUEL (Nat.zero_add _) (Nat.zero_add _)).bind_free fun _ => .ret _

theorem spends_getData (message : Bytes) :
    Spends prices.of (Connector.getData message) prices.exchange := by
  rw [← Nat.zero_add prices.exchange]
  refine Spends.bind (spends_mark _) fun _ => ?_
  refine Spends.bind spends_startCommunication fun _ => ?_
  refine Spends.bind (spends_establishRequest message) fun established => ?_
  have hreceive : Spends prices.of Connector.acknowledgeAndReceive
      (prices.message + prices.loop) :=
    Spends.handle (n := 0) (Spends.bind (spends_write _) fun _ => spends_receiveData)
      fun _ => .ret _
  refine Spends.bind_free ?_ fun reply => (spends_mark _).bind_free fun _ => .ret _
  split
  · exact .ret _
  · exact hreceive

theorem spends_setData (message : Bytes) :
    Spends prices.of (Connector.setData message) prices.exchange := by
  have htransmit : Spends prices.of (Connector.transmit message)
      (prices.start + (prices.handshake + prices.message)) := by
    refine Spends.handle (n := 0) ?_ fun _ => .ret _
    refine Spends.bind spends_startCommunication fun _ => ?_
    exact Spends.bind (spends_establishRequest message) fun _ =>
      (spends_write _).bind_free fun _ => .ret _
  have htotal : prices.exchange
      = 0 + (prices.start + (prices.handshake + prices.message) + prices.loop) := by
    rw [Prices.exchange]
    omega
  rw [htotal]
  refine Spends.bind (spends_mark _) fun _ => Spends.bind htransmit fun transmitted => ?_
  refine Spends.bind_free ?_ fun reply => (spends_mark _).bind_free fun _ => .ret _
  split
  · exact .ret _
  · exact spends_receiveData

/-! ## Reads and writes -/

theorem spends_restart : Spends prices.of restart prices.restart := by
  have hport : ∀ o : Option LinkError, Spends prices.of (Transport.checked o) 0 := by
    intro o
    cases o with
    | none => exact .ret ()
    | some e => exact .raise _
  have hclose : Spends prices.of Transport.closePort prices.closed :=
    Spends.ask fun a => ⟨0, Nat.le_refl _, hport a⟩
  have hopen : Spends prices.of Transport.openPort prices.opened :=
    Spends.ask fun a => ⟨0, Nat.le_refl _, hport a⟩
  exact Spends.bind hclose fun _ => Spends.bind (spends_sleep 500) fun _ => hopen

theorem spends_readAttempt (request : Request) :
    Spends prices.of (readAttempt waitingTime request)
      (match request.requestBytes2 with
        | .ok (some _) => prices.exchange + (prices.slept * waitingTime + prices.exchange)
        | _ => prices.exchange) := by
  rw [readAttempt]
  refine Spends.ofExcept_bind fun command _ => ?_
  have hfirst := @spends_getData prices (createRequestMessage command GET)
  cases request.requestBytes2 with
  | error e =>
      refine Spends.bind_free hfirst fun response => ?_
      split
      · exact .raise _
      · exact .raise _
  | ok command2 =>
      cases command2 with
      | none =>
          refine Spends.bind_free hfirst fun response => ?_
          split
          · exact .raise _
          · exact .ofExcept _
      | some command2 =>
          refine Spends.bind hfirst fun response => ?_
          split
          · exact .raise _
          · refine Spends.ofExcept_bind fun second hsecond => ?_
            cases hsecond
            refine Spends.bind (spends_sleep waitingTime) fun _ => ?_
            refine Spends.bind_free (spends_getData _) fun response2 => ?_
            split
            · exact .raise _
            · exact .ofExcept _

theorem spends_readRequest (request : Request) :
    Spends prices.of (readRequest waitingTime request) (prices.read waitingTime request) := by
  have hloop : ∀ (attempts : Nat) (lastError : Option String),
      Spends prices.of (readLoop waitingTime request attempts lastError)
        (attempts *
          ((match request.requestBytes2 with
            | .ok (some _) => prices.exchange + (prices.slept * waitingTime + prices.exchange)
            | _ => prices.exchange) + prices.restart)) := by
    intro attempts
    induction attempts with
    | zero => intro _; exact .raise _
    | succ attempts ih =>
        intro lastError
        rw [readLoop, Nat.succ_mul, Nat.add_comm, Nat.add_assoc]
        refine Spends.handle (spends_readAttempt request) fun exc => ?_
        split
        · exact Spends.bind spends_restart fun _ => ih _
        · exact .raise _
  exact hloop MAX_TRIES none

theorem spends_readRequests (requests : List Request) :
    Spends prices.of (readRequests waitingTime requests) (prices.sweep waitingTime requests) := by
  have hfrom : ∀ data, Spends prices.of (readRequestsFrom waitingTime requests data)
      (prices.sweep waitingTime requests) := by
    induction requests with
    | nil => intro _; exact .ret _
    | cons request rest ih =>
        intro data
        rw [readRequestsFrom]
        cases rest with
        | nil => exact (spends_readRequest request).bind_free fun _ => .ret _
        | cons next rest =>
            refine Spends.bind (spends_readRequest request) fun values => ?_
            simp only [if_neg (List.cons_ne_nil _ _)]
            exact Spends.bind (spends_sleep waitingTime) fun _ => ih _
  exact hfrom []

theorem spends_writeValues (items : List (DecodedValue × ChannelDefinition)) :
    Spends prices.of (writeValues waitingTime items) (prices.write waitingTime) := by
  cases items with
  | nil => exact .raise _
  | cons first items =>
      obtain ⟨v, record⟩ := first
      refine Spends.ofExcept_bind fun command _ => ?_
      refine Spends.bind (spends_getData _) fun readResponse => ?_
      split
      · exact .ret _
      · split
        · exact .raise _
        · refine Spends.ofExcept_bind fun update _ => ?_
          refine Spends.bind (spends_sleep waitingTime) fun _ => ?_
          refine Spends.bind_free (spends_setData _) fun setResponse => ?_
          split
          · exact .ofExcept _
          · split
            · exact Spends.ofExcept_bind fun _ _ => .raise _
            · exact .raise _

/-! ## The clock -/

theorem spends_setTimeViaRegisters (clockRecords : Dict String ChannelDefinition)
    (values : Dict String DecodedValue) (fields : List String) :
    ∀ written, Spends prices.of
      (setTimeViaRegisters waitingTime clockRecords values fields written)
      ((registerItems clockRecords values fields).length *
        (prices.write waitingTime + prices.slept * waitingTime)) := by
  induction fields with
  | nil => intro _; exact .ret _
  | cons field fields ih =>
      intro written
      rw [setTimeViaRegisters, registerItems, List.filterMap_cons]
      cases clockRecords.get? field with
      | none => exact ih written
      | some record =>
          cases values.get? field with
          | none => exact ih written
          | some value =>
              simp only [List.length_cons]
              rw [Nat.succ_mul, Nat.add_comm, Nat.add_assoc]
              exact Spends.bind (spends_writeValues _) fun result =>
                Spends.bind (spends_sleep waitingTime) fun _ => ih _

theorem spends_setTimeViaFrame (request : Request) (values : Dict String DecodedValue) :
    Spends prices.of (setTimeViaFrame waitingTime request values)
      (prices.write waitingTime + prices.slept * waitingTime) := by
  rw [setTimeViaFrame, Prices.write, Nat.add_assoc, Nat.add_assoc]
  refine Spends.ofExcept_bind fun command _ => ?_
  refine Spends.bind (spends_getData _) fun response => ?_
  split
  · exact .ret _
  · refine Spends.ofExcept_bind fun update _ => ?_
    refine Spends.bind (spends_sleep waitingTime) fun _ => ?_
    exact Spends.bind (spends_setData _) fun _ =>
      (spends_sleep waitingTime).bind_free fun _ => .ret _

theorem spends_readClock (readRequest : Option Request) :
    Spends prices.of (readClock readRequest)
      (match readRequest with
        | some _ => prices.exchange
        | none => 0) := by
  cases readRequest with
  | none => exact .ret _
  | some request =>
      refine Spends.ofExcept_bind fun command _ => ?_
      refine Spends.bind_free (spends_getData _) fun response => ?_
      split
      · exact .ofExcept _
      · exact .ret _

theorem spends_setTime (config : HeatPumpConfig) (now : DateTime) :
    Spends prices.of (HeatPumpService.setTime config waitingTime now)
      (prices.clock config waitingTime now) := by
  show Spends prices.of (setTime waitingTime now (config.requestByBytes "FC")
    (HeatPumpService.clockRecords config)) _
  have hreadback := @spends_readClock prices (config.requestByBytes "FC")
  rw [setTime.eq_def, Prices.clock]
  by_cases hregisters : HeatPumpService.clockRecords config ≠ []
  · simp only [if_pos hregisters]
    exact Spends.bind (spends_setTimeViaRegisters _ _ _ _) fun _ =>
      hreadback.bind_free fun _ => .ret _
  · simp only [if_neg hregisters]
    cases hfind : config.requestByBytes "FC" with
    | none => exact .ret _
    | some request =>
        rw [hfind] at hreadback
        exact Spends.bind (spends_setTimeViaFrame request _) fun _ =>
          hreadback.bind_free fun _ => .ret _

/-! ## Calls and requests -/

/-- What is prepared is what is paid for. -/
theorem spends_perform {α : Type} {prepared : Except Exc (Talk α)} {n : Nat}
    (h : ∀ conversation, prepared = .ok conversation → Spends prices.of conversation n) :
    Spends prices.of (HeatPumpService.perform prepared) n := by
  cases prepared with
  | error e => exact .raise _
  | ok conversation => exact h conversation rfl

theorem spends_call (config : HeatPumpConfig) (call : ServiceCall) :
    Spends prices.of (call.talk config waitingTime) (prices.call config waitingTime call) := by
  cases call with
  | readChannel channelId =>
      refine Spends.bind_free (spends_perform fun conversation h => ?_) fun _ => .ret _
      obtain ⟨record, _, hret⟩ := Fallible.bind_eq_ok.mp h
      cases hret
      rw [Prices.call]
      cases config.requestForChannel channelId with
      | none => exact .raise _
      | some request =>
          refine Spends.bind_free (spends_readRequest request) fun data => ?_
          split
          · exact .raise _
          · exact .ret _
  | readChannels channelIds =>
      refine Spends.bind_free (spends_perform fun conversation h => ?_) fun _ => .ret _
      rw [HeatPumpService.prepareReadChannels] at h
      split at h
      · cases h
      · cases h
        exact (spends_readRequests _).bind_free fun _ => .ret _
  | readAll dataTypes =>
      refine Spends.bind_free ?_ fun _ => .ret _
      exact (spends_readRequests _).bind_free fun _ => .ret _
  | getVersion =>
      refine Spends.bind_free (spends_perform fun conversation h => ?_) fun _ => .ret _
      rw [HeatPumpService.prepareGetVersion] at h
      rw [Prices.call]
      cases hfind : config.requestByBytes "FD" with
      | none =>
          rw [hfind] at h
          cases h
          exact .ret _
      | some request =>
          rw [hfind] at h
          cases h
          refine Spends.bind_free (spends_readRequest request) fun data => ?_
          split
          · exact .ret _
          · exact .ret _
  | setTime now => exact (spends_setTime config now).bind_free fun _ => .ret _
  | writeChannel channelId value =>
      refine Spends.bind_free (spends_perform fun conversation h => ?_) fun _ => .ret _
      obtain ⟨record, _, hrest⟩ := Fallible.bind_eq_ok.mp h
      split at hrest
      · cases hrest
      · obtain ⟨coerced, _, hret⟩ := Fallible.bind_eq_ok.mp hrest
        cases hret
        exact (spends_writeValues _).bind_free fun _ => .ret _

end costs

/-- What a request can come to: nothing without a call of the service. -/
def HttpRequest.price (prices : Prices) (app : App) (request : HttpRequest) : Nat :=
  match request.call with
  | some call => prices.call app.config app.waitingTime call
  | none => 0

/-- Whatever the device does, a request to the application comes to no more than its price. -/
theorem request_cost (prices : Prices) {app : App} {request : HttpRequest} {tr : Trace}
    {r : Except Exc Response} (h : Path (app.serve true request) tr r) :
    spent prices.of tr ≤ request.price prices app := by
  rw [HttpRequest.price]
  cases hcall : request.call with
  | none =>
      obtain ⟨rfl, _⟩ := served_plain hcall h
      exact Nat.zero_le _
  | some call =>
      obtain ⟨r', _, hpath, _⟩ := served_call hcall h
      exact spends_call app.config call tr r' hpath

/-- A `get` waits a second at most and a reader is joined for one. At these prices the line
may be busy for five hours with one channel, on a device that never stops answering. -/
theorem request_cost_acknowledging :
    spent (Prices.of ⟨1000, 1000, 0, 1, 0, 1000⟩)
      (trace acknowledging (roomTempApp.serve true (.readChannel "p01RoomTempDay")) ())
        ≤ 18562500 := by
  have hprice : (HttpRequest.readChannel "p01RoomTempDay").price ⟨1000, 1000, 0, 1, 0, 1000⟩
      roomTempApp = 18562500 := by
    decide +kernel
  rw [← hprice]
  exact request_cost _ (path_run _ _ _)

end HeatpumpGateway
