import HeatpumpGateway.Proofs.Sweep
import HeatpumpGateway.Proofs.Bits

/-!
# How long the link is listened to

The loops of the connector count timeouts, not bytes; on a line that is never silent it
is the buffer that ends them. The model's loops have a number of rounds to go and a list
for the buffer. Here they are written once more as the source has them, with every access
to the buffer checked and running out of rounds an error of its own, and shown to be the
same programs: no access is outside of the buffer, and the rounds never run out.

The rest counts. A loop hears at most five timeouts and the 1024 bytes of its buffer,
`exchange_bounded` has what follows for a request and for a whole read.
-/

namespace HeatpumpGateway

open Dialogue CommunicationService

variable {waitingTime : Nat} {request : Request}

/-! ## The loops with their accesses checked -/

/-- `buffer[index]`, refused also where it would count from the end. -/
def readAt (buffer : Bytes) (index : Int) : Except Exc UInt8 :=
  if 0 ≤ index then getItem buffer index else .error (.indexError "negative index")

/-- `buffer[index] = b`, likewise. -/
def writeAt (buffer : Bytes) (index : Int) (b : UInt8) : Except Exc Bytes :=
  if 0 ≤ index then setItem buffer index b else .error (.indexError "negative index")

def outOfRounds : Exc := .runtimeError "out of rounds"

/-- The loop of `is_frame_end`. -/
def escapesChecked (buffer : Bytes) : Nat → Int → Nat → Except Exc Nat
  | 0, _, _ => .error outOfRounds
  | fuel + 1, index, escapes =>
      if index ≥ 0 then do
        if (← readAt buffer index) = ESCAPE then
          escapesChecked buffer fuel (index - 1) (escapes + 1)
        else return escapes
      else return escapes

def isFrameEndChecked (fuel : Nat) (buffer : Bytes) (length : Nat) : Except Exc Bool :=
  if length < 2 then .ok false
  else do
    if (← readAt buffer ((length : Int) - 1)) ≠ END then return false
    else if (← readAt buffer ((length : Int) - 2)) ≠ ESCAPE then return false
    else
      let escapes ← escapesChecked buffer fuel ((length : Int) - 2) 0
      return escapes % 2 = 1

/-- Whether the buffer begins with the data-available signal. The second byte is looked
at where the first one fits. -/
def signalChecked (buffer : Bytes) : Except Exc Bool := do
  if (← readAt buffer 0) ≠ ESCAPE then return false
  else if (← readAt buffer 1) ≠ START_COMMUNICATION then return false
  else return true

def awaitChecked : Nat → Nat → Nat → Bytes → Talk (Bool × Bytes)
  | 0, _, _, _ => throw outOfRounds
  | fuel + 1, bufferRetry, numRead, buffer =>
      if bufferRetry < MAX_RETRY then do
        match ← Transport.get with
        | none => awaitChecked fuel (bufferRetry + 1) numRead buffer
        | some single =>
            if numRead ≥ buffer.length then
              throw (.protocolError
                ("Received too much data while waiting for the " ++
                  "data-available signal; giving up."))
            else do
              let buffer ← .ofExcept (writeAt buffer numRead single)
              if ← .ofExcept (signalChecked buffer) then return (true, buffer)
              else awaitChecked fuel bufferRetry (numRead + 1) buffer
      else return (false, buffer)

def establishLoopChecked (rounds : Nat) (requestMessage : Bytes) :
    Nat → Nat → Bytes → Talk Bool
  | 0, _, _ => throw outOfRounds
  | fuel + 1, requestRetry, buffer =>
      if requestRetry < MAX_RETRY then do
        Transport.write requestMessage
        let (available, buffer) ← awaitChecked rounds 0 0 buffer
        if available then return true
        else do
          Connector.startCommunication
          establishLoopChecked rounds requestMessage fuel (requestRetry + 1) buffer
      else return false

def establishChecked (rounds : Nat) (requestMessage : Bytes) : Talk Bool :=
  establishLoopChecked rounds requestMessage rounds 0 (List.replicate INPUT_BUFFER_LENGTH 0)

/-- The loop of `_receive_data` on its buffer, with the number of bytes read. -/
def receiveLoopChecked (rounds : Nat) : Nat → Nat → Nat → Bytes → Talk Bytes
  | 0, _, _, _ => throw outOfRounds
  | fuel + 1, retry, numRead, buffer =>
      if retry < MAX_RETRY then do
        match ← Transport.get with
        | none => receiveLoopChecked rounds fuel (retry + 1) numRead buffer
        | some single =>
            if numRead ≥ buffer.length then
              throw (.protocolError
                ("Received too much data while waiting for the end-of-frame footer; " ++
                  "giving up."))
            else do
              let buffer ← .ofExcept (writeAt buffer numRead single)
              let numRead := numRead + 1
              let ended ← (if numRead > 4 then .ofExcept (isFrameEndChecked rounds buffer numRead)
                else return false)
              if ended then return buffer.take numRead
              else receiveLoopChecked rounds fuel retry numRead buffer
      else return buffer.take numRead

def receiveChecked (rounds : Nat) : Talk Bytes := do
  let received ← receiveLoopChecked rounds rounds 0 0 (List.replicate INPUT_BUFFER_LENGTH 0)
  return fixDuplicatedBytes received

/-! ## They are the model's loops -/

theorem readAt_eq {buffer : Bytes} {k : Nat} (h : k < buffer.length) :
    readAt buffer (k : Int) = .ok buffer[k] := by
  rw [readAt, if_pos (Int.natCast_nonneg k), getItem_natCast, List.getElem?_eq_getElem h]
  rfl

theorem writeAt_eq {buffer : Bytes} {k : Nat} (b : UInt8) (h : k < buffer.length) :
    writeAt buffer (k : Int) b = .ok (buffer.set k b) := by
  rw [writeAt, if_pos (Int.natCast_nonneg k), setItem_eq b (inRange_natCast.mpr h),
    place_natCast]

theorem escapesChecked_eq {buffer : Bytes} (n : Nat) :
    ∀ {fuel escapes : Nat}, n ≤ buffer.length → n < fuel →
      escapesChecked buffer fuel ((n : Int) - 1) escapes
        = .ok (escapes + countEscapes buffer n) := by
  induction n with
  | zero =>
      intro fuel escapes _ hfuel
      obtain ⟨fuel, rfl⟩ : ∃ f, fuel = f + 1 := ⟨fuel - 1, by omega⟩
      rw [escapesChecked, if_neg (by omega)]
      rfl
  | succ n ih =>
      intro fuel escapes hlen hfuel
      obtain ⟨fuel, rfl⟩ : ∃ f, fuel = f + 1 := ⟨fuel - 1, by omega⟩
      have hlt : n < buffer.length := hlen
      have hindex : ((n + 1 : Nat) : Int) - 1 = n := by omega
      rw [escapesChecked, hindex, if_pos (by omega), readAt_eq hlt, countEscapes,
        List.getElem?_eq_getElem hlt]
      simp only [Fallible.ok_bind, Option.some.injEq]
      by_cases hb : buffer[n] = ESCAPE
      · rw [if_pos hb, if_pos hb, ih (by omega) (by omega)]
        congr 1
        omega
      · rw [if_neg hb, if_neg hb]
        rfl

theorem isFrameEndChecked_eq {rounds length : Nat} {buffer : Bytes}
    (hlen : length ≤ buffer.length) (hrounds : length ≤ rounds) :
    isFrameEndChecked rounds buffer length = .ok (isFrameEnd buffer length) := by
  rw [isFrameEndChecked, isFrameEnd]
  by_cases hshort : length < 2
  · rw [if_pos hshort, if_pos (.inl hshort)]
  · obtain ⟨n, rfl⟩ : ∃ n, length = n + 2 := ⟨length - 2, by omega⟩
    have hlast : n + 1 < buffer.length := hlen
    have hbefore : n < buffer.length := by omega
    have hend : ((n + 2 : Nat) : Int) - 1 = (n + 1 : Nat) := by omega
    have hescape : ((n + 2 : Nat) : Int) - 2 = n := by omega
    have hcount := @escapesChecked_eq buffer (n + 1) rounds 0 (by omega) (by omega)
    rw [show ((n + 1 : Nat) : Int) - 1 = n by omega, Nat.zero_add] at hcount
    rw [if_neg hshort, hend, hescape, readAt_eq hlast, readAt_eq hbefore, hcount,
      show n + 2 - 1 = n + 1 from rfl, show n + 2 - 2 = n from rfl,
      List.getElem?_eq_getElem hlast, List.getElem?_eq_getElem hbefore]
    simp only [Fallible.ok_bind, ne_eq, Option.some.injEq]
    by_cases h₁ : buffer[n + 1] = END
    · by_cases h₂ : buffer[n] = ESCAPE
      · simp [h₁, h₂, hshort]
      · simp [h₁, h₂]
    · simp [h₁]

theorem signalChecked_eq {buffer : Bytes} (h : 2 ≤ buffer.length) :
    signalChecked buffer = .ok (decide (buffer.take 2 = DATA_AVAILABLE)) := by
  obtain ⟨b₀, b₁, rest, rfl⟩ : ∃ b₀ b₁ rest, buffer = b₀ :: b₁ :: rest := by
    rcases buffer with _ | ⟨b₀, _ | ⟨b₁, rest⟩⟩
    · exact absurd h (by decide)
    · exact absurd h (by simp)
    · exact ⟨b₀, b₁, rest, rfl⟩
  have hfirst : readAt (b₀ :: b₁ :: rest) 0 = .ok b₀ :=
    readAt_eq (k := 0) (Nat.zero_lt_of_lt h)
  have hsecond : readAt (b₀ :: b₁ :: rest) 1 = .ok b₁ := readAt_eq (k := 1) h
  rw [signalChecked, hfirst, hsecond]
  simp only [Fallible.ok_bind, DATA_AVAILABLE, List.take_succ_cons, List.take_zero]
  by_cases h₁ : b₀ = ESCAPE
  · by_cases h₂ : b₁ = START_COMMUNICATION
    · simp [h₁, h₂]
    · simp [h₁, h₂]
  · simp [h₁]

/-- Each round costs a timeout or fills a byte of the buffer. -/
theorem awaitChecked_eq (fuel : Nat) :
    ∀ {fuel' bufferRetry numRead : Nat} {buffer : Bytes},
      buffer.length = INPUT_BUFFER_LENGTH → numRead ≤ INPUT_BUFFER_LENGTH →
      (MAX_RETRY - bufferRetry) + (INPUT_BUFFER_LENGTH - numRead) < fuel →
      (MAX_RETRY - bufferRetry) + (INPUT_BUFFER_LENGTH - numRead) < fuel' →
      awaitChecked fuel bufferRetry numRead buffer
        = Connector.awaitDataAvailable fuel' bufferRetry numRead buffer := by
  induction fuel with
  | zero => intro _ _ _ _ _ _ hfuel _; exact absurd hfuel (Nat.not_lt_zero _)
  | succ fuel ih =>
      intro fuel' bufferRetry numRead buffer hlen hnum hfuel hfuel'
      obtain ⟨fuel', rfl⟩ : ∃ f, fuel' = f + 1 := ⟨fuel' - 1, by omega⟩
      rw [awaitChecked, Connector.awaitDataAvailable]
      split
      · next hretry =>
          refine Path.bind_congr fun a _ _ => ?_
          cases a with
          | none => exact ih hlen hnum (by omega) (by omega)
          | some single =>
              simp only []
              split
              · rfl
              · next hroom =>
                  have hlen' : (buffer.set numRead single).length = INPUT_BUFFER_LENGTH := by
                    rw [List.length_set, hlen]
                  have htwo : 2 ≤ (buffer.set numRead single).length := by
                    rw [hlen']
                    decide
                  have hagain := @ih fuel' bufferRetry (numRead + 1) (buffer.set numRead single)
                    hlen' (by omega) (by omega) (by omega)
                  rw [writeAt_eq single (by omega), ofExcept_ok, ret_bind,
                    signalChecked_eq htwo, ofExcept_ok, ret_bind, hagain]
                  by_cases hsignal : (buffer.set numRead single).take 2 = DATA_AVAILABLE
                  · simp [hsignal]
                  · simp [hsignal]
      · rfl

theorem awaitDataAvailable_buffer (fuel : Nat) :
    ∀ {bufferRetry numRead : Nat} {buffer buffer' : Bytes} {available : Bool} {tr : Trace},
      Path (Connector.awaitDataAvailable fuel bufferRetry numRead buffer) tr
        (.ok (available, buffer')) → buffer'.length = buffer.length := by
  induction fuel with
  | zero =>
      intro _ _ _ _ _ _ h
      cases (Path.ret_iff.mp h).2
      rfl
  | succ fuel ih =>
      intro bufferRetry numRead buffer buffer' available tr h
      rw [Connector.awaitDataAvailable] at h
      split at h
      · rcases path_get.mp h with ⟨_ | single, tr', rfl, hrest⟩
        · exact ih hrest
        · simp only [] at hrest
          split at hrest
          · cases (Path.raise_iff.mp hrest).2
          · split at hrest
            · rw [ih hrest, List.length_set]
            · cases (Path.ret_iff.mp hrest).2
              exact List.length_set
      · cases (Path.ret_iff.mp h).2
        rfl

theorem establishLoopChecked_eq {rounds : Nat} (hrounds : LOOP_FUEL ≤ rounds) (message : Bytes)
    (tries : Nat) :
    ∀ {fuel requestRetry : Nat} {buffer : Bytes},
      buffer.length = INPUT_BUFFER_LENGTH → requestRetry + tries = MAX_RETRY → tries < fuel →
      establishLoopChecked rounds message fuel requestRetry buffer
        = Connector.establishLoop message tries buffer := by
  induction tries with
  | zero =>
      intro fuel requestRetry buffer _ hretry hfuel
      obtain ⟨fuel, rfl⟩ : ∃ f, fuel = f + 1 := ⟨fuel - 1, by omega⟩
      rw [establishLoopChecked, if_neg (by omega)]
      rfl
  | succ tries ih =>
      intro fuel requestRetry buffer hlen hretry hfuel
      obtain ⟨fuel, rfl⟩ : ∃ f, fuel = f + 1 := ⟨fuel - 1, by omega⟩
      rw [establishLoopChecked, if_pos (by omega), Connector.establishLoop,
        awaitChecked_eq rounds hlen (Nat.zero_le _) hrounds (Nat.lt_succ_self _)]
      refine Path.bind_congr fun _ _ _ => Path.bind_congr fun res _ hres => ?_
      obtain ⟨available, buffer'⟩ := res
      have hlen' : buffer'.length = INPUT_BUFFER_LENGTH :=
        (awaitDataAvailable_buffer _ hres).trans hlen
      simp only [ih hlen' (show requestRetry + 1 + tries = MAX_RETRY by omega)
        (Nat.lt_of_succ_lt_succ hfuel)]

theorem establishChecked_eq {rounds : Nat} (hrounds : LOOP_FUEL ≤ rounds) (message : Bytes) :
    establishChecked rounds message = Connector.establishRequest message :=
  establishLoopChecked_eq hrounds message MAX_RETRY List.length_replicate rfl
    (Nat.lt_of_lt_of_le (by decide) hrounds)

theorem take_set_succ {buffer : Bytes} {n : Nat} (b : UInt8) (h : n < buffer.length) :
    (buffer.set n b).take (n + 1) = buffer.take n ++ [b] := by
  have hlt : n < (buffer.set n b).length := by rwa [List.length_set]
  rw [List.take_succ_eq_append_getElem hlt, List.getElem_set_self,
    List.take_set_of_le (Nat.le_refl n)]

/-- A frame ends in the buffer where it ends in the bytes read into it. -/
theorem isFrameEnd_take {buffer : Bytes} {n : Nat} (h : n ≤ buffer.length) :
    isFrameEnd (buffer.take n) n = isFrameEnd buffer n := by
  have hn : n ≤ (buffer.take n).length := by rw [List.length_take]; omega
  rw [Bool.eq_iff_iff, isFrameEnd_iff hn, isFrameEnd_iff h, List.take_take, Nat.min_self]

theorem receiveLoopChecked_eq {rounds : Nat} (hrounds : LOOP_FUEL ≤ rounds) (fuel : Nat) :
    ∀ {fuel' retry numRead : Nat} {buffer : Bytes},
      buffer.length = INPUT_BUFFER_LENGTH → numRead ≤ INPUT_BUFFER_LENGTH →
      (MAX_RETRY - retry) + (INPUT_BUFFER_LENGTH - numRead) < fuel →
      (MAX_RETRY - retry) + (INPUT_BUFFER_LENGTH - numRead) < fuel' →
      receiveLoopChecked rounds fuel retry numRead buffer
        = Connector.receiveLoop fuel' retry (buffer.take numRead) := by
  induction fuel with
  | zero => intro _ _ _ _ _ _ hfuel _; exact absurd hfuel (Nat.not_lt_zero _)
  | succ fuel ih =>
      intro fuel' retry numRead buffer hlen hnum hfuel hfuel'
      obtain ⟨fuel', rfl⟩ : ∃ f, fuel' = f + 1 := ⟨fuel' - 1, by omega⟩
      have htake : (buffer.take numRead).length = numRead := by
        rw [List.length_take]
        omega
      rw [receiveLoopChecked, Connector.receiveLoop, htake, hlen]
      split
      · next hretry =>
          refine Path.bind_congr fun a _ _ => ?_
          cases a with
          | none => exact ih hlen hnum (by omega) (by omega)
          | some single =>
              simp only []
              split
              · rfl
              · next hroom =>
                  have hlen' : (buffer.set numRead single).length = INPUT_BUFFER_LENGTH := by
                    rw [List.length_set, hlen]
                  have hread : (buffer.take numRead ++ [single]).length = numRead + 1 := by
                    rw [List.length_append, htake, List.length_singleton]
                  have htake' := take_set_succ single (show numRead < buffer.length by omega)
                  have hend : isFrameEnd (buffer.take numRead ++ [single]) (numRead + 1)
                      = isFrameEnd (buffer.set numRead single) (numRead + 1) := by
                    rw [← htake', isFrameEnd_take (by omega)]
                  have hagain := @ih fuel' retry (numRead + 1) (buffer.set numRead single)
                    hlen' (by omega) (by omega) (by omega)
                  have hfits : numRead + 1 ≤ rounds := by
                    unfold LOOP_FUEL at hrounds
                    omega
                  rw [htake'] at hagain
                  rw [writeAt_eq single (by omega), ofExcept_ok, ret_bind,
                    isFrameEndChecked_eq (by omega) hfits, hagain, hread, hend, htake']
                  by_cases hlong : numRead + 1 > 4
                  · simp [hlong]
                  · simp [hlong]
      · rfl

theorem receiveChecked_eq {rounds : Nat} (hrounds : LOOP_FUEL ≤ rounds) :
    receiveChecked rounds = Connector.receiveData := by
  rw [receiveChecked, Connector.receiveData,
    receiveLoopChecked_eq hrounds rounds List.length_replicate (Nat.zero_le _) hrounds
      (Nat.lt_succ_self _)]
  rfl

/-! ## How often a byte is asked for -/

def isGet : Exchange → Bool
  | ⟨.get, _⟩ => true
  | _ => false

/-- The message is sent, whether or not the transport takes it. -/
def isSent (message : Bytes) : Exchange → Bool
  | ⟨.write data, _⟩ => data = message
  | _ => false

theorem atMost_write {P : Exchange → Bool} {n : Nat} {data : Bytes}
    (h : ∀ a, (P ⟨.write data, a⟩).toNat ≤ n) : AtMost P (Transport.write data) n := by
  intro a
  refine ⟨0, h a, ?_⟩
  cases a with
  | none => trivial
  | some e => trivial

theorem atMost_get {P : Exchange → Bool} {n : Nat} (h : ∀ a, (P ⟨.get, a⟩).toNat ≤ n) :
    AtMost P Transport.get n :=
  fun a => ⟨0, h a, trivial⟩

/-- What the parts of a handshake cost in exchanges of a kind. -/
structure Costs (message : Bytes) (P : Exchange → Bool) (start request get : Nat) : Prop where
  start : ∀ a, (P ⟨.write [START_COMMUNICATION], a⟩).toNat ≤ start
  request : ∀ a, (P ⟨.write message, a⟩).toNat ≤ request
  get : ∀ a, (P ⟨.get, a⟩).toNat ≤ get

namespace Costs
variable {message : Bytes} {P : Exchange → Bool} {start request get : Nat}
  (c : Costs message P start request get)
include c

theorem startCommunication : AtMost P Connector.startCommunication (start + get) := by
  refine AtMost.bind (atMost_write c.start) fun _ => ?_
  refine (AtMost.bind (n := 0) (atMost_get c.get) fun a => ?_).mono (Nat.le_refl _)
  cases a with
  | none => trivial
  | some b =>
      simp only []
      split
      · trivial
      · trivial

/-- One more round, on a budget of so many. -/
theorem round {α : Type} {m : Nat} {f : Option UInt8 → Talk α}
    (h : ∀ a, AtMost P (f a) (m * get)) : AtMost P (Transport.get >>= f) ((m + 1) * get) := by
  refine (AtMost.bind (atMost_get c.get) h).mono (Nat.le_of_eq ?_)
  rw [Nat.succ_mul, Nat.add_comm]

theorem awaitDataAvailable (fuel : Nat) :
    ∀ {bufferRetry numRead : Nat} {buffer : Bytes},
      buffer.length = INPUT_BUFFER_LENGTH → numRead ≤ INPUT_BUFFER_LENGTH →
      AtMost P (Connector.awaitDataAvailable fuel bufferRetry numRead buffer)
        (((MAX_RETRY - bufferRetry) + (INPUT_BUFFER_LENGTH - numRead)) * get) := by
  induction fuel with
  | zero => intro _ _ _ _ _; trivial
  | succ fuel ih =>
      intro bufferRetry numRead buffer hlen hnum
      rw [Connector.awaitDataAvailable]
      split
      · next hretry =>
          obtain ⟨m, hm⟩ : ∃ m,
              (MAX_RETRY - bufferRetry) + (INPUT_BUFFER_LENGTH - numRead) = m + 1 :=
            ⟨(MAX_RETRY - (bufferRetry + 1)) + (INPUT_BUFFER_LENGTH - numRead), by omega⟩
          rw [hm]
          refine c.round fun a => ?_
          cases a with
          | none =>
              have htimeout := @ih (bufferRetry + 1) numRead buffer hlen hnum
              rwa [show (MAX_RETRY - (bufferRetry + 1)) + (INPUT_BUFFER_LENGTH - numRead) = m
                by omega] at htimeout
          | some single =>
              simp only []
              split
              · trivial
              · next hroom =>
                  split
                  · have hbyte := @ih bufferRetry (numRead + 1) (buffer.set numRead single)
                      (by rw [List.length_set, hlen]) (by omega)
                    rwa [show (MAX_RETRY - bufferRetry) + (INPUT_BUFFER_LENGTH - (numRead + 1))
                      = m by omega] at hbyte
                  · trivial
      · trivial

theorem establishLoop (tries : Nat) :
    ∀ {buffer : Bytes}, buffer.length = INPUT_BUFFER_LENGTH →
      AtMost P (Connector.establishLoop message tries buffer)
        (tries * (request + ((MAX_RETRY + INPUT_BUFFER_LENGTH) * get + (start + get)))) := by
  induction tries with
  | zero => intro _ _; trivial
  | succ tries ih =>
      intro buffer hlen
      rw [Connector.establishLoop, Nat.succ_mul, Nat.add_comm, Nat.add_assoc, Nat.add_assoc]
      refine AtMost.bind (atMost_write c.request) fun _ => ?_
      refine AtMost.bind_path (c.awaitDataAvailable LOOP_FUEL hlen (Nat.zero_le _)) ?_
      intro res tr hres
      obtain ⟨available, buffer'⟩ := res
      cases available with
      | true => trivial
      | false =>
          exact AtMost.bind c.startCommunication fun _ =>
            ih ((awaitDataAvailable_buffer _ hres).trans hlen)

theorem establishRequest :
    AtMost P (Connector.establishRequest message)
      (MAX_RETRY * (request + ((MAX_RETRY + INPUT_BUFFER_LENGTH) * get + (start + get)))) :=
  c.establishLoop MAX_RETRY List.length_replicate

theorem receiveLoop (fuel : Nat) :
    ∀ {retry : Nat} {buffer : Bytes}, buffer.length ≤ INPUT_BUFFER_LENGTH →
      AtMost P (Connector.receiveLoop fuel retry buffer)
        (((MAX_RETRY - retry) + (INPUT_BUFFER_LENGTH - buffer.length)) * get) := by
  induction fuel with
  | zero => intro _ _ _; trivial
  | succ fuel ih =>
      intro retry buffer hlen
      rw [Connector.receiveLoop]
      split
      · next hretry =>
          obtain ⟨m, hm⟩ : ∃ m,
              (MAX_RETRY - retry) + (INPUT_BUFFER_LENGTH - buffer.length) = m + 1 :=
            ⟨(MAX_RETRY - (retry + 1)) + (INPUT_BUFFER_LENGTH - buffer.length), by omega⟩
          rw [hm]
          refine c.round fun a => ?_
          cases a with
          | none =>
              have htimeout := @ih (retry + 1) buffer hlen
              rwa [show (MAX_RETRY - (retry + 1)) + (INPUT_BUFFER_LENGTH - buffer.length) = m
                by omega] at htimeout
          | some single =>
              simp only []
              split
              · trivial
              · next hroom =>
                  have hlen' : (buffer ++ [single]).length = buffer.length + 1 := by
                    rw [List.length_append, List.length_singleton]
                  split
                  · trivial
                  · have hbyte := @ih retry (buffer ++ [single]) (by omega)
                    rwa [show (MAX_RETRY - retry)
                        + (INPUT_BUFFER_LENGTH - (buffer ++ [single]).length) = m
                      by omega] at hbyte
      · trivial

theorem receiveData :
    AtMost P Connector.receiveData ((MAX_RETRY + INPUT_BUFFER_LENGTH) * get) := by
  refine (AtMost.bind (n := 0) (c.receiveLoop LOOP_FUEL (Nat.zero_le _)) fun _ => ?_)
  trivial

end Costs

theorem costs_isGet (message : Bytes) : Costs message isGet 0 0 1 :=
  ⟨fun _ => Nat.le_refl 0, fun _ => Nat.le_refl 0, fun _ => Nat.le_refl 1⟩

theorem costs_isSent {message : Bytes} (h : message ≠ [START_COMMUNICATION]) :
    Costs message (isSent message) 0 1 0 := by
  refine ⟨fun _ => ?_, fun _ => Bool.toNat_le _, fun _ => Nat.le_refl 0⟩
  rw [isSent, decide_eq_false h.symm]
  exact Nat.le_refl 0

/-! ## How an exchange and a read end -/

/-- In a result or in a `ProtocolError`. -/
def Concludes {α : Type} (r : Except Exc α) : Prop :=
  ∀ e, r = .error e → e.isProtocolError = true

theorem Wary.concludes {α : Type} {p : Talk α} (h : Wary p) {tr : Trace}
    {r : Except Exc α} (htr : Obliging tr) (hp : Path p tr r) : Concludes r := by
  rintro e rfl
  exact (h.error_iff hp).mpr htr.refusedLast

theorem receiveData_concludes {tr : Trace} {r : Except Exc Bytes}
    (h : Path Connector.receiveData tr r) : Concludes r := by
  rintro e rfl
  obtain ⟨_, _, ⟨he, _⟩ | ⟨⟨text, he⟩, _⟩⟩ := receiveData_path h
  · cases he
  · cases he
    rfl

/-- A port that opens and closes is restarted. -/
theorem restart_obliging {tr : Trace} {r : Except Exc Unit} (htr : Obliging tr)
    (h : Path restart tr r) : r = .ok () := by
  rw [restart, Transport.closePort, ask_bind, Path.ask_iff] at h
  obtain ⟨closed, tr, rfl, h⟩ := h
  have hclosed : closed = none := htr ⟨.closePort, closed⟩ List.mem_cons_self
  rw [hclosed] at h
  obtain ⟨tr, rfl, hopen⟩ := path_sleep.mp h
  rw [Transport.openPort, Path.ask_iff] at hopen
  obtain ⟨opened, tr, rfl, hopen⟩ := hopen
  have hopened : opened = none := htr ⟨.openPort, opened⟩ (by simp)
  rw [hopened] at hopen
  exact (Path.ret_iff.mp hopen).2

/-- A read in so many attempts: each one that fails is followed by a restart, and the
read ends with the values of one or in the error after the last. -/
inductive Attempts (waitingTime : Nat) (request : Request) :
    Nat → Trace → Except Exc (Dict String DecodedValue) → Prop
  | given_up (text : String) : Attempts waitingTime request 0 [] (.error (.protocolError text))
  | succeeded {tr : Trace} {values : Dict String DecodedValue} :
      Path (readAttempt waitingTime request) tr (.ok values) →
      Attempts waitingTime request 1 tr (.ok values)
  | failed {n : Nat} {tr tr' tr'' : Trace} {e : Exc}
      {r : Except Exc (Dict String DecodedValue)} :
      Path (readAttempt waitingTime request) tr (.error e) → e.isProtocolError = true →
      Path restart tr' (.ok ()) → Attempts waitingTime request n tr'' r →
      Attempts waitingTime request (n + 1) (tr ++ tr' ++ tr'') r

theorem readLoop_attempts {commands : List Bytes}
    (hcommands : requestCommands request = .ok commands) (attempts : Nat) :
    ∀ {lastError : Option String} {tr : Trace} {r : Except Exc (Dict String DecodedValue)},
      Obliging tr → Path (readLoop waitingTime request attempts lastError) tr r →
      ∃ n ≤ attempts, Attempts waitingTime request n tr r := by
  induction attempts with
  | zero =>
      intro lastError tr r _ h
      obtain ⟨rfl, rfl⟩ := Path.raise_iff.mp h
      exact ⟨0, Nat.le_refl 0, .given_up _⟩
  | succ attempts ih =>
      intro lastError tr r htr h
      rw [readLoop] at h
      rcases Path.handle_iff.mp h with ⟨values, rfl, hp⟩ | ⟨e, tr₁, tr₂, rfl, hp, hrest⟩
      · exact ⟨1, by omega, .succeeded hp⟩
      · obtain ⟨htr₁, htr₂⟩ := Obliging.append_iff.mp htr
        have he : e.isProtocolError = true :=
          (Wary.readAttempt hcommands).concludes htr₁ hp e rfl
        rw [if_pos he] at hrest
        rcases Path.bind_iff.mp hrest with ⟨e', _, hre⟩ | ⟨_, tr₂, tr₃, rfl, hre, hloop⟩
        · cases restart_obliging htr₂ hre
        · obtain ⟨n, hn, hmade⟩ := ih (Obliging.append_iff.mp htr₂).2 hloop
          rw [← List.append_assoc]
          exact ⟨n + 1, by omega, .failed hp he hre hmade⟩

/-- On a link that refuses nothing and may deliver or not deliver whatever it likes, the
two loops stop within their buffer and their rounds, and a read within three attempts. -/
theorem exchange_bounded {rounds : Nat} (hrounds : LOOP_FUEL ≤ rounds) (message : Bytes)
    (waitingTime : Nat) {request : Request} {commands : List Bytes}
    (hcommands : requestCommands request = .ok commands) :
    (establishChecked rounds message = Connector.establishRequest message ∧
      receiveChecked rounds = Connector.receiveData) ∧
    (∀ tr r, Obliging tr → Path (establishChecked rounds message) tr r →
      Concludes r ∧ tr.countP isGet ≤ 5 * 1029 + 5 ∧
        (message ≠ [START_COMMUNICATION] → tr.countP (isSent message) ≤ 5)) ∧
    (∀ tr r, Obliging tr → Path (receiveChecked rounds) tr r →
      Concludes r ∧ tr.countP isGet ≤ 1029) ∧
    ∀ tr r, Obliging tr → Path (readRequest waitingTime request) tr r →
      Concludes r ∧ ∃ n ≤ 3, Attempts waitingTime request n tr r := by
  rw [establishChecked_eq hrounds, receiveChecked_eq hrounds]
  refine ⟨⟨rfl, rfl⟩, ?_, ?_, ?_⟩
  · intro tr r htr h
    refine ⟨(Wary.establishLoop message _ _).concludes htr h, ?_, ?_⟩
    · exact (costs_isGet message).establishRequest.path h
    · intro hmessage
      exact (costs_isSent hmessage).establishRequest.path h
  · intro tr r _ h
    exact ⟨receiveData_concludes h, (costs_isGet []).receiveData.path h⟩
  · intro tr r htr h
    exact ⟨(Wary.readRequest hcommands).concludes htr h, readLoop_attempts hcommands 3 htr h⟩

/-- A device that acknowledges every start and then sends nothing but acknowledges. -/
def acknowledging : Environment Op Op.Ans Unit
  | .get, s => (some ESCAPE, s)
  | .write _, s => (none, s)
  | .openPort, s => (none, s)
  | .closePort, s => (none, s)
  | .sleep _, s => ((), s)
  | .mark _, s => ((), s)

theorem acknowledging_obliging {α : Type} (p : Talk α) : Obliging (trace acknowledging p ()) := by
  induction p with
  | ret a => intro ev hev; cases hev
  | raise e => intro ev hev; cases hev
  | ask o k ih =>
      intro ev hev
      rcases List.mem_cons.mp hev with rfl | hev
      · cases o <;> rfl
      · exact ih _ ev hev

theorem exchange_bounded_acknowledging :
    Concludes (run acknowledging (establishChecked LOOP_FUEL [0x01, 0x00, 0xFC, 0xFB]) ()).1 ∧
      Concludes (run acknowledging (receiveChecked LOOP_FUEL) ()).1 ∧
      Concludes (run acknowledging (readRequest 0 heatingRequest) ()).1 ∧
      ∃ n ≤ 3, Attempts 0 heatingRequest n (trace acknowledging (readRequest 0 heatingRequest) ())
        (run acknowledging (readRequest 0 heatingRequest) ()).1 := by
  have hcommands : requestCommands heatingRequest = .ok [[0x0B, 0x00, 0x05]] := by
    decide +kernel
  obtain ⟨_, hestablish, hreceive, hread⟩ :=
    exchange_bounded (Nat.le_refl LOOP_FUEL) [0x01, 0x00, 0xFC, 0xFB] 0 hcommands
  refine ⟨?_, ?_, ?_⟩
  · exact (hestablish _ _ (acknowledging_obliging _) (path_run _ _ _)).1
  · exact (hreceive _ _ (acknowledging_obliging _) (path_run _ _ _)).1
  · exact hread _ _ (acknowledging_obliging _) (path_run _ _ _)

end HeatpumpGateway
