import HeatpumpGateway.Model.Connector

/-!
# The serial transport

`protocol/transport.py`: the transport of a real device. A thread of its own reads the port
one byte at a time into a queue, and `get` takes the bytes from there. The calls of the
transport come one at a time, as the service holds its lock around them; the reader threads
run beside them, and a call to `close` is taken apart where they can come in between.

A thread that does not end within the second that `close` waits for it is left to itself. It
looks at the fields of the transport, not at a port of its own, and so it may go on with the
next port.
-/

namespace HeatpumpGateway

/-- Where a thread is in `_read_loop`. -/
inductive ReaderPhase where
  | starting
  | checking
  | reading
  | holding (byte : UInt8)
  | resting
  | ended
  deriving DecidableEq, Repr

namespace ReaderPhase

/-- The next statement of a thread that neither gets a byte nor has one to put. The
assertion ends a thread that finds no port; in the loop the exception is caught. -/
def next (isOpen running : Bool) : ReaderPhase → Option ReaderPhase
  | starting => some (if isOpen then checking else ended)
  | checking =>
      if running then some (if isOpen then reading else resting)
      else some ended
  | reading => some resting
  | resting => some checking
  | holding _ => none
  | ended => none

/-- The byte that was read and is not in the queue yet. -/
def held : ReaderPhase → Option UInt8
  | holding byte => some byte
  | _ => none

def isLive (phase : ReaderPhase) : Bool := phase ≠ ended

end ReaderPhase

/-- Where the client is: between two calls, or in `close` before and after the `join`. -/
inductive ClientPhase where
  | ready
  | joining
  | closing
  deriving DecidableEq, Repr

/-- The fields of the object, with every thread it ever started. `isOpen` says whether
`_serial` is set, and `reader` which thread `_reader` is. -/
structure SerialTransport where
  isOpen : Bool := false
  queue : Bytes := []
  running : Bool := false
  threads : List ReaderPhase := []
  reader : Option Nat := none
  client : ClientPhase := .ready
  deriving DecidableEq, Repr

namespace SerialTransport

/-- What a step is to those outside: a call that returned, a byte that the port gave a
thread, a `join` that gave up, or nothing. -/
inductive Label where
  | call (ev : Dialogue.Event Op Op.Ans)
  | received (byte : UInt8)
  | timedOut
  | silent

def setThread (s : SerialTransport) (i : Nat) (phase : ReaderPhase) : SerialTransport :=
  { s with threads := s.threads.set i phase }

inductive Step : SerialTransport → Label → SerialTransport → Prop
  -- the threads
  | move {s : SerialTransport} {i : Nat} {phase phase' : ReaderPhase} :
      s.threads[i]? = some phase → phase.next s.isOpen s.running = some phase' →
      Step s .silent (s.setThread i phase')
  | read {s : SerialTransport} {i : Nat} (byte : UInt8) : s.threads[i]? = some .reading →
      Step s (.received byte) (s.setThread i (.holding byte))
  | put {s : SerialTransport} {i : Nat} {byte : UInt8} :
      s.threads[i]? = some (.holding byte) →
      Step s .silent { s.setThread i .checking with queue := s.queue ++ [byte] }
  -- `open`
  | opened {s : SerialTransport} : s.client = .ready →
      Step s (.call ⟨.openPort, none⟩) { s with
        isOpen := true, running := true, threads := s.threads ++ [.starting]
        reader := some s.threads.length }
  | openRefused {s : SerialTransport} (text : String) : s.client = .ready →
      Step s (.call ⟨.openPort, some (.os text)⟩) s
  -- `close`
  | stop {s : SerialTransport} : s.client = .ready →
      Step s .silent { s with running := false, client := .joining }
  | joined {s : SerialTransport} : s.client = .joining →
      (∀ i, s.reader = some i → s.threads[i]? = some .ended) →
      Step s .silent { s with reader := none, client := .closing }
  | gaveUp {s : SerialTransport} {i : Nat} {phase : ReaderPhase} : s.client = .joining →
      s.reader = some i → s.threads[i]? = some phase → phase ≠ .ended →
      Step s .timedOut { s with reader := none, client := .closing }
  | closed {s : SerialTransport} : s.client = .closing →
      Step s (.call ⟨.closePort, none⟩) { s with isOpen := false, client := .ready }
  | closeRefused {s : SerialTransport} (text : String) : s.client = .closing →
      s.isOpen = true →
      Step s (.call ⟨.closePort, some (.os text)⟩) { s with isOpen := false, client := .ready }
  -- `write`
  | written {s : SerialTransport} (data : Bytes) : s.client = .ready → s.isOpen = true →
      Step s (.call ⟨.write data, none⟩) s
  | writeRefused {s : SerialTransport} (data : Bytes) (text : String) : s.client = .ready →
      s.isOpen = true → Step s (.call ⟨.write data, some (.os text)⟩) s
  | notOpen {s : SerialTransport} (data : Bytes) : s.client = .ready → s.isOpen = false →
      Step s (.call ⟨.write data, some .notOpen⟩) s
  -- `get`
  | got {s : SerialTransport} {byte : UInt8} {queue : Bytes} : s.client = .ready →
      s.queue = byte :: queue → Step s (.call ⟨.get, some byte⟩) { s with queue := queue }
  | noData {s : SerialTransport} : s.client = .ready → s.queue = [] →
      Step s (.call ⟨.get, none⟩) s
  -- what is not the transport's
  | slept {s : SerialTransport} (milliseconds : Nat) : s.client = .ready →
      Step s (.call ⟨.sleep milliseconds, ()⟩) s
  | marked {s : SerialTransport} (m : Mark) : s.client = .ready →
      Step s (.call ⟨.mark m, ()⟩) s

/-- Steps one after another, with their labels. -/
inductive Execution : SerialTransport → List Label → SerialTransport → Prop
  | refl (s : SerialTransport) : Execution s [] s
  | step {s s' s'' : SerialTransport} {label : Label} {labels : List Label} :
      Execution s labels s' → Step s' label s'' → Execution s (labels ++ [label]) s''

/-- The calls that returned, with their answers. -/
def calls (labels : List Label) : Trace :=
  labels.filterMap fun
    | .call ev => some ev
    | _ => none

/-- The bytes the port gave. -/
def bytesRead (labels : List Label) : Bytes :=
  labels.filterMap fun
    | .received byte => some byte
    | _ => none

end SerialTransport

end HeatpumpGateway
