import HeatpumpGateway.Lib.Dialogue
import HeatpumpGateway.Model.Parser

/-!
# The link and the handshake

`protocol/transport.py` as a set of requests to an environment, and
`protocol/connector.py` as programs over them. A transport may refuse to open,
close or write with an error of the operating system or a port that is not
open; `get` answers a byte or that none came in time.

The requests also carry marks: what the two public methods of the connector
were handed and what they returned. Nothing depends on their answers; they are
there so that a statement about a run can name these frames.
-/

namespace HeatpumpGateway

/-- What `open`, `close` and `write` of a transport may raise. -/
inductive LinkError where
  | os (text : String)
  | notOpen
  deriving DecidableEq, Repr

def LinkError.toExc : LinkError → Exc
  | os text => .osError text
  | notOpen => .runtimeError "serial port is not open"

/-- Calls and returns of the connector's public methods. -/
inductive Mark where
  | getData (message : Bytes)
  | gotData (reply : Bytes)
  | setData (message : Bytes)
  | didSet (reply : Bytes)
  deriving DecidableEq, Repr

/-- The requests of the protocol stack to its surroundings. -/
inductive Op where
  | openPort
  | closePort
  | write (data : Bytes)
  | get
  | sleep (milliseconds : Nat)
  | mark (m : Mark)
  deriving DecidableEq, Repr

/-- `none` is success for a command and a timeout (`NoDataAvailable`) for `get`. -/
abbrev Op.Ans : Op → Type
  | openPort => Option LinkError
  | closePort => Option LinkError
  | write _ => Option LinkError
  | get => Option UInt8
  | sleep _ => Unit
  | mark _ => Unit

abbrev Talk (α : Type) := Dialogue Op Op.Ans Exc α

abbrev Trace := List (Dialogue.Event Op Op.Ans)

namespace Transport

/-- Go on after a command that the transport may refuse. -/
def checked : Option LinkError → Talk Unit
  | none => .ret ()
  | some e => .raise e.toExc

def openPort : Talk Unit := .ask .openPort checked
def closePort : Talk Unit := .ask .closePort checked
def write (data : Bytes) : Talk Unit := .ask (.write data) checked
def get : Talk (Option UInt8) := .ask .get .ret

end Transport

/-- Whether `_serial` is set after a call that was answered so; `none` where a
`SerialTransport` does not answer so. A port that is not open refuses to write and is closed
without fail, and one that fails to close is not open any more. -/
def SerialTransport.after (isOpen : Bool) : Dialogue.Event Op Op.Ans → Option Bool
  | ⟨.openPort, none⟩ => some true
  | ⟨.openPort, some _⟩ => some isOpen
  | ⟨.closePort, none⟩ => some false
  | ⟨.closePort, some _⟩ => if isOpen then some false else none
  | ⟨.write _, some .notOpen⟩ => if isOpen then none else some false
  | ⟨.write _, _⟩ => if isOpen then some true else none
  | _ => some isOpen

def sleep (milliseconds : Nat) : Talk Unit := .ask (.sleep milliseconds) .ret
def mark (m : Mark) : Talk Unit := .ask (.mark m) .ret

def MAX_RETRY : Nat := 5
def INPUT_BUFFER_LENGTH : Nat := 1024

/-- Enough rounds for a loop that counts timeouts up to `MAX_RETRY` and bytes up
to one more than the buffer holds. -/
def LOOP_FUEL : Nat := MAX_RETRY + INPUT_BUFFER_LENGTH + 1

namespace Connector

def connect : Talk Unit := Transport.openPort
def disconnect : Talk Unit := Transport.closePort

def startCommunication : Talk Unit := do
  Transport.write [START_COMMUNICATION]
  match ← Transport.get with
  | none =>
      throw (.protocolError
        "Heat pump communication could not be established! No data available!")
  | some response =>
      if response ≠ ESCAPE then
        throw (.protocolError
          ("Heat pump is communicating, but did not receive Escape message in " ++
            "initial handshake. Received: " ++ bytesToHex [response]))
      else return ()

/-- The inner loop of `_establish_request`: wait for `10 02` at the front of the
buffer. The buffer is handed on, as the next try finds this try's bytes in it. -/
def awaitDataAvailable : Nat → Nat → Nat → Bytes → Talk (Bool × Bytes)
  | 0, _, _, buffer => return (false, buffer)
  | fuel + 1, bufferRetry, numRead, buffer =>
      if bufferRetry < MAX_RETRY then do
        match ← Transport.get with
        | none => awaitDataAvailable fuel (bufferRetry + 1) numRead buffer
        | some single =>
            if numRead ≥ buffer.length then
              throw (.protocolError
                ("Received too much data while waiting for the " ++
                  "data-available signal; giving up."))
            else
              let buffer := buffer.set numRead single
              if buffer.take 2 ≠ DATA_AVAILABLE then
                awaitDataAvailable fuel bufferRetry (numRead + 1) buffer
              else return (true, buffer)
      else return (false, buffer)

/-- The outer loop, counting the tries that are left. -/
def establishLoop (requestMessage : Bytes) : Nat → Bytes → Talk Bool
  | 0, _ => return false
  | tries + 1, buffer => do
      Transport.write requestMessage
      let (available, buffer) ← awaitDataAvailable LOOP_FUEL 0 0 buffer
      if available then return true
      else do
        startCommunication
        establishLoop requestMessage tries buffer

def establishRequest (requestMessage : Bytes) : Talk Bool :=
  establishLoop requestMessage MAX_RETRY (List.replicate INPUT_BUFFER_LENGTH 0)

/-- The loop of `_receive_data`, on the bytes received so far. -/
def receiveLoop : Nat → Nat → Bytes → Talk Bytes
  | 0, _, buffer => return buffer
  | fuel + 1, retry, buffer =>
      if retry < MAX_RETRY then do
        match ← Transport.get with
        | none => receiveLoop fuel (retry + 1) buffer
        | some single =>
            if buffer.length ≥ INPUT_BUFFER_LENGTH then
              throw (.protocolError
                ("Received too much data while waiting for the end-of-frame footer; " ++
                  "giving up."))
            else
              let buffer := buffer ++ [single]
              if buffer.length > 4 ∧ isFrameEnd buffer buffer.length then return buffer
              else receiveLoop fuel retry buffer
      else return buffer

def receiveData : Talk Bytes := do
  let buffer ← receiveLoop LOOP_FUEL 0 []
  return fixDuplicatedBytes buffer

/-- The guarded end of `get_data`: whatever goes wrong here is no data. -/
def acknowledgeAndReceive : Talk Bytes :=
  Dialogue.handle
    (do
      Transport.write [ESCAPE]
      receiveData)
    fun _ => return []

def getData (requestMessage : Bytes) : Talk Bytes := do
  mark (.getData requestMessage)
  startCommunication
  let established ← establishRequest requestMessage
  let reply ← (if !established then pure [] else acknowledgeAndReceive)
  mark (.gotData reply)
  return reply

/-- The guarded part of `set_data`; `false` when anything went wrong in it. The
verdict of `_establish_request` is not looked at. -/
def transmit (requestMessage : Bytes) : Talk Bool :=
  Dialogue.handle
    (do
      startCommunication
      let _ ← establishRequest requestMessage
      Transport.write [ESCAPE]
      return true)
    fun _ => return false

def setData (requestMessage : Bytes) : Talk Bytes := do
  mark (.setData requestMessage)
  let transmitted ← transmit requestMessage
  let reply ← (if !transmitted then pure [] else receiveData)
  mark (.didSet reply)
  return reply

end Connector

end HeatpumpGateway
