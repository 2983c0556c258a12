import HeatpumpGateway.Model.Connector
import HeatpumpGateway.Model.Config

/-!
# The simulator

`simulator.py` and the in-memory transport that drives it: a device that keeps a
response frame for each command and answers the handshake byte by byte.
-/

namespace HeatpumpGateway

/-- A command key of the simulator: hexadecimal text with the bytes it stands for. -/
structure Command where
  text : String
  bytes : Bytes
  hex : fromHex text = .ok bytes
  deriving DecidableEq

/-- Text as a command, if it is hexadecimal. -/
def Command.parse (text : String) : Except Exc Command :=
  match h : fromHex text with
  | .ok bytes => .ok ⟨text, bytes, h⟩
  | .error e => .error e

inductive SimulatorState where
  | idle
  | collecting
  | awaitAck
  deriving DecidableEq, Repr

structure HeatPumpSimulator where
  config : HeatPumpConfig
  store : Dict String Bytes := []
  commandToRequest : Dict Command Request := []
  state : SimulatorState := .idle
  frameBuffer : Bytes := []
  pending : Bytes := []

namespace HeatPumpSimulator

/-- `max((r.position + r.length for r in records), default=5)`. -/
def dataEnd (records : List ChannelDefinition) : Int :=
  ((records.map fun r => r.position + r.length).max?).getD 5

def buildFrame (request : Request) (commandBytes : Bytes) : Except Exc Bytes := do
  let size := dataEnd request.records + 2
  if size < 0 then .error (.valueError "negative count")
  else do
    let frame : Bytes := List.replicate size.toNat 0
    let frame ← setItem frame 0 HEADER_START
    let frame ← setItem frame 1 GET
    let frame := frame.take 3 ++ commandBytes ++ frame.drop (3 + commandBytes.length)
    let frame ← setItem frame (-2) ESCAPE
    let frame ← setItem frame (-1) END
    setItem frame 2 (← calculateChecksum frame)

/-- The seed path's copy of the encoder. -/
def encode (frame : Bytes) (record : ChannelDefinition) (value : DecodedValue) :
    Except Exc Bytes :=
  match value with
  | .bool b =>
      if record.bitPosition > 0 then do
        let old ← getItem frame record.position
        setItem frame record.position (setBit old record.bitPosition b)
      else setItem frame record.position (if b then 1 else 0)
  | value => do
      let shortValue ← rawOf value record
      writeShort shortValue frame record

/-- `frame[1] = GET` and a fresh checksum. -/
def finishFrame (frame : Bytes) : Except Exc Bytes := do
  let frame ← setItem frame 1 GET
  setItem frame 2 (← calculateChecksum frame)

/-- `int(value)` of a seed. -/
def seedInt (value : DecodedValue) : Except Exc Int :=
  match value with
  | .bool b => .ok (if b then 1 else 0)
  | .int n => .ok n
  | .float x => x.toInt

def frameOf (sim : HeatPumpSimulator) (text : String) : Bytes :=
  (sim.store.get? text).getD []

def setValue (sim : HeatPumpSimulator) (channelId : String) (value : DecodedValue) :
    Except Exc HeatPumpSimulator :=
  match sim.config.channel channelId, sim.config.requestForChannel channelId with
  | some record, some request =>
      let single : Except Exc HeatPumpSimulator := do
        let frame ← encode (sim.frameOf request.requestByte) record value
        return { sim with store := sim.store.set request.requestByte (← finishFrame frame) }
      match request.requestByte2, value with
      | some second, .bool _ => if second = "" then single else single
      | some second, value =>
          if second = "" then single
          else do
            let n ← seedInt value
            let frame ← encode (sim.frameOf request.requestByte) record (.int (n % 1000))
            let store := sim.store.set request.requestByte frame
            let frame2 ← encode ((store.get? second).getD []) record (.int (n / 1000))
            let store := store.set second (← finishFrame frame2)
            let frame := (store.get? request.requestByte).getD []
            return { sim with store := store.set request.requestByte (← finishFrame frame) }
      | none, _ => single
  | _, _ => .ok sim

/-- One round of the constructor's loop over the requests. -/
def addRequest (sim : HeatPumpSimulator) (request : Request) :
    Except Exc HeatPumpSimulator := do
  let command ← Command.parse request.requestByte
  let frame ← buildFrame request command.bytes
  let sim := { sim with
    store := sim.store.set request.requestByte frame
    commandToRequest := sim.commandToRequest.set command request }
  match request.requestByte2 with
  | none => return sim
  | some second =>
      if second = "" then return sim
      else do
        let command2 ← Command.parse second
        let frame2 ← buildFrame request command2.bytes
        return { sim with
          store := sim.store.set second frame2
          commandToRequest := sim.commandToRequest.set command2 request }

/-- The version a configuration's name ends in, such as `LWZ_THZ504_7_59`. -/
def defaultVersion (config : HeatPumpConfig) : Except Exc PyFloat :=
  let parts := (config.name.toList.map fun c => if c = '-' then '_' else c).splitOn '_'
  let digits := parts.filter fun part => part ≠ [] && part.all isDigit
  match digits.reverse with
  | last :: previous :: _ => floatOfStr (String.ofList (previous ++ '.' :: last))
  | _ => .ok (.ofRat (759 / 100))

/-- The constructor. -/
def create (config : HeatPumpConfig) (seedValues : Dict String DecodedValue) :
    Except Exc HeatPumpSimulator := do
  let sim ← config.requests.foldlM addRequest { config := config }
  let version ← defaultVersion config
  let seeds :=
    match seedValues.get? "version" with
    | some _ => seedValues
    | none => seedValues.set "version" (.float version)
  seeds.foldlM (fun sim seed => sim.setValue seed.1 seed.2) sim

/-! ## The state machine -/

/-- The longest known command the frame goes on with after its checksum. -/
def matchCommand (sim : HeatPumpSimulator) (frame : Bytes) : Option Command :=
  sim.commandToRequest.keys.foldl (fun best command =>
    if (frame.drop 3).take command.bytes.length = command.bytes then
      match best with
      | none => some command
      | some b => if command.bytes.length > b.bytes.length then some command else best
    else best) none

/-- Replace the checksum slot of a frame of at least five bytes. -/
def withChecksum (frame : Bytes) : Bytes := frame.set 2 (checksumOf frame)

def buildResponse (sim : HeatPumpSimulator) (frame : Bytes) : Bytes × HeatPumpSimulator :=
  if frame.length < 4 then ([HEADER_START, GET, 0x00, 0x00] ++ FOOTER, sim)
  else
    match sim.matchCommand frame with
    | none =>
        let command := if frame.length > 4 then (frame.drop 3).take 1 else [0x00]
        (withChecksum ([HEADER_START, 0x03, 0x00] ++ command ++ FOOTER), sim)
    | some command =>
        if frame[1]? = some SET then
          let updated := withChecksum (frame.set 1 GET)
          (withChecksum ([HEADER_START, SET, 0x00] ++ command.bytes ++ FOOTER),
            { sim with store := sim.store.set command.text updated })
        else (sim.frameOf command.text, sim)

def feedByte (sim : HeatPumpSimulator) (byte : UInt8) : Bytes × HeatPumpSimulator :=
  match sim.state with
  | .idle =>
      if byte = START_COMMUNICATION then
        ([ESCAPE], { sim with state := .collecting, frameBuffer := [] })
      else ([], sim)
  | .collecting =>
      let frameBuffer := sim.frameBuffer ++ [byte]
      let sim := { sim with frameBuffer := frameBuffer }
      if frameBuffer.length ≥ 6 ∧ isFrameEnd frameBuffer frameBuffer.length then
        (DATA_AVAILABLE,
          { sim with pending := fixDuplicatedBytes frameBuffer, state := .awaitAck })
      else ([], sim)
  | .awaitAck =>
      if byte = ESCAPE then
        let (response, sim) := sim.buildResponse sim.pending
        (addDuplicatedBytes response, { sim with state := .idle })
      else ([], sim)

def feed (sim : HeatPumpSimulator) : Bytes → Bytes × HeatPumpSimulator
  | [] => ([], sim)
  | byte :: data =>
      let (out, sim) := sim.feedByte byte
      let (rest, sim) := sim.feed data
      (out ++ rest, sim)

end HeatPumpSimulator

/-- `SimulatorTransport`: the simulator and the bytes the client has not read. -/
structure SimulatorTransport where
  simulator : HeatPumpSimulator
  rx : Bytes := []

/-- The transport as an environment of the protocol stack. -/
def SimulatorTransport.answer : Dialogue.Environment Op Op.Ans SimulatorTransport
  | .write data, t =>
      let (out, simulator) := t.simulator.feed data
      (none, { simulator := simulator, rx := t.rx ++ out })
  | .get, t =>
      match t.rx with
      | [] => (none, t)
      | b :: rx => (some b, { t with rx := rx })
  | .openPort, t => (none, t)
  | .closePort, t => (none, t)
  | .sleep _, t => ((), t)
  | .mark _, t => ((), t)

end HeatpumpGateway
