import HeatpumpGateway.Model.Config
import HeatpumpGateway.Model.Connector

/-!
# Reading and writing over the connector

`protocol/communication.py`: retries and header validation around a read, the
read-modify-write of a register, and the two ways of setting the clock. The
waiting time is in milliseconds, as the service is configured.
-/

namespace HeatpumpGateway

def MAX_TRIES : Nat := 3

namespace CommunicationService

def connect : Talk Unit := Connector.connect
def close : Talk Unit := Connector.disconnect

def restart : Talk Unit := do
  Transport.closePort
  sleep 500
  Transport.openPort

/-- The body of the retry loop's `try`. -/
def readAttempt (waitingTime : Nat) (request : Request) :
    Talk (Dict String DecodedValue) := do
  let command ← .ofExcept request.requestBytes
  let response ← Connector.getData (createRequestMessage command GET)
  if !headerCheck response then
    throw (.protocolError ("invalid or missing response: " ++ bytesToHex response))
  else do
    match ← .ofExcept request.requestBytes2 with
    | none => .ofExcept (parseRecords response request.records none)
    | some command2 => do
        sleep waitingTime
        let response2 ← Connector.getData (createRequestMessage command2 GET)
        if !headerCheck response2 then
          throw (.protocolError
            ("invalid or missing response2: " ++ bytesToHex response2))
        else .ofExcept (parseRecords response request.records (some response2))

/-- The retry loop, counting the attempts that are left. -/
def readLoop (waitingTime : Nat) (request : Request) :
    Nat → Option String → Talk (Dict String DecodedValue)
  | 0, lastError =>
      throw (.protocolError
        ("Could not read data for request " ++ request.requestByte ++ " after " ++
          toString MAX_TRIES ++ " attempts: " ++ lastError.getD "None"))
  | attempts + 1, _ =>
      Dialogue.handle (readAttempt waitingTime request) fun exc =>
        if exc.isProtocolError then do
          restart
          readLoop waitingTime request attempts (some exc.str)
        else throw exc

def readRequest (waitingTime : Nat) (request : Request) :
    Talk (Dict String DecodedValue) :=
  readLoop waitingTime request MAX_TRIES none

/-- The sweep of `read_requests`, with the values read so far. -/
def readRequestsFrom (waitingTime : Nat) :
    List Request → Dict String DecodedValue → Talk (Dict String DecodedValue)
  | [], data => return data
  | request :: rest, data => do
      let values ← readRequest waitingTime request
      let data := data.update values
      if rest = [] then return data
      else do
        sleep waitingTime
        readRequestsFrom waitingTime rest data

def readRequests (waitingTime : Nat) (requests : List Request) :
    Talk (Dict String DecodedValue) :=
  readRequestsFrom waitingTime requests []

def getVersion (waitingTime : Nat) (versionRequest : Request) : Talk String := do
  let data ← readRequest waitingTime versionRequest
  match data.get? "version" with
  | none => return "<UNKNOWN_VERSION>"
  | some version => return version.str

/-! ## Writing -/

/-- The items of a write, composed one after another into one frame. -/
def composeAll (items : List (DecodedValue × ChannelDefinition)) (frame : Bytes) :
    Except Exc Bytes :=
  items.foldlM (fun update item => composeRecord item.1 update item.2) frame

/-- `{record.channel_id: parse_record(frame, record) for _, record in items}`. -/
def decodeAll (frame : Bytes) (items : List (DecodedValue × ChannelDefinition)) :
    Except Exc (Dict String DecodedValue) :=
  items.foldlM (fun values item => do
    return values.set item.2.channelId (← parseRecord frame item.2)) []

/-- What follows once the register has been read. -/
def writeBack (waitingTime : Nat) (items : List (DecodedValue × ChannelDefinition))
    (channelIds : String) (readResponse : Bytes) :
    Talk (Dict String DecodedValue) := do
  let update ← .ofExcept (composeAll items readResponse)
  sleep waitingTime
  let setResponse ← Connector.setData (addDuplicatedBytes update)
  match verifyHeader setResponse with
  | .ok _ => .ofExcept (decodeAll update items)
  | .error exc =>
      if exc.isProtocolError then do
        let unchanged ← .ofExcept (decodeAll readResponse items)
        throw (.writeNotConfirmed channelIds exc.str unchanged)
      else throw exc

def writeValues (waitingTime : Nat) (items : List (DecodedValue × ChannelDefinition)) :
    Talk (Dict String DecodedValue) :=
  match items with
  | [] => throw (.indexError "list index out of range")
  | (_, firstRecord) :: _ => do
      let channelIds := ";".intercalate (items.map (·.2.channelId))
      let command ← .ofExcept (fromHex firstRecord.requestByte)
      let readRequestMessage := createRequestMessage command GET
      let readResponse ← Connector.getData readRequestMessage
      if readRequestMessage = readResponse then return []
      else if readResponse = [] then
        throw (.protocolError
          ("Could not read current value(s) for " ++ channelIds ++ " before writing; " ++
            "write was not attempted."))
      else writeBack waitingTime items channelIds readResponse

def writeData (waitingTime : Nat) (newValue : DecodedValue) (record : ChannelDefinition) :
    Talk (Dict String DecodedValue) :=
  writeValues waitingTime [(newValue, record)]

def writeTimeQuarterPair (waitingTime : Nat) (startValue endValue : DecodedValue)
    (recordStart recordEnd : ChannelDefinition) : Talk (Dict String DecodedValue) :=
  writeValues waitingTime [(startValue, recordStart), (endValue, recordEnd)]

/-! ## Time synchronisation -/

/-- The system time, as `datetime.now()` gives it. -/
structure DateTime where
  year : Nat
  month : Nat
  day : Nat
  hour : Nat
  minute : Nat
  second : Nat
  deriving DecidableEq, Repr

/-- An entry of the dictionary `set_time` returns. -/
inductive Reported where
  | value (v : DecodedValue)
  | text (s : String)
  deriving DecidableEq, Repr

def padLeft (width n : Nat) : String :=
  let digits := toString n
  String.ofList (List.replicate (width - digits.length) '0') ++ digits

/-- `now.strftime("%Y-%m-%d %H:%M:%S")`. -/
def DateTime.stamp (now : DateTime) : String :=
  padLeft 4 now.year ++ "-" ++ padLeft 2 now.month ++ "-" ++ padLeft 2 now.day ++ " " ++
    padLeft 2 now.hour ++ ":" ++ padLeft 2 now.minute ++ ":" ++ padLeft 2 now.second

/-- The clock fields with the values they are set to. -/
def clockValues (now : DateTime) : Dict String DecodedValue :=
  [("day", .int now.day), ("month", .int now.month), ("year", .int (now.year % 100)),
   ("hours", .int now.hour), ("minutes", .int now.minute)]

def CLOCK_FIELDS : List String := ["day", "month", "year", "hours", "minutes"]

/-- Each clock field to a register of its own. -/
def setTimeViaRegisters (waitingTime : Nat) (clockRecords : Dict String ChannelDefinition)
    (values : Dict String DecodedValue) :
    List String → Dict String DecodedValue → Talk (Dict String DecodedValue)
  | [], written => return written
  | field :: fields, written =>
      match clockRecords.get? field, values.get? field with
      | some record, some value => do
          let result ← writeValues waitingTime [(value, record)]
          sleep waitingTime
          setTimeViaRegisters waitingTime clockRecords values fields (written.update result)
      | _, _ => setTimeViaRegisters waitingTime clockRecords values fields written

/-- The records of the `FC` request that name a clock field, with their values. -/
def clockItems (records : List ChannelDefinition) (values : Dict String DecodedValue) :
    List (DecodedValue × ChannelDefinition) :=
  records.filterMap fun record => (values.get? record.channelId).map (·, record)

/-- All clock fields into one frame; what the device answers is not looked at. -/
def setTimeViaFrame (waitingTime : Nat) (readRequest : Request)
    (values : Dict String DecodedValue) : Talk (Dict String DecodedValue) := do
  let command ← .ofExcept readRequest.requestBytes
  let response ← Connector.getData (createRequestMessage command GET)
  if !headerCheck response then return []
  else do
    let items := clockItems readRequest.records values
    let update ← .ofExcept (composeAll items response)
    let written := Dict.ofPairs (items.map fun item => (item.2.channelId, item.1))
    sleep waitingTime
    let _ ← Connector.setData (addDuplicatedBytes update)
    sleep waitingTime
    return written

/-- The `FC` register as it reads after the clock was set. -/
def readClock (readRequest : Option Request) : Talk (Dict String DecodedValue) :=
  match readRequest with
  | none => return []
  | some request => do
      let command ← .ofExcept request.requestBytes
      let response ← Connector.getData (createRequestMessage command GET)
      if headerCheck response then .ofExcept (parseRecords response request.records none)
      else return []

def setTime (waitingTime : Nat) (now : DateTime) (readRequest : Option Request)
    (clockRecords : Dict String ChannelDefinition) : Talk (Dict String Reported) := do
  let report (written : Dict String DecodedValue) : Talk (Dict String Reported) := do
    let data ← readClock readRequest
    let values := data.update written
    let entries : Dict String Reported := values.map fun kv => (kv.1, .value kv.2)
    return entries.set "lastUpdate" (.text now.stamp)
  if clockRecords ≠ [] then do
    report (← setTimeViaRegisters waitingTime clockRecords (clockValues now) CLOCK_FIELDS [])
  else
    match readRequest with
    | some request => do
        report (← setTimeViaFrame waitingTime request (clockValues now))
    | none => return []

end CommunicationService

end HeatpumpGateway
