import HeatpumpGateway.Lib.Stuffing
import HeatpumpGateway.Model.Channel

/-!
# The frame format

`protocol/parser.py`: checksums, escaping, header checks, decoding a record
from a response and composing a value into one. Functions that mutate a
`bytearray` in place return the new bytes here; an exception leaves no bytes,
as no caller looks at the half-written copy.
-/

namespace HeatpumpGateway

def ESCAPE : UInt8 := 0x10
def HEADER_START : UInt8 := 0x01
def END : UInt8 := 0x03
def GET : UInt8 := 0x00
def SET : UInt8 := 0x80
def START_COMMUNICATION : UInt8 := 0x02
def FOOTER : Bytes := [ESCAPE, END]
def DATA_AVAILABLE : Bytes := [ESCAPE, START_COMMUNICATION]

/-- The error codes a device puts in the get/set byte. -/
def KNOWN_ERRORS : Dict (UInt8 × UInt8) String :=
  [((0x01, 0x01), "timing issue"),
   ((0x01, 0x02), "CRC error in request"),
   ((0x01, 0x03), "device doesn't know this command (unknown command)"),
   ((0x01, 0x04), "UNKNOWN Register REQUEST")]

/-! ## Numbers in bytes -/

def signedByte (value : UInt8) : Int :=
  if value.toNat ≥ 128 then (value.toNat : Int) - 256 else value.toNat

/-- Little-endian: the low byte first. -/
def shortToBytes (value : Int) : UInt8 × UInt8 :=
  (UInt8.ofNat (value % 256).toNat, UInt8.ofNat (value / 256 % 256).toNat)

/-- The unsigned big-endian number of some bytes. -/
def bigEndian (raw : Bytes) : Nat := raw.foldl (fun n b => n * 256 + b.toNat) 0

/-- `struct.unpack` of one signed big-endian number of `width` bytes. -/
def unpackSigned (width : Nat) (raw : Bytes) : Except Exc Int :=
  if raw.length = width then
    .ok (if bigEndian raw ≥ 256 ^ width / 2 then (bigEndian raw : Int) - 256 ^ width
         else bigEndian raw)
  else .error (.structError ("unpack requires a buffer of " ++ toString width ++ " bytes"))

/-! ## Checksum and escaping -/

/-- The sum of all bytes but the checksum slot and the footer, modulo 256. -/
def checksumOf (data : Bytes) : UInt8 :=
  UInt8.ofNat ((((data.take (data.length - 2)).eraseIdx 2).map UInt8.toNat).sum % 256)

def calculateChecksum (data : Bytes) : Except Exc UInt8 :=
  if data.length < 5 then
    .error (.invalidData "no valid byte[] for calculation of checksum!")
  else .ok (checksumOf data)

/-- The byte the protocol sends after one that could be taken for something else. -/
def escapeMark (b : UInt8) : Option UInt8 :=
  if b = 0x10 then some 0x10 else if b = 0x2B then some 0x18 else none

/-- The two header bytes and the footer are copied verbatim. -/
def addDuplicatedBytes (data : Bytes) : Bytes :=
  data.take 2 ++ Stuffing.stuff escapeMark ((data.take (data.length - 2)).drop 2) ++
    data.drop (data.length - 2)

/-- Two passes over everything but the last two bytes, then a footer. -/
def fixDuplicatedBytes (data : Bytes) : Bytes :=
  if data.length < 2 then data
  else
    let body := data.take (data.length - 2)
    let body := Stuffing.collapse 0x10 0x10 body
    let body := Stuffing.collapse 0x2B 0x18 body
    body ++ FOOTER

/-- The `ESCAPE` bytes right before index `index`, counted backwards. -/
def countEscapes (buffer : Bytes) : Nat → Nat
  | 0 => 0
  | index + 1 =>
      if buffer[index]? = some ESCAPE then countEscapes buffer index + 1 else 0

/-- Whether `buffer[:length]` ends in a footer that is not escaped payload. -/
def isFrameEnd (buffer : Bytes) (length : Nat) : Bool :=
  if length < 2 ∨ buffer[length - 1]? ≠ some END ∨ buffer[length - 2]? ≠ some ESCAPE then false
  else countEscapes buffer (length - 1) % 2 = 1

/-! ## Bits -/

def getBitFromBytes (data : Bytes) (bitPosition : Int) : Except Exc Bool := do
  let byte ← getItem data (bitPosition / 8)
  let posBit := (bitPosition % 8).toNat
  return ((byte.toNat >>> (8 - (posBit + 1))) &&& 0x0001) ≥ 1

def setBit (byteValue : UInt8) (bitPosition : Int) (value : Bool) : UInt8 :=
  let posBit := (bitPosition % 8).toNat
  let newInt := if value then 1 else 0
  let old := (0xFF7F >>> posBit) &&& byteValue.toNat &&& 0x00FF
  UInt8.ofNat (((newInt <<< (8 - (posBit + 1))) ||| old) &&& 0xFF)

/-! ## Headers -/

def checkKnownErrors (response : Bytes) : Except Exc Unit :=
  match response with
  | b₀ :: b₁ :: _ =>
      match KNOWN_ERRORS.get? (b₀, b₁) with
      | some text =>
          .error (.protocolError
            ("decode: " ++ text ++ " (Response: " ++ bytesToHex response ++ ")"))
      | none => .ok ()
  | _ => .ok ()

/-- Header start, get/set byte and checksum, in this order. -/
def verifyHeader (response : Bytes) : Except Exc Unit :=
  match response with
  | b₀ :: b₁ :: b₂ :: _ :: _ =>
      if b₀ ≠ HEADER_START then
        .error (.protocolError ("no header start: " ++ bytesToHex response))
      else if b₁ ≠ GET ∧ b₁ ≠ SET then do
        checkKnownErrors response
        .error (.protocolError ("response is neither get nor set: " ++ bytesToHex response))
      else do
        let checksum ← calculateChecksum response
        if b₂ ≠ checksum then
          .error (.protocolError ("invalid checksum: " ++ bytesToHex response))
        else .ok ()
  | _ => .error (.protocolError ("invalid response length: " ++ bytesToHex response))

/-- `verify_header` raises nothing but `ProtocolError`s, so this is its verdict. -/
def headerCheck (response : Bytes) : Bool :=
  match verifyHeader response with
  | .ok _ => true
  | .error _ => false

/-! ## Decoding -/

def twoDigits (n : Nat) : String :=
  if n < 10 then "0" ++ toString n else toString n

/-- The hex dump with position markers that `parse_record` puts in its message. -/
def formatted (data : Bytes) : String :=
  String.join (data.zipIdx.map fun (b, j) =>
    (if j % 4 = 0 then "(" ++ twoDigits j ++ ")" else "") ++ bytesToHex [b] ++ " ")

/-- `math.floor(scaled * 100.0 + 0.5) / 100.0`. -/
def roundHundredths [Arithmetic] (scaled : PyFloat) : Except Exc PyFloat := do
  let n ← ((scaled.mul (.finite 100)).add (.finite (1 / 2))).floor
  (PyFloat.ofInt n).div (.finite 100)

/-- What a field's bytes and its signed number mean for a record. -/
def decodeNumber [Arithmetic] (raw : Bytes) (number : Int) (record : ChannelDefinition) :
    Except Exc DecodedValue :=
  if record.bitPosition > 0 then do
    return .bool (← getBitFromBytes raw record.bitPosition)
  else if record.isSwitch then .ok (.bool (number ≠ 0))
  else if !record.scale.eq (.finite 1) then do
    return .float (← roundHundredths ((PyFloat.ofInt number).mul record.scale))
  else .ok (.int number)

/-- The body of `parse_record`'s `try`. -/
def decodeField [Arithmetic] (response : Bytes) (record : ChannelDefinition) :
    Except Exc DecodedValue :=
  let raw := slice response record.position (record.position + record.length)
  if record.length = 1 then do
    let number := signedByte (← getItem response record.position)
    decodeNumber raw number record
  else if record.length = 2 then do
    let number ← unpackSigned 2 raw
    decodeNumber raw number record
  else if record.length = 4 then do
    return .int (← unpackSigned 4 raw)
  else .error (.invalidData ("Unsupported record length " ++ toString record.length))

/-- Decode a single channel value from a response frame. -/
def parseRecord [Arithmetic] (response : Bytes) (record : ChannelDefinition) :
    Except Exc DecodedValue :=
  let needed := record.position + record.length
  if response.length < 2 then
    .error (.invalidData
      ("Response does not have a valid length of bytes " ++ bytesToHex response))
  else if (response.length : Int) < needed then
    .error (.invalidData
      ("Response " ++ formatted response ++ " does not have a valid length of at least " ++
        toString needed ++ " bytes"))
  else
    match decodeField response record with
    | .ok value => .ok value
    | .error (.invalidData text) => .error (.invalidData text)
    | .error _ =>
        .error (.invalidData
          ("Response " ++ bytesToHex response ++ " could not be parsed for record " ++
            record.channelId))

def isShortResult (value : DecodedValue) (record : ChannelDefinition) : Bool :=
  match value with
  | .int _ => record.length ≠ 4
  | _ => false

/-- `value2 * 1000 + value` for an integer `value`. -/
def combineValues (value2 : DecodedValue) (value : Int) : DecodedValue :=
  match value2 with
  | .int n => .int (n * 1000 + value)
  | .bool b => .int ((if b then 1 else 0) * 1000 + value)
  | .float x => .float ((x.mul (.finite 1000)).add (.ofInt value))

/-- One record of `parse_records`: the value, combined with the second
response's where there is one and the value is a short. -/
def parseCombined (response : Bytes) (response2 : Option Bytes)
    (record : ChannelDefinition) : Except Exc DecodedValue := do
  let value ← parseRecord response record
  match response2, value with
  | some response2, .int n =>
      if isShortResult value record then
        return combineValues (← parseRecord response2 record) n
      else return value
  | _, _ => return value

/-- Decode every record of a request; one that cannot be parsed is skipped. -/
def parseRecords (response : Bytes) (records : List ChannelDefinition)
    (response2 : Option Bytes) : Except Exc (Dict String DecodedValue) :=
  if response.length < 2 then .ok []
  else if response2.any (·.length < 2) then .ok []
  else
    records.foldlM (fun result record =>
      match parseCombined response response2 record with
      | .ok value => .ok (result.set record.channelId value)
      | .error (.invalidData _) => .ok result
      | .error e => .error e) []

/-! ## Encoding -/

/-- Scaled value to raw integer, rounding half up. A quotient beyond the float
range is an infinity, which `math.floor` refuses. -/
def scaledToRaw [Arithmetic] (value scale : PyFloat) : Except Exc Int := do
  let quotient ← value.div scale
  (quotient.add (.finite (1 / 2))).floor

/-- The same on rationals. -/
def scaledToRawExact (value scale : ℚ) : Int := ⌊value / scale + 1 / 2⌋

/-- A decoded value as a number to compare with the float bounds. -/
def DecodedValue.toFloat : DecodedValue → PyFloat
  | .bool b => .ofInt (if b then 1 else 0)
  | .int n => .ofInt n
  | .float x => x

/-- The raw integer `compose_record` writes for a number. -/
def rawOf [Arithmetic] (newValue : DecodedValue) (record : ChannelDefinition) :
    Except Exc Int :=
  match newValue with
  | .float x => scaledToRaw x record.scale
  | .int n => .ok n
  | .bool b => .ok (if b then 1 else 0)

/-- The bytes of a number at a record's position: one, two in big-endian order,
or for any other length none at all. -/
def writeShort (shortValue : Int) (response : Bytes) (record : ChannelDefinition) :
    Except Exc Bytes := do
  let encoded := shortToBytes shortValue
  if record.length = 1 then
    setItem response record.position encoded.1
  else if record.length = 2 then do
    let response ← setItem response record.position encoded.2
    setItem response (record.position + 1) encoded.1
  else return response

/-- Write a value into a response and turn it into a SET frame. -/
def composeRecord [Arithmetic] (newValue : DecodedValue) (response : Bytes)
    (record : ChannelDefinition) : Except Exc Bytes := do
  let response ← setItem response 1 SET
  let response ←
    match newValue with
    | .bool b =>
        if record.bitPosition > 0 then do
          let old ← getItem response record.position
          setItem response record.position (setBit old record.bitPosition b)
        else setItem response record.position (if b then 1 else 0)
    | value =>
        if record.max.lt value.toFloat || value.toFloat.lt record.min then
          .error (.valueOutOfRange record.channelId value record.min record.max)
        else do
          let shortValue ← rawOf value record
          writeShort shortValue response record
  let checksum ← calculateChecksum response
  setItem response 2 checksum

/-- A request frame for a command, escaped and ready to send. The message is
five bytes and the command, so its checksum never fails. -/
def createRequestMessage (requestByte : Bytes) (getOrSet : UInt8) : Bytes :=
  let message := [HEADER_START, getOrSet, 0x00] ++ requestByte ++ FOOTER
  addDuplicatedBytes (message.set 2 (checksumOf message))

end HeatpumpGateway
