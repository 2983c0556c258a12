import HeatpumpGateway.Lib.Dict
import HeatpumpGateway.Lib.Floating
import HeatpumpGateway.Model.Unicode
import Mathlib.Data.Int.Log

/-!
# The part of Python the gateway computes with

Floats are rationals with the three values that are not numbers. What an operation on
them gives is rounded: to the nearest double, beyond the largest to an infinity. How
it is rounded is a parameter (`Arithmetic`), so that the codec can also be read with exact
numbers; without a word about it the parameter is the doubles'. The conversions keep the
places where Python refuses (`OverflowError` on an infinity or an integer beyond the float
range, `ZeroDivisionError`, `ValueError` on NaN and on text that is no number). The two
zeros are one. Bytes are lists of octets, indexed and sliced with Python's negative
indices.
-/

namespace HeatpumpGateway

/-- `bytes` and `bytearray`. -/
abbrev Bytes := List UInt8

/-! ## Floats -/

/-- A Python `float`. -/
inductive PyFloat where
  | finite (q : ℚ)
  | posInf
  | negInf
  | nan
  deriving DecidableEq, Repr

namespace PyFloat

def ofInt (n : Int) : PyFloat := .finite n

/-- `x == y`. -/
def eq : PyFloat → PyFloat → Bool
  | finite p, finite q => p = q
  | posInf, posInf => true
  | negInf, negInf => true
  | _, _ => false

/-- `x < y`. -/
def lt : PyFloat → PyFloat → Bool
  | finite p, finite q => p < q
  | negInf, finite _ => true
  | negInf, posInf => true
  | finite _, posInf => true
  | _, _ => false

/-- The first magnitude that rounds beyond the largest double. -/
def overflowBound : Int := 2 ^ 1024 - 2 ^ 970

/-- A double has 53 significant bits. -/
def double : Floating.Format := { precision := 53, minExponent := -1074 }

/-- The float nearest to a rational, the even one of two; beyond the largest it is an
infinity. -/
def ofRat (q : ℚ) : PyFloat :=
  if |q| < (overflowBound : ℚ) then .finite (double.nearest q)
  else if 0 < q then .posInf else .negInf

end PyFloat

/-- What the exact result of an operation on floats is kept as. -/
class Arithmetic where
  round : ℚ → PyFloat

/-- The machine's: every result is rounded to a double. -/
instance Arithmetic.double : Arithmetic := ⟨PyFloat.ofRat⟩

/-- Results as they are. -/
@[reducible] def Arithmetic.exact : Arithmetic := ⟨PyFloat.finite⟩

namespace PyFloat

variable [Arithmetic]

/-- `x * y`. -/
def mul : PyFloat → PyFloat → PyFloat
  | finite p, finite q => Arithmetic.round (p * q)
  | nan, _ => nan
  | _, nan => nan
  | finite p, posInf => if p = 0 then nan else if 0 < p then posInf else negInf
  | finite p, negInf => if p = 0 then nan else if 0 < p then negInf else posInf
  | posInf, finite q => if q = 0 then nan else if 0 < q then posInf else negInf
  | negInf, finite q => if q = 0 then nan else if 0 < q then negInf else posInf
  | posInf, posInf => posInf
  | negInf, negInf => posInf
  | posInf, negInf => negInf
  | negInf, posInf => negInf

/-- `x + y`. -/
def add : PyFloat → PyFloat → PyFloat
  | finite p, finite q => Arithmetic.round (p + q)
  | nan, _ => nan
  | _, nan => nan
  | posInf, negInf => nan
  | negInf, posInf => nan
  | posInf, _ => posInf
  | _, posInf => posInf
  | negInf, _ => negInf
  | _, negInf => negInf

end PyFloat

/-! ## Values and exceptions -/

/-- What a channel decodes to, and what `_coerce` turns a caller's value into. -/
inductive DecodedValue where
  | bool (b : Bool)
  | int (n : Int)
  | float (x : PyFloat)
  deriving DecidableEq, Repr

/-- What a caller may send: the four types of the API's `WriteRequest`. -/
inductive CallerValue where
  | bool (b : Bool)
  | int (n : Int)
  | float (x : PyFloat)
  | str (s : String)
  deriving DecidableEq, Repr

/-- The exceptions that occur, by class. The interpolated values of the two
messages that print floats are kept as fields. -/
inductive Exc where
  | protocolError (text : String)
  | invalidData (text : String)
  | writeNotConfirmed (channelIds reason : String) (unchanged : Dict String DecodedValue)
  | valueOutOfRange (channelId : String) (newValue : DecodedValue) (min max : PyFloat)
  | channelNotFound (ids : String)
  | channelNotWritable (channelId : String)
  | valueError (text : String)
  | overflowError (text : String)
  | zeroDivisionError (text : String)
  | indexError (text : String)
  | structError (text : String)
  | attributeError (text : String)
  | runtimeError (text : String)
  | osError (text : String)
  deriving DecidableEq, Repr

namespace Exc

/-- `isinstance(exc, ProtocolError)`. -/
def isProtocolError : Exc → Bool
  | protocolError _ | invalidData _ | writeNotConfirmed .. => true
  | _ => false

/-- `isinstance(exc, ValueError)`. -/
def isValueError : Exc → Bool
  | valueError _ | valueOutOfRange .. | channelNotWritable _ => true
  | _ => false

/-- `str(exc)`, up to the values that are kept as fields. -/
def str : Exc → String
  | protocolError t | invalidData t | valueError t | overflowError t
  | zeroDivisionError t | indexError t | structError t | attributeError t
  | runtimeError t | osError t | channelNotFound t | channelNotWritable t => t
  | writeNotConfirmed ids reason _ =>
      "Heat pump did not confirm the write of " ++ ids ++ " (" ++ reason ++
        "); the device still reports"
  | valueOutOfRange id _ _ _ => "The record " ++ id ++ " cannot be set"

end Exc

/-! ## Conversions between numbers -/

namespace PyFloat

/-- `x / q` for a finite `q` that is not zero. -/
def quotient [Arithmetic] : PyFloat → ℚ → PyFloat
  | finite p, q => Arithmetic.round (p / q)
  | posInf, q => if 0 < q then posInf else negInf
  | negInf, q => if 0 < q then negInf else posInf
  | nan, _ => nan

/-- `x / y`. -/
def div [Arithmetic] : PyFloat → PyFloat → Except Exc PyFloat
  | x, finite q =>
      if q = 0 then .error (.zeroDivisionError "float division by zero") else .ok (x.quotient q)
  | finite _, posInf => .ok (finite 0)
  | finite _, negInf => .ok (finite 0)
  | _, _ => .ok nan

/-- `math.floor(x)`. -/
def floor : PyFloat → Except Exc Int
  | finite q => .ok ⌊q⌋
  | posInf => .error (.overflowError "cannot convert float infinity to integer")
  | negInf => .error (.overflowError "cannot convert float infinity to integer")
  | nan => .error (.valueError "cannot convert float NaN to integer")

/-- `int(x)`: towards zero. -/
def toInt : PyFloat → Except Exc Int
  | finite q => .ok (if 0 ≤ q then ⌊q⌋ else ⌈q⌉)
  | posInf => .error (.overflowError "cannot convert float infinity to integer")
  | negInf => .error (.overflowError "cannot convert float infinity to integer")
  | nan => .error (.valueError "cannot convert float NaN to integer")

/-- `bool(x)`. -/
def toBool : PyFloat → Bool
  | finite q => q ≠ 0
  | _ => true

/-- `float(n)` for an `int`. -/
def ofPyInt (n : Int) : Except Exc PyFloat :=
  if n.natAbs < overflowBound then .ok (ofRat n)
  else .error (.overflowError "int too large to convert to float")

end PyFloat

/-! ## Text -/

def stripOf (space : Char → Bool) (cs : List Char) : List Char :=
  ((cs.dropWhile space).reverse.dropWhile space).reverse

/-- `s.strip()`. -/
def strip (cs : List Char) : List Char := stripOf isSpace cs

/-- What `int` and `float` pass over around a number. The separators of ASCII are spaces to
`str`, but not to them. -/
def isBlank (c : Char) : Bool := isSpace c && !(0x1c ≤ c.toNat && c.toNat ≤ 0x1f)

/-- A run of digits with single underscores between them, as int and float
literals allow; the digits with what follows the run. -/
def digitRun : List Char → Option (List Nat × List Char)
  | c :: '_' :: d :: cs =>
      match decimal? c with
      | none => none
      | some n =>
          match digitRun (d :: cs) with
          | some (ns, rest) => some (n :: ns, rest)
          | none => some ([n], '_' :: d :: cs)
  | c :: cs =>
      match decimal? c with
      | none => none
      | some n =>
          match digitRun cs with
          | some (ns, rest) => some (n :: ns, rest)
          | none => some ([n], cs)
  | [] => none

def digitsValue (ns : List Nat) : Nat := ns.foldl (fun v n => v * 10 + n) 0

/-- An optional sign. -/
def signOf : List Char → Int × List Char
  | '-' :: cs => (-1, cs)
  | '+' :: cs => (1, cs)
  | cs => (1, cs)

/-- Python refuses to convert longer decimal strings to `int`. -/
def maxStrDigits : Nat := 4300

/-- `int(s)` for a `str`. -/
def intOfStr (s : String) : Except Exc Int :=
  let (sign, cs) := signOf (stripOf isBlank s.toList)
  match digitRun cs with
  | some (ns, []) =>
      if ns.length ≤ maxStrDigits then .ok (sign * digitsValue ns)
      else .error (.valueError "Exceeds the limit (4300 digits) for integer string conversion")
  | _ => .error (.valueError ("invalid literal for int() with base 10: '" ++ s ++ "'"))

/-- The digits after an optional point; `none` where a point has no digit on
either side. -/
def mantissa (cs : List Char) : Option (List Nat × List Nat × List Char) :=
  match digitRun cs with
  | some (ns, '.' :: rest) =>
      match digitRun rest with
      | some (fs, rest') => some (ns, fs, rest')
      | none => some (ns, [], rest)
  | some (ns, rest) => some (ns, [], rest)
  | none =>
      match cs with
      | '.' :: rest =>
          match digitRun rest with
          | some (fs, rest') => some ([], fs, rest')
          | none => none
      | _ => none

/-- An optional exponent, which must end the text. -/
def exponent : List Char → Option Int
  | [] => some 0
  | c :: cs =>
      if c = 'e' ∨ c = 'E' then
        let (sign, ds) := signOf cs
        match digitRun ds with
        | some (ns, []) => some (sign * digitsValue ns)
        | _ => none
      else none

/-- `float(s)` for a `str`. -/
def floatOfStr (s : String) : Except Exc PyFloat :=
  let (sign, cs) := signOf (stripOf isBlank s.toList)
  let word := String.ofList (cs.map Char.toLower)
  if word = "inf" ∨ word = "infinity" then
    .ok (if sign = 1 then .posInf else .negInf)
  else if word = "nan" then .ok .nan
  else
    match mantissa cs with
    | some (ns, fs, rest) =>
        match exponent rest with
        | some e =>
            let digits : ℚ := digitsValue (ns ++ fs)
            .ok (PyFloat.ofRat (sign * digits * 10 ^ (e - fs.length)))
        | none => .error (.valueError ("could not convert string to float: '" ++ s ++ "'"))
    | none => .error (.valueError ("could not convert string to float: '" ++ s ++ "'"))

/-- The number of `n` digits nearest to a positive one, as an integer, with the exponent of
its last digit. -/
def nearestDigits (q : ℚ) (n : Nat) : Nat × Int :=
  let last := Int.log 10 q + 1 - n
  ((Floating.roundEven (q / 10 ^ last)).toNat, last)

/-- The number of `n` digits that reads back as the float, if there is one. Below a power of two
the floats lie closer, and it need not be the nearest. -/
def readsBack? (q : ℚ) (n : Nat) : Option (Nat × Int) :=
  let (digits, last) := nearestDigits q n
  let value (digits : Nat) : ℚ := digits * 10 ^ last
  let other := if value digits < q then digits + 1 else digits - 1
  ([digits, other].find? fun digits => PyFloat.ofRat (value digits) = .finite q).map (·, last)

/-- The shortest number that reads back. Seventeen digits always do. -/
def shortestDigits (q : ℚ) : Nat × Int :=
  match (List.range' 1 16).findSome? (readsBack? q) with
  | some found => found
  | none => nearestDigits q 17

/-- The digits with the point where it belongs, or with an exponent where the point would lie
far from them. -/
def layout (digits : List Char) (point : Int) : List Char :=
  if -4 < point ∧ point ≤ 0 then
    '0' :: '.' :: (List.replicate (-point).toNat '0' ++ digits)
  else if 0 < point ∧ point ≤ 16 then
    let fraction := digits.drop point.toNat
    digits.take point.toNat ++ List.replicate (point.toNat - digits.length) '0' ++
      '.' :: (if fraction = [] then ['0'] else fraction)
  else
    let power := Nat.toDigits 10 (point - 1).natAbs
    digits.take 1 ++ (if digits.length = 1 then [] else '.' :: digits.drop 1) ++
      'e' :: (if point ≤ 0 then '-' else '+') :: (if power.length = 1 then '0' :: power else power)

/-- `str(x)`. -/
def PyFloat.str : PyFloat → String
  | finite q =>
      if q = 0 then "0.0"
      else
        let (number, last) := shortestDigits |q|
        let digits := Nat.toDigits 10 number
        let significant := (digits.reverse.dropWhile (· = '0')).reverse
        (if q < 0 then "-" else "") ++ String.ofList (layout significant (digits.length + last))
  | posInf => "inf"
  | negInf => "-inf"
  | nan => "nan"

def DecodedValue.str : DecodedValue → String
  | bool b => if b then "True" else "False"
  | int n => toString n
  | float x => x.str

/-! ## Bytes -/

/-- Where Python's index `i` lands in a sequence of length `n`. -/
def normIndex (n : Nat) (i : Int) : Int := if i < 0 then i + n else i

/-- `data[i]`. -/
def getItem (data : Bytes) (i : Int) : Except Exc UInt8 :=
  if 0 ≤ normIndex data.length i then
    match data[(normIndex data.length i).toNat]? with
    | some b => .ok b
    | none => .error (.indexError "index out of range")
  else .error (.indexError "index out of range")

/-- `data[i] = b`. -/
def setItem (data : Bytes) (i : Int) (b : UInt8) : Except Exc Bytes :=
  if 0 ≤ normIndex data.length i ∧ normIndex data.length i < data.length then
    .ok (data.set (normIndex data.length i).toNat b)
  else .error (.indexError "bytearray index out of range")

/-- Where a slice bound `i` lands in a sequence of length `n`. -/
def sliceBound (n : Nat) (i : Int) : Nat := min (normIndex n i).toNat n

/-- `data[i:j]`. -/
def slice (data : Bytes) (i j : Int) : Bytes :=
  (data.take (sliceBound data.length j)).drop (sliceBound data.length i)

def hexDigit (n : Nat) : Char :=
  Char.ofNat (if n < 10 then 48 + n else 55 + n)

/-- `bytes_to_hex`. -/
def bytesToHex (data : Bytes) : String :=
  String.ofList (data.flatMap fun b => [hexDigit (b.toNat / 16), hexDigit (b.toNat % 16)])

def hexValue? (c : Char) : Option Nat :=
  if '0' ≤ c ∧ c ≤ '9' then some (c.toNat - 48)
  else if 'A' ≤ c ∧ c ≤ 'F' then some (c.toNat - 55)
  else if 'a' ≤ c ∧ c ≤ 'f' then some (c.toNat - 87)
  else none

/-- The whitespace `bytes.fromhex` skips between two bytes. -/
def isAsciiSpace (c : Char) : Bool :=
  c = ' ' || (9 ≤ c.toNat && c.toNat ≤ 13)

def hexPairs : List Char → Option Bytes
  | [] => some []
  | c :: cs =>
      if isAsciiSpace c then hexPairs cs
      else
        match cs with
        | [] => none
        | d :: ds =>
            match hexValue? c, hexValue? d, hexPairs ds with
            | some x, some y, some rest => some (UInt8.ofNat (16 * x + y) :: rest)
            | _, _, _ => none

/-- `bytes.fromhex(text)`. -/
def fromHex (text : String) : Except Exc Bytes :=
  match hexPairs text.toList with
  | some data => .ok data
  | none => .error (.valueError "non-hexadecimal number found in fromhex() arg")

end HeatpumpGateway
