import HeatpumpGateway.Lib.Fallible
import HeatpumpGateway.Lib.Rounding
import HeatpumpGateway.Proofs.Compose
import HeatpumpGateway.Proofs.Doubles

/-!
# What a field decodes to

`parse_record` for a field that lies in the frame: the field's bytes, the signed
number they spell, and what a record makes of that number. `shortBytes` are the
bytes a raw integer is written as, and `signedNumber_shortBytes` is all that the two
directions have to do with each other: the number comes back modulo the range of
the field.
-/

namespace HeatpumpGateway

open Fallible

/-- The field lies in a frame of length `n`. -/
def Contained (n : Nat) (record : ChannelDefinition) : Prop :=
  0 ≤ record.position ∧ record.position + record.length ≤ n

instance (n : Nat) (record : ChannelDefinition) : Decidable (Contained n record) :=
  inferInstanceAs (Decidable (_ ∧ _))

/-- The bytes of a record's field. -/
def fieldBytes (frame : Bytes) (record : ChannelDefinition) : Bytes :=
  slice frame record.position (record.position + record.length)

/-- The signed big-endian number of some bytes. -/
def signedNumber (raw : Bytes) : Int :=
  if bigEndian raw ≥ 256 ^ raw.length / 2 then (bigEndian raw : Int) - 256 ^ raw.length
  else bigEndian raw

/-- The number in a record's field. -/
def numberAt (frame : Bytes) (record : ChannelDefinition) : Int :=
  signedNumber (fieldBytes frame record)

theorem sliceBound_natCast {n k : Nat} (h : k ≤ n) : sliceBound n (k : Int) = k := by
  rw [sliceBound, normIndex, if_neg (by omega), Int.toNat_natCast]
  omega

theorem slice_natCast {data : Bytes} {i len : Nat} (h : i + len ≤ data.length) :
    slice data (i : Int) ((i : Int) + len) = (data.drop i).take len := by
  have hend : ((i : Int) + len) = ((i + len : Nat) : Int) := by push_cast; rfl
  rw [slice, hend, sliceBound_natCast h, sliceBound_natCast (by omega), List.drop_take,
    Nat.add_sub_cancel_left]

/-- A contained field of a known length, with its place as a natural number. -/
theorem Contained.exists_place {n k : Nat} {record : ChannelDefinition}
    (h : Contained n record) (hlen : record.length = k) :
    ∃ p : Nat, record.position = p ∧ p + k ≤ n := by
  obtain ⟨h₀, h₁⟩ := h
  exact ⟨record.position.toNat, (Int.toNat_of_nonneg h₀).symm, by omega⟩

theorem fieldBytes_eq {frame : Bytes} {record : ChannelDefinition} {p len : Nat}
    (hp : record.position = p) (hlen : record.length = len) (h : p + len ≤ frame.length) :
    fieldBytes frame record = (frame.drop p).take len := by
  rw [fieldBytes, hp, hlen, slice_natCast h]

theorem fieldBytes_length {frame : Bytes} {record : ChannelDefinition} {k : Nat}
    (h : Contained frame.length record) (hlen : record.length = k) :
    (fieldBytes frame record).length = k := by
  obtain ⟨p, hp, hle⟩ := h.exists_place hlen
  rw [fieldBytes_eq hp hlen hle, List.length_take, List.length_drop]
  omega

theorem signedByte_eq (b : UInt8) : signedByte b = signedNumber [b] := by
  simp [signedByte, signedNumber, bigEndian]

theorem unpackSigned_eq {width : Nat} {raw : Bytes} (h : raw.length = width) :
    unpackSigned width raw = .ok (signedNumber raw) := by
  rw [unpackSigned, if_pos h, signedNumber, h]

/-- A contained field is in the range of everything that is written to it. -/
theorem Contained.fieldInRange {n : Nat} {record : ChannelDefinition}
    (h : Contained n record) (hpos : 0 < record.length) (v : DecodedValue) :
    FieldInRange n v record := by
  obtain ⟨h₀, h₁⟩ := h
  have hfirst : InRange n record.position := by
    rw [InRange, normIndex, if_neg (by omega)]
    omega
  have hshort : ShortInRange n record := by
    refine ⟨fun _ => hfirst, fun h2 => ⟨hfirst, ?_⟩⟩
    rw [InRange, normIndex, if_neg (by omega)]
    omega
  cases v with
  | bool b => exact hfirst
  | int n => exact hshort
  | float x => exact hshort

/-! ## By length -/

theorem decodeField_one [Arithmetic] {frame : Bytes} {record : ChannelDefinition}
    (h : Contained frame.length record) (hlen : record.length = 1) :
    decodeField frame record
      = decodeNumber (fieldBytes frame record) (numberAt frame record) record := by
  obtain ⟨p, hp, hle⟩ := h.exists_place (k := 1) hlen
  have hlt : p < frame.length := hle
  have hitem : getItem frame record.position = .ok (frame.get ⟨p, hlt⟩) := by
    rw [getItem_ok_iff, hp, place_natCast]
    exact ⟨inRange_natCast.mpr hlt, List.getElem?_eq_getElem hlt⟩
  have hbytes : fieldBytes frame record = [frame.get ⟨p, hlt⟩] := by
    rw [fieldBytes_eq hp hlen hle, List.drop_eq_getElem_cons hlt]
    rfl
  rw [decodeField, if_pos hlen, hitem, ok_bind, signedByte_eq, numberAt, hbytes]
  exact congrArg (decodeNumber · _ record) hbytes

theorem decodeField_two [Arithmetic] {frame : Bytes} {record : ChannelDefinition}
    (h : Contained frame.length record) (hlen : record.length = 2) :
    decodeField frame record
      = decodeNumber (fieldBytes frame record) (numberAt frame record) record := by
  have hbytes : (slice frame record.position (record.position + record.length)).length = 2 :=
    fieldBytes_length (k := 2) h hlen
  rw [decodeField, if_neg (by omega), if_pos hlen, unpackSigned_eq hbytes]
  rfl

theorem decodeField_four [Arithmetic] {frame : Bytes} {record : ChannelDefinition}
    (h : Contained frame.length record) (hlen : record.length = 4) :
    decodeField frame record = .ok (.int (numberAt frame record)) := by
  have hbytes : (slice frame record.position (record.position + record.length)).length = 4 :=
    fieldBytes_length (k := 4) h hlen
  rw [decodeField, if_neg (by omega), if_neg (by omega), if_pos hlen, unpackSigned_eq hbytes]
  rfl

theorem decodeField_other [Arithmetic] {frame : Bytes} {record : ChannelDefinition}
    (h₁ : record.length ≠ 1) (h₂ : record.length ≠ 2) (h₄ : record.length ≠ 4) :
    decodeField frame record
      = .error (.invalidData ("Unsupported record length " ++ toString record.length)) := by
  rw [decodeField, if_neg h₁, if_neg h₂, if_neg h₄]

theorem decodeField_short [Arithmetic] {frame : Bytes} {record : ChannelDefinition}
    (h : Contained frame.length record) (hlen : record.length = 1 ∨ record.length = 2) :
    decodeField frame record
      = decodeNumber (fieldBytes frame record) (numberAt frame record) record := by
  rcases hlen with hlen | hlen
  · exact decodeField_one h hlen
  · exact decodeField_two h hlen

/-- Decoding a field that is there succeeds as its body does. -/
theorem parseRecord_ok_iff [Arithmetic] {frame : Bytes} {record : ChannelDefinition}
    {d : DecodedValue} (h : Contained frame.length record) (hframe : 2 ≤ frame.length) :
    parseRecord frame record = .ok d ↔ decodeField frame record = .ok d := by
  rw [parseRecord, if_neg (by omega), if_neg (by have := h.2; omega)]
  cases decodeField frame record with
  | ok value => rfl
  | error e => cases e <;> simp

theorem parseRecord_decodeField [Arithmetic] {frame : Bytes} {record : ChannelDefinition}
    {v : DecodedValue} (h : parseRecord frame record = .ok v) :
    decodeField frame record = .ok v := by
  rw [parseRecord] at h
  split at h
  · cases h
  · split at h
    · cases h
    · cases hfield : decodeField frame record with
      | ok value =>
          rw [hfield] at h
          exact h
      | error e =>
          rw [hfield] at h
          cases e <;> cases h

/-! ## The kind of a value -/

/-- The kind of a value, by its Python type. -/
def DecodedValue.kind : DecodedValue → ValueKind
  | .bool _ => .boolean
  | .int _ => .integer
  | .float _ => .number

theorem decodeNumber_kind {record : ChannelDefinition} {raw : Bytes} {number : Int}
    {v : DecodedValue} (hlen : record.length ≠ 4) (h : decodeNumber raw number record = .ok v) :
    v.kind = record.valueKind := by
  rw [ChannelDefinition.valueKind]
  rw [decodeNumber] at h
  split at h
  · next hbit =>
      obtain ⟨b, _, hv⟩ := bind_eq_ok.mp h
      cases hv
      rw [if_pos hbit]
      rfl
  · next hbit =>
      rw [if_neg hbit]
      split at h
      · next hswitch =>
          cases h
          rw [if_pos hswitch]
          rfl
      · next hswitch =>
          rw [if_neg hswitch, if_neg hlen]
          split at h
          · next hscale =>
              obtain ⟨x, _, hv⟩ := bind_eq_ok.mp h
              cases hv
              rw [if_pos hscale]
              rfl
          · next hscale =>
              cases h
              rw [if_neg hscale]
              rfl

/-- The length comes first: four bytes are an integer, anything else goes by the kind. -/
theorem parseRecord_kind {record : ChannelDefinition} {frame : Bytes} {v : DecodedValue}
    (h : parseRecord frame record = .ok v) :
    v.kind = if record.length = 4 then .integer else record.valueKind := by
  have hfield := parseRecord_decodeField h
  rw [decodeField] at hfield
  split at hfield
  · next h1 =>
      obtain ⟨_, _, hnumber⟩ := bind_eq_ok.mp hfield
      rw [if_neg (by omega)]
      exact decodeNumber_kind (by omega) hnumber
  · split at hfield
    · next h2 =>
        obtain ⟨_, _, hnumber⟩ := bind_eq_ok.mp hfield
        rw [if_neg (by omega)]
        exact decodeNumber_kind (by omega) hnumber
    · split at hfield
      · next h4 =>
          obtain ⟨n, _, hv⟩ := bind_eq_ok.mp hfield
          cases hv
          rw [if_pos h4]
          rfl
      · cases hfield

/-! ## A raw integer and its bytes -/

/-- The bytes of a field of one or two bytes, the high one first. -/
def shortBytes (raw : Int) (record : ChannelDefinition) : Bytes :=
  if record.length = 1 then [(shortToBytes raw).1]
  else [(shortToBytes raw).2, (shortToBytes raw).1]

/-- How many numbers a field of some bytes can hold. -/
def fieldRange (record : ChannelDefinition) : Nat := 256 ^ record.length.toNat

theorem toNat_low (n : Int) : ((UInt8.ofNat (n % 256).toNat).toNat : Int) = n % 256 := by
  have hlo := Int.emod_nonneg n (show (256 : Int) ≠ 0 by decide)
  have hhi := Int.emod_lt_of_pos n (show (0 : Int) < 256 by decide)
  rw [UInt8.toNat_ofNat']
  omega

theorem signedNumber_one {raw : Int} : signedNumber [(shortToBytes raw).1] = raw.bmod 256 := by
  have hlow := toNat_low raw
  simp only [signedNumber, bigEndian, shortToBytes, List.foldl_cons, List.foldl_nil,
    List.length_singleton, Nat.zero_mul, Nat.zero_add, Int.bmod]
  split <;> split <;> omega

theorem signedNumber_two {raw : Int} :
    signedNumber [(shortToBytes raw).2, (shortToBytes raw).1] = raw.bmod 65536 := by
  have hlow := toNat_low raw
  have hhigh := toNat_low (raw / 256)
  have hsplit : raw % 65536 = raw / 256 % 256 * 256 + raw % 256 := by omega
  simp only [signedNumber, bigEndian, shortToBytes, List.foldl_cons, List.foldl_nil,
    List.length_cons, List.length_nil, Nat.zero_mul, Nat.zero_add, Int.bmod]
  split <;> split <;> omega

/-- The bytes of a raw integer spell it modulo the range of the field. -/
theorem signedNumber_shortBytes {raw : Int} {record : ChannelDefinition}
    (hlen : record.length = 1 ∨ record.length = 2) :
    signedNumber (shortBytes raw record) = raw.bmod (fieldRange record) := by
  rw [shortBytes, fieldRange]
  rcases hlen with hlen | hlen
  · rw [if_pos hlen, hlen, signedNumber_one]
    rfl
  · rw [if_neg (by omega), hlen, signedNumber_two]
    rfl

theorem shortToBytes_one (b : UInt8) : (shortToBytes (signedByte b)).1 = b := by
  have hlow := toNat_low (signedByte b)
  refine UInt8.toNat_inj.mp ?_
  have := b.toNat_lt
  have hrange : signedByte b % 256 = b.toNat := by
    rw [signedByte]
    split <;> omega
  show (UInt8.ofNat (signedByte b % 256).toNat).toNat = b.toNat
  omega

theorem signedNumber_pair (high low : UInt8) :
    (high.toNat * 256 + low.toNat < 32768 ∧
        signedNumber [high, low] = high.toNat * 256 + low.toNat) ∨
      (32768 ≤ high.toNat * 256 + low.toNat ∧
        signedNumber [high, low] = high.toNat * 256 + low.toNat - 65536) := by
  simp only [signedNumber, bigEndian, List.foldl_cons, List.foldl_nil, List.length_cons,
    List.length_nil]
  split_ifs <;> omega

theorem shortToBytes_two (high low : UInt8) :
    shortToBytes (signedNumber [high, low]) = (low, high) := by
  have hlow := toNat_low (signedNumber [high, low])
  have hhigh := toNat_low (signedNumber [high, low] / 256)
  have hnumber := signedNumber_pair high low
  have := high.toNat_lt
  have := low.toNat_lt
  have hl : UInt8.ofNat (signedNumber [high, low] % 256).toNat = low := by
    refine UInt8.toNat_inj.mp ?_
    omega
  have hh : UInt8.ofNat (signedNumber [high, low] / 256 % 256).toNat = high := by
    refine UInt8.toNat_inj.mp ?_
    omega
  rw [shortToBytes, hl, hh]

/-- The signed range of the field. -/
def FitsField (raw : Int) (record : ChannelDefinition) : Prop :=
  -(fieldRange record : Int) ≤ 2 * raw ∧ 2 * raw < fieldRange record

instance (raw : Int) (record : ChannelDefinition) : Decidable (FitsField raw record) :=
  inferInstanceAs (Decidable (_ ∧ _))

theorem fieldRange_even {record : ChannelDefinition}
    (hlen : record.length = 1 ∨ record.length = 2) :
    fieldRange record % 2 = 0 ∧ 4 ≤ fieldRange record := by
  rw [fieldRange]
  rcases hlen with hlen | hlen <;> rw [hlen] <;> decide

theorem fitsField_iff {raw : Int} {record : ChannelDefinition}
    (hlen : record.length = 1 ∨ record.length = 2) :
    FitsField raw record ↔ raw.bmod (fieldRange record) = raw := by
  obtain ⟨heven, hfour⟩ := fieldRange_even hlen
  rw [FitsField]
  refine ⟨?_, ?_⟩
  · intro h
    exact Int.bmod_eq_of_le (by omega) (by omega)
  · intro h
    have hlo := Int.le_bmod (x := raw) (m := fieldRange record) (by omega)
    have hhi := Int.bmod_lt (x := raw) (m := fieldRange record) (by omega)
    rw [h] at hlo hhi
    omega

theorem bigEndian_foldl_lt (raw : Bytes) : ∀ n : Nat,
    raw.foldl (fun n b => n * 256 + b.toNat) n < (n + 1) * 256 ^ raw.length := by
  induction raw with
  | nil => intro n; simp
  | cons b rest ih =>
      intro n
      have hb := b.toNat_lt
      rw [List.foldl_cons, List.length_cons, pow_succ]
      calc rest.foldl (fun n b => n * 256 + b.toNat) (n * 256 + b.toNat)
          < (n * 256 + b.toNat + 1) * 256 ^ rest.length := ih _
        _ ≤ ((n + 1) * 256) * 256 ^ rest.length :=
            Nat.mul_le_mul_right _ (by omega)
        _ = (n + 1) * (256 ^ rest.length * 256) := by ring

/-- The number in a field is one that the field can hold. -/
theorem fitsField_signedNumber {record : ChannelDefinition} {raw : Bytes}
    (hlen : record.length = raw.length) (hne : raw ≠ []) :
    FitsField (signedNumber raw) record := by
  have hlt : bigEndian raw < 256 ^ raw.length := by
    have h := bigEndian_foldl_lt raw 0
    rwa [Nat.zero_add, Nat.one_mul] at h
  obtain ⟨half, hhalf⟩ : ∃ half, 256 ^ raw.length = 2 * half := by
    obtain ⟨b, rest, rfl⟩ := List.exists_cons_of_ne_nil hne
    exact ⟨256 ^ rest.length * 128, by rw [List.length_cons, pow_succ]; ring⟩
  rw [FitsField, fieldRange, hlen, Int.toNat_natCast, signedNumber]
  have hcast : ((256 ^ raw.length : Nat) : Int) = 256 ^ raw.length := by push_cast; rfl
  rw [hhalf] at hlt ⊢
  rw [← hcast, hhalf]
  push_cast
  split <;> omega

/-- Written bytes are found where they were written. -/
theorem fieldBytes_written {frame : Bytes} {raw : Int} {record : ChannelDefinition}
    (h : Contained frame.length record) (hlen : record.length = 1 ∨ record.length = 2) :
    fieldBytes ((shortWrites raw record).apply frame) record = shortBytes raw record := by
  rcases hlen with hlen | hlen
  · obtain ⟨p, hp, hle⟩ := h.exists_place (k := 1) hlen
    rw [fieldBytes_eq hp hlen (by rw [Writes.apply_length]; exact hle), shortWrites, shortBytes,
      if_pos hlen, if_pos hlen, hp, Writes.apply_cons, place_natCast]
    show ((frame.set p _).drop p).take 1 = _
    rw [List.drop_set, if_neg (by omega), Nat.sub_self, List.drop_eq_getElem_cons (by omega)]
    rfl
  · obtain ⟨p, hp, hle⟩ := h.exists_place (k := 2) hlen
    have hnext : (p : Int) + 1 = ((p + 1 : Nat) : Int) := by push_cast; rfl
    rw [fieldBytes_eq hp hlen (by rw [Writes.apply_length]; exact hle), shortWrites, shortBytes,
      if_neg (by omega), if_pos hlen, if_neg (by omega), hp, hnext, Writes.apply_cons,
      Writes.apply_cons, place_natCast, place_natCast]
    show (((frame.set p _).set (p + 1) _).drop p).take 2 = _
    rw [List.drop_set, if_neg (by omega), List.drop_set, if_neg (by omega), Nat.sub_self,
      Nat.add_sub_cancel_left, List.drop_eq_getElem_cons (show p < frame.length by omega),
      List.drop_eq_getElem_cons (show p + 1 < frame.length by omega)]
    rfl

/-- Bytes outside a field do not matter to it. -/
theorem fieldBytes_set {frame : Bytes} {record : ChannelDefinition} {j len : Nat} {b : UInt8}
    (h : Contained frame.length record) (hlen : record.length = len)
    (hj : (j : Int) < record.position ∨ record.position + record.length ≤ j) :
    fieldBytes (frame.set j b) record = fieldBytes frame record := by
  obtain ⟨p, hp, hle⟩ := h.exists_place hlen
  rw [fieldBytes_eq hp hlen (by rw [List.length_set]; exact hle), fieldBytes_eq hp hlen hle,
    List.drop_set]
  split
  · rfl
  · rw [List.take_set_of_le (by omega)]

/-! ## Numbers that become floats -/

/-- Each number of the field becomes a float; none overflows on the way there. -/
def Legible (record : ChannelDefinition) : Prop :=
  record.valueKind = .number → ∀ number : Int, FitsField number record →
    ∃ x, roundHundredths ((PyFloat.ofInt number).mul record.scale) = .ok x

theorem scale_eq_one_iff {scale : PyFloat} : scale.eq (.finite 1) = true ↔ scale = .finite 1 := by
  cases scale with
  | finite s => simp [PyFloat.eq]
  | posInf | negInf | nan => simp [PyFloat.eq]

theorem valueKind_number {record : ChannelDefinition} (hbit : ¬ record.bitPosition > 0)
    (hswitch : ¬ record.isSwitch = true) (hlen : record.length = 1 ∨ record.length = 2)
    (hscale : record.scale.eq (.finite 1) = false) : record.valueKind = .number := by
  rw [ChannelDefinition.valueKind, if_neg hbit, if_neg hswitch, if_neg (by omega), hscale]
  rfl

/-- No scale up to this one overflows with a number of one or two bytes. -/
theorem legible_of_le {record : ChannelDefinition} {s : ℚ}
    (hlen : record.length = 1 ∨ record.length = 2) (hs : record.scale = .finite s)
    (hsmall : |s| ≤ 10 ^ 300) : Legible record := by
  intro _ number hfits
  have hnumber : |(number : ℚ)| ≤ 32768 := by
    have hrange : fieldRange record ≤ 65536 := by
      rw [fieldRange]
      rcases hlen with h | h <;> rw [h] <;> decide
    obtain ⟨hlo, hhi⟩ := hfits
    have hint : |number| ≤ 32768 := abs_le.mpr ⟨by omega, by omega⟩
    exact_mod_cast hint
  obtain ⟨most, hmost⟩ : ∃ most : ℚ, most = 32768 * 10 ^ 300 := ⟨_, rfl⟩
  have hproduct : |(number : ℚ) * s| ≤ most := by
    rw [abs_mul, hmost]
    exact mul_le_mul hnumber hsmall (abs_nonneg s) (by norm_num)
  have hbound : 1000 * most < Floating.twoPow 1023 := by
    rw [hmost]
    decide +kernel
  have hone : 1 ≤ most := by
    rw [hmost]
    decide +kernel
  have hscaled : PyFloat.Representable (number * s) :=
    PyFloat.representable_of_lt (show (1023 : ℤ) ≤ 1023 by decide)
      (by linarith only [hproduct, hbound, hone])
  obtain ⟨y, hy⟩ : ∃ y, y = PyFloat.double.nearest (number * s) := ⟨_, rfl⟩
  have hynear : |y| ≤ 2 * |(number : ℚ) * s| + 1 := hy ▸ PyFloat.abs_double_le _
  have hhundred : PyFloat.Representable (y * 100) := by
    refine PyFloat.representable_of_lt (by decide) (lt_of_le_of_lt ?_ hbound)
    rw [abs_mul, abs_of_pos (show (0 : ℚ) < 100 by norm_num)]
    linarith only [hynear, hproduct, hone]
  have hmul : (PyFloat.ofInt number).mul record.scale = .finite y := by
    rw [hs, hy]
    exact PyFloat.ofRat_finite hscaled
  have hsum : ((PyFloat.finite y).mul (.finite 100)).add (.finite (1 / 2))
      = .finite (PyFloat.double.nearest (PyFloat.double.nearest (y * 100) + 1 / 2)) :=
    PyFloat.ofRat_add_half hhundred
  rw [hmul, roundHundredths, hsum]
  exact ⟨_, rfl⟩

end HeatpumpGateway
