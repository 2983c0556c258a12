import HeatpumpGateway.Proofs.Registers

/-!
# Bits of a frame

A frame as bits, and the bits that belong to a record's field: its one bit for a
record with a bit number, every bit of its bytes otherwise. `decodeField_congr` is
what the notion is for: a record decodes from the bits of its field alone, wherever
Python's indices put it.
-/

namespace HeatpumpGateway

open Fallible

/-- The bit of byte `j` that `bit_position` calls `i`. -/
def bitAt (frame : Bytes) (j i : Nat) : Option Bool := frame[j]?.map (bitOf · i)

/-- Bit `i` of byte `j` belongs to the record's field in a frame of length `n`. -/
def FieldBit (n : Nat) (record : ChannelDefinition) (j i : Nat) : Prop :=
  if 0 < record.bitPosition ∧ record.length ≠ 4 then
    (j : Int) = normIndex n record.position + record.bitPosition / 8 ∧
      (i : Int) = record.bitPosition % 8
  else normIndex n record.position ≤ j ∧ j < normIndex n record.position + record.length

instance (n : Nat) (record : ChannelDefinition) (j i : Nat) :
    Decidable (FieldBit n record j i) := by
  unfold FieldBit
  infer_instance

/-- The field lies between the checksum and the footer. -/
def InPayload (n : Nat) (record : ChannelDefinition) : Prop :=
  3 ≤ record.position ∧ record.position + record.length + 2 ≤ n

instance (n : Nat) (record : ChannelDefinition) : Decidable (InPayload n record) :=
  inferInstanceAs (Decidable (_ ∧ _))

/-! ## Bytes, bit by bit -/

theorem byte_ext {a b : UInt8} (h : ∀ i : Nat, i < 8 → bitOf a i = bitOf b i) : a = b := by
  refine UInt8.toNat_inj.mp (Nat.eq_of_testBit_eq fun k => ?_)
  rcases Nat.lt_or_ge k 8 with hk | hk
  · have hbit := h (7 - k) (by omega)
    rw [bitOf, bitOf, Int.toNat_natCast, show 7 - (7 - k) = k by omega] at hbit
    exact hbit
  · have high : ∀ x : UInt8, x.toNat.testBit k = false := fun x =>
      Nat.testBit_lt_two_pow
        (Nat.lt_of_lt_of_le x.toNat_lt (Nat.pow_le_pow_right (by decide) hk))
    rw [high, high]

/-- Frames of one length with the same bits in a byte have the same byte. -/
theorem getElem?_eq_of_bitAt {f g : Bytes} {j : Nat} (hlen : f.length = g.length)
    (h : ∀ i, i < 8 → bitAt f j i = bitAt g j i) : f[j]? = g[j]? := by
  rcases Nat.lt_or_ge j f.length with hj | hj
  · have hj' : j < g.length := hlen ▸ hj
    simp only [bitAt, List.getElem?_eq_getElem hj, List.getElem?_eq_getElem hj', Option.map_some,
      Option.some.injEq] at h ⊢
    exact byte_ext h
  · rw [List.getElem?_eq_none hj, List.getElem?_eq_none (hlen ▸ hj)]

theorem bitAt_congr {f g : Bytes} {j : Nat} (h : f[j]? = g[j]?) (i : Nat) :
    bitAt f j i = bitAt g j i := by
  rw [bitAt, bitAt, h]

/-- Reading a bit is reading its byte. -/
theorem getBitFromBytes_map (data : Bytes) (bitPosition : Int) :
    getBitFromBytes data bitPosition
      = (getItem data (bitPosition / 8)).map (bitOf · (bitPosition % 8)) := by
  rw [getBitFromBytes]
  cases hb : getItem data (bitPosition / 8) with
  | error e => rfl
  | ok b =>
      have hlo : 0 ≤ bitPosition % 8 := Int.emod_nonneg _ (by decide)
      have hhi : bitPosition % 8 ≤ 7 := by omega
      have hone := getBitFromBytes_eq (b := b) hlo hhi
      have hzero : getItem [b] (bitPosition % 8 / 8) = .ok b := by
        rw [show bitPosition % 8 / 8 = 0 by omega]
        rfl
      rw [getBitFromBytes, hzero, ok_bind, Int.emod_emod_of_dvd _ (Int.dvd_refl 8)] at hone
      exact hone

theorem getItem_natCast (data : Bytes) (k : Nat) :
    getItem data (k : Int) = (data[k]?).elim (.error (.indexError "index out of range")) .ok := by
  have hnorm : normIndex data.length (k : Int) = k := if_neg (by omega)
  rw [getItem, hnorm, if_pos (by omega), Int.toNat_natCast]
  cases data[k]? with
  | none => rfl
  | some b => rfl

theorem getItem_cases (data : Bytes) (i : Int) :
    (InRange data.length i ∧ ∃ b, getItem data i = .ok b) ∨
      (¬ InRange data.length i ∧ getItem data i = .error (.indexError "index out of range")) := by
  by_cases hin : InRange data.length i
  · exact .inl ⟨hin, data.get ⟨_, hin.place_lt⟩,
      getItem_ok_iff.mpr ⟨hin, List.getElem?_eq_getElem hin.place_lt⟩⟩
  · refine .inr ⟨hin, ?_⟩
    rw [InRange, not_and] at hin
    rw [getItem]
    split
    · next h₀ => rw [List.getElem?_eq_none (by have := hin h₀; omega)]
    · rfl

/-! ## A field's bits decide what it decodes to -/

/-- A slice of the full width starts at the index it names. -/
theorem sliceBound_full {n w : Nat} {p : Int} (hw : 0 < w)
    (h : sliceBound n (p + w) - sliceBound n p = w) :
    0 ≤ normIndex n p ∧ sliceBound n p = (normIndex n p).toNat := by
  unfold sliceBound normIndex at *
  split at h <;> split at h <;> split <;> omega

/-- A slice of one item is empty or starts at the index it names. -/
theorem sliceBound_one {n : Nat} {p : Int} (h : sliceBound n (p + 1) - sliceBound n p ≠ 0) :
    0 ≤ normIndex n p ∧ sliceBound n p = (normIndex n p).toNat := by
  unfold sliceBound normIndex at *
  split at h <;> split at h <;> split <;> omega

theorem slice_length (f : Bytes) (i j : Int) :
    (slice f i j).length = sliceBound f.length j - sliceBound f.length i := by
  have hle : sliceBound f.length j ≤ f.length := by
    rw [sliceBound]
    omega
  rw [slice, List.length_drop, List.length_take, Nat.min_eq_left hle]

theorem getElem?_slice {f : Bytes} {i j : Int} {k : Nat} (hk : k < (slice f i j).length) :
    (slice f i j)[k]? = f[sliceBound f.length i + k]? := by
  rw [slice_length] at hk
  rw [slice, List.getElem?_drop, List.getElem?_take_of_lt (by omega)]

section congr

variable {f g : Bytes} {record : ChannelDefinition}

/-- Bytes of the field that agree are read as the same item. -/
theorem getItem_congr {i : Int} (hlen : f.length = g.length)
    (h : 0 ≤ normIndex f.length i →
      f[(normIndex f.length i).toNat]? = g[(normIndex f.length i).toNat]?) :
    getItem f i = getItem g i := by
  rw [getItem, getItem, ← hlen]
  split
  · next hi => rw [h hi]
  · rfl

/-- Slices of the full width that agree byte by byte unpack alike. -/
theorem unpackSigned_congr {w : Nat} (hw : 0 < w) (hwidth : record.length = w)
    (hlen : f.length = g.length)
    (h : ∀ j : Nat, normIndex f.length record.position ≤ j →
      j < normIndex f.length record.position + record.length → f[j]? = g[j]?) :
    unpackSigned w (slice f record.position (record.position + record.length))
      = unpackSigned w (slice g record.position (record.position + record.length)) := by
  have hsame : (slice g record.position (record.position + record.length)).length
      = (slice f record.position (record.position + record.length)).length := by
    rw [slice_length, slice_length, hlen]
  by_cases hfull : (slice f record.position (record.position + record.length)).length = w
  · have hbounds := hfull
    rw [slice_length, hwidth] at hbounds
    obtain ⟨hstart, hbound⟩ := sliceBound_full hw hbounds
    have heq : slice f record.position (record.position + record.length)
        = slice g record.position (record.position + record.length) := by
      refine List.ext_getElem? fun k => ?_
      rcases Nat.lt_or_ge k w with hk | hk
      · rw [getElem?_slice (by omega), getElem?_slice (by omega), ← hlen, hbound]
        exact h _ (by omega) (by omega)
      · rw [List.getElem?_eq_none (by omega), List.getElem?_eq_none (by omega)]
    rw [heq]
  · rw [unpackSigned, unpackSigned, if_neg hfull, if_neg (by omega)]

/-- A bit that agrees is read alike. -/
theorem getBit_congr {w : Int} (hlen : f.length = g.length) (hbit : 0 < record.bitPosition)
    (hstart : (slice f record.position (record.position + w)).length ≠ 0 →
      0 ≤ normIndex f.length record.position ∧
        sliceBound f.length record.position = (normIndex f.length record.position).toNat)
    (h : ∀ j i : Nat, (j : Int) = normIndex f.length record.position + record.bitPosition / 8 →
      (i : Int) = record.bitPosition % 8 → bitAt f j i = bitAt g j i) :
    getBitFromBytes (slice f record.position (record.position + w)) record.bitPosition
      = getBitFromBytes (slice g record.position (record.position + w)) record.bitPosition := by
  have hsame : (slice g record.position (record.position + w)).length
      = (slice f record.position (record.position + w)).length := by
    rw [slice_length, slice_length, hlen]
  obtain ⟨k, hk⟩ := Int.eq_ofNat_of_zero_le (show 0 ≤ record.bitPosition / 8 by omega)
  obtain ⟨i, hi⟩ := Int.eq_ofNat_of_zero_le (show 0 ≤ record.bitPosition % 8 by omega)
  rw [getBitFromBytes_map, getBitFromBytes_map, hk, hi, getItem_natCast, getItem_natCast]
  rcases Nat.lt_or_ge k (slice f record.position (record.position + w)).length with hin | hout
  · obtain ⟨hnorm, hbound⟩ := hstart (by omega)
    have hbits := h (sliceBound f.length record.position + k) i (by omega) hi.symm
    rw [getElem?_slice hin, getElem?_slice (hsame ▸ hin), ← hlen]
    rw [bitAt, bitAt] at hbits
    cases hf : f[sliceBound f.length record.position + k]? with
    | none =>
        rw [hf, Option.map_none] at hbits
        rw [Option.map_eq_none_iff.mp hbits.symm]
    | some x =>
        rw [hf, Option.map_some] at hbits
        obtain ⟨y, hy, hxy⟩ := Option.map_eq_some_iff.mp hbits.symm
        rw [hy]
        exact congrArg Except.ok hxy.symm
  · rw [List.getElem?_eq_none hout, List.getElem?_eq_none (hsame ▸ hout)]

/-- A record decodes from the bits of its field alone. -/
theorem decodeField_congr (hlen : f.length = g.length)
    (h : ∀ j i, i < 8 → FieldBit f.length record j i → bitAt f j i = bitAt g j i) :
    decodeField f record = decodeField g record := by
  by_cases hbit : 0 < record.bitPosition ∧ record.length ≠ 4
  · have hone : ∀ j i : Nat, (j : Int) = normIndex f.length record.position +
        record.bitPosition / 8 → (i : Int) = record.bitPosition % 8 →
        bitAt f j i = bitAt g j i := by
      intro j i hj hi
      refine h j i (by omega) ?_
      rw [FieldBit, if_pos hbit]
      exact ⟨hj, hi⟩
    -- Only the bit counts, whatever number its bytes spell.
    have hnumber : ∀ raw m, decodeNumber raw m record
        = (getBitFromBytes raw record.bitPosition).map .bool := by
      intro raw m
      rw [decodeNumber, if_pos hbit.1]
      cases getBitFromBytes raw record.bitPosition <;> rfl
    simp only [decodeField, hnumber]
    by_cases h1 : record.length = 1
    · have hstart : (slice f record.position (record.position + 1)).length ≠ 0 →
          0 ≤ normIndex f.length record.position ∧
            sliceBound f.length record.position = (normIndex f.length record.position).toNat := by
        intro hne
        rw [slice_length] at hne
        exact sliceBound_one hne
      rw [if_pos h1, if_pos h1, h1]
      rcases getItem_cases f record.position with ⟨hin, x, hx⟩ | ⟨hout, hx⟩
      · obtain ⟨_, y, hy⟩ | ⟨hno, _⟩ := getItem_cases g record.position
        · rw [hx, hy, ok_bind, ok_bind, getBit_congr (w := 1) hlen hbit.1 hstart hone]
        · exact absurd (hlen ▸ hin) hno
      · obtain ⟨hno, _⟩ | ⟨_, hy⟩ := getItem_cases g record.position
        · exact absurd (hlen ▸ hno) hout
        · rw [hx, hy]
          rfl
    · rw [if_neg h1, if_neg h1]
      by_cases h2 : record.length = 2
      · rw [if_pos h2, if_pos h2, h2]
        have hsame : (slice g record.position (record.position + 2)).length
            = (slice f record.position (record.position + 2)).length := by
          rw [slice_length, slice_length, hlen]
        by_cases hfull : (slice f record.position (record.position + 2)).length = 2
        · rw [unpackSigned_eq hfull, unpackSigned_eq (hsame.trans hfull), ok_bind, ok_bind]
          rw [getBit_congr (w := 2) hlen hbit.1 (fun _ => ?_) hone]
          refine sliceBound_full (w := 2) (by decide) ?_
          rw [slice_length] at hfull
          exact hfull
        · rw [unpackSigned, unpackSigned, if_neg hfull, if_neg (by omega)]
          rfl
      · rw [if_neg h2, if_neg h2, if_neg hbit.2, if_neg hbit.2]
  · have hbytes : ∀ j : Nat, normIndex f.length record.position ≤ j →
        j < normIndex f.length record.position + record.length → f[j]? = g[j]? := by
      intro j hlo hhi
      refine getElem?_eq_of_bitAt hlen fun i hi => h j i hi ?_
      rw [FieldBit, if_neg hbit]
      exact ⟨hlo, hhi⟩
    have hnumber : record.length ≠ 4 → ∀ raw raw' m,
        decodeNumber raw m record = decodeNumber raw' m record := by
      intro h4 raw raw' m
      have hno : ¬ record.bitPosition > 0 := fun hpos => hbit ⟨hpos, h4⟩
      rw [decodeNumber, decodeNumber, if_neg hno, if_neg hno]
    rw [decodeField, decodeField]
    by_cases h1 : record.length = 1
    · rw [if_pos h1, if_pos h1, getItem_congr hlen fun h₀ => hbytes _ (by omega) (by omega)]
      exact bind_congr fun _ => hnumber (by omega) _ _ _
    · rw [if_neg h1, if_neg h1]
      by_cases h2 : record.length = 2
      · rw [if_pos h2, if_pos h2, unpackSigned_congr (by decide) h2 hlen hbytes]
        exact bind_congr fun _ => hnumber (by omega) _ _ _
      · rw [if_neg h2, if_neg h2]
        by_cases h4 : record.length = 4
        · rw [if_pos h4, if_pos h4, unpackSigned_congr (by decide) h4 hlen hbytes]
        · rw [if_neg h4, if_neg h4]

/-- What a record decodes to depends on its field alone, the text of an error apart. -/
theorem parseRecord_congr (hlen : f.length = g.length)
    (h : ∀ j i, i < 8 → FieldBit f.length record j i → bitAt f j i = bitAt g j i)
    (v : DecodedValue) : parseRecord f record = .ok v ↔ parseRecord g record = .ok v := by
  rw [parseRecord, parseRecord, ← hlen, ← decodeField_congr hlen h]
  split
  · simp
  · split
    · simp
    · cases decodeField f record with
      | ok value => rfl
      | error e => cases e <;> simp

end congr

/-! ## The bytes of a number -/

section short

variable {record : ChannelDefinition} {frame : Bytes} {p : Nat}

theorem shortWrites_apply_one (hp : record.position = p) (hlen : record.length = 1) (n : Int) :
    (shortWrites n record).apply frame = frame.set p (shortToBytes n).1 := by
  rw [shortWrites, if_pos hlen, Writes.apply, List.foldl_cons, List.foldl_nil, hp, place_natCast]

theorem shortWrites_apply_two (hp : record.position = p) (hlen : record.length = 2) (n : Int) :
    (shortWrites n record).apply frame
      = (frame.set p (shortToBytes n).2).set (p + 1) (shortToBytes n).1 := by
  have hsecond : ((p : Nat) : Int) + 1 = (p + 1 : Nat) := by omega
  rw [shortWrites, if_neg (by omega), if_pos hlen, Writes.apply, List.foldl_cons,
    List.foldl_cons, List.foldl_nil, hp, hsecond, place_natCast, place_natCast]

theorem shortWrites_other (h₁ : record.length ≠ 1) (h₂ : record.length ≠ 2) (n : Int) :
    shortWrites n record = [] := by
  rw [shortWrites, if_neg h₁, if_neg h₂]

end short

/-! ## Fields of the payload -/

theorem InPayload.contained {n : Nat} {record : ChannelDefinition} (h : InPayload n record) :
    Contained n record := ⟨by have := h.1; omega, by have := h.2; omega⟩

/-- A field of the payload, with its place as a natural number. -/
theorem InPayload.exists_place {n : Nat} {record : ChannelDefinition} (h : InPayload n record) :
    ∃ p : Nat, record.position = p ∧ 3 ≤ p ∧ (p : Int) + record.length + 2 ≤ n := by
  obtain ⟨h₀, h₁⟩ := h
  exact ⟨record.position.toNat, (Int.toNat_of_nonneg (by omega)).symm, by omega, by omega⟩

/-- What is written to a field does not depend on the bytes outside of it. -/
theorem fieldWrites_congr {v : DecodedValue} {f g : Bytes} {record : ChannelDefinition}
    (hlen : f.length = g.length)
    (h : f[place f.length record.position]? = g[place f.length record.position]?) :
    fieldWrites v f record = fieldWrites v g record := by
  cases v with
  | bool b =>
      rw [fieldWrites, fieldWrites, ← hlen, List.getD_eq_getElem?_getD, List.getD_eq_getElem?_getD,
        h]
  | int n => rfl
  | float x => rfl

/-- The field lies between the first two bytes and the footer of a frame of length `n` and
begins at byte `p`, with a position that may be counted from the end of the frame. -/
structure LiesAt (n : Nat) (record : ChannelDefinition) (p : Nat) : Prop where
  position : record.position = p ∨ record.position = (p : Int) - n
  behind : 2 ≤ p
  before : (p : Int) + record.length + 2 ≤ n
  length : 0 < record.length

/-- The record with its position counted from the start. -/
def ChannelDefinition.placedAt (record : ChannelDefinition) (p : Nat) : ChannelDefinition :=
  { record with position := p }

theorem placedAt_self {record : ChannelDefinition} {p : Nat} (h : record.position = p) :
    record.placedAt p = record := by
  rw [ChannelDefinition.placedAt, ← h]

theorem InPayload.liesAt {n : Nat} {record : ChannelDefinition} (h : InPayload n record)
    (hpos : 0 < record.length) : ∃ p : Nat, record.position = p ∧ LiesAt n record p := by
  obtain ⟨p, hp, h₃, hn⟩ := h.exists_place
  exact ⟨p, hp, .inl hp, Nat.le_of_succ_le h₃, hn, hpos⟩

namespace LiesAt
variable {n : Nat} {record : ChannelDefinition} {p : Nat} (h : LiesAt n record p)
include h

theorem normIndex_add (k : Nat) (hk : (k : Int) < record.length) :
    normIndex n (record.position + k) = (p + k : Nat) := by
  have hbefore := h.before
  rw [normIndex]
  rcases h.position with hp | hp
  · rw [if_neg (by omega)]
    omega
  · rw [if_pos (by omega)]
    omega

theorem inRange_add (k : Nat) (hk : (k : Int) < record.length) :
    InRange n (record.position + k) := by
  have hbefore := h.before
  rw [InRange, h.normIndex_add k hk]
  omega

theorem place_add (k : Nat) (hk : (k : Int) < record.length) :
    place n (record.position + k) = p + k := by
  rw [place, h.normIndex_add k hk, Int.toNat_natCast]

theorem place_position : place n record.position = p := by
  have hplace := h.place_add 0 h.length
  rwa [Int.natCast_zero, Int.add_zero] at hplace

theorem fieldInRange (v : DecodedValue) : FieldInRange n v record := by
  have hfirst : InRange n record.position := by
    have hrange := h.inRange_add 0 h.length
    rwa [Int.natCast_zero, Int.add_zero] at hrange
  have hshort : ShortInRange n record :=
    ⟨fun _ => hfirst, fun h₂ => ⟨hfirst, h.inRange_add 1 (by omega)⟩⟩
  cases v with
  | bool b => exact hfirst
  | int m => exact hshort
  | float x => exact hshort

end LiesAt

/-- Bytes written by a position from the end are written by the position from the start. -/
theorem LiesAt.apply_fieldWrites {record : ChannelDefinition} {p : Nat} {f g : Bytes}
    (h : LiesAt f.length record p) (hlen : g.length = f.length) (v : DecodedValue) :
    (fieldWrites v g record).apply f = (fieldWrites v g (record.placedAt p)).apply f := by
  have hplace := h.place_position
  have hp : (record.placedAt p).position = p := rfl
  have hfirst : ∀ x : UInt8, Writes.apply [(record.position, x)] f = f.set p x := by
    intro x
    rw [Writes.apply_cons, hplace]
    rfl
  have hfirst' : ∀ x : UInt8, Writes.apply [((p : Int), x)] f = f.set p x := by
    intro x
    rw [Writes.apply_cons, place_natCast]
    rfl
  have hshort : ∀ raw, (shortWrites raw record).apply f
      = (shortWrites raw (record.placedAt p)).apply f := by
    intro raw
    by_cases h₁ : record.length = 1
    · rw [shortWrites_apply_one hp h₁, shortWrites, if_pos h₁, hfirst]
    · by_cases h₂ : record.length = 2
      · have hsecond := h.place_add 1 (by omega)
        rw [shortWrites_apply_two hp h₂, shortWrites, if_neg h₁, if_pos h₂, Writes.apply_cons,
          Writes.apply_cons, hplace, List.length_set,
          show record.position + 1 = record.position + (1 : Nat) from rfl, hsecond]
        rfl
      · have hother : shortWrites raw (record.placedAt p) = [] :=
          shortWrites_other (show (record.placedAt p).length ≠ 1 from h₁) h₂ raw
        rw [shortWrites_other h₁ h₂, hother]
  cases v with
  | bool b =>
      rw [fieldWrites, fieldWrites, hlen, hplace, hp, place_natCast]
      by_cases hbit : record.bitPosition > 0
      · rw [if_pos hbit, if_pos (show (record.placedAt p).bitPosition > 0 from hbit), hfirst,
          hfirst']
        rfl
      · rw [if_neg hbit, if_neg (show ¬ (record.placedAt p).bitPosition > 0 from hbit), hfirst,
          hfirst']
  | int m => exact hshort _
  | float x => exact hshort _

/-- A value is composed into such a field as its bytes, a status and a checksum. -/
theorem composeRecord_liesAt {v : DecodedValue} {frame out : Bytes} {record : ChannelDefinition}
    {p : Nat} (h : LiesAt frame.length record p) :
    composeRecord v frame record = .ok out ↔ Encodable v record ∧
      out = sealed ((fieldWrites v frame (record.placedAt p)).apply (frame.set 1 SET)) := by
  have hlen : (frame.set 1 SET).length = frame.length := List.length_set ..
  have hset : LiesAt (frame.set 1 SET).length record p := hlen.symm ▸ h
  have hwrites : fieldWrites v (frame.set 1 SET) record = fieldWrites v frame record := by
    refine fieldWrites_congr hlen ?_
    have := h.behind
    rw [hlen, h.place_position, List.getElem?_set_ne (by omega)]
  rw [composeRecord_ok_iff, fieldFrame, hwrites, hset.apply_fieldWrites hlen.symm, sealed]
  refine and_congr_left fun _ => ⟨fun hc => hc.2.1, fun hv => ⟨?_, hv, h.fieldInRange v⟩⟩
  have := h.before
  have := h.behind
  have := h.length
  omega

/-- A value is composed into the payload as its field, a status and a checksum. -/
theorem composeRecord_payload {v : DecodedValue} {frame out : Bytes} {record : ChannelDefinition}
    (hpos : 0 < record.length) (h : InPayload frame.length record) :
    composeRecord v frame record = .ok out ↔ Encodable v record ∧
      out = sealed ((fieldWrites v frame record).apply (frame.set 1 SET)) := by
  obtain ⟨p, hp, hlies⟩ := h.liesAt hpos
  rw [composeRecord_liesAt hlies, placedAt_self hp]

end HeatpumpGateway
