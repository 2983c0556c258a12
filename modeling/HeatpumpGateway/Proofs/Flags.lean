import HeatpumpGateway.Proofs.Bits

/-!
# Writing a flag

A flag is read from the bit `bit_position` counts from the front of its field, in
whichever byte that is, and written to that bit of the first byte. A switch is read
from its whole field and written to the first byte of it. Both agree in a field of
one byte; `flag_round_trip_iff` says when they do in a field of two.
-/

namespace HeatpumpGateway

open Fallible

/-- What a flag makes of the first byte of its field. -/
def flagByte (record : ChannelDefinition) (old : UInt8) (b : Bool) : UInt8 :=
  if record.bitPosition > 0 then setBit old record.bitPosition b else if b then 1 else 0

/-- A frame with a flag written to it, before its checksum. -/
def flagFrame (record : ChannelDefinition) (frame : Bytes) (b : Bool) (p : Nat) : Bytes :=
  (frame.set 1 SET).set p (flagByte record (frame.getD p 0) b)

theorem compose_flag {record : ChannelDefinition} {frame out : Bytes} {b : Bool} {p : Nat}
    (hlen : record.length = 1 ∨ record.length = 2) (h : InPayload frame.length record)
    (hp : record.position = p) :
    composeRecord (.bool b) frame record = .ok out ↔
      out = sealed (flagFrame record frame b p) := by
  rw [composeRecord_payload (by omega) h]
  have hwrites : (fieldWrites (.bool b) frame record).apply (frame.set 1 SET)
      = flagFrame record frame b p := by
    rw [fieldWrites, flagFrame, flagByte, hp]
    split
    · rw [Writes.apply_cons, place_natCast, place_natCast]
      rfl
    · rw [Writes.apply_cons, place_natCast]
      rfl
  rw [hwrites]
  exact ⟨And.right, fun heq => ⟨trivial, heq⟩⟩

/-- Outside of the first byte, the status and the checksum nothing is written. -/
theorem flagFrame_other {record : ChannelDefinition} {frame : Bytes} {b : Bool} {p j : Nat}
    (h₁ : j ≠ 1) (h₂ : j ≠ 2) (hp : j ≠ p) :
    (sealed (flagFrame record frame b p))[j]? = frame[j]? := by
  rw [sealed, flagFrame, List.getElem?_set_ne (Ne.symm h₂), List.getElem?_set_ne (Ne.symm hp),
    List.getElem?_set_ne (Ne.symm h₁)]

theorem flagFrame_first {record : ChannelDefinition} {frame : Bytes} {b : Bool} {p : Nat}
    (h₃ : 3 ≤ p) (hp : p < frame.length) :
    (sealed (flagFrame record frame b p))[p]? = some (flagByte record (frame.getD p 0) b) := by
  rw [sealed, flagFrame, List.getElem?_set_ne (by omega), List.getElem?_set_self]
  rw [List.length_set]
  exact hp

@[simp] theorem flagFrame_length (record : ChannelDefinition) (frame : Bytes) (b : Bool)
    (p : Nat) : (sealed (flagFrame record frame b p)).length = frame.length := by
  rw [sealed_length, flagFrame, List.length_set, List.length_set]

/-! ## Reading a flag -/

/-- A bit number is read from the byte it counts to. -/
theorem parse_bit_iff {record : ChannelDefinition} {out : Bytes} {b : Bool} {p k i : Nat}
    (hlen : record.length = 1 ∨ record.length = 2) (h : Contained out.length record)
    (hout : 2 ≤ out.length) (hp : record.position = p) (hbit : 0 < record.bitPosition)
    (hk : record.bitPosition / 8 = k) (hi : record.bitPosition % 8 = i)
    (hin : (k : Int) < record.length) :
    parseRecord out record = .ok (.bool b) ↔ bitAt out (p + k) i = some b := by
  rw [parseRecord_ok_iff h hout, decodeField_short h hlen, decodeNumber, if_pos hbit,
    getBitFromBytes_map, hk, hi, getItem_natCast]
  have hbyte : (fieldBytes out record)[k]? = out[p + k]? := by
    obtain ⟨len, hnat⟩ : ∃ len : Nat, record.length = len :=
      ⟨record.length.toNat, by omega⟩
    rw [fieldBytes_eq hp hnat (by have := h.2; omega), List.getElem?_take_of_lt (by omega),
      List.getElem?_drop]
  rw [hbyte, bitAt]
  cases out[p + k]? with
  | none => simp [Except.map]
  | some x => simp [Except.map]

/-- A number is zero when its bytes are. -/
theorem signedNumber_eq_zero_iff {raw : Bytes} (hlen : raw.length = 1 ∨ raw.length = 2) :
    signedNumber raw = 0 ↔ ∀ x ∈ raw, x = 0 := by
  have hzero : ∀ x : UInt8, x = 0 ↔ x.toNat = 0 := fun x => by
    rw [← UInt8.toNat_inj]
    rfl
  rcases hlen with hlen | hlen
  · obtain ⟨x, rfl⟩ := List.length_eq_one_iff.mp hlen
    have := x.toNat_lt
    simp only [signedNumber, bigEndian, List.foldl_cons, List.foldl_nil, List.length_singleton,
      List.mem_singleton, forall_eq, hzero]
    split_ifs <;> omega
  · obtain ⟨x, y, rfl⟩ := List.length_eq_two.mp hlen
    have := x.toNat_lt
    have := y.toNat_lt
    simp only [signedNumber, bigEndian, List.foldl_cons, List.foldl_nil, List.length_cons,
      List.length_nil, List.mem_cons, List.not_mem_nil, or_false, forall_eq_or_imp, forall_eq,
      hzero]
    split_ifs <;> omega

/-- A switch is read as off when every byte of its field is zero. -/
theorem parse_switch_iff {record : ChannelDefinition} {out : Bytes} {b : Bool} {p len : Nat}
    (hlen : len = 1 ∨ len = 2) (hl : record.length = len) (h : Contained out.length record)
    (hout : 2 ≤ out.length) (hp : record.position = p) (hbit : ¬ 0 < record.bitPosition)
    (hswitch : record.isSwitch = true) :
    parseRecord out record = .ok (.bool b) ↔
      (b = false ↔ ∀ k, k < len → out[p + k]? = some 0) := by
  have hraw : (fieldBytes out record).length = len := fieldBytes_length h hl
  have hbytes : ∀ k, k < len → (fieldBytes out record)[k]? = out[p + k]? := by
    intro k hk
    rw [fieldBytes_eq hp hl (by have := h.2; omega), List.getElem?_take_of_lt hk,
      List.getElem?_drop]
  have hzero : (∀ x ∈ fieldBytes out record, x = 0) ↔ ∀ k, k < len → out[p + k]? = some 0 := by
    refine ⟨?_, ?_⟩
    · intro hall k hk
      rw [← hbytes k hk, List.getElem?_eq_getElem (hraw ▸ hk)]
      exact congrArg some (hall _ (List.getElem_mem _))
    · intro hall x hx
      obtain ⟨k, hk, rfl⟩ := List.mem_iff_getElem.mp hx
      have hsome := hall k (hraw ▸ hk)
      rw [← hbytes k (hraw ▸ hk), List.getElem?_eq_getElem hk] at hsome
      exact Option.some.inj hsome
  have hshort : record.length = 1 ∨ record.length = 2 := by omega
  rw [parseRecord_ok_iff h hout, decodeField_short h hshort, decodeNumber, if_neg hbit, hswitch,
    if_pos rfl, ← hzero, ← signedNumber_eq_zero_iff (by omega), numberAt, Except.ok.injEq,
    DecodedValue.bool.injEq]
  cases b <;> simp

/-! ## What comes back of a written flag -/

/-- Where a flag is read as it was written. A bit number of eight or more is written to
one bit and read from another, so both have to hold the value already; and a switch of
two bytes is not off before its second byte is. -/
def FlagKept (frame : Bytes) (record : ChannelDefinition) (b : Bool) : Prop :=
  if 8 ≤ record.bitPosition then
    bitAt frame record.position.toNat (record.bitPosition % 8).toNat = some b ∧
      bitAt frame (record.position.toNat + 1) (record.bitPosition % 8).toNat = some b
  else 0 < record.bitPosition ∨ record.length = 1 ∨ b = true ∨
    frame[record.position.toNat + 1]? = some 0

instance (frame : Bytes) (record : ChannelDefinition) (b : Bool) :
    Decidable (FlagKept frame record b) := by
  unfold FlagKept
  infer_instance

/-- The flag comes back, and no bit outside of its field changes but in the status and
the checksum. -/
def FlagRoundTrip (frame : Bytes) (record : ChannelDefinition) (b : Bool) : Prop :=
  ∃ out, composeRecord (.bool b) frame record = .ok out ∧
    parseRecord out record = .ok (.bool b) ∧
    ∀ j i, i < 8 → j ≠ 1 → j ≠ 2 → ¬ FieldBit frame.length record j i →
      bitAt out j i = bitAt frame j i

theorem bitAt_flagFrame {record : ChannelDefinition} {frame : Bytes} {b : Bool} {p i k : Nat}
    (h₃ : 3 ≤ p) (hp : p < frame.length) (hbit : 0 < record.bitPosition) (hi : i < 8)
    (hk : record.bitPosition % 8 = k) :
    bitAt (sealed (flagFrame record frame b p)) p i =
      if k = i then some b else bitAt frame p i := by
  have hmod : setBit (frame.getD p 0) record.bitPosition b = setBit (frame.getD p 0) k b := by
    rw [setBit, setBit, hk, show (k : Int) % 8 = k by omega]
  have hold : frame.getD p 0 = frame.get ⟨p, hp⟩ := by
    rw [List.getD_eq_getElem?_getD, List.getElem?_eq_getElem hp]
    rfl
  rw [bitAt, flagFrame_first h₃ hp, flagByte, if_pos hbit, hmod, Option.map_some, bitAt,
    List.getElem?_eq_getElem hp, Option.map_some,
    testBit_setBit (by omega) (by omega) (by omega) (by omega), hold]
  by_cases hki : k = i
  · rw [if_pos hki, if_pos (by omega)]
  · rw [if_neg hki, if_neg (by omega)]
    rfl

/-- A round trip, of the one frame that the flag is composed into. -/
theorem flagRoundTrip_iff {record : ChannelDefinition} {frame : Bytes} {b : Bool} {p : Nat}
    (hlen : record.length = 1 ∨ record.length = 2) (h : InPayload frame.length record)
    (hp : record.position = p) :
    FlagRoundTrip frame record b ↔
      parseRecord (sealed (flagFrame record frame b p)) record = .ok (.bool b) ∧
      ∀ i, i < 8 → ¬ FieldBit frame.length record p i →
        bitAt (sealed (flagFrame record frame b p)) p i = bitAt frame p i := by
  have h₃ := h.1
  refine ⟨?_, ?_⟩
  · intro hc
    obtain ⟨out, hout, hparse, hother⟩ := hc
    obtain rfl := (compose_flag hlen h hp).mp hout
    exact ⟨hparse, fun i hi hno => hother p i hi (by omega) (by omega) hno⟩
  · intro hc
    obtain ⟨hparse, hfirst⟩ := hc
    refine ⟨_, (compose_flag hlen h hp).mpr rfl, hparse, ?_⟩
    intro j i hi h₁ h₂ hno
    by_cases hj : j = p
    · obtain rfl := hj
      exact hfirst i hi hno
    · exact bitAt_congr (flagFrame_other h₁ h₂ hj) i

/-- A single bit, in the first byte of its field or in the second. -/
theorem bit_round_trip_iff {record : ChannelDefinition} {frame : Bytes} {b : Bool}
    (hlen : record.length = 1 ∨ record.length = 2) (hin : record.bitPosition < 8 * record.length)
    (h : InPayload frame.length record) (hbit : 0 < record.bitPosition) :
    FlagRoundTrip frame record b ↔ FlagKept frame record b := by
  obtain ⟨p, hp, h₃, hn⟩ := h.exists_place
  obtain ⟨k, hk⟩ := Int.eq_ofNat_of_zero_le (show 0 ≤ record.bitPosition / 8 by omega)
  obtain ⟨i, hi⟩ := Int.eq_ofNat_of_zero_le (show 0 ≤ record.bitPosition % 8 by omega)
  have hplt : p < frame.length := by omega
  have hfield : ∀ i' : Nat, FieldBit frame.length record p i' ↔ k = 0 ∧ i = i' := by
    intro i'
    have hnorm : normIndex frame.length (p : Int) = p := if_neg (by omega)
    rw [FieldBit, if_pos ⟨hbit, by omega⟩, hp, hnorm, hk, hi]
    omega
  have hcontained := h.contained
  rw [← flagFrame_length record frame b p] at hcontained
  rw [flagRoundTrip_iff hlen h hp, parse_bit_iff hlen hcontained
    (by rw [flagFrame_length]; omega) hp hbit hk hi (by omega), FlagKept, hp, hi,
    Int.toNat_natCast, Int.toNat_natCast]
  simp only [hfield]
  by_cases hfar : 8 ≤ record.bitPosition
  · -- The bit that is read is in the second byte, which is not written.
    obtain rfl : k = 1 := by omega
    have hsecond : bitAt (sealed (flagFrame record frame b p)) (p + 1) i
        = bitAt frame (p + 1) i := bitAt_congr (flagFrame_other (by omega) (by omega) (by omega)) i
    rw [if_pos hfar, hsecond, and_comm]
    refine and_congr_left fun _ => ⟨?_, ?_⟩
    · intro hfirst
      rw [← hfirst i (by omega) (by omega), bitAt_flagFrame h₃ hplt hbit (by omega) hi, if_pos rfl]
    · intro hkept i' hi' _
      rw [bitAt_flagFrame h₃ hplt hbit hi' hi]
      split
      · next heq => rw [← heq, hkept]
      · rfl
  · obtain rfl : k = 0 := by omega
    rw [if_neg hfar]
    refine iff_of_true ⟨?_, ?_⟩ (.inl hbit)
    · rw [Nat.add_zero, bitAt_flagFrame h₃ hplt hbit (by omega) hi, if_pos rfl]
    · intro i' hi' hno
      rw [bitAt_flagFrame h₃ hplt hbit hi' hi, if_neg fun heq => hno ⟨rfl, heq⟩]

/-- A switch, whose field is read as a whole. -/
theorem switch_round_trip_iff {record : ChannelDefinition} {frame : Bytes} {b : Bool}
    (hlen : record.length = 1 ∨ record.length = 2) (h : InPayload frame.length record)
    (hbit : ¬ 0 < record.bitPosition) (hswitch : record.isSwitch = true) :
    FlagRoundTrip frame record b ↔ FlagKept frame record b := by
  obtain ⟨p, hp, h₃, hn⟩ := h.exists_place
  obtain ⟨len, hnat⟩ : ∃ len : Nat, record.length = len := ⟨record.length.toNat, by omega⟩
  have hplt : p < frame.length := by omega
  have hfield : ∀ i' : Nat, FieldBit frame.length record p i' := by
    intro i'
    have hnorm : normIndex frame.length (p : Int) = p := if_neg (by omega)
    rw [FieldBit, if_neg fun hc => hbit hc.1, hp, hnorm]
    omega
  have hfirst : (sealed (flagFrame record frame b p))[p]? = some (if b then 1 else 0) := by
    rw [flagFrame_first h₃ hplt, flagByte, if_neg hbit]
  have hcontained := h.contained
  rw [← flagFrame_length record frame b p] at hcontained
  rw [flagRoundTrip_iff hlen h hp, parse_switch_iff (by omega) hnat hcontained
    (by rw [flagFrame_length]; omega) hp hbit hswitch, FlagKept, if_neg (by omega), hp,
    Int.toNat_natCast]
  simp only [hfield, not_true_eq_false, false_imp_iff, implies_true, and_true, hbit, false_or]
  cases b with
  | true =>
      refine iff_of_true ?_ (.inr (.inl rfl))
      refine iff_of_false Bool.noConfusion fun hall => ?_
      have hzero := hall 0 (by omega)
      rw [Nat.add_zero, hfirst] at hzero
      exact absurd (Option.some.inj hzero) (by decide)
  | false =>
      simp only [Bool.false_eq_true, false_or, true_iff]
      refine ⟨?_, ?_⟩
      · intro hall
        by_cases hone : len = 1
        · exact .inl (by omega)
        · have hsecond : (sealed (flagFrame record frame false p))[p + 1]? = frame[p + 1]? :=
            flagFrame_other (by omega) (by omega) (by omega)
          rw [← hsecond]
          exact .inr (hall 1 (by omega))
      · intro hc k hk
        rcases Nat.eq_zero_or_pos k with rfl | hpos
        · exact hfirst
        · obtain rfl : k = 1 := by omega
          rw [flagFrame_other (by omega) (by omega) (by omega)]
          rcases hc with hone | hzero
          · omega
          · exact hzero

/-- What is written to a flag is read from it, and nothing else changes, exactly where
the flag is kept. -/
theorem flag_round_trip_iff {record : ChannelDefinition} {frame : Bytes} {b : Bool}
    (hkind : record.valueKind = .boolean) (hlen : record.length = 1 ∨ record.length = 2)
    (hin : record.bitPosition < 8 * record.length) (h : InPayload frame.length record) :
    FlagRoundTrip frame record b ↔ FlagKept frame record b := by
  by_cases hbit : 0 < record.bitPosition
  · exact bit_round_trip_iff hlen hin h hbit
  · refine switch_round_trip_iff hlen h hbit ?_
    by_contra hno
    exact not_boolean_iff.mpr ⟨hbit, by simpa using hno⟩ hkind

/-- A flag in the second byte of its field. -/
def secondByteFlag : ChannelDefinition :=
  { channelId := "HeatPipeValve", requestByte := "FB", dataType := .settings
    position := 4, length := 2, bitPosition := 9 }

def flagsFB : Bytes := [0x01, 0x00, 0xFC, 0xFB, 0x00, 0x00, 0x10, 0x03]

theorem flag_round_trip_set :
    FlagRoundTrip [0x01, 0x00, 0x3C, 0xFB, 0x40, 0x40, 0x10, 0x03] secondByteFlag true :=
  (flag_round_trip_iff (by decide +kernel) (.inr rfl) (by decide) (by decide)).mpr (by decide)

/-- Bit 9 is set in the first byte, where it is bit 1, and still read as unset. -/
theorem flag_written_to_first_byte :
    secondByteFlag.valueKind = .boolean ∧ secondByteFlag.length = 2 ∧
      secondByteFlag.bitPosition < 8 * secondByteFlag.length ∧
      InPayload flagsFB.length secondByteFlag ∧
      composeRecord (.bool true) flagsFB secondByteFlag
        = .ok [0x01, 0x80, 0xBC, 0xFB, 0x40, 0x00, 0x10, 0x03] ∧
      parseRecord [0x01, 0x80, 0xBC, 0xFB, 0x40, 0x00, 0x10, 0x03] secondByteFlag
        = .ok (.bool false) ∧
      ¬ FlagRoundTrip flagsFB secondByteFlag true := by
  have hno : ¬ FlagRoundTrip flagsFB secondByteFlag true := by
    intro hc
    obtain ⟨out, hout, hparse, _⟩ := hc
    have hcomposed : composeRecord (.bool true) flagsFB secondByteFlag
        = .ok [0x01, 0x80, 0xBC, 0xFB, 0x40, 0x00, 0x10, 0x03] := by decide +kernel
    obtain rfl := Except.ok.inj (hcomposed.symm.trans hout)
    have hread : parseRecord [0x01, 0x80, 0xBC, 0xFB, 0x40, 0x00, 0x10, 0x03] secondByteFlag
        = .ok (.bool false) := by decide +kernel
    exact absurd (hread.symm.trans hparse) (by decide)
  exact ⟨by decide +kernel, rfl, by decide, by decide, by decide +kernel, by decide +kernel, hno⟩

end HeatpumpGateway
