import HeatpumpGateway.Proofs.Bits

/-!
# What a SET frame carries

A frame carries a value when it is a SET frame and the value's raw integer, or its flag,
can be read from its field. That a value was composed into a reply does not make the
result carry it: a number may be too large for its field, or the field be of four bytes,
which are never written; a flag is written to the first byte and may be read from another;
and the checksum goes over whatever lies in its place.

`carries_iff_lodged` tells from the value, the reply and the record whether the frame that
comes of them carries the value.
-/

namespace HeatpumpGateway

open Fallible

/-- The bytes of a field, from the place where it begins. -/
def heldBytes (frame : Bytes) (record : ChannelDefinition) : Bytes :=
  (frame.drop (place frame.length record.position)).take record.length.toNat

/-- The byte that has the flag's bit. -/
def flagPlace (n : Nat) (record : ChannelDefinition) : Nat :=
  place n record.position + (record.bitPosition / 8).toNat

/-- The frame is a SET frame and has the value in its field. -/
def CarriesValue (frame : Bytes) (record : ChannelDefinition) (v : DecodedValue) : Prop :=
  frame[1]? = some SET ∧ (heldBytes frame record).length = record.length.toNat ∧
    match v with
    | .bool b =>
        if 0 < record.bitPosition then
          record.bitPosition / 8 < record.length ∧
            bitAt frame (flagPlace frame.length record) (record.bitPosition % 8).toNat = some b
        else (b = true ↔ ∃ x ∈ heldBytes frame record, x ≠ 0)
    | v => rawOf v record = .ok (signedNumber (heldBytes frame record))

/-- What a byte that the value is not written to holds in the SET frame. -/
def keptByte (v : DecodedValue) (reply : Bytes) (record : ChannelDefinition) (j : Nat) : UInt8 :=
  if j = 2 then checksumOf (fieldFrame v reply record)
  else if j = 1 then SET else reply.getD j 0

/-- Where the SET frame of a flag has it: in the first byte of the field, unless that is the
checksum's; elsewhere, if the flag was there already. -/
def FlagLodged (b : Bool) (reply : Bytes) (record : ChannelDefinition) : Prop :=
  if 0 < record.bitPosition then
    record.bitPosition / 8 < record.length ∧
      ((record.bitPosition < 8 ∧ place reply.length record.position ≠ 2) ∨
        bitOf (keptByte (.bool b) reply record (flagPlace reply.length record))
          (record.bitPosition % 8) = b)
  else
    (b = true ∧ place reply.length record.position ≠ 2) ∨
      (b = true ↔ ∃ k < record.length.toNat, (k ≠ 0 ∨ place reply.length record.position = 2) ∧
        keptByte (.bool b) reply record (place reply.length record.position + k) ≠ 0)

/-- Where the SET frame of a number has it: in a field of one or two bytes that can hold it,
unless the checksum puts another byte there; in a longer one, if it was there already. -/
def NumberLodged (v : DecodedValue) (raw : Int) (reply : Bytes) (record : ChannelDefinition) :
    Prop :=
  if record.length = 1 ∨ record.length = 2 then
    FitsField raw record ∧ ∀ w ∈ shortWrites raw record, place reply.length w.1 = 2 →
      w.2 = checksumOf (fieldFrame v reply record)
  else
    signedNumber ((List.range record.length.toNat).map fun k =>
      keptByte v reply record (place reply.length record.position + k)) = raw

/-- The value is in its field once it is composed into the reply, and the status byte is
left alone. -/
def Lodged (v : DecodedValue) (reply : Bytes) (record : ChannelDefinition) : Prop :=
  (∀ w ∈ fieldWrites v (reply.set 1 SET) record, place reply.length w.1 = 1 → w.2 = SET) ∧
    match v, rawOf v record with
    | .bool b, _ => FlagLodged b reply record
    | v, .ok raw => NumberLodged v raw reply record
    | _, .error _ => False

instance (frame : Bytes) (record : ChannelDefinition) :
    ∀ v : DecodedValue, Decidable (CarriesValue frame record v)
  | .bool _ => inferInstanceAs (Decidable (_ ∧ _ ∧ ite _ _ _))
  | .int _ | .float _ => inferInstanceAs (Decidable (_ ∧ _ ∧ _ = _))

instance (b : Bool) (reply : Bytes) (record : ChannelDefinition) :
    Decidable (FlagLodged b reply record) := by
  unfold FlagLodged
  infer_instance

instance (v : DecodedValue) (raw : Int) (reply : Bytes) (record : ChannelDefinition) :
    Decidable (NumberLodged v raw reply record) := by
  unfold NumberLodged
  infer_instance

instance (reply : Bytes) (record : ChannelDefinition) :
    ∀ v : DecodedValue, Decidable (Lodged v reply record)
  | .bool b => inferInstanceAs (Decidable (_ ∧ FlagLodged b reply record))
  | .int n => inferInstanceAs (Decidable (_ ∧ NumberLodged (.int n) n reply record))
  | .float x => by
      unfold Lodged
      cases rawOf (.float x) record with
      | ok raw => exact inferInstanceAs (Decidable (_ ∧ NumberLodged (.float x) raw reply record))
      | error _ => exact inferInstanceAs (Decidable (_ ∧ False))

/-! ## Fields that decode -/

/-- A field that decodes is of one, two or four bytes and lies in the frame, wherever it is
counted from. -/
theorem parseRecord_within {frame : Bytes} {record : ChannelDefinition} {d : DecodedValue}
    (h : parseRecord frame record = .ok d) :
    (record.length = 1 ∨ record.length = 2 ∨ record.length = 4) ∧
      (place frame.length record.position : Int) + record.length ≤ frame.length := by
  have hfield := parseRecord_decodeField h
  have wide : ∀ w : Nat, 0 < w → record.length = w →
      (∃ n, unpackSigned w (slice frame record.position (record.position + record.length))
        = .ok n) → (place frame.length record.position : Int) + record.length ≤ frame.length := by
    intro w hw hlen hunpack
    obtain ⟨n, hn⟩ := hunpack
    rw [unpackSigned] at hn
    split at hn
    · next hfull =>
        rw [slice_length, hlen] at hfull
        obtain ⟨_, hstart⟩ := sliceBound_full hw hfull
        have hend : sliceBound frame.length (record.position + w) ≤ frame.length := by
          rw [sliceBound]
          exact Nat.min_le_right _ _
        rw [place, hlen, ← hstart]
        omega
    · cases hn
  rw [decodeField] at hfield
  by_cases h₁ : record.length = 1
  · rw [if_pos h₁] at hfield
    obtain ⟨number, hnumber, _⟩ := bind_eq_ok.mp hfield
    obtain ⟨hrange, _⟩ := getItem_ok_iff.mp hnumber
    have hlt := hrange.place_lt
    exact ⟨.inl h₁, by omega⟩
  · by_cases h₂ : record.length = 2
    · rw [if_neg h₁, if_pos h₂] at hfield
      obtain ⟨number, hnumber, _⟩ := bind_eq_ok.mp hfield
      exact ⟨.inr (.inl h₂), wide 2 (by decide) h₂ ⟨number, hnumber⟩⟩
    · by_cases h₄ : record.length = 4
      · rw [if_neg h₁, if_neg h₂, if_pos h₄] at hfield
        obtain ⟨number, hnumber, _⟩ := bind_eq_ok.mp hfield
        exact ⟨.inr (.inr h₄), wide 4 (by decide) h₄ ⟨number, hnumber⟩⟩
      · rw [if_neg h₁, if_neg h₂, if_neg h₄] at hfield
        cases hfield

/-! ## Bytes of the composed frame -/

section composed

variable {v : DecodedValue} {reply frame : Bytes} {record : ChannelDefinition}

/-- A byte that the value goes to holds it, the checksum's place apart. -/
theorem written_byte (hout : composeRecord v reply record = .ok frame) {w : Int × UInt8}
    (hw : w ∈ fieldWrites v (reply.set 1 SET) record) (h₂ : place reply.length w.1 ≠ 2) :
    frame[place reply.length w.1]? = some w.2 := by
  obtain ⟨⟨hlen, _, hrange⟩, rfl⟩ := composeRecord_ok_iff.mp hout
  obtain ⟨hnodup, hlt⟩ := fieldWrites_places (reply.set 1 SET) (by omega) hrange
  have hset : (reply.set 1 SET).length = reply.length := List.length_set ..
  rw [List.getElem?_set_ne (Ne.symm h₂), fieldFrame]
  have hbyte := @Writes.getElem?_apply_of_mem (fieldWrites v (reply.set 1 SET) record)
    (reply.set 1 SET) w
  rw [hset] at hbyte
  exact hbyte hnodup hw (hlt w hw)

/-- Any other byte is the status, the checksum, or what the reply had there. -/
theorem kept_byte (hout : composeRecord v reply record = .ok frame) {j : Nat}
    (hj : j < reply.length)
    (hother : j = 2 ∨ ∀ w ∈ fieldWrites v (reply.set 1 SET) record,
      place reply.length w.1 ≠ j) : frame[j]? = some (keptByte v reply record j) := by
  obtain ⟨⟨hlen, _, _⟩, rfl⟩ := composeRecord_ok_iff.mp hout
  rw [keptByte]
  by_cases h₂ : j = 2
  · rw [if_pos h₂, h₂, List.getElem?_set_self (by rw [fieldFrame_length]; omega)]
  · have hset : (reply.set 1 SET).length = reply.length := List.length_set ..
    have hfree : j ∉ (fieldWrites v (reply.set 1 SET) record).places
        (reply.set 1 SET).length := by
      intro hmem
      obtain ⟨w, hw, heq⟩ := List.mem_map.mp hmem
      rw [hset] at heq
      exact hother.elim h₂ fun hall => hall w hw heq
    rw [if_neg h₂, List.getElem?_set_ne (Ne.symm h₂), fieldFrame,
      Writes.getElem?_apply_of_not_mem hfree]
    by_cases h₁ : j = 1
    · rw [if_pos h₁, h₁, List.getElem?_set_self (by omega)]
    · rw [if_neg h₁, List.getElem?_set_ne (Ne.symm h₁), List.getD_eq_getElem?_getD,
        List.getElem?_eq_getElem hj]
      rfl

/-- The frame is a SET frame when nothing else is written over its status. -/
theorem status_kept_iff (hout : composeRecord v reply record = .ok frame) :
    frame[1]? = some SET ↔
      ∀ w ∈ fieldWrites v (reply.set 1 SET) record, place reply.length w.1 = 1 → w.2 = SET := by
  obtain ⟨hlen, _, _⟩ := (composeRecord_ok_iff.mp hout).1
  refine ⟨?_, ?_⟩
  · intro hstatus w hw h₁
    have hbyte := written_byte hout hw (by omega)
    rw [h₁, hstatus] at hbyte
    exact (Option.some.inj hbyte).symm
  · intro hall
    by_cases hfree : ∃ w ∈ fieldWrites v (reply.set 1 SET) record, place reply.length w.1 = 1
    · obtain ⟨w, hw, h₁⟩ := hfree
      have hbyte := written_byte hout hw (by omega)
      rw [h₁] at hbyte
      rw [hbyte, hall w hw h₁]
    · have hnone : ∀ w ∈ fieldWrites v (reply.set 1 SET) record,
          place reply.length w.1 ≠ 1 := fun w hw h₁ => hfree ⟨w, hw, h₁⟩
      exact kept_byte hout (by omega) (.inr hnone)

/-! ## The field of the composed frame -/

theorem heldBytes_length (h : (place frame.length record.position : Int) + record.length
    ≤ frame.length) : (heldBytes frame record).length = record.length.toNat := by
  rw [heldBytes, List.length_take, List.length_drop]
  omega

theorem getElem?_heldBytes {k : Nat} (hk : k < record.length.toNat) :
    (heldBytes frame record)[k]? = frame[place frame.length record.position + k]? := by
  rw [heldBytes, List.getElem?_take_of_lt hk, List.getElem?_drop]

/-- Bytes spell a number when it is theirs to spell and they are the ones it is written as. -/
theorem signedNumber_shortBytes_iff {raw : Int} {bytes : Bytes}
    (hlen : record.length = 1 ∨ record.length = 2) (hbytes : record.length = bytes.length) :
    signedNumber bytes = raw ↔ FitsField raw record ∧ bytes = shortBytes raw record := by
  refine ⟨?_, ?_⟩
  · rintro rfl
    have hne : bytes ≠ [] := by
      rintro rfl
      simp only [List.length_nil] at hbytes
      omega
    refine ⟨fitsField_signedNumber hbytes hne, ?_⟩
    rcases hlen with h₁ | h₂
    · obtain ⟨b, rfl⟩ := List.length_eq_one_iff.mp (show bytes.length = 1 by omega)
      rw [shortBytes, if_pos h₁, ← signedByte_eq, shortToBytes_one]
    · obtain ⟨high, low, rfl⟩ := List.length_eq_two.mp (show bytes.length = 2 by omega)
      rw [shortBytes, if_neg (by omega), shortToBytes_two]
  · rintro ⟨hfits, rfl⟩
    rw [signedNumber_shortBytes hlen, (fitsField_iff hlen).mp hfits]

/-- The second byte of a field stands behind the first. -/
theorem place_second {n : Nat} (hrange : InRange n record.position)
    (hin : (place n record.position : Int) + 2 ≤ n) :
    place n (record.position + 1) = place n record.position + 1 := by
  obtain ⟨h₀, _⟩ := hrange
  unfold place normIndex at *
  split at h₀ <;> split at hin <;> split <;> omega

/-- The field of one or two bytes holds the bytes of a raw integer when the checksum is
not put over them, or happens to be the same. -/
theorem short_held_iff (hout : composeRecord v reply record = .ok frame) {raw : Int}
    (hwrites : fieldWrites v (reply.set 1 SET) record = shortWrites raw record)
    (hrange : ShortInRange reply.length record)
    (hlen : record.length = 1 ∨ record.length = 2)
    (hin : (place reply.length record.position : Int) + record.length ≤ reply.length) :
    heldBytes frame record = shortBytes raw record ↔
      ∀ w ∈ shortWrites raw record, place reply.length w.1 = 2 →
        w.2 = checksumOf (fieldFrame v reply record) := by
  have hsame := composeRecord_length hout
  -- At each place the frame has the byte written there, or the checksum over it.
  have hbyte : ∀ w ∈ shortWrites raw record, place reply.length w.1 < reply.length →
      (frame[place reply.length w.1]? = some w.2 ↔ (place reply.length w.1 = 2 →
        w.2 = checksumOf (fieldFrame v reply record))) := by
    intro w hw hlt
    by_cases h₂ : place reply.length w.1 = 2
    · have hsum := kept_byte hout hlt (.inl h₂)
      rw [hsum, keptByte, if_pos h₂, Option.some.injEq]
      exact ⟨fun heq _ => heq.symm, fun heq => (heq h₂).symm⟩
    · rw [written_byte hout (hwrites ▸ hw) h₂]
      exact iff_of_true rfl fun hc => absurd hc h₂
  have hheld : (heldBytes frame record).length = record.length.toNat :=
    heldBytes_length (by rw [hsame]; exact hin)
  have hitem : ∀ k < record.length.toNat, (heldBytes frame record)[k]?
      = frame[place reply.length record.position + k]? := by
    intro k hk
    rw [getElem?_heldBytes hk, hsame]
  rcases hlen with h₁ | h₂
  · obtain ⟨b, hb⟩ := List.length_eq_one_iff.mp (hheld.trans (by rw [h₁]; rfl))
    have hfirst := hitem 0 (by omega)
    have hw := hbyte (record.position, (shortToBytes raw).1)
      (by rw [shortWrites, if_pos h₁]; exact List.mem_cons_self) (hrange.1 h₁).place_lt
    rw [hb, Nat.add_zero] at hfirst
    rw [← hfirst] at hw
    simp only [shortWrites, shortBytes, if_pos h₁, hb, List.forall_mem_singleton]
    rw [← hw]
    simp
  · obtain ⟨high, low, hb⟩ := List.length_eq_two.mp (hheld.trans (by rw [h₂]; rfl))
    obtain ⟨hrange₁, hrange₂⟩ := hrange.2 h₂
    have hnext := place_second hrange₁ (by rw [h₂] at hin; exact hin)
    have hfirst := hitem 0 (by omega)
    have hsecond := hitem 1 (by omega)
    have hne : record.length ≠ 1 := by omega
    have hw₁ := hbyte (record.position, (shortToBytes raw).2)
      (by rw [shortWrites, if_neg hne, if_pos h₂]; simp) hrange₁.place_lt
    have hw₂ := hbyte (record.position + 1, (shortToBytes raw).1)
      (by rw [shortWrites, if_neg hne, if_pos h₂]; simp) hrange₂.place_lt
    rw [hb, Nat.add_zero] at hfirst
    rw [hb] at hsecond
    rw [← hfirst] at hw₁
    rw [hnext, ← hsecond] at hw₂
    simp only [shortWrites, shortBytes, if_neg hne, if_pos h₂, hb, List.forall_mem_cons,
      List.not_mem_nil, false_implies, implies_true, and_true]
    rw [hnext, ← hw₁, ← hw₂]
    simp

/-- A field of any other length is left as it was, but for the status and the checksum. -/
theorem held_kept (hout : composeRecord v reply record = .ok frame)
    (hwrites : fieldWrites v (reply.set 1 SET) record = [])
    (hin : (place reply.length record.position : Int) + record.length ≤ reply.length) :
    heldBytes frame record = (List.range record.length.toNat).map fun k =>
      keptByte v reply record (place reply.length record.position + k) := by
  have hsame := composeRecord_length hout
  refine List.ext_getElem? fun k => ?_
  rcases Nat.lt_or_ge k record.length.toNat with hk | hk
  · rw [getElem?_heldBytes hk, hsame, kept_byte hout (by omega) (.inr (by simp [hwrites])),
      List.getElem?_map, List.getElem?_range hk]
    rfl
  · rw [List.getElem?_eq_none, List.getElem?_eq_none]
    · simpa using hk
    · rw [heldBytes_length (by rw [hsame]; exact hin)]
      exact hk

/-- A flag's byte is the one written, or one that is left as it was. -/
theorem flag_carried_iff {b : Bool} (hout : composeRecord (.bool b) reply record = .ok frame)
    (hbit : 0 < record.bitPosition)
    (hin : (place reply.length record.position : Int) + record.length ≤ reply.length) :
    (record.bitPosition / 8 < record.length ∧
        bitAt frame (flagPlace frame.length record) (record.bitPosition % 8).toNat = some b) ↔
      FlagLodged b reply record := by
  have hsame := composeRecord_length hout
  have hnat : (((record.bitPosition % 8).toNat : Nat) : Int) = record.bitPosition % 8 :=
    Int.toNat_of_nonneg (by omega)
  rw [FlagLodged, if_pos hbit, hsame]
  refine and_congr_right fun hinside => ?_
  have hplace : flagPlace reply.length record < reply.length := by
    rw [flagPlace]
    omega
  have hwrites : fieldWrites (.bool b) (reply.set 1 SET) record = [(record.position,
      setBit ((reply.set 1 SET).getD (place (reply.set 1 SET).length record.position) 0)
        record.bitPosition b)] := if_pos hbit
  by_cases hfirst : record.bitPosition < 8 ∧ place reply.length record.position ≠ 2
  · have hbyte := written_byte hout (hwrites ▸ List.mem_cons_self) hfirst.2
    refine iff_of_true ?_ (.inl hfirst)
    rw [flagPlace, show (record.bitPosition / 8).toNat = 0 by omega, Nat.add_zero, bitAt, hbyte,
      Option.map_some, hnat, show record.bitPosition % 8 = record.bitPosition by omega,
      testBit_setBit (by omega) (by omega) (by omega) (by omega), if_pos rfl]
  · have hother : flagPlace reply.length record = 2 ∨
        ∀ w ∈ fieldWrites (.bool b) (reply.set 1 SET) record,
          place reply.length w.1 ≠ flagPlace reply.length record := by
      by_cases h₈ : record.bitPosition < 8
      · refine .inl ?_
        rw [flagPlace, show (record.bitPosition / 8).toNat = 0 by omega, Nat.add_zero]
        exact not_not.mp fun h₂ => hfirst ⟨h₈, h₂⟩
      · refine .inr fun w hw => ?_
        rw [hwrites, List.mem_singleton] at hw
        rw [hw, flagPlace]
        show place reply.length record.position ≠ _
        omega
    rw [bitAt, kept_byte hout hplace hother, Option.map_some, hnat, Option.some.injEq,
      or_iff_right hfirst]

theorem mem_heldBytes {x : UInt8} :
    x ∈ heldBytes frame record ↔ ∃ k < record.length.toNat,
      frame[place frame.length record.position + k]? = some x := by
  rw [List.mem_iff_getElem?]
  refine ⟨?_, ?_⟩
  · rintro ⟨k, hk⟩
    have hlt : k < record.length.toNat := by
      have hle : (heldBytes frame record).length ≤ record.length.toNat := by
        rw [heldBytes, List.length_take]
        exact Nat.min_le_left _ _
      exact Nat.lt_of_lt_of_le (List.getElem?_eq_some_iff.mp hk).1 hle
    exact ⟨k, hlt, (getElem?_heldBytes hlt).symm.trans hk⟩
  · rintro ⟨k, hlt, hk⟩
    exact ⟨k, (getElem?_heldBytes hlt).trans hk⟩

/-- A switch is on when some byte of its field is not zero: its first, or one left as it was. -/
theorem switch_carried_iff {b : Bool} (hout : composeRecord (.bool b) reply record = .ok frame)
    (hbit : ¬ 0 < record.bitPosition) (hlen : 0 < record.length)
    (hin : (place reply.length record.position : Int) + record.length ≤ reply.length) :
    (b = true ↔ ∃ x ∈ heldBytes frame record, x ≠ 0) ↔ FlagLodged b reply record := by
  have hsame := composeRecord_length hout
  have hwrites : fieldWrites (.bool b) (reply.set 1 SET) record
      = [(record.position, if b then 1 else 0)] := if_neg hbit
  obtain ⟨p, hp⟩ : ∃ p, p = place reply.length record.position := ⟨_, rfl⟩
  have hrest : ∀ k < record.length.toNat, (k ≠ 0 ∨ p = 2) →
      frame[p + k]? = some (keptByte (.bool b) reply record (p + k)) := by
    intro k hk hother
    refine kept_byte hout (by omega) ?_
    rcases hother with hne | h₂
    · refine .inr fun w hw => ?_
      rw [hwrites, List.mem_singleton] at hw
      rw [hw]
      show place reply.length record.position ≠ _
      omega
    · by_cases hk₀ : k = 0
      · exact .inl (by omega)
      · refine .inr fun w hw => ?_
        rw [hwrites, List.mem_singleton] at hw
        rw [hw]
        show place reply.length record.position ≠ _
        omega
  have hheld : (∃ x ∈ heldBytes frame record, x ≠ 0) ↔ (p ≠ 2 ∧ b = true) ∨
      ∃ k < record.length.toNat, (k ≠ 0 ∨ p = 2) ∧
        keptByte (.bool b) reply record (p + k) ≠ 0 := by
    simp only [mem_heldBytes, hsame, ← hp]
    refine ⟨?_, ?_⟩
    · rintro ⟨x, ⟨k, hk, hx⟩, hne⟩
      by_cases hother : k ≠ 0 ∨ p = 2
      · rw [hrest k hk hother] at hx
        exact .inr ⟨k, hk, hother, (Option.some.inj hx) ▸ hne⟩
      · rw [not_or, not_not] at hother
        obtain ⟨rfl, h₂⟩ := hother
        have hbyte := written_byte hout (hwrites ▸ List.mem_cons_self)
          (show place reply.length record.position ≠ 2 from hp ▸ h₂)
        refine .inl ⟨h₂, ?_⟩
        rw [Nat.add_zero, hp, hbyte, Option.some.injEq] at hx
        cases b with
        | true => rfl
        | false => exact absurd hx.symm hne
    · rintro (⟨h₂, rfl⟩ | ⟨k, hk, hother, hne⟩)
      · have hbyte := written_byte hout (hwrites ▸ List.mem_cons_self)
          (show place reply.length record.position ≠ 2 from hp ▸ h₂)
        refine ⟨1, ⟨0, by omega, ?_⟩, by decide⟩
        rw [Nat.add_zero, hp]
        exact hbyte
      · exact ⟨_, ⟨k, hk, hrest k hk hother⟩, hne⟩
  rw [hheld, FlagLodged, if_neg hbit, ← hp]
  cases b with
  | true =>
      by_cases h₂ : p = 2
      · simp [h₂]
      · simp [h₂]
  | false => simp

/-- A number is carried where its field ends up with its bytes. -/
theorem number_carried_iff {raw : Int} (hout : composeRecord v reply record = .ok frame)
    (hwrites : fieldWrites v (reply.set 1 SET) record = shortWrites raw record)
    (hrange : ShortInRange reply.length record) (hlen : 0 < record.length)
    (hin : (place reply.length record.position : Int) + record.length ≤ reply.length) :
    signedNumber (heldBytes frame record) = raw ↔ NumberLodged v raw reply record := by
  rw [NumberLodged]
  split
  · next hshort =>
      have hheld : record.length = (heldBytes frame record).length := by
        rw [heldBytes_length (by rw [composeRecord_length hout]; exact hin)]
        omega
      rw [signedNumber_shortBytes_iff hshort hheld,
        short_held_iff hout hwrites hrange hshort hin]
  · next hshort =>
      have hnone : shortWrites raw record = [] :=
        shortWrites_other (fun h₁ => hshort (.inl h₁)) (fun h₂ => hshort (.inr h₂)) raw
      rw [held_kept hout (hwrites.trans hnone) hin]

/-- The frame that a value is composed into carries it exactly when the value is lodged
there. -/
theorem carries_iff_lodged {d : DecodedValue} (hout : composeRecord v reply record = .ok frame)
    (hparse : parseRecord frame record = .ok d) :
    CarriesValue frame record v ↔ Lodged v reply record := by
  obtain ⟨⟨_, hencodable, hrange⟩, _⟩ := composeRecord_ok_iff.mp hout
  obtain ⟨hlen, hin⟩ := parseRecord_within hparse
  have hsame := composeRecord_length hout
  have hfull := heldBytes_length hin
  rw [hsame] at hin
  unfold CarriesValue Lodged
  rw [and_iff_right hfull]
  refine and_congr (status_kept_iff hout) ?_
  -- Of a number, the raw integer is one that could be computed.
  have number : ∀ {raw : Int}, rawOf v record = .ok raw → ShortInRange reply.length record →
      fieldWrites v (reply.set 1 SET) record
        = shortWrites ((rawOf v record).toOption.getD 0) record →
      (rawOf v record = .ok (signedNumber (heldBytes frame record)) ↔
        NumberLodged v raw reply record) := by
    intro raw hraw hshort hwrites
    rw [hraw] at hwrites ⊢
    rw [Except.ok.injEq, eq_comm]
    exact number_carried_iff hout hwrites hshort (by omega) hin
  cases v with
  | bool b =>
      show (if 0 < record.bitPosition then _ else _) ↔ FlagLodged b reply record
      split
      · next hbit => exact flag_carried_iff hout hbit hin
      · next hbit => exact switch_carried_iff hout hbit (by omega) hin
  | int n => exact number rfl hrange rfl
  | float x =>
      obtain ⟨raw, hraw⟩ := Option.isSome_iff_exists.mp hencodable.2.2
      have hok : rawOf (.float x) record = .ok raw := by
        cases hr : rawOf (.float x) record with
        | ok raw' =>
            rw [hr] at hraw
            exact congrArg Except.ok (Option.some.inj hraw)
        | error e =>
            rw [hr] at hraw
            cases hraw
      refine (number hok hrange rfl).trans ?_
      rw [hok]

end composed

end HeatpumpGateway
