import HeatpumpGateway.Model.Simulator
import HeatpumpGateway.Proofs.Quantise

/-!
# Fields of a register

What a channel means to a register's frame, for records of the usual form: one or two
bytes behind the command, a scale that no number of the field overflows with, a bit number
of at most seven.
`meaning` is the value such a field decodes to, a total function of its bytes;
`accept` is what a write of a value leaves there, or why it is turned down.
`meaning_written` and `meaning_untouched` are what a write does to the meanings of
a frame: the written field means the accepted value, and a field without a bit in
common means what it did.
-/

namespace HeatpumpGateway

open Fallible Rounding

/-! ## Records of the usual form -/

/-- A record of a register whose command is this many bytes long. -/
structure RegularRecord (commandLength : Nat) (record : ChannelDefinition) : Prop where
  length : record.length = 1 ∨ record.length = 2
  legible : Legible record
  bit : record.bitPosition ≤ 7
  boolean : record.valueKind = .boolean → record.length = 1
  behind : 3 + (commandLength : Int) ≤ record.position

/-- The record takes up this bit of this byte. -/
def Occupies (record : ChannelDefinition) (byte bit : Int) : Prop :=
  record.position ≤ byte ∧ byte < record.position + record.length ∧
    (0 < record.bitPosition → bit = record.bitPosition)

/-- No bit of a byte belongs to both records. -/
def ShareNoBit (record record' : ChannelDefinition) : Prop :=
  ∀ byte bit, 0 ≤ bit → bit < 8 → Occupies record byte bit → ¬ Occupies record' byte bit

/-- Records that share no bit lie in different bytes or are different bits of one. -/
theorem ShareNoBit.cases {n n' : Nat} {record record' : ChannelDefinition}
    (hr : RegularRecord n record) (hr' : RegularRecord n' record')
    (h : ShareNoBit record record') :
    (record.position + record.length ≤ record'.position ∨
        record'.position + record'.length ≤ record.position) ∨
      (0 < record.bitPosition ∧ 0 < record'.bitPosition ∧
        record.bitPosition ≠ record'.bitPosition ∧ record.position = record'.position ∧
        record.length = 1 ∧ record'.length = 1) := by
  have single : ∀ {n : Nat} {r : ChannelDefinition}, RegularRecord n r → 0 < r.bitPosition →
      r.length = 1 := by
    intro n r hreg hbit
    refine hreg.boolean ?_
    rw [ChannelDefinition.valueKind, if_pos hbit]
  by_contra hno
  rw [not_or, not_or] at hno
  obtain ⟨⟨h₁, h₂⟩, h₃⟩ := hno
  -- A byte that both fields lie in, and a bit of it that both could be.
  have hlen := hr.length
  have hlen' := hr'.length
  have hlow := hr.bit
  have hlow' := hr'.bit
  have clash : ∀ bit, 0 ≤ bit → bit < 8 → (0 < record.bitPosition → bit = record.bitPosition) →
      (0 < record'.bitPosition → bit = record'.bitPosition) → False := by
    intro bit h₀ h₈ hb hb'
    exact h (max record.position record'.position) bit h₀ h₈ ⟨by omega, by omega, hb⟩
      ⟨by omega, by omega, hb'⟩
  by_cases hb : 0 < record.bitPosition
  · by_cases hb' : 0 < record'.bitPosition
    · have hone := single hr hb
      have hone' := single hr' hb'
      by_cases heq : record.bitPosition = record'.bitPosition
      · exact clash record.bitPosition (by omega) (by omega) (fun _ => rfl) fun _ => heq
      · exact h₃ ⟨hb, hb', heq, by omega, hone, hone'⟩
    · exact clash record.bitPosition (by omega) (by omega) (fun _ => rfl) fun hc => absurd hc hb'
  · by_cases hb' : 0 < record'.bitPosition
    · exact clash record'.bitPosition (by omega) (by omega) (fun hc => absurd hc hb) fun _ => rfl
    · exact clash 0 (by omega) (by omega) (fun hc => absurd hc hb) fun hc => absurd hc hb'

/-! ## Bits of a byte -/

/-- The bit that `bit_position` names; zero is the highest. -/
def bitOf (b : UInt8) (bitPosition : Int) : Bool := b.toNat.testBit (7 - bitPosition.toNat)

theorem getBitFromBytes_eq {b : UInt8} {i : Int} (h₀ : 0 ≤ i) (h₇ : i ≤ 7) :
    getBitFromBytes [b] i = .ok (bitOf b i) := by
  have hzero : getItem [b] (i / 8) = .ok b := by
    rw [show i / 8 = 0 by omega]
    rfl
  rw [getBitFromBytes, hzero, ok_bind, show i % 8 = i by omega]
  show Except.ok (decide (b.toNat >>> (8 - (i.toNat + 1)) &&& 1 ≥ 1)) = _
  have hlt := Nat.mod_lt (b.toNat / 2 ^ (7 - i.toNat)) (show 2 > 0 by decide)
  rw [show 8 - (i.toNat + 1) = 7 - i.toNat by omega, bitOf, Nat.testBit_eq_decide_div_mod_eq,
    Nat.shiftRight_eq_div_pow, Nat.and_one_is_mod]
  congr 2
  exact propext (by omega)

theorem testBit_setBit {b : UInt8} {i j : Int} {value : Bool} (hi₀ : 0 ≤ i) (hi : i ≤ 7)
    (hj₀ : 0 ≤ j) (hj : j ≤ 7) :
    bitOf (setBit b i value) j = if i = j then value else bitOf b j := by
  obtain ⟨p, rfl⟩ := Int.eq_ofNat_of_zero_le hi₀
  obtain ⟨q, rfl⟩ := Int.eq_ofNat_of_zero_le hj₀
  have hp : p < 8 := by omega
  have hq : q < 8 := by omega
  have hmask : ∀ p q : Fin 8, (0xFF7F >>> p.val).testBit (7 - q.val) = decide (p ≠ q) := by decide
  have hbyte : ∀ q : Fin 8, (0xFF : Nat).testBit (7 - q.val) = true := by decide
  have hone : ∀ p q : Fin 8, (1 <<< (8 - (p.val + 1))).testBit (7 - q.val) = decide (p = q) := by
    decide
  have hm := hmask ⟨p, hp⟩ ⟨q, hq⟩
  have hb := hbyte ⟨q, hq⟩
  have ho := hone ⟨p, hp⟩ ⟨q, hq⟩
  simp only [Fin.mk.injEq, ne_eq] at hm hb ho
  have hmod : ((p : Int) % 8).toNat = p := by omega
  rw [bitOf, setBit, hmod, UInt8.toNat_ofNat', Nat.mod_eq_of_lt
    (Nat.lt_of_le_of_lt Nat.and_le_right (by decide)), Int.toNat_natCast, bitOf]
  cases value with
  | true =>
      simp only [Nat.testBit_and, Nat.testBit_or, hm, hb, ho, if_true]
      by_cases hpq : p = q <;> simp [hpq]
  | false =>
      simp only [Nat.testBit_and, Nat.testBit_or, hm, hb, Nat.zero_shiftLeft, Nat.zero_testBit,
        Bool.false_eq_true, if_false]
      by_cases hpq : p = q <;> simp [hpq]

/-! ## Meanings -/

/-- A raw integer as a value: the integer itself, or that many steps of the scale, to the
hundredth. -/
def quantised (record : ChannelDefinition) (raw : Int) : DecodedValue :=
  if record.scale = .finite 1 then .int raw
  else .float ((roundHundredths ((PyFloat.ofInt raw).mul record.scale)).toOption.getD .nan)

/-- The value that the bytes of a field stand for. -/
def meaning (record : ChannelDefinition) (raw : Bytes) : DecodedValue :=
  if record.bitPosition > 0 then .bool (bitOf (raw.headD 0) record.bitPosition)
  else if record.isSwitch then .bool (signedNumber raw ≠ 0)
  else quantised record (signedNumber raw)

/-- What becomes of a value that is written: what the channel is then, or why it is
turned down. -/
def accept (record : ChannelDefinition) (v : DecodedValue) : Except Exc DecodedValue :=
  match v with
  | .bool b => .ok (.bool b)
  | v =>
      if record.max.lt v.toFloat || v.toFloat.lt record.min then
        .error (.valueOutOfRange record.channelId v record.min record.max)
      else do
        let raw ← rawOf v record
        return quantised record (raw.bmod (fieldRange record))

theorem decodeNumber_meaning {n : Nat} {record : ChannelDefinition} {raw : Bytes}
    (hr : RegularRecord n record) (hlen : record.length = raw.length) :
    decodeNumber raw (signedNumber raw) record = .ok (meaning record raw) := by
  rw [decodeNumber, meaning]
  split
  · next hbit =>
      have hone : record.length = 1 := by
        refine hr.boolean ?_
        rw [ChannelDefinition.valueKind, if_pos hbit]
      obtain ⟨b, rfl⟩ := List.length_eq_one_iff.mp (show raw.length = 1 by omega)
      rw [getBitFromBytes_eq (by omega) hr.bit]
      rfl
  · next hbit =>
      split
      · rfl
      · next hswitch =>
          rw [quantised]
          by_cases hone : record.scale = .finite 1
          · rw [scale_eq_one_iff.mpr hone, if_pos hone]
            rfl
          · have hfalse : record.scale.eq (.finite 1) = false := by
              rw [Bool.eq_false_iff, ne_eq, scale_eq_one_iff]
              exact hone
            obtain ⟨x, hx⟩ := hr.legible (valueKind_number hbit hswitch hr.length hfalse) _
              (fitsField_signedNumber hlen (by
                rintro rfl
                have := hr.length
                simp only [List.length_nil] at hlen
                omega))
            rw [hfalse, if_neg hone, Bool.not_false, if_pos rfl, hx]
            rfl

/-- A field of the usual form decodes to its meaning. -/
theorem parseRecord_meaning {n : Nat} {record : ChannelDefinition} {frame : Bytes}
    (hr : RegularRecord n record) (h : Contained frame.length record) (hframe : 2 ≤ frame.length) :
    parseRecord frame record = .ok (meaning record (fieldBytes frame record)) := by
  rw [parseRecord_ok_iff h hframe, decodeField_short h hr.length, numberAt]
  refine decodeNumber_meaning hr ?_
  rcases hr.length with hlen | hlen
  · rw [fieldBytes_length (k := 1) h hlen, hlen]
    rfl
  · rw [fieldBytes_length (k := 2) h hlen, hlen]
    rfl

/-! ## What a write does to them -/

/-- The values a record's kind is coerced to. -/
theorem coerce_kind {record : ChannelDefinition} {given : CallerValue} {v : DecodedValue}
    (hv : HeatPumpService.coerce record given = .ok v) :
    (record.valueKind = .boolean ∧ ∃ b, v = .bool b) ∨
      (record.valueKind ≠ .boolean ∧ ∀ b, v ≠ .bool b) := by
  by_cases hkind : record.valueKind = .boolean
  · refine .inl ⟨hkind, ?_⟩
    rw [HeatPumpService.coerce, hkind] at hv
    cases hb : HeatPumpService.coerceBoolean record given with
    | error e =>
        rw [hb] at hv
        cases hv
    | ok b =>
        rw [hb] at hv
        cases hv
        exact ⟨b, rfl⟩
  · refine .inr ⟨hkind, ?_⟩
    rcases coerce_number hkind hv with ⟨x, rfl⟩ | ⟨⟨n, rfl⟩, _⟩
    · exact fun _ => DecodedValue.noConfusion
    · exact fun _ => DecodedValue.noConfusion

/-- Turned down is turned down, wherever the field lies. -/
theorem fieldWritten_rejected {record : ChannelDefinition} {v : DecodedValue} {e : Exc}
    (h : accept record v = .error e) (frame : Bytes) : fieldWritten v frame record = .error e := by
  have number : ∀ v : DecodedValue,
      (if record.max.lt v.toFloat || v.toFloat.lt record.min then
        Except.error (.valueOutOfRange record.channelId v record.min record.max)
      else do
        let raw ← rawOf v record
        return quantised record (raw.bmod (fieldRange record))) = Except.error e →
      (if record.max.lt v.toFloat || v.toFloat.lt record.min then
        Except.error (.valueOutOfRange record.channelId v record.min record.max)
      else do
        let shortValue ← rawOf v record
        writeShort shortValue frame record) = Except.error e := by
    intro v h
    split
    · next hout =>
        rw [if_pos hout] at h
        cases h
        rfl
    · next hin =>
        rw [if_neg hin] at h
        rcases bind_eq_error.mp h with hraw | ⟨_, _, hret⟩
        · rw [hraw]
          rfl
        · cases hret
  cases v with
  | bool b => cases h
  | int n => exact number (.int n) h
  | float x => exact number (.float x) h

theorem accept_encodable {record : ChannelDefinition} {v stored : DecodedValue}
    (h : accept record v = .ok stored) : Encodable v record := by
  have number : ∀ v : DecodedValue,
      (if record.max.lt v.toFloat || v.toFloat.lt record.min then
        Except.error (.valueOutOfRange record.channelId v record.min record.max)
      else do
        let raw ← rawOf v record
        return quantised record (raw.bmod (fieldRange record))) = Except.ok stored →
      record.max.lt v.toFloat = false ∧ v.toFloat.lt record.min = false ∧
        (rawOf v record).toOption.isSome := by
    intro v h
    split at h
    · cases h
    · next hin =>
        simp only [Bool.or_eq_true, not_or, Bool.not_eq_true] at hin
        obtain ⟨raw, hraw, _⟩ := bind_eq_ok.mp h
        rw [hraw]
        exact ⟨hin.1, hin.2, rfl⟩
  cases v with
  | bool b => trivial
  | int n => exact number (.int n) h
  | float x => exact number (.float x) h

/-- What is accepted of a number is its raw integer modulo the range of the field. -/
theorem accept_number {record : ChannelDefinition} {v stored : DecodedValue}
    (hv : ∀ b, v ≠ .bool b) (h : accept record v = .ok stored) :
    ∃ raw, rawOf v record = .ok raw ∧ stored = quantised record (raw.bmod (fieldRange record)) := by
  cases v with
  | bool b => exact absurd rfl (hv b)
  | int n | float x =>
      simp only [accept] at h
      split at h
      · cases h
      · obtain ⟨raw, hraw, hstored⟩ := bind_eq_ok.mp h
        cases hstored
        exact ⟨raw, hraw, rfl⟩

/-- A written field means what was accepted. -/
theorem meaning_written {n : Nat} {record : ChannelDefinition} {given : CallerValue}
    {v stored : DecodedValue} {frame : Bytes} (hr : RegularRecord n record)
    (h : Contained frame.length record) (hv : HeatPumpService.coerce record given = .ok v)
    (hstored : accept record v = .ok stored) :
    meaning record (fieldBytes ((fieldWrites v frame record).apply frame) record) = stored := by
  rcases coerce_kind hv with ⟨hkind, b, rfl⟩ | ⟨hkind, hnumber⟩
  · cases hstored
    have hone := hr.boolean hkind
    obtain ⟨p, hp, hle⟩ := h.exists_place (k := 1) hone
    have hwritten : ∀ x : UInt8,
        fieldBytes (Writes.apply [(record.position, x)] frame) record = [x] := by
      intro x
      rw [fieldBytes_eq hp hone (by rw [Writes.apply_length]; exact hle), hp, Writes.apply_cons,
        place_natCast]
      show ((frame.set p x).drop p).take 1 = [x]
      rw [List.drop_set, if_neg (by omega), Nat.sub_self, List.drop_eq_getElem_cons (by omega)]
      rfl
    rw [fieldWrites, meaning]
    by_cases hbit : record.bitPosition > 0
    · rw [if_pos hbit, if_pos hbit, hwritten, List.headD_cons,
        testBit_setBit (by omega) hr.bit (by omega) hr.bit, if_pos rfl]
    · rw [if_neg hbit, if_neg hbit, hwritten]
      have hswitch : record.isSwitch = true := by
        by_contra hno
        exact not_boolean_iff.mpr ⟨hbit, by simpa using hno⟩ hkind
      rw [hswitch, if_pos rfl]
      cases b <;> rfl
  · obtain ⟨raw, hraw, rfl⟩ := accept_number hnumber hstored
    obtain ⟨hbit, hswitch⟩ := not_boolean_iff.mp hkind
    have hwrites : fieldWrites v frame record = shortWrites raw record := by
      cases v with
      | bool b => exact absurd rfl (hnumber b)
      | int n | float x =>
          simp only [fieldWrites, hraw]
          rfl
    rw [hwrites, fieldBytes_written h hr.length, meaning, if_neg hbit, hswitch,
      if_neg Bool.false_ne_true, signedNumber_shortBytes hr.length]

/-- Bytes written outside a field do not matter to it. -/
theorem fieldBytes_apply {record : ChannelDefinition} {len : Nat} (hlen : record.length = len)
    (ws : Writes) : ∀ {frame : Bytes}, Contained frame.length record →
      (∀ w ∈ ws, 0 ≤ w.1 ∧ (w.1 < record.position ∨ record.position + record.length ≤ w.1)) →
      fieldBytes (ws.apply frame) record = fieldBytes frame record := by
  induction ws with
  | nil => intro frame _ _; rfl
  | cons w ws ih =>
      intro frame h hout
      obtain ⟨h₀, hw⟩ := hout w List.mem_cons_self
      obtain ⟨j, hj⟩ := Int.eq_ofNat_of_zero_le h₀
      rw [Writes.apply_cons, ih (by rw [List.length_set]; exact h)
        fun w' hw' => hout w' (List.mem_cons_of_mem _ hw'), hj, place_natCast]
      rw [hj] at hw
      exact fieldBytes_set h hlen hw

/-- A field without a bit in common means what it did. -/
theorem meaning_untouched {n n' : Nat} {record record' : ChannelDefinition} {given : CallerValue}
    {v : DecodedValue} {frame : Bytes} (hr : RegularRecord n record)
    (hr' : RegularRecord n' record') (h : Contained frame.length record)
    (h' : Contained frame.length record') (hv : HeatPumpService.coerce record given = .ok v)
    (hshare : ShareNoBit record record') :
    meaning record' (fieldBytes ((fieldWrites v frame record).apply frame) record')
      = meaning record' (fieldBytes frame record') := by
  rcases hshare.cases hr hr' with hapart | ⟨hbit, hbit', hne, hpos, hone, hone'⟩
  · obtain ⟨len, hlen⟩ : ∃ len : Nat, record'.length = len :=
      ⟨record'.length.toNat, by rcases hr'.length with h | h <;> rw [h] <;> rfl⟩
    rw [fieldBytes_apply hlen _ h']
    intro w hw
    have hlen := hr.length
    obtain ⟨hlo, hhi⟩ := fieldWrites_within (by omega) v frame w hw
    have h₀ := h.1
    exact ⟨by omega, by omega⟩
  · have hkind : record.valueKind = .boolean := by
      rw [ChannelDefinition.valueKind, if_pos hbit]
    rcases coerce_kind hv with ⟨_, b, rfl⟩ | ⟨hno, _⟩
    · obtain ⟨p, hp, hle⟩ := h.exists_place (k := 1) hone
      have hp' : record'.position = p := hpos ▸ hp
      have hlt : p < frame.length := hle
      rw [meaning, meaning, if_pos hbit', if_pos hbit', fieldWrites, if_pos hbit,
        fieldBytes_eq hp' hone' (by rw [Writes.apply_length]; exact hle),
        fieldBytes_eq hp' hone' hle, hp, Writes.apply_cons, place_natCast]
      show DecodedValue.bool (bitOf (((frame.set p _).drop p).take 1 |>.headD 0) _) = _
      rw [List.drop_set, if_neg (by omega), Nat.sub_self, List.drop_eq_getElem_cons hlt]
      show DecodedValue.bool (bitOf (setBit _ _ _) _) = DecodedValue.bool (bitOf _ _)
      rw [testBit_setBit (by omega) hr.bit (by omega) hr'.bit, if_neg hne,
        List.getD_eq_getElem?_getD, List.getElem?_eq_getElem hlt]
      rfl
    · exact absurd hkind hno

/-! ## A register's frame -/

/-- The frame of a register: its command, its data, and a checksum over both. -/
def registerFrame (getOrSet : UInt8) (command data : Bytes) : Bytes :=
  frameWith HEADER_START getOrSet
    (byteSum (HEADER_START :: getOrSet :: (command ++ data)) :: (command ++ data))

theorem registerFrame_bare (getOrSet : UInt8) (command : Bytes) :
    registerFrame getOrSet command [] = bareFrame getOrSet command := by
  rw [registerFrame, List.append_nil]
  rfl

@[simp] theorem registerFrame_length (getOrSet : UInt8) (command data : Bytes) :
    (registerFrame getOrSet command data).length = command.length + data.length + 5 := by
  rw [registerFrame, frameWith_length, List.length_cons, List.length_append]

theorem registerFrame_inj {getOrSet : UInt8} {command data data' : Bytes} :
    registerFrame getOrSet command data = registerFrame getOrSet command data' ↔ data = data' := by
  refine ⟨fun h => ?_, fun h => by rw [h]⟩
  have hbody := (List.cons.inj (List.append_cancel_right
    (List.cons.inj (List.cons.inj h).2).2)).2
  exact List.append_cancel_left hbody

/-- Any checksum of a frame can be put right. -/
theorem sealed_frameWith (start getOrSet x : UInt8) (body : Bytes) :
    sealed (start :: getOrSet :: x :: (body ++ FOOTER))
      = frameWith start getOrSet (byteSum (start :: getOrSet :: body) :: body) := by
  rw [sealed, FOOTER, checksumOf_footer]
  rfl

theorem sealed_register (getOrSet x : UInt8) (command data : Bytes) :
    sealed (HEADER_START :: getOrSet :: x :: (command ++ data ++ FOOTER))
      = registerFrame getOrSet command data :=
  sealed_frameWith HEADER_START getOrSet x (command ++ data)

/-- The field lies in the data of the register. -/
structure InData (command data : Bytes) (record : ChannelDefinition) : Prop where
  behind : 3 + (command.length : Int) ≤ record.position
  before : record.position + record.length ≤ 3 + command.length + data.length

theorem InData.contained {getOrSet : UInt8} {command data : Bytes} {record : ChannelDefinition}
    (h : InData command data record) :
    Contained (registerFrame getOrSet command data).length record := by
  obtain ⟨hlo, hhi⟩ := h
  rw [registerFrame_length]
  exact ⟨by omega, by omega⟩

/-- Neither the status nor the checksum is part of a field. -/
theorem fieldBytes_behind {a b c a' b' c' : UInt8} {rest : Bytes} {record : ChannelDefinition}
    {len : Nat} (hlen : record.length = len) (hpos : 3 ≤ record.position)
    (h : record.position + record.length ≤ rest.length + 3) :
    fieldBytes (a :: b :: c :: rest) record = fieldBytes (a' :: b' :: c' :: rest) record := by
  obtain ⟨p, hp⟩ : ∃ p : Nat, record.position = ((p + 3 : Nat) : Int) :=
    ⟨(record.position - 3).toNat, by omega⟩
  have hle : ∀ x y z : UInt8, p + 3 + len ≤ (x :: y :: z :: rest).length := by
    intro x y z
    simp only [List.length_cons]
    omega
  rw [fieldBytes_eq hp hlen (hle a b c), fieldBytes_eq hp hlen (hle a' b' c')]
  rfl

/-- Bytes written in the middle of a text stay there, whatever stands before it. -/
theorem Writes.apply_middle (ws : Writes) {n : Nat} (back : Bytes) : ∀ middle : Bytes,
    (∀ w ∈ ws, (n : Int) ≤ w.1 ∧ w.1 < n + middle.length) →
    ∃ middle', middle'.length = middle.length ∧ ∀ front : Bytes, front.length = n →
      ws.apply (front ++ middle ++ back) = front ++ middle' ++ back := by
  induction ws with
  | nil => intro middle _; exact ⟨middle, rfl, fun _ _ => rfl⟩
  | cons w ws ih =>
      intro middle hin
      obtain ⟨hlo, hhi⟩ := hin w List.mem_cons_self
      obtain ⟨j, hj⟩ : ∃ j : Nat, w.1 = ((n + j : Nat) : Int) := ⟨(w.1 - n).toNat, by omega⟩
      obtain ⟨middle', hlen, happly⟩ := ih (middle.set j w.2) (by
        intro w' hw'
        rw [List.length_set]
        exact hin w' (List.mem_cons_of_mem _ hw'))
      refine ⟨middle', by rw [hlen, List.length_set], fun front hfront => ?_⟩
      have hset : (front ++ middle ++ back).set (n + j) w.2
          = front ++ middle.set j w.2 ++ back := by
        rw [List.append_assoc, List.set_append_right _ _ (by omega), ← hfront,
          Nat.add_sub_cancel_left, List.set_append_left _ _ (by omega), List.append_assoc]
      rw [Writes.apply_cons, hj, place_natCast, hset, happly front hfront]

/-- A value written into the data of a register, whatever the header is. -/
theorem InData.apply_fieldWrites {command data : Bytes} {record : ChannelDefinition}
    (h : InData command data record) (hpos : 0 < record.length) (v : DecodedValue)
    (frame : Bytes) : ∃ data', data'.length = data.length ∧ ∀ getOrSet x,
      (fieldWrites v frame record).apply
          (HEADER_START :: getOrSet :: x :: (command ++ data ++ FOOTER))
        = HEADER_START :: getOrSet :: x :: (command ++ data' ++ FOOTER) := by
  obtain ⟨data', hlen, happly⟩ := Writes.apply_middle (fieldWrites v frame record)
    (n := command.length + 3) FOOTER data (by
      intro w hw
      obtain ⟨hlo, hhi⟩ := fieldWrites_within hpos v frame w hw
      have := h.behind
      have := h.before
      exact ⟨by omega, by omega⟩)
  exact ⟨data', hlen, fun getOrSet x => happly (HEADER_START :: getOrSet :: x :: command) rfl⟩

/-- What an accepted value makes of a register's data. -/
structure Written (command data data' : Bytes) (record : ChannelDefinition)
    (stored : DecodedValue) : Prop where
  length : data'.length = data.length
  means : ∀ getOrSet, meaning record (fieldBytes (registerFrame getOrSet command data') record)
    = stored
  others : ∀ record', RegularRecord command.length record' → InData command data record' →
    ShareNoBit record record' →
    meaning record' (fieldBytes (registerFrame GET command data') record')
      = meaning record' (fieldBytes (registerFrame GET command data) record')

/-- An accepted value is composed into a register's frame as a SET of the register. -/
theorem composeRecord_register {record : ChannelDefinition} {given : CallerValue}
    {v stored : DecodedValue} {command data : Bytes} (hr : RegularRecord command.length record)
    (h : InData command data record) (hv : HeatPumpService.coerce record given = .ok v)
    (hstored : accept record v = .ok stored) :
    ∃ data', composeRecord v (registerFrame GET command data) record
        = .ok (registerFrame SET command data') ∧ Written command data data' record stored := by
  have hpos : 0 < record.length := by
    have := hr.length
    omega
  have hlen : (registerFrame GET command data).length = command.length + data.length + 5 :=
    registerFrame_length ..
  obtain ⟨frame, hframe⟩ : ∃ frame, frame = (registerFrame GET command data).set 1 SET := ⟨_, rfl⟩
  have hsplit : frame = HEADER_START :: SET ::
      byteSum (HEADER_START :: GET :: (command ++ data)) :: (command ++ data ++ FOOTER) := hframe
  have hframelen : frame.length = (registerFrame GET command data).length := by
    rw [hframe, List.length_set]
  have hcontained : Contained frame.length record := by
    rw [hframelen]
    exact h.contained
  obtain ⟨data', hdata', hwrites⟩ := h.apply_fieldWrites hpos v frame
  have happly := hwrites SET (byteSum (HEADER_START :: GET :: (command ++ data)))
  rw [← hsplit] at happly
  have hfields : ∀ getOrSet record', RegularRecord command.length record' →
      InData command data record' →
      fieldBytes (registerFrame getOrSet command data') record'
        = fieldBytes ((fieldWrites v frame record).apply frame) record' := by
    intro getOrSet record' hr' hin
    obtain ⟨len, hnat⟩ : ∃ len : Nat, record'.length = len :=
      ⟨record'.length.toNat, by rcases hr'.length with h | h <;> rw [h] <;> rfl⟩
    have := hin.behind
    have := hin.before
    rw [happly, registerFrame, frameWith]
    simp only [List.cons_append]
    exact fieldBytes_behind hnat (by omega) (by
      simp only [List.length_append, FOOTER, List.length_cons, List.length_nil, hdata']
      omega)
  refine ⟨data', ?_, hdata', ?_, ?_⟩
  · rw [composeRecord_ok_iff]
    refine ⟨⟨by rw [hlen]; omega, accept_encodable hstored,
      h.contained.fieldInRange hpos v⟩, ?_⟩
    rw [fieldFrame, ← hframe, happly]
    exact (sealed_register SET _ command data').symm
  · intro getOrSet
    rw [hfields getOrSet record hr h]
    exact meaning_written hr hcontained hv hstored
  · intro record' hr' hin hshare
    have hcontained' : Contained frame.length record' := by
      rw [hframelen]
      exact hin.contained
    rw [hfields GET record' hr' hin, meaning_untouched hr hr' hcontained hcontained' hv hshare]
    obtain ⟨len, hnat⟩ : ∃ len : Nat, record'.length = len :=
      ⟨record'.length.toNat, by rcases hr'.length with h | h <;> rw [h] <;> rfl⟩
    have := hin.behind
    have := hin.before
    rw [hsplit, registerFrame, frameWith]
    simp only [List.cons_append]
    exact congrArg (meaning record') (fieldBytes_behind hnat (by omega) (by
      simp only [List.length_append, FOOTER, List.length_cons, List.length_nil]
      omega))

/-- A value that is turned down is not composed. -/
theorem composeRecord_rejected {record : ChannelDefinition} {v : DecodedValue} {e : Exc}
    {command data : Bytes} (h : accept record v = .error e) :
    composeRecord v (registerFrame GET command data) record = .error e := by
  have hstatus : setItem (registerFrame GET command data) 1 SET
      = .ok ((registerFrame GET command data).set 1 SET) :=
    setItem_eq SET (inRange_natCast (k := 1).mpr (by rw [registerFrame_length]; omega))
  rw [composeRecord_def, hstatus, ok_bind, fieldWritten_rejected h, error_bind]

end HeatpumpGateway
