import HeatpumpGateway.Lib.Fallible
import HeatpumpGateway.Model.Communication
import HeatpumpGateway.Proofs.Frame

/-!
# Composing a value into a frame

`compose_record` read as one list of bytes written at indices. It succeeds on the
length of the frame, the value and the record alone (`composeRecord_succeeds_iff`),
and then the new frame is the old one with the status byte, the field's bytes and
the checksum replaced (`composeRecord_ok_iff`): whatever else was in the frame, valid
or not, is carried over.
-/

namespace HeatpumpGateway

open Fallible

/-! ## Python's indices -/

/-- The place of Python's index `i` in a sequence of length `n`. -/
def place (n : Nat) (i : Int) : Nat := (normIndex n i).toNat

/-- `i` is an index of a sequence of length `n`. -/
def InRange (n : Nat) (i : Int) : Prop := 0 ≤ normIndex n i ∧ normIndex n i < n

instance (n : Nat) (i : Int) : Decidable (InRange n i) := inferInstanceAs (Decidable (_ ∧ _))

theorem InRange.place_lt {n : Nat} {i : Int} (h : InRange n i) : place n i < n := by
  obtain ⟨h₀, h₁⟩ := h
  rw [place]
  omega

theorem inRange_natCast {n k : Nat} : InRange n (k : Int) ↔ k < n := by
  rw [InRange, normIndex, if_neg (by omega)]
  omega

@[simp] theorem place_natCast (n k : Nat) : place n (k : Int) = k := by
  rw [place, normIndex, if_neg (by omega), Int.toNat_natCast]

theorem place_inj {n : Nat} {i : Int} (h₁ : InRange n i) (h₂ : InRange n (i + 1))
    (hn : 2 ≤ n) : place n i ≠ place n (i + 1) := by
  obtain ⟨h₁, h₁'⟩ := h₁
  obtain ⟨h₂, h₂'⟩ := h₂
  rw [place, place]
  unfold normIndex at *
  by_cases hi : i < 0
  · by_cases hi' : i + 1 < 0
    · simp only [if_pos hi, if_pos hi'] at *
      omega
    · simp only [if_pos hi, if_neg hi'] at *
      omega
  · have hi' : ¬ i + 1 < 0 := by omega
    simp only [if_neg hi, if_neg hi'] at *
    omega

theorem setItem_eq {data : Bytes} {i : Int} (b : UInt8) (h : InRange data.length i) :
    setItem data i b = .ok (data.set (place data.length i) b) := by
  unfold InRange at h
  rw [setItem, if_pos h]
  rfl

theorem setItem_nat {data : Bytes} (k : Nat) (b : UInt8) (h : k < data.length) :
    setItem data (k : Int) b = .ok (data.set k b) := by
  rw [setItem_eq b (inRange_natCast.mpr h), place_natCast]

theorem setItem_footer (front : Bytes) (x y b : UInt8) :
    setItem (front ++ [x, y]) (-2) b = .ok (front ++ [b, y]) ∧
      setItem (front ++ [x, y]) (-1) b = .ok (front ++ [x, b]) := by
  have hlen : (front ++ [x, y]).length = front.length + 2 := List.length_append
  have hnorm : ∀ k : Nat, k < 2 →
      normIndex (front ++ [x, y]).length (k - 2) = ((front.length + k : Nat) : Int) := by
    intro k hk
    rw [hlen, normIndex, if_pos (by omega)]
    omega
  have hset : ∀ k : Nat, k < 2 →
      setItem (front ++ [x, y]) (k - 2) b = .ok (front ++ ([x, y].set k b)) := by
    intro k hk
    rw [setItem_eq b (by rw [InRange, hnorm k hk, hlen]; omega), place, hnorm k hk,
      Int.toNat_natCast, List.set_append_right _ _ (by omega), Nat.add_sub_cancel_left]
  exact ⟨hset 0 (by omega), hset 1 (by omega)⟩

theorem setItem_error {data : Bytes} {i : Int} (b : UInt8) (h : ¬ InRange data.length i) :
    setItem data i b = .error (.indexError "bytearray index out of range") := by
  unfold InRange at h
  rw [setItem, if_neg h]

theorem setItem_ok_iff {data out : Bytes} {i : Int} {b : UInt8} :
    setItem data i b = .ok out ↔
      InRange data.length i ∧ out = data.set (place data.length i) b := by
  by_cases h : InRange data.length i
  · rw [setItem_eq b h]
    simp [h, eq_comm]
  · rw [setItem_error b h]
    simp [h]

theorem getItem_ok_iff {data : Bytes} {i : Int} {b : UInt8} :
    getItem data i = .ok b ↔
      InRange data.length i ∧ data[place data.length i]? = some b := by
  rw [getItem]
  by_cases h : 0 ≤ normIndex data.length i
  · rw [if_pos h, show (normIndex data.length i).toNat = place data.length i from rfl]
    rcases Nat.lt_or_ge (place data.length i) data.length with hlt | hge
    · have hrange : InRange data.length i := ⟨h, by rw [place] at hlt; omega⟩
      rw [List.getElem?_eq_getElem hlt]
      simp [hrange]
    · rw [List.getElem?_eq_none hge]
      have hrange : ¬ InRange data.length i := fun hr => by
        have := hr.place_lt
        omega
      simp [hrange]
  · rw [if_neg h]
    have hrange : ¬ InRange data.length i := fun hr => h hr.1
    simp [hrange]

/-! ## The bytes of a field -/

/-- Bytes with the indices they go to. -/
abbrev Writes := List (Int × UInt8)

def Writes.apply (ws : Writes) (frame : Bytes) : Bytes :=
  ws.foldl (fun frame w => frame.set (place frame.length w.1) w.2) frame

@[simp] theorem Writes.apply_length (ws : Writes) (frame : Bytes) :
    (ws.apply frame).length = frame.length := by
  induction ws generalizing frame with
  | nil => rfl
  | cons w ws ih => exact (ih _).trans (List.length_set ..)

/-- The encoding of a raw integer. -/
def shortWrites (raw : Int) (record : ChannelDefinition) : Writes :=
  if record.length = 1 then [(record.position, (shortToBytes raw).1)]
  else if record.length = 2 then
    [(record.position, (shortToBytes raw).2), (record.position + 1, (shortToBytes raw).1)]
  else []

/-- The indices a field takes up when a number is written to it. -/
def ShortInRange (n : Nat) (record : ChannelDefinition) : Prop :=
  (record.length = 1 → InRange n record.position) ∧
    (record.length = 2 → InRange n record.position ∧ InRange n (record.position + 1))

instance (n : Nat) (record : ChannelDefinition) : Decidable (ShortInRange n record) :=
  inferInstanceAs (Decidable (_ ∧ _))

theorem writeShort_ok_iff {raw : Int} {frame out : Bytes} {record : ChannelDefinition} :
    writeShort raw frame record = .ok out ↔
      ShortInRange frame.length record ∧ out = (shortWrites raw record).apply frame := by
  rw [writeShort, ShortInRange, shortWrites]
  split
  · next h1 =>
      have h2 : record.length ≠ 2 := by omega
      simp [setItem_ok_iff, h1, Writes.apply]
  · next h1 =>
      split
      · next h2 =>
          simp only [bind_eq_ok, setItem_ok_iff]
          refine ⟨?_, ?_⟩
          · intro hc
            obtain ⟨_, ⟨ha, rfl⟩, hb, rfl⟩ := hc
            rw [List.length_set] at hb
            exact ⟨⟨fun h => absurd h h1, fun _ => ⟨ha, hb⟩⟩, rfl⟩
          · intro hc
            obtain ⟨⟨_, h⟩, rfl⟩ := hc
            obtain ⟨ha, hb⟩ := h h2
            exact ⟨_, ⟨ha, rfl⟩, by rwa [List.length_set], rfl⟩
      · next h2 => simp [h1, h2, Writes.apply, eq_comm]

/-- The middle of `compose_record`, between the status byte and the checksum. -/
def fieldWritten [Arithmetic] (newValue : DecodedValue) (response : Bytes)
    (record : ChannelDefinition) : Except Exc Bytes :=
  match newValue with
  | .bool b =>
      if record.bitPosition > 0 then do
        let old ← getItem response record.position
        setItem response record.position (setBit old record.bitPosition b)
      else setItem response record.position (if b then 1 else 0)
  | value =>
      if record.max.lt value.toFloat || value.toFloat.lt record.min then
        .error (.valueOutOfRange record.channelId value record.min record.max)
      else do
        let shortValue ← rawOf value record
        writeShort shortValue response record

theorem composeRecord_def [Arithmetic] (newValue : DecodedValue) (response : Bytes)
    (record : ChannelDefinition) :
    composeRecord newValue response record = (do
      let response ← setItem response 1 SET
      let response ← fieldWritten newValue response record
      let checksum ← calculateChecksum response
      setItem response 2 checksum) := by
  rw [composeRecord]
  cases setItem response 1 SET with
  | error e => rfl
  | ok response =>
      simp only [ok_bind]
      cases newValue with
      | bool b =>
          simp only [fieldWritten]
          split
          · simp only [bind_assoc]
          · rfl
      | int n =>
          simp only [fieldWritten]
          split
          · rfl
          · simp only [bind_assoc]
      | float x =>
          simp only [fieldWritten]
          split
          · rfl
          · simp only [bind_assoc]

/-- The value is a truth value, or a number within the record's bounds whose raw
integer can be computed. -/
def Encodable [Arithmetic] (v : DecodedValue) (record : ChannelDefinition) : Prop :=
  match v with
  | .bool _ => True
  | v => record.max.lt v.toFloat = false ∧ v.toFloat.lt record.min = false ∧
      (rawOf v record).toOption.isSome

/-- The bytes the value goes to exist in a frame of length `n`. -/
def FieldInRange (n : Nat) (v : DecodedValue) (record : ChannelDefinition) : Prop :=
  match v with
  | .bool _ => InRange n record.position
  | _ => ShortInRange n record

instance [Arithmetic] (v : DecodedValue) (record : ChannelDefinition) :
    Decidable (Encodable v record) := by
  cases v <;> unfold Encodable <;> infer_instance

instance (n : Nat) (v : DecodedValue) (record : ChannelDefinition) :
    Decidable (FieldInRange n v record) := by
  cases v <;> unfold FieldInRange <;> infer_instance

/-- The bytes a value is written as; those of a single bit depend on the byte that
was there. -/
def fieldWrites [Arithmetic] (v : DecodedValue) (frame : Bytes) (record : ChannelDefinition) :
    Writes :=
  match v with
  | .bool b =>
      if record.bitPosition > 0 then
        [(record.position,
          setBit (frame.getD (place frame.length record.position) 0) record.bitPosition b)]
      else [(record.position, if b then 1 else 0)]
  | v => shortWrites ((rawOf v record).toOption.getD 0) record

theorem fieldWritten_ok_iff [Arithmetic] {v : DecodedValue} {frame out : Bytes}
    {record : ChannelDefinition} :
    fieldWritten v frame record = .ok out ↔
      Encodable v record ∧ FieldInRange frame.length v record ∧
        out = (fieldWrites v frame record).apply frame := by
  have number : ∀ v : DecodedValue, (∀ b, v ≠ .bool b) →
      ((if record.max.lt v.toFloat || v.toFloat.lt record.min then
          Except.error (.valueOutOfRange record.channelId v record.min record.max)
        else do
          let shortValue ← rawOf v record
          writeShort shortValue frame record) = .ok out ↔
        (record.max.lt v.toFloat = false ∧ v.toFloat.lt record.min = false ∧
          (rawOf v record).toOption.isSome) ∧ ShortInRange frame.length record ∧
          out = (shortWrites ((rawOf v record).toOption.getD 0) record).apply frame) := by
    intro v _
    split
    · next h =>
        rw [Bool.or_eq_true] at h
        rcases h with h | h <;> simp [h]
    · next h =>
        simp only [Bool.or_eq_true, not_or, Bool.not_eq_true] at h
        rw [bind_eq_ok]
        cases hraw : rawOf v record with
        | error e => simp [Except.toOption]
        | ok raw => simp [h, writeShort_ok_iff, Except.toOption]
  cases v with
  | bool b =>
      rw [fieldWritten, Encodable, FieldInRange, fieldWrites]
      split
      · simp only [bind_eq_ok, getItem_ok_iff, setItem_ok_iff, true_and]
        refine ⟨?_, ?_⟩
        · intro hc
          obtain ⟨old, ⟨hr, hold⟩, _, rfl⟩ := hc
          refine ⟨hr, ?_⟩
          rw [List.getD_eq_getElem?_getD, hold]
          rfl
        · intro hc
          obtain ⟨hr, rfl⟩ := hc
          refine ⟨frame.get ⟨place frame.length record.position, hr.place_lt⟩,
            ⟨hr, List.getElem?_eq_getElem hr.place_lt⟩, hr, ?_⟩
          rw [List.getD_eq_getElem?_getD, List.getElem?_eq_getElem hr.place_lt]
          rfl
      · simp [setItem_ok_iff, Writes.apply]
  | int n => exact number (.int n) (by simp)
  | float x => exact number (.float x) (by simp)

/-! ## The composed frame -/

/-- Composing succeeds on the frame's length, the value and the record alone. -/
def Composable [Arithmetic] (n : Nat) (v : DecodedValue) (record : ChannelDefinition) : Prop :=
  5 ≤ n ∧ Encodable v record ∧ FieldInRange n v record

instance [Arithmetic] (n : Nat) (v : DecodedValue) (record : ChannelDefinition) :
    Decidable (Composable n v record) := inferInstanceAs (Decidable (_ ∧ _ ∧ _))

/-- The frame with its status byte set and the field's bytes in place. -/
def fieldFrame [Arithmetic] (v : DecodedValue) (frame : Bytes) (record : ChannelDefinition) :
    Bytes :=
  (fieldWrites v (frame.set 1 SET) record).apply (frame.set 1 SET)

@[simp] theorem fieldFrame_length [Arithmetic] (v : DecodedValue) (frame : Bytes)
    (record : ChannelDefinition) : (fieldFrame v frame record).length = frame.length := by
  rw [fieldFrame, Writes.apply_length, List.length_set]

theorem composeRecord_ok_iff [Arithmetic] {v : DecodedValue} {frame out : Bytes}
    {record : ChannelDefinition} :
    composeRecord v frame record = .ok out ↔
      Composable frame.length v record ∧
        out = (fieldFrame v frame record).set 2 (checksumOf (fieldFrame v frame record)) := by
  rw [composeRecord_def, bind_eq_ok]
  simp only [bind_eq_ok, fieldWritten_ok_iff, setItem_ok_iff, calculateChecksum]
  refine ⟨?_, ?_⟩
  · intro h
    obtain ⟨_, ⟨_, rfl⟩, _, ⟨hv, hr, rfl⟩, sum, hsum, _, rfl⟩ := h
    split at hsum
    · cases hsum
    · next hlen =>
        cases hsum
        rw [Writes.apply_length, List.length_set] at hlen
        rw [List.length_set] at hr
        exact ⟨⟨by omega, hv, hr⟩, rfl⟩
  · intro hc
    obtain ⟨⟨hlen, hv, hr⟩, rfl⟩ := hc
    refine ⟨frame.set 1 SET, ⟨inRange_natCast (k := 1).mpr (by omega), rfl⟩,
      fieldFrame v frame record, ⟨hv, by rwa [List.length_set], rfl⟩,
      checksumOf (fieldFrame v frame record), ?_, inRange_natCast (k := 2).mpr ?_, rfl⟩
    · rw [if_neg (by rw [fieldFrame_length]; omega)]
    · rw [fieldFrame_length]
      omega

theorem composeRecord_succeeds_iff [Arithmetic] {v : DecodedValue} {frame : Bytes}
    {record : ChannelDefinition} :
    (∃ out, composeRecord v frame record = .ok out) ↔ Composable frame.length v record := by
  refine ⟨?_, ?_⟩
  · intro hc
    obtain ⟨out, h⟩ := hc
    exact (composeRecord_ok_iff.mp h).1
  · intro h
    exact ⟨_, composeRecord_ok_iff.mpr ⟨h, rfl⟩⟩

theorem composeRecord_length [Arithmetic] {v : DecodedValue} {frame out : Bytes}
    {record : ChannelDefinition} (h : composeRecord v frame record = .ok out) :
    out.length = frame.length := by
  rw [(composeRecord_ok_iff.mp h).2, List.length_set, fieldFrame_length]

/-- Several values go into one frame when each of them does. -/
theorem composeAll_succeeds_iff {items : List (DecodedValue × ChannelDefinition)}
    {frame : Bytes} :
    (∃ out, CommunicationService.composeAll items frame = .ok out) ↔
      ∀ item ∈ items, Composable frame.length item.1 item.2 := by
  refine foldlM_succeeds_iff (I := fun b : Bytes => b.length = frame.length)
    (P := fun item => Composable frame.length item.1 item.2) ?_ ?_ items rfl
  · intro b item hb
    rw [composeRecord_succeeds_iff, hb]
  · intro b item b' hb h
    rw [composeRecord_length h, hb]

/-! ## How composing fails -/

/-- The status byte can be set and the field written; only the checksum may still be
missing a byte to stand in. -/
def Accommodates [Arithmetic] (n : Nat) (v : DecodedValue) (record : ChannelDefinition) : Prop :=
  2 ≤ n ∧ Encodable v record ∧ FieldInRange n v record

instance [Arithmetic] (n : Nat) (v : DecodedValue) (record : ChannelDefinition) :
    Decidable (Accommodates n v record) := inferInstanceAs (Decidable (_ ∧ _ ∧ _))

theorem Composable.accommodates [Arithmetic] {n : Nat} {v : DecodedValue}
    {record : ChannelDefinition} (h : Composable n v record) : Accommodates n v record :=
  ⟨by have := h.1; omega, h.2⟩

theorem getItem_error {data : Bytes} {i : Int} {e : Exc} (h : getItem data i = .error e) :
    e.isProtocolError = false := by
  rw [getItem] at h
  split at h
  · split at h
    · cases h
    · cases h
      rfl
  · cases h
    rfl

theorem setItem_not_protocolError {data : Bytes} {i : Int} {b : UInt8} {e : Exc}
    (h : setItem data i b = .error e) : e.isProtocolError = false := by
  rw [setItem] at h
  split at h
  · cases h
  · cases h
    rfl

theorem PyFloat.div_error [Arithmetic] {x y : PyFloat} {e : Exc} (h : x.div y = .error e) :
    e.isProtocolError = false := by
  rw [PyFloat.div.eq_def] at h
  split at h
  · split at h
    · cases h
      rfl
    · cases h
  · cases h
  · cases h
  · cases h

theorem PyFloat.floor_error {x : PyFloat} {e : Exc} (h : x.floor = .error e) :
    e.isProtocolError = false := by
  cases x with
  | finite q => cases h
  | posInf | negInf | nan =>
      cases h
      rfl

theorem rawOf_error [Arithmetic] {v : DecodedValue} {record : ChannelDefinition} {e : Exc}
    (h : rawOf v record = .error e) : e.isProtocolError = false := by
  cases v with
  | bool b => cases h
  | int n => cases h
  | float x =>
      rcases bind_eq_error.mp h with hdiv | ⟨q, _, hfloor⟩
      · exact PyFloat.div_error hdiv
      · exact PyFloat.floor_error hfloor

theorem writeShort_error {raw : Int} {frame : Bytes} {record : ChannelDefinition} {e : Exc}
    (h : writeShort raw frame record = .error e) : e.isProtocolError = false := by
  rw [writeShort] at h
  split at h
  · exact setItem_not_protocolError h
  · split at h
    · rcases bind_eq_error.mp h with hset | ⟨_, _, hset⟩
      · exact setItem_not_protocolError hset
      · exact setItem_not_protocolError hset
    · cases h

theorem fieldWritten_error [Arithmetic] {v : DecodedValue} {frame : Bytes}
    {record : ChannelDefinition} {e : Exc} (h : fieldWritten v frame record = .error e) :
    e.isProtocolError = false := by
  have number : ∀ v : DecodedValue,
      (if record.max.lt v.toFloat || v.toFloat.lt record.min then
        Except.error (.valueOutOfRange record.channelId v record.min record.max)
      else do
        let shortValue ← rawOf v record
        writeShort shortValue frame record) = Except.error e → e.isProtocolError = false := by
    intro v h
    split at h
    · cases h
      rfl
    · rcases bind_eq_error.mp h with hraw | ⟨_, _, hwrite⟩
      · exact rawOf_error hraw
      · exact writeShort_error hwrite
  cases v with
  | bool b =>
      rw [fieldWritten] at h
      split at h
      · rcases bind_eq_error.mp h with hget | ⟨_, _, hset⟩
        · exact getItem_error hget
        · exact setItem_not_protocolError hset
      · exact setItem_not_protocolError h
  | int n => exact number (.int n) h
  | float x => exact number (.float x) h

/-- Of all the ways in which composing fails, only a frame with no room for a
checksum counts as a fault of the protocol. -/
theorem composeRecord_error_iff [Arithmetic] {v : DecodedValue} {frame : Bytes}
    {record : ChannelDefinition} {e : Exc} (h : composeRecord v frame record = .error e) :
    e.isProtocolError = true ↔ Accommodates frame.length v record := by
  rw [composeRecord_def] at h
  by_cases hlen : 2 ≤ frame.length
  · have hstatus : setItem frame 1 SET = .ok (frame.set 1 SET) :=
      setItem_eq SET (inRange_natCast (k := 1).mpr hlen)
    rw [hstatus, ok_bind] at h
    rcases bind_eq_error.mp h with hfield | ⟨out, hfield, hsum⟩
    · rw [fieldWritten_error hfield]
      refine ⟨?_, ?_⟩
      · intro hfalse
        cases hfalse
      · intro hc
        obtain ⟨_, hv, hr⟩ := hc
        rw [fieldWritten_ok_iff.mpr ⟨hv, by rwa [List.length_set], rfl⟩] at hfield
        cases hfield
    · obtain ⟨hv, hr, rfl⟩ := fieldWritten_ok_iff.mp hfield
      rw [List.length_set] at hr
      refine iff_of_true ?_ ⟨hlen, hv, hr⟩
      rcases bind_eq_error.mp hsum with hcheck | ⟨_, hcheck, hset⟩
      · rw [calculateChecksum] at hcheck
        split at hcheck
        · cases hcheck
          rfl
        · cases hcheck
      · rw [calculateChecksum] at hcheck
        split at hcheck
        · cases hcheck
        · next hlong =>
            have hslot : InRange (Writes.apply _ _).length 2 :=
              inRange_natCast (k := 2).mpr (Nat.lt_of_lt_of_le (by decide) (Nat.le_of_not_lt hlong))
            rw [setItem_eq _ hslot] at hset
            cases hset
  · have hstatus : setItem frame 1 SET = .error (.indexError "bytearray index out of range") :=
      setItem_error SET fun hr => hlen (inRange_natCast (k := 1).mp hr)
    rw [hstatus, error_bind] at h
    cases h
    exact iff_of_false (by decide) fun hacc => hlen hacc.1

/-! ## Byte by byte -/

/-- The places of the written bytes in a frame of length `n`. -/
def Writes.places (n : Nat) (ws : Writes) : List Nat := ws.map fun w => place n w.1

theorem Writes.apply_cons (w : Int × UInt8) (ws : Writes) (frame : Bytes) :
    Writes.apply (w :: ws) frame = ws.apply (frame.set (place frame.length w.1) w.2) := rfl

theorem Writes.getElem?_apply_of_not_mem {ws : Writes} :
    ∀ {frame : Bytes} {j : Nat}, j ∉ ws.places frame.length →
      (ws.apply frame)[j]? = frame[j]? := by
  induction ws with
  | nil => intro _ _ _; rfl
  | cons w ws ih =>
      intro frame j hj
      rw [Writes.places, List.map_cons, List.mem_cons, not_or] at hj
      rw [Writes.apply_cons, ih (by rw [List.length_set]; exact hj.2),
        List.getElem?_set_ne (Ne.symm hj.1)]

theorem Writes.getElem?_apply_of_mem {ws : Writes} :
    ∀ {frame : Bytes} {w : Int × UInt8}, (ws.places frame.length).Nodup → w ∈ ws →
      place frame.length w.1 < frame.length →
      (ws.apply frame)[place frame.length w.1]? = some w.2 := by
  induction ws with
  | nil => intro _ _ _ hw _; cases hw
  | cons w' ws ih =>
      intro frame w hnd hw hlt
      rw [Writes.places, List.map_cons, List.nodup_cons] at hnd
      rw [Writes.apply_cons]
      rcases List.mem_cons.mp hw with rfl | hw
      · rw [Writes.getElem?_apply_of_not_mem (by rw [List.length_set]; exact hnd.1),
          List.getElem?_set_self hlt]
      · have hrest := @ih (frame.set (place frame.length w'.1) w'.2) w
        rw [List.length_set] at hrest
        exact hrest hnd.2 hw hlt

/-- Bytes at places of their own leave a set of places as it was exactly when those
among them repeat what is there. -/
theorem Writes.apply_agrees_iff {ws : Writes} {frame : Bytes} {P : Nat → Prop}
    (hnd : (ws.places frame.length).Nodup)
    (hlt : ∀ w ∈ ws, place frame.length w.1 < frame.length) :
    (∀ j, P j → (ws.apply frame)[j]? = frame[j]?) ↔
      ∀ w ∈ ws, P (place frame.length w.1) → frame[place frame.length w.1]? = some w.2 := by
  refine ⟨?_, ?_⟩
  · intro h w hw hP
    rw [← h _ hP, Writes.getElem?_apply_of_mem hnd hw (hlt w hw)]
  · intro h j hP
    by_cases hj : j ∈ ws.places frame.length
    · obtain ⟨w, hw, rfl⟩ := List.mem_map.mp hj
      rw [Writes.getElem?_apply_of_mem hnd hw (hlt w hw), h w hw hP]
    · exact Writes.getElem?_apply_of_not_mem hj

theorem shortWrites_places {n : Nat} {raw : Int} {record : ChannelDefinition} (hn : 2 ≤ n)
    (h : ShortInRange n record) :
    ((shortWrites raw record).places n).Nodup ∧
      ∀ w ∈ shortWrites raw record, place n w.1 < n := by
  rw [shortWrites]
  split
  · next h1 =>
      refine ⟨by simp [Writes.places], ?_⟩
      intro w hw
      rw [List.mem_singleton.mp hw]
      exact (h.1 h1).place_lt
  · split
    · next h2 =>
        obtain ⟨ha, hb⟩ := h.2 h2
        refine ⟨by simp [Writes.places, place_inj ha hb hn], ?_⟩
        intro w hw
        simp only [List.mem_cons, List.not_mem_nil, or_false] at hw
        rcases hw with rfl | rfl
        · exact ha.place_lt
        · exact hb.place_lt
    · exact ⟨by simp [Writes.places], by simp⟩

/-- The bytes of a field that lies in the frame have places of their own there. -/
theorem fieldWrites_places [Arithmetic] {n : Nat} {v : DecodedValue} {record : ChannelDefinition}
    (frame : Bytes) (hn : 2 ≤ n) (h : FieldInRange n v record) :
    ((fieldWrites v frame record).places n).Nodup ∧
      ∀ w ∈ fieldWrites v frame record, place n w.1 < n := by
  cases v with
  | bool b =>
      rw [fieldWrites]
      split
      · refine ⟨by simp [Writes.places], ?_⟩
        intro w hw
        rw [List.mem_singleton.mp hw]
        exact InRange.place_lt h
      · refine ⟨by simp [Writes.places], ?_⟩
        intro w hw
        rw [List.mem_singleton.mp hw]
        exact InRange.place_lt h
  | int n => exact shortWrites_places hn h
  | float x => exact shortWrites_places hn h

/-- A field is written within its bytes. -/
theorem fieldWrites_within [Arithmetic] {record : ChannelDefinition} (hpos : 0 < record.length)
    (v : DecodedValue) (frame : Bytes) : ∀ w ∈ fieldWrites v frame record,
      record.position ≤ w.1 ∧ w.1 < record.position + record.length := by
  have short : ∀ raw, ∀ w ∈ shortWrites raw record,
      record.position ≤ w.1 ∧ w.1 < record.position + record.length := by
    intro raw w hw
    rw [shortWrites] at hw
    split at hw
    · rw [List.mem_singleton.mp hw]
      exact ⟨Int.le_refl _, by omega⟩
    · split at hw
      · simp only [List.mem_cons, List.not_mem_nil, or_false] at hw
        rcases hw with rfl | rfl
        · exact ⟨Int.le_refl _, by show record.position < _; omega⟩
        · exact ⟨by show record.position ≤ record.position + 1; omega,
            by show record.position + 1 < _; omega⟩
      · cases hw
  intro w hw
  cases v with
  | bool b =>
      rw [fieldWrites] at hw
      split at hw <;> rw [List.mem_singleton.mp hw] <;> exact ⟨Int.le_refl _, by
        show record.position < _; omega⟩
  | int n => exact short _ w hw
  | float x => exact short _ w hw

/-- A byte that is not written may as well be set afterwards. -/
theorem Writes.apply_set {ws : Writes} {j : Nat} {x : UInt8} : ∀ {frame : Bytes},
    j ∉ ws.places frame.length → ws.apply (frame.set j x) = (ws.apply frame).set j x := by
  induction ws with
  | nil => intro _ _; rfl
  | cons w ws ih =>
      intro frame hj
      rw [Writes.places, List.map_cons, List.mem_cons, not_or] at hj
      rw [Writes.apply_cons, Writes.apply_cons, List.length_set, List.set_comm _ _ hj.1,
        ih (by rw [List.length_set]; exact hj.2)]

/-- Writes to different places may be made in any order. -/
theorem Writes.apply_comm {ws ws' : Writes} : ∀ {frame : Bytes},
    (∀ j ∈ ws'.places frame.length, j ∉ ws.places frame.length) →
      ws.apply (ws'.apply frame) = ws'.apply (ws.apply frame) := by
  induction ws' with
  | nil => intro _ _; rfl
  | cons w ws' ih =>
      intro frame h
      rw [Writes.places, List.map_cons, List.forall_mem_cons] at h
      rw [Writes.apply_cons, Writes.apply_cons, ih (by rw [List.length_set]; exact h.2),
        Writes.apply_set h.1, Writes.apply_length]

end HeatpumpGateway
