import HeatpumpGateway.Proofs.Bits
import HeatpumpGateway.Proofs.Coercion

/-!
# The order of the values of a write

Several values are composed into one frame one after another, each with a checksum
over what the others have left so far. Fields without a bit in common make the order
irrelevant: any two of the steps may be swapped (`composeRecord_swap`), the checksum
being the last step's in either order.

An item is turned down on its own account, wherever it stands. A value out of its
record's bounds is what a caller is told of only when no other item has an error of
its own first, which a value that its scale cannot divide has.
-/

namespace HeatpumpGateway

open Dialogue Fallible CommunicationService

/-! ## Items of a write -/

/-- A value of the record's kind, and a finite one. -/
def OfKind (record : ChannelDefinition) (v : DecodedValue) : Prop :=
  match record.valueKind, v with
  | .boolean, .bool _ => True
  | .integer, .int _ => True
  | .number, .float (.finite _) => True
  | _, _ => False

/-- A value for a field of one or two bytes in the payload of a frame of length `n`. -/
structure PayloadItem (n : Nat) (item : DecodedValue × ChannelDefinition) : Prop where
  kind : OfKind item.2 item.1
  length : item.2.length = 1 ∨ item.2.length = 2
  bit : item.2.bitPosition ≤ 7
  payload : InPayload n item.2
  scaled : ¬ Outside item.2 item.1 → (rawOf item.1 item.2).toOption.isSome

/-- No bit belongs to both fields. -/
def BitDisjoint (n : Nat) (record record' : ChannelDefinition) : Prop :=
  ∀ j i, i < 8 → FieldBit n record j i → ¬ FieldBit n record' j i

theorem BitDisjoint.symm {n : Nat} {record record' : ChannelDefinition}
    (h : BitDisjoint n record record') : BitDisjoint n record' record :=
  fun j i hi h' hc => h j i hi hc h'

/-- An item's bytes in place, and nothing else. -/
def itemWritten (item : DecodedValue × ChannelDefinition) (frame : Bytes) : Bytes :=
  (fieldWrites item.1 frame item.2).apply frame

@[simp] theorem itemWritten_length (item : DecodedValue × ChannelDefinition) (frame : Bytes) :
    (itemWritten item frame).length = frame.length := Writes.apply_length ..

section items

variable {frame : Bytes} {item item' : DecodedValue × ChannelDefinition}

/-- An item of a bit number is a truth value, for the first byte of its field. -/
theorem PayloadItem.bit_writes (h : PayloadItem frame.length item) (hbit : 0 < item.2.bitPosition)
    (g : Bytes) : ∃ b, item.1 = .bool b ∧ fieldWrites item.1 g item.2 =
      [(item.2.position,
        setBit (g.getD (place g.length item.2.position) 0) item.2.bitPosition b)] := by
  have hkind := h.kind
  have hboolean : item.2.valueKind = .boolean := by
    rw [ChannelDefinition.valueKind, if_pos hbit]
  unfold OfKind at hkind
  rw [hboolean] at hkind
  cases hv : item.1 with
  | bool b => exact ⟨b, rfl, by rw [fieldWrites, if_pos hbit]⟩
  | int n | float x =>
      rw [hv] at hkind
      exact absurd hkind id

/-- An item is written within the bytes of its field. -/
theorem PayloadItem.places (h : PayloadItem frame.length item) (g : Bytes) {j : Nat}
    (hj : j ∈ (fieldWrites item.1 g item.2).places frame.length) :
    item.2.position ≤ j ∧ (j : Int) < item.2.position + item.2.length := by
  obtain ⟨w, hw, rfl⟩ := List.mem_map.mp hj
  have hlen := h.length
  obtain ⟨hlo, hhi⟩ := fieldWrites_within (by omega) item.1 g w hw
  have h₃ := h.payload.1
  obtain ⟨k, hk⟩ := Int.eq_ofNat_of_zero_le (show 0 ≤ w.1 by omega)
  rw [hk] at hlo hhi ⊢
  show item.2.position ≤ (place frame.length (k : Int) : Int) ∧
    (place frame.length (k : Int) : Int) < _
  rw [place_natCast]
  exact ⟨hlo, hhi⟩

/-- A field without a bit number has all bits of the bytes it is written to. -/
theorem PayloadItem.whole (h : PayloadItem frame.length item) (hbit : ¬ 0 < item.2.bitPosition)
    (g : Bytes) {j : Nat} (hj : j ∈ (fieldWrites item.1 g item.2).places frame.length) (i : Nat) :
    FieldBit frame.length item.2 j i := by
  have h₃ := h.payload.1
  rw [FieldBit, if_neg fun hc => hbit hc.1, normIndex, if_neg (by omega)]
  exact h.places g hj

/-- Some bit of every byte that is written belongs to the field. -/
theorem PayloadItem.some_bit (h : PayloadItem frame.length item) (g : Bytes) {j : Nat}
    (hj : j ∈ (fieldWrites item.1 g item.2).places frame.length) :
    ∃ i, i < 8 ∧ FieldBit frame.length item.2 j i := by
  by_cases hbit : 0 < item.2.bitPosition
  · obtain ⟨b, _, hwrites⟩ := h.bit_writes hbit g
    obtain ⟨p, hp, h₃, _⟩ := h.payload.exists_place
    have hseven := h.bit
    have hlen := h.length
    rw [hwrites, Writes.places, List.map_singleton, List.mem_singleton, hp, place_natCast] at hj
    refine ⟨item.2.bitPosition.toNat, by omega, ?_⟩
    rw [FieldBit, if_pos ⟨hbit, by omega⟩, normIndex, if_neg (by omega), hj, hp]
    omega
  · exact ⟨0, by decide, h.whole hbit g hj 0⟩

theorem PayloadItem.of_length {n : Nat} (h : PayloadItem n item) (hn : frame.length = n) :
    PayloadItem frame.length item := hn ▸ h

/-- The header is none of an item's business. -/
theorem itemWritten_set (h : PayloadItem frame.length item) {j : Nat} (hj : j < 3) (x : UInt8) :
    itemWritten item (frame.set j x) = (itemWritten item frame).set j x := by
  have h₃ := h.payload.1
  have hwrites : fieldWrites item.1 (frame.set j x) item.2 = fieldWrites item.1 frame item.2 := by
    obtain ⟨p, hp, hlo, _⟩ := h.payload.exists_place
    refine fieldWrites_congr (List.length_set ..) ?_
    rw [hp, place_natCast, List.getElem?_set_ne (by omega)]
  rw [itemWritten, hwrites, Writes.apply_set]
  · rfl
  · intro hmem
    have := (h.places frame hmem).1
    omega

theorem composeRecord_item (h : PayloadItem frame.length item) (hin : ¬ Outside item.2 item.1) :
    composeRecord item.1 frame item.2 = .ok (sealed ((itemWritten item frame).set 1 SET)) := by
  have hlen := h.length
  rw [composeRecord_payload (by omega) h.payload, encodable_iff]
  refine ⟨⟨hin, h.scaled hin⟩, ?_⟩
  rw [← itemWritten_set h (by decide), itemWritten]
  congr 2
  obtain ⟨p, hp, hlo, _⟩ := h.payload.exists_place
  refine fieldWrites_congr (by rw [List.length_set]) ?_
  rw [hp, place_natCast, List.getElem?_set_ne (by omega)]

/-! ## Swapping two items -/

theorem setBit_comm {x : UInt8} {i j : Int} (hi : 0 < i ∧ i ≤ 7) (hj : 0 < j ∧ j ≤ 7)
    (hne : i ≠ j) (b c : Bool) : setBit (setBit x i b) j c = setBit (setBit x j c) i b := by
  refine byte_ext fun k hk => ?_
  rw [testBit_setBit (by omega) (by omega) (by omega) (by omega),
    testBit_setBit (by omega) (by omega) (by omega) (by omega),
    testBit_setBit (by omega) (by omega) (by omega) (by omega),
    testBit_setBit (by omega) (by omega) (by omega) (by omega)]
  by_cases hjk : j = k
  · rw [if_pos hjk, if_pos hjk, if_neg (by omega)]
  · rw [if_neg hjk, if_neg hjk]

/-- What an item writes does not depend on bytes it does not write. -/
theorem fieldWrites_apart {ws : Writes} {v : DecodedValue} {record : ChannelDefinition}
    (hapart : ∀ j ∈ (fieldWrites v frame record).places frame.length,
      j ∉ ws.places frame.length) :
    fieldWrites v (ws.apply frame) record = fieldWrites v frame record := by
  cases v with
  | bool b =>
      by_cases hbit : record.bitPosition > 0
      · refine fieldWrites_congr (Writes.apply_length ..) ?_
        rw [Writes.apply_length, Writes.getElem?_apply_of_not_mem]
        refine hapart _ ?_
        rw [fieldWrites, if_pos hbit]
        exact List.mem_singleton.mpr rfl
      · rw [fieldWrites, fieldWrites, if_neg hbit, if_neg hbit]
  | int n => rfl
  | float x => rfl

/-- Items that are written to different bytes may be written in any order. -/
theorem itemWritten_comm_apart
    (hapart : ∀ j ∈ (fieldWrites item.1 frame item.2).places frame.length,
      j ∉ (fieldWrites item'.1 frame item'.2).places frame.length) :
    itemWritten item' (itemWritten item frame) = itemWritten item (itemWritten item' frame) := by
  have hwrites : fieldWrites item.1 (itemWritten item' frame) item.2
      = fieldWrites item.1 frame item.2 := fieldWrites_apart hapart
  have hwrites' : fieldWrites item'.1 (itemWritten item frame) item'.2
      = fieldWrites item'.1 frame item'.2 :=
    fieldWrites_apart fun j hj hc => hapart j hc hj
  calc itemWritten item' (itemWritten item frame)
      = (fieldWrites item'.1 frame item'.2).apply (itemWritten item frame) := by
        rw [← hwrites']
        rfl
    _ = (fieldWrites item.1 frame item.2).apply (itemWritten item' frame) :=
        Writes.apply_comm hapart
    _ = itemWritten item (itemWritten item' frame) := by
        rw [← hwrites]
        rfl

/-- So may different bits of one byte. -/
theorem itemWritten_comm_bits (h : PayloadItem frame.length item)
    (h' : PayloadItem frame.length item') (hbit : 0 < item.2.bitPosition)
    (hbit' : 0 < item'.2.bitPosition) (hne : item.2.bitPosition ≠ item'.2.bitPosition)
    (hpos : item.2.position = item'.2.position) :
    itemWritten item' (itemWritten item frame) = itemWritten item (itemWritten item' frame) := by
  obtain ⟨p, hp, h₃, hn⟩ := h.payload.exists_place
  have hp' : item'.2.position = p := hpos ▸ hp
  have hplt : p < frame.length := by
    have := h.length
    omega
  have hwritten : ∀ b, item.1 = .bool b → ∀ g : Bytes,
      itemWritten item g = g.set p (setBit (g.getD p 0) item.2.bitPosition b) := by
    intro b hb g
    rw [itemWritten, hb, fieldWrites, if_pos hbit, hp, place_natCast, Writes.apply_cons,
      place_natCast]
    rfl
  have hwritten' : ∀ b, item'.1 = .bool b → ∀ g : Bytes,
      itemWritten item' g = g.set p (setBit (g.getD p 0) item'.2.bitPosition b) := by
    intro b hb g
    rw [itemWritten, hb, fieldWrites, if_pos hbit', hp', place_natCast, Writes.apply_cons,
      place_natCast]
    rfl
  obtain ⟨b, hb, _⟩ := h.bit_writes hbit frame
  obtain ⟨b', hb', _⟩ := h'.bit_writes hbit' frame
  have hget : ∀ x : UInt8, (frame.set p x).getD p 0 = x := by
    intro x
    rw [List.getD_eq_getElem?_getD, List.getElem?_set_self hplt]
    rfl
  rw [hwritten b hb, hwritten' b' hb', hwritten' b' hb', hwritten b hb, hget, hget, List.set_set,
    List.set_set, setBit_comm ⟨hbit, h.bit⟩ ⟨hbit', h'.bit⟩ hne]

theorem itemWritten_comm (h : PayloadItem frame.length item) (h' : PayloadItem frame.length item')
    (hd : BitDisjoint frame.length item.2 item'.2) :
    itemWritten item' (itemWritten item frame) = itemWritten item (itemWritten item' frame) := by
  by_cases hbit : 0 < item.2.bitPosition
  · by_cases hbit' : 0 < item'.2.bitPosition
    · by_cases hpos : item.2.position = item'.2.position
      · refine itemWritten_comm_bits h h' hbit hbit' (fun heq => ?_) hpos
        obtain ⟨p, hp, h₃, _⟩ := h.payload.exists_place
        have hseven := h.bit
        have hlen := h.length
        have hlen' := h'.length
        refine hd p item.2.bitPosition.toNat (by omega) ?_ ?_
        · rw [FieldBit, if_pos ⟨hbit, by omega⟩, normIndex, if_neg (by omega)]
          omega
        · rw [FieldBit, if_pos ⟨hbit', by omega⟩, normIndex, if_neg (by omega)]
          omega
      · refine itemWritten_comm_apart fun j hj hj' => hpos ?_
        obtain ⟨_, _, hwrites⟩ := h.bit_writes hbit frame
        obtain ⟨_, _, hwrites'⟩ := h'.bit_writes hbit' frame
        rw [hwrites, Writes.places, List.map_singleton, List.mem_singleton] at hj
        rw [hwrites', Writes.places, List.map_singleton, List.mem_singleton] at hj'
        obtain ⟨p, hp, _, _⟩ := h.payload.exists_place
        obtain ⟨p', hp', _, _⟩ := h'.payload.exists_place
        rw [hp, place_natCast] at hj
        rw [hp', place_natCast] at hj'
        omega
    · refine itemWritten_comm_apart fun j hj hj' => ?_
      obtain ⟨i, hi, hfield⟩ := h.some_bit frame hj
      exact hd j i hi hfield (h'.whole hbit' frame hj' i)
  · refine itemWritten_comm_apart fun j hj hj' => ?_
    obtain ⟨i, hi, hfield⟩ := h'.some_bit frame hj'
    exact hd j i hi (h.whole hbit frame hj i) hfield

/-- Both orders leave the same frame, checksum included. -/
theorem composeRecord_swap (h : PayloadItem frame.length item)
    (h' : PayloadItem frame.length item') (hin : ¬ Outside item.2 item.1)
    (hin' : ¬ Outside item'.2 item'.1) (hd : BitDisjoint frame.length item.2 item'.2) :
    (composeRecord item.1 frame item.2 >>= (composeRecord item'.1 · item'.2))
      = (composeRecord item'.1 frame item'.2 >>= (composeRecord item.1 · item.2)) := by
  have two : ∀ {item item' : DecodedValue × ChannelDefinition}, PayloadItem frame.length item →
      PayloadItem frame.length item' → ¬ Outside item.2 item.1 → ¬ Outside item'.2 item'.1 →
      (composeRecord item.1 frame item.2 >>= (composeRecord item'.1 · item'.2))
        = .ok (sealed ((itemWritten item' (itemWritten item frame)).set 1 SET)) := by
    intro item item' h h' hin hin'
    have hset : ((itemWritten item frame).set 1 SET).length = frame.length := by
      rw [List.length_set, itemWritten_length]
    have hseal : (sealed ((itemWritten item frame).set 1 SET)).length = frame.length := by
      rw [sealed_length, hset]
    rw [composeRecord_item h hin, ok_bind, composeRecord_item (h'.of_length hseal) hin']
    have hwritten : itemWritten item' (sealed ((itemWritten item frame).set 1 SET))
        = ((itemWritten item' (itemWritten item frame)).set 1 SET).set 2
            (checksumOf ((itemWritten item frame).set 1 SET)) := by
      rw [sealed, itemWritten_set (h'.of_length hset) (by decide),
        itemWritten_set (h'.of_length (itemWritten_length ..)) (by decide)]
    rw [hwritten, List.set_comm _ _ (by decide : (2 : Nat) ≠ 1), List.set_set, sealed_set]
  rw [two h h' hin hin', two h' h hin' hin, itemWritten_comm h h' hd]

end items

/-! ## All items of a write -/

section write

variable {frame : Bytes} {items : List (DecodedValue × ChannelDefinition)}

/-- A byte without a bit of the item's field keeps its value. -/
theorem itemWritten_other {item : DecodedValue × ChannelDefinition}
    (h : PayloadItem frame.length item) {j : Nat}
    (hj : ∀ i, i < 8 → ¬ FieldBit frame.length item.2 j i) :
    (itemWritten item frame)[j]? = frame[j]? := by
  refine Writes.getElem?_apply_of_not_mem fun hmem => ?_
  obtain ⟨i, hi, hfield⟩ := h.some_bit frame hmem
  exact hj i hi hfield

/-- What one composed item leaves of a frame of length `n`. -/
structure Composed (n : Nat) (frame out : Bytes)
    (items : List (DecodedValue × ChannelDefinition)) : Prop where
  length : out.length = n
  checksum : out[2]? = some (checksumOf out)
  unchanged : ∀ j, j ≠ 1 → j ≠ 2 →
    (∀ item ∈ items, ∀ i, i < 8 → ¬ FieldBit n item.2 j i) → out[j]? = frame[j]?

theorem composed_step {n : Nat} {before out : Bytes} {item : DecodedValue × ChannelDefinition}
    (hitem : PayloadItem n item) (hin : ¬ Outside item.2 item.1) (hmem : item ∈ items)
    (hlen : before.length = n)
    (hbefore : ∀ j, j ≠ 1 → j ≠ 2 →
      (∀ item ∈ items, ∀ i, i < 8 → ¬ FieldBit n item.2 j i) → before[j]? = frame[j]?)
    (h : composeRecord item.1 before item.2 = .ok out) : Composed n frame out items := by
  have hitem' := hitem.of_length hlen
  obtain rfl := Except.ok.inj ((composeRecord_item hitem' hin).symm.trans h)
  have hn := hitem.payload.2
  have h₃ := hitem.payload.1
  have hone := hitem.length
  refine ⟨by rw [sealed_length, List.length_set, itemWritten_length, hlen], ?_, ?_⟩
  · refine sealed_checksum ?_
    rw [List.length_set, itemWritten_length]
    omega
  · intro j h₁ h₂ hout
    rw [sealed, List.getElem?_set_ne (Ne.symm h₂), List.getElem?_set_ne (Ne.symm h₁),
      itemWritten_other hitem' (hlen ▸ hout item hmem), hbefore j h₁ h₂ hout]

/-- The items of a write leave a sealed frame with nothing but their fields changed. -/
theorem composed_all {all : List (DecodedValue × ChannelDefinition)} {n : Nat} {out : Bytes}
    (hall : ∀ item ∈ all, PayloadItem n item ∧ ¬ Outside item.2 item.1) :
    ∀ items : List (DecodedValue × ChannelDefinition), items ⊆ all → ∀ before : Bytes,
      before.length = n →
      (∀ j, j ≠ 1 → j ≠ 2 → (∀ item ∈ all, ∀ i, i < 8 → ¬ FieldBit n item.2 j i) →
        before[j]? = frame[j]?) →
      items ≠ [] → composeAll items before = .ok out → Composed n frame out all := by
  intro items
  induction items with
  | nil => intro _ _ _ _ hne _; exact absurd rfl hne
  | cons item items ih =>
      intro hsub before hlen hbefore _ h
      rw [composeAll, List.foldlM_cons] at h
      obtain ⟨next, hfirst, hrest⟩ := bind_eq_ok.mp h
      have hmem := hsub List.mem_cons_self
      obtain ⟨hitem, hin⟩ := hall item hmem
      have hnext := composed_step hitem hin hmem hlen hbefore hfirst
      by_cases hnil : items = []
      · subst hnil
        cases hrest
        exact hnext
      · exact ih (fun _ hx => hsub (List.mem_cons_of_mem _ hx)) next hnext.length hnext.unchanged
          hnil hrest

/-- A value out of bounds is turned down before anything is written. -/
theorem composeRecord_outside {item : DecodedValue × ChannelDefinition}
    (hlen : 2 ≤ frame.length) (hout : Outside item.2 item.1) :
    composeRecord item.1 frame item.2
      = .error (.valueOutOfRange item.2.channelId item.1 item.2.min item.2.max) := by
  have hstatus : setItem frame 1 SET = .ok (frame.set 1 SET) :=
    setItem_eq SET (inRange_natCast (k := 1).mpr hlen)
  have hfield : fieldWritten item.1 (frame.set 1 SET) item.2
      = .error (.valueOutOfRange item.2.channelId item.1 item.2.min item.2.max) := by
    cases hv : item.1 with
    | bool b =>
        rw [hv] at hout
        exact absurd hout id
    | int n | float x =>
        rw [hv] at hout
        exact if_pos (by
          rw [Bool.or_eq_true]
          exact hout)
  rw [composeRecord_def, hstatus, ok_bind, hfield, error_bind]

/-- The first item out of bounds is the one the caller is told of. -/
theorem composeAll_outside : ∀ {items : List (DecodedValue × ChannelDefinition)} {frame : Bytes},
    (∀ item ∈ items, PayloadItem frame.length item) → (∃ item ∈ items, Outside item.2 item.1) →
      ∃ channelId v lo hi,
        composeAll items frame = .error (.valueOutOfRange channelId v lo hi) := by
  intro items
  induction items with
  | nil =>
      intro _ _ hc
      obtain ⟨_, hmem, _⟩ := hc
      cases hmem
  | cons item items ih =>
      intro frame hall hsome
      have hitem := hall item List.mem_cons_self
      have hn := hitem.payload.2
      have h₃ := hitem.payload.1
      have hone := hitem.length
      rw [composeAll, List.foldlM_cons]
      by_cases hout : Outside item.2 item.1
      · refine ⟨item.2.channelId, item.1, item.2.min, item.2.max, ?_⟩
        rw [composeRecord_outside (by omega) hout]
        rfl
      · rw [composeRecord_item hitem hout, ok_bind]
        refine ih (fun other hmem => ?_) ?_
        · refine (hall other (List.mem_cons_of_mem _ hmem)).of_length ?_
          rw [sealed_length, List.length_set, itemWritten_length]
        · obtain ⟨other, hmem, hbad⟩ := hsome
          rcases List.mem_cons.mp hmem with rfl | hmem
          · exact absurd hbad hout
          · exact ⟨other, hmem, hbad⟩

/-- With an item out of bounds, nothing is sent whatever the register reads. -/
theorem outside_not_sent {waitingTime : Nat} (hsome : ∃ item ∈ items, Outside item.2 item.1)
    {tr : Trace} {r : Except Exc (Dict String DecodedValue)}
    (h : Path (writeValues waitingTime items) tr r) (message : Bytes) :
    .setData message ∉ marks tr := by
  cases items with
  | nil =>
      obtain ⟨rfl, _⟩ := Path.raise_iff.mp h
      exact List.not_mem_nil
  | cons first rest =>
      obtain ⟨v, record⟩ := first
      cases hcommand : fromHex record.requestByte with
      | error e =>
          obtain ⟨rfl, _⟩ := writeValues_unhex hcommand h
          exact List.not_mem_nil
      | ok command =>
          rcases (writeValues_path hcommand h).marks_cases with hm | ⟨reply, ⟨hm, _⟩ | hsent⟩
          · simp [hm]
          · simp [hm]
          · obtain ⟨_, _, out, _, hout, _⟩ := hsent
            obtain ⟨item, hmem, hbad⟩ := hsome
            have hcomposable := composeAll_succeeds_iff.mp ⟨out, hout⟩ item hmem
            exact absurd hbad (encodable_iff.mp hcomposable.2.1).1

/-- Items with fields of their own may be composed in any order. In bounds they leave
one frame, with nothing but their fields, the status and the checksum changed; with one
out of bounds that is what every order ends with, and a write of them sends nothing. -/
theorem compose_order_irrelevant (hne : items ≠ [])
    (hall : ∀ item ∈ items, PayloadItem frame.length item)
    (hdisjoint : items.Pairwise fun item item' => BitDisjoint frame.length item.2 item'.2) :
    ((∀ item ∈ items, ¬ Outside item.2 item.1) →
      ∃ out, (∀ items', items'.Perm items → composeAll items' frame = .ok out) ∧
        Composed frame.length frame out items) ∧
    ((∃ item ∈ items, Outside item.2 item.1) → ∀ items', items'.Perm items →
      (∃ channelId v lo hi,
        composeAll items' frame = .error (.valueOutOfRange channelId v lo hi)) ∧
      ∀ waitingTime tr r message, Path (writeValues waitingTime items') tr r →
        .setData message ∉ marks tr) := by
  have pairs : ∀ item ∈ items, ∀ item' ∈ items,
      item = item' ∨ BitDisjoint frame.length item.2 item'.2 := by
    intro item hmem item' hmem'
    have hrefl : ∀ item ∈ items, item = item ∨ BitDisjoint frame.length item.2 item.2 :=
      fun _ _ => .inl rfl
    have hpairs : items.Pairwise fun item item' =>
        item = item' ∨ BitDisjoint frame.length item.2 item'.2 := hdisjoint.imp fun hd => .inr hd
    have hflip : items.Pairwise (flip fun item item' =>
        item = item' ∨ BitDisjoint frame.length item.2 item'.2) :=
      hdisjoint.imp fun hd => Or.inr hd.symm
    exact List.Pairwise.forall_of_forall_of_flip hrefl hpairs hflip hmem hmem'
  refine ⟨?_, ?_⟩
  · intro hin
    have hcomposable : ∀ item ∈ items, Composable frame.length item.1 item.2 := by
      intro item hmem
      exact composeRecord_succeeds_iff.mp
        ⟨_, composeRecord_item (hall item hmem) (hin item hmem)⟩
    obtain ⟨out, hout⟩ := composeAll_succeeds_iff.mpr hcomposable
    refine ⟨out, ?_, composed_all (fun item hmem => ⟨hall item hmem, hin item hmem⟩) items
      (List.Subset.refl _) frame rfl (fun _ _ _ _ => rfl) hne hout⟩
    intro items' hperm
    rw [← hout]
    refine (foldlM_perm (I := fun b : Bytes => b.length = frame.length) ?_ hperm.symm ?_ rfl).symm
    · intro b item b' hb h
      rw [composeRecord_length h, hb]
    · intro item hmem item' hmem' b hb
      rcases pairs item hmem item' hmem' with rfl | hd
      · rfl
      · exact composeRecord_swap ((hall item hmem).of_length hb) ((hall item' hmem').of_length hb)
          (hin item hmem) (hin item' hmem') (hb ▸ hd)
  · intro hsome items' hperm
    have hsome' : ∃ item ∈ items', Outside item.2 item.1 := by
      obtain ⟨item, hmem, hbad⟩ := hsome
      exact ⟨item, hperm.mem_iff.mpr hmem, hbad⟩
    refine ⟨composeAll_outside (fun item hmem => hall item (hperm.mem_iff.mp hmem)) hsome', ?_⟩
    intro waitingTime tr r message h
    exact outside_not_sent hsome' h message

end write

/-- Two quarter-hour fields of a heating program. -/
def dhwStart : ChannelDefinition :=
  { channelId := "programDhwMo1Start", requestByte := "0A1711", dataType := .settings
    position := 6, length := 1, min := .finite (-128), max := .finite 95 }

def dhwEnd : ChannelDefinition := { dhwStart with channelId := "programDhwMo1End", position := 7 }

def dhwProgram : Bytes := [0x01, 0x00, 0x33, 0x0A, 0x17, 0x11, 0x80, 0x80, 0x10, 0x03]

def dhwItems : List (DecodedValue × ChannelDefinition) :=
  [(.int 45, dhwStart), (.int 68, dhwEnd)]

theorem compose_order_irrelevant_dhw :
    ((∀ item ∈ dhwItems, ¬ Outside item.2 item.1) →
      ∃ out, (∀ items', items'.Perm dhwItems → composeAll items' dhwProgram = .ok out) ∧
        Composed dhwProgram.length dhwProgram out dhwItems) ∧
    ((∃ item ∈ dhwItems, Outside item.2 item.1) → ∀ items', items'.Perm dhwItems →
      (∃ channelId v lo hi,
        composeAll items' dhwProgram = .error (.valueOutOfRange channelId v lo hi)) ∧
      ∀ waitingTime tr r message, Path (writeValues waitingTime items') tr r →
        .setData message ∉ marks tr) := by
  refine compose_order_irrelevant (by decide) ?_ ?_
  · intro item hmem
    simp only [dhwItems, List.mem_cons, List.not_mem_nil, or_false] at hmem
    rcases hmem with rfl | rfl
    · exact ⟨trivial, .inl rfl, by decide, by decide, fun _ => rfl⟩
    · exact ⟨trivial, .inl rfl, by decide, by decide, fun _ => rfl⟩
  · refine List.pairwise_cons.mpr ⟨?_, List.pairwise_singleton _ _⟩
    intro item hmem
    obtain rfl := List.mem_singleton.mp hmem
    intro j i _ h h'
    simp [FieldBit, dhwStart, dhwEnd, normIndex] at h h'
    omega

/-- A value in bounds that its scale makes an infinity of. -/
def hugeRange : ChannelDefinition :=
  { channelId := "meter", requestByte := "0A1711", dataType := .settings, position := 6
    length := 1, scale := .finite (1 / 2), min := .finite 0, max := .finite (2 ^ 1023) }

/-- In bounds and with a scale other than zero it is composed into no frame at all; and
where it stands first, a caller is not told of the value that is out of range. -/
theorem scaling_fails_before_range :
    OfKind hugeRange (.float (.finite (2 ^ 1023))) ∧ InPayload dhwProgram.length hugeRange ∧
      hugeRange.length = 1 ∧ hugeRange.bitPosition ≤ 7 ∧ hugeRange.scale = .finite (1 / 2) ∧
      OfKind dhwEnd (.int 97) ∧ InPayload dhwProgram.length dhwEnd ∧
      hugeRange.max.lt (.finite (2 ^ 1023)) = false ∧
      (PyFloat.finite (2 ^ 1023)).lt hugeRange.min = false ∧
      dhwEnd.max.lt (.ofInt 97) = true ∧
      composeAll [(.float (.finite (2 ^ 1023)), hugeRange)] dhwProgram
        = .error (.overflowError "cannot convert float infinity to integer") ∧
      composeAll [(.float (.finite (2 ^ 1023)), hugeRange), (.int 97, dhwEnd)] dhwProgram
        = .error (.overflowError "cannot convert float infinity to integer") ∧
      composeAll [(.int 97, dhwEnd), (.float (.finite (2 ^ 1023)), hugeRange)] dhwProgram
        = .error (.valueOutOfRange "programDhwMo1End" (.int 97) (.finite (-128)) (.finite 95)) := by
  have hkind : hugeRange.valueKind = .number := by decide +kernel
  refine ⟨?_, by decide, rfl, by decide, rfl, trivial, ?_⟩
  · simp only [OfKind, hkind]
  · decide +kernel

end HeatpumpGateway
