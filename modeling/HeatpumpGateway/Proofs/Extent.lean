import HeatpumpGateway.Proofs.Decode
import HeatpumpGateway.Proofs.Read

/-!
# Which records a frame decodes

`parse_record` has one error for everything that goes wrong with a field, so a record that
is left out does not say why. `DecodesIn` does: the field lies in the frame and is of one,
two or four bytes, its bit lies in the field, and its number can be scaled without leaving
the range of the floats. `ReadsIn` says the same of the one or two frames of a read.
-/

namespace HeatpumpGateway

open Fallible

variable {frame : Bytes} {record : ChannelDefinition}

/-! ## Scaled numbers -/

/-- The number, its product with the scale and the hundred times of that are within the
range of the floats. -/
def Scales (number : Int) : PyFloat → Prop
  | .finite s => PyFloat.Representable (number * s) ∧
      PyFloat.Representable (PyFloat.double.nearest (number * s) * 100)
  | _ => False

instance (number : Int) : ∀ scale : PyFloat, Decidable (Scales number scale)
  | .finite _ => inferInstanceAs (Decidable (_ ∧ _))
  | .posInf | .negInf | .nan => inferInstanceAs (Decidable False)

theorem infinite_or_nan_not_rounded {x : PyFloat} (h : ∀ q, x ≠ .finite q) :
    ∀ y, roundHundredths x ≠ .ok y := by
  intro y hc
  obtain ⟨n, hn, _⟩ := bind_eq_ok.mp hc
  cases x with
  | finite q => exact h q rfl
  | posInf | negInf | nan => cases hn

theorem mul_not_finite {n : Int} {scale : PyFloat} (h : ∀ s, scale ≠ .finite s) (q : ℚ) :
    (PyFloat.ofInt n).mul scale ≠ .finite q := by
  cases scale with
  | finite s => exact absurd rfl (h s)
  | nan => exact nofun
  | posInf | negInf =>
      simp only [PyFloat.ofInt, PyFloat.mul]
      split_ifs <;> exact nofun

/-- A number becomes a float unless it overflows on the way there. -/
theorem roundHundredths_succeeds_iff {number : Int} {scale : PyFloat} :
    (∃ x, roundHundredths ((PyFloat.ofInt number).mul scale) = .ok x) ↔ Scales number scale := by
  by_cases hscale : ∃ s, scale = .finite s
  · obtain ⟨s, rfl⟩ := hscale
    have hproduct : (PyFloat.ofInt number).mul (.finite s) = PyFloat.ofRat (number * s) := rfl
    rw [hproduct, Scales]
    by_cases hfirst : PyFloat.Representable (number * s)
    · have hhundred : (PyFloat.ofRat (number * s)).mul (.finite 100)
          = PyFloat.ofRat (PyFloat.double.nearest (number * s) * 100) := by
        rw [PyFloat.ofRat_finite hfirst]
        rfl
      by_cases hsecond : PyFloat.Representable (PyFloat.double.nearest (number * s) * 100)
      · refine iff_of_true ?_ ⟨hfirst, hsecond⟩
        rw [roundHundredths, hhundred, PyFloat.ofRat_add_half hsecond]
        exact ⟨_, rfl⟩
      · refine iff_of_false (fun hc => ?_) fun hc => hsecond hc.2
        obtain ⟨x, hx⟩ := hc
        rw [roundHundredths, hhundred] at hx
        rcases PyFloat.ofRat_infinite hsecond with h | h <;> rw [h] at hx <;> cases hx
    · refine iff_of_false (fun hc => ?_) fun hc => hfirst hc.1
      obtain ⟨x, hx⟩ := hc
      refine infinite_or_nan_not_rounded (fun q hq => ?_) x hx
      rcases PyFloat.ofRat_infinite hfirst with h | h <;> rw [h] at hq <;> cases hq
  · have hne : ∀ s, scale ≠ .finite s := fun s hs => hscale ⟨s, hs⟩
    refine iff_of_false (fun hc => ?_) fun hc => ?_
    · obtain ⟨x, hx⟩ := hc
      exact infinite_or_nan_not_rounded (mul_not_finite hne) x hx
    · cases scale with
      | finite s => exact hne s rfl
      | posInf | negInf | nan => exact hc

/-! ## One frame -/

/-- The field is of one, two or four bytes, and all of them are in the frame. -/
def FieldThere (frame : Bytes) (record : ChannelDefinition) : Prop :=
  record.position + record.length ≤ frame.length ∧
    (record.length = 1 ∧ InRange frame.length record.position ∨
      (record.length = 2 ∨ record.length = 4) ∧
        ((fieldBytes frame record).length : Int) = record.length)

/-- The number a field spells; a single byte is looked up by its index. -/
def fieldNumber (frame : Bytes) (record : ChannelDefinition) : Int :=
  if record.length = 1 then signedByte (frame.getD (place frame.length record.position) 0)
  else numberAt frame record

/-- A field of one or two bytes that is a flag has its bit; one that is neither a flag nor a
switch, and has a scale, holds a number that scales. -/
def Meaningful (frame : Bytes) (record : ChannelDefinition) : Prop :=
  if record.bitPosition > 0 then
    record.bitPosition / 8 < (fieldBytes frame record).length
  else record.isSwitch = true ∨ record.scale = .finite 1 ∨
    Scales (fieldNumber frame record) record.scale

def DecodesIn (frame : Bytes) (record : ChannelDefinition) : Prop :=
  2 ≤ frame.length ∧ FieldThere frame record ∧ (record.length ≠ 4 → Meaningful frame record)

instance : Decidable (FieldThere frame record) := inferInstanceAs (Decidable (_ ∧ _))

instance : Decidable (Meaningful frame record) := by
  unfold Meaningful
  infer_instance

instance : Decidable (DecodesIn frame record) := inferInstanceAs (Decidable (_ ∧ _))

theorem getBitFromBytes_succeeds_iff {raw : Bytes} {i : Int} (h : 0 < i) :
    (∃ b, getBitFromBytes raw i = .ok b) ↔ i / 8 < raw.length := by
  have hplace : normIndex raw.length (i / 8) = i / 8 := by
    rw [normIndex, if_neg (by omega)]
  refine ⟨fun hc => ?_, fun hlt => ?_⟩
  · obtain ⟨b, hb⟩ := hc
    obtain ⟨byte, hbyte, _⟩ := bind_eq_ok.mp hb
    obtain ⟨⟨_, hlt⟩, _⟩ := getItem_ok_iff.mp hbyte
    omega
  · obtain ⟨byte, hbyte⟩ : ∃ byte, getItem raw (i / 8) = .ok byte := by
      have hin : InRange raw.length (i / 8) := ⟨by omega, by omega⟩
      exact ⟨_, getItem_ok_iff.mpr ⟨hin, List.getElem?_eq_getElem hin.place_lt⟩⟩
    exact ⟨_, by rw [getBitFromBytes, hbyte]; rfl⟩

/-- What a field's bytes mean for a record, they mean unless the bit is not there or the
number does not scale. -/
theorem decodeNumber_succeeds_iff {raw : Bytes} {number : Int} :
    (∃ v, decodeNumber raw number record = .ok v) ↔
      if record.bitPosition > 0 then record.bitPosition / 8 < raw.length
      else record.isSwitch = true ∨ record.scale = .finite 1 ∨ Scales number record.scale := by
  rw [decodeNumber]
  by_cases hbit : record.bitPosition > 0
  · rw [if_pos hbit, if_pos hbit, bind_succeeds_iff, ← getBitFromBytes_succeeds_iff hbit]
    simp
  · rw [if_neg hbit, if_neg hbit]
    by_cases hswitch : record.isSwitch = true
    · rw [if_pos hswitch]
      exact iff_of_true ⟨_, rfl⟩ (.inl hswitch)
    · rw [if_neg hswitch, or_iff_right hswitch]
      by_cases hscale : record.scale = .finite 1
      · rw [if_neg (by rw [scale_eq_one_iff.mpr hscale]; decide)]
        exact iff_of_true ⟨_, rfl⟩ (.inl hscale)
      · have hne : (!record.scale.eq (.finite 1)) = true := by
          rw [Bool.not_eq_true', ← Bool.not_eq_true, scale_eq_one_iff]
          exact hscale
        rw [if_pos hne, or_iff_right hscale, bind_succeeds_iff, ← roundHundredths_succeeds_iff]
        simp

theorem unpackSigned_ok_iff {width : Nat} {raw : Bytes} {n : Int} :
    unpackSigned width raw = .ok n ↔ raw.length = width ∧ n = signedNumber raw := by
  by_cases h : raw.length = width
  · rw [unpackSigned_eq h]
    simp [h, eq_comm]
  · rw [unpackSigned, if_neg h]
    simp [h]

theorem getItem_getD {data : Bytes} {i : Int} {b : UInt8} :
    getItem data i = .ok b ↔ InRange data.length i ∧ b = data.getD (place data.length i) 0 := by
  rw [getItem_ok_iff]
  refine and_congr_right fun hin => ?_
  rw [List.getD_eq_getElem?_getD, List.getElem?_eq_getElem hin.place_lt]
  simp [eq_comm]

theorem fieldThere_one (h : record.length = 1)
    (hend : record.position + record.length ≤ frame.length) :
    FieldThere frame record ↔ InRange frame.length record.position := by
  refine ⟨fun hc => ?_, fun hin => ⟨hend, .inl ⟨h, hin⟩⟩⟩
  rcases hc.2 with ⟨_, hin⟩ | ⟨hwide, _⟩
  · exact hin
  · omega

theorem fieldThere_wide {width : Nat} (h : record.length = width) (hwide : width = 2 ∨ width = 4)
    (hend : record.position + record.length ≤ frame.length) :
    FieldThere frame record ↔ (fieldBytes frame record).length = width := by
  refine ⟨fun hc => ?_, fun hfull => ⟨hend, .inr ⟨by omega, by omega⟩⟩⟩
  rcases hc.2 with ⟨hone, _⟩ | ⟨_, hfull⟩
  · omega
  · omega

/-- The body of `parse_record` succeeds where the field is there and means something. -/
theorem decodeField_succeeds_iff (hend : record.position + record.length ≤ frame.length) :
    (∃ v, decodeField frame record = .ok v) ↔
      FieldThere frame record ∧ (record.length ≠ 4 → Meaningful frame record) := by
  have hbytes : slice frame record.position (record.position + record.length)
      = fieldBytes frame record := rfl
  rw [decodeField, hbytes]
  by_cases h₁ : record.length = 1
  · rw [if_pos h₁, fieldThere_one h₁ hend, Meaningful, fieldNumber, if_pos h₁, bind_succeeds_iff]
    simp only [getItem_getD, decodeNumber_succeeds_iff, and_assoc, exists_and_left, exists_eq_left]
    exact and_congr_right fun _ => ⟨fun hm _ => hm, fun hm => hm (by omega)⟩
  · rw [if_neg h₁]
    by_cases h₂ : record.length = 2
    · rw [if_pos h₂, @fieldThere_wide _ _ 2 h₂ (.inl rfl) hend, Meaningful, fieldNumber,
        if_neg h₁, bind_succeeds_iff]
      simp only [unpackSigned_ok_iff, decodeNumber_succeeds_iff, and_assoc, exists_and_left,
        exists_eq_left]
      exact and_congr_right fun _ => ⟨fun hm _ => hm, fun hm => hm (by omega)⟩
    · rw [if_neg h₂]
      by_cases h₄ : record.length = 4
      · rw [if_pos h₄, @fieldThere_wide _ _ 4 h₄ (.inr rfl) hend, bind_succeeds_iff]
        simp [unpackSigned_ok_iff, h₄]
      · rw [if_neg h₄]
        refine iff_of_false (fun hc => ?_) fun hc => ?_
        · obtain ⟨v, hv⟩ := hc
          cases hv
        · rcases hc.1.2 with ⟨hone, _⟩ | ⟨hwide, _⟩
          · exact h₁ hone
          · omega

/-- A record is decoded from a frame where its field is there and means something. -/
theorem parseRecord_succeeds_iff :
    (∃ v, parseRecord frame record = .ok v) ↔ DecodesIn frame record := by
  rw [parseRecord, DecodesIn]
  by_cases hshort : frame.length < 2
  · rw [if_pos hshort]
    refine iff_of_false (fun hc => ?_) fun hc => by omega
    obtain ⟨v, hv⟩ := hc
    cases hv
  · rw [if_neg hshort, and_iff_right (by omega)]
    by_cases hend : (frame.length : Int) < record.position + record.length
    · rw [if_pos hend]
      refine iff_of_false (fun hc => ?_) fun hc => by have := hc.1.1; omega
      obtain ⟨v, hv⟩ := hc
      cases hv
    · rw [if_neg hend, ← decodeField_succeeds_iff (by omega)]
      cases decodeField frame record with
      | ok v => exact Iff.rfl
      | error e => cases e <;> simp

/-! ## The frames of a read -/

/-- What a record decodes to in the one or two frames of an attempt. -/
def decodeRecord (record : ChannelDefinition) : List Bytes → Except Exc DecodedValue
  | [reply] => parseCombined reply none record
  | [reply, reply2] => parseCombined reply (some reply2) record
  | _ => .error (.invalidData "")

def Readable (frames : List Bytes) (record : ChannelDefinition) : Prop :=
  (decodeRecord record frames).toOption.isSome

instance (frames : List Bytes) (record : ChannelDefinition) : Decidable (Readable frames record) :=
  inferInstanceAs (Decidable (_ = true))

/-- The first frame decodes the record. So does the second, where there is one and the value
is put together of both. -/
def ReadsIn (record : ChannelDefinition) : List Bytes → Prop
  | [reply] => DecodesIn reply record
  | [reply, reply2] => DecodesIn reply record ∧
      (record.length ≠ 4 → record.valueKind = .integer → DecodesIn reply2 record)
  | _ => False

instance (frames : List Bytes) : Decidable (ReadsIn record frames) := by
  unfold ReadsIn
  split <;> infer_instance

theorem parseCombined_none {reply : Bytes} :
    parseCombined reply none record = parseRecord reply record := by
  rw [parseCombined]
  cases parseRecord reply record <;> rfl

/-- The second frame is looked at for a short integer only. -/
theorem parseCombined_succeeds_iff {reply reply2 : Bytes} :
    (∃ v, parseCombined reply (some reply2) record = .ok v) ↔ ReadsIn record [reply, reply2] := by
  rw [ReadsIn, ← parseRecord_succeeds_iff, ← parseRecord_succeeds_iff, parseCombined]
  cases hv : parseRecord reply record with
  | error e => simp
  | ok v =>
      have hkind : record.length ≠ 4 → v.kind = record.valueKind := by
        intro hlen
        rw [parseRecord_kind hv, if_neg hlen]
      rw [ok_bind]
      cases v with
      | bool b =>
          refine iff_of_true ⟨_, rfl⟩ ⟨⟨_, rfl⟩, fun hlen hint => ?_⟩
          cases (hkind hlen).trans hint
      | float x =>
          refine iff_of_true ⟨_, rfl⟩ ⟨⟨_, rfl⟩, fun hlen hint => ?_⟩
          cases (hkind hlen).trans hint
      | int n =>
          by_cases hlen : record.length = 4
          · simp [isShortResult, hlen]
          · have hint : record.valueKind = .integer := (hkind hlen).symm
            simp only [isShortResult, decide_eq_true_eq, if_pos hlen, bind_succeeds_iff]
            simp [hlen, hint]

theorem readable_iff {frames : List Bytes} : Readable frames record ↔ ReadsIn record frames := by
  rw [Readable, Option.isSome_iff_exists]
  simp only [toOption_eq_some]
  match frames with
  | [] => simp [decodeRecord, ReadsIn]
  | [reply] =>
      rw [decodeRecord, parseCombined_none]
      exact parseRecord_succeeds_iff
  | [reply, reply2] => exact parseCombined_succeeds_iff
  | _ :: _ :: _ :: _ => simp [decodeRecord, ReadsIn]

end HeatpumpGateway
