import HeatpumpGateway.Proofs.Bits
import HeatpumpGateway.Proofs.Coercion

/-!
# Writing back what was read

The bytes of a field encode to themselves: the number they spell is written as the
bytes it was read from (`decoded_in_place`), and with a scale in hundredths the
number survives the way to a decoded value and back (`rawOf_decoded`), since on exact
floats neither of the two roundings has anything to round. So a value that was just read,
and that the record's bounds let pass, is written over itself.
-/

namespace HeatpumpGateway

open Fallible Rounding

/-- A slice of two items names two places, one after the other. -/
theorem slice_pair_inRange {n : Nat} {p : Int} (h : sliceBound n (p + 2) - sliceBound n p = 2) :
    InRange n p ∧ InRange n (p + 1) ∧ place n (p + 1) = (normIndex n p).toNat + 1 := by
  unfold InRange place
  unfold sliceBound normIndex at *
  split at h <;> split at h <;> split <;> split <;> omega

/-- A number that is decoded stands in the frame as it would be written. -/
theorem decoded_in_place [Arithmetic] {frame : Bytes} {record : ChannelDefinition}
    {v : DecodedValue} (hlen : record.length = 1 ∨ record.length = 2)
    (h : parseRecord frame record = .ok v) :
    ∃ raw number, decodeNumber raw number record = .ok v ∧ ShortInRange frame.length record ∧
      ∀ w ∈ shortWrites number record, frame[place frame.length w.1]? = some w.2 := by
  have hfield := parseRecord_decodeField h
  rw [decodeField] at hfield
  rcases hlen with h1 | h2
  · rw [if_pos h1] at hfield
    obtain ⟨b, hb, hdecode⟩ := bind_eq_ok.mp hfield
    obtain ⟨hin, hbyte⟩ := getItem_ok_iff.mp hb
    refine ⟨_, signedByte b, hdecode, ⟨fun _ => hin, fun h2 => ?_⟩, ?_⟩
    · omega
    · intro w hw
      rw [shortWrites, if_pos h1, List.mem_singleton] at hw
      rw [hw, shortToBytes_one]
      exact hbyte
  · rw [if_neg (by omega), if_pos h2] at hfield
    obtain ⟨number, hnumber, hdecode⟩ := bind_eq_ok.mp hfield
    rw [unpackSigned] at hnumber
    split at hnumber
    · next hfull =>
        obtain ⟨high, low, hbytes⟩ := List.length_eq_two.mp hfull
        have hwidth := hfull
        rw [slice_length, h2] at hwidth
        obtain ⟨hnorm, hbound⟩ := sliceBound_full (w := 2) (by decide) hwidth
        obtain ⟨hrange, hrange', hnext⟩ := slice_pair_inRange hwidth
        have hfirst : some high = frame[place frame.length record.position]? := by
          have hbyte := getElem?_slice (k := 0) (hfull ▸ (by decide : 0 < 2))
          rw [hbytes, hbound] at hbyte
          exact hbyte
        have hsecond : some low = frame[place frame.length (record.position + 1)]? := by
          have hbyte := getElem?_slice (k := 1) (hfull ▸ (by decide : 1 < 2))
          rw [hbytes, hbound] at hbyte
          rw [hnext]
          exact hbyte
        have hnum : number = signedNumber [high, low] := by
          rw [signedNumber, ← hbytes, hfull]
          exact (Except.ok.inj hnumber).symm
        refine ⟨_, number, hdecode, ⟨fun h1 => by omega, fun _ => ⟨hrange, hrange'⟩⟩, ?_⟩
        · intro w hw
          rw [shortWrites, if_neg (by omega), if_pos h2, hnum, shortToBytes_two] at hw
          simp only [List.mem_cons, List.not_mem_nil, or_false] at hw
          rcases hw with rfl | rfl
          · exact hfirst.symm
          · exact hsecond.symm
    · cases hnumber

/-! ## Numbers and their values -/

section exact

attribute [local instance] Arithmetic.exact

/-- With a scale in hundredths nothing is lost in the rounding to hundredths. -/
theorem roundHundredths_scaled {k : ℕ} (number : Int) :
    roundHundredths ((PyFloat.ofInt number).mul (.finite (k / 100)))
      = .ok ((PyFloat.ofInt number).mul (.finite (k / 100))) := by
  have hgrid : toGrid 100 ((number : ℚ) * (k / 100)) = number * (k / 100) :=
    toGrid_eq (m := number * k) (by decide) (by push_cast; ring)
  have hround := roundHundredths_toGrid ((number : ℚ) * (k / 100))
  rw [hgrid] at hround
  exact hround

/-- With a scale in hundredths, a decoded number has the raw integer it came from. -/
theorem rawOf_decoded {record : ChannelDefinition} {v : DecodedValue} {raw : Bytes}
    {number : Int} (hkind : record.valueKind ≠ .boolean)
    (hscale : ∃ k : ℕ, 0 < k ∧ record.scale = .finite (k / 100))
    (h : decodeNumber raw number record = .ok v) :
    (∀ b, v ≠ .bool b) ∧ rawOf v record = .ok number := by
  obtain ⟨hbit, hswitch⟩ := not_boolean_iff.mp hkind
  obtain ⟨k, hk, hs⟩ := hscale
  rw [decodeNumber, if_neg hbit, hswitch, if_neg Bool.false_ne_true] at h
  split at h
  · rw [hs, roundHundredths_scaled] at h
    cases h
    refine ⟨fun _ => DecodedValue.noConfusion, ?_⟩
    have hpos : (0 : ℚ) < k / 100 := by positivity
    have hquotient : (number : ℚ) * (k / 100) / (k / 100) = number :=
      mul_div_cancel_right₀ _ hpos.ne'
    have hraw : scaledToRaw (.finite ((number : ℚ) * (k / 100))) (.finite (k / 100))
        = .ok number := by
      rw [scaledToRaw_round hpos.ne', hquotient, round_intCast]
    rw [rawOf, hs]
    exact hraw
  · cases h
    exact ⟨fun _ => DecodedValue.noConfusion, rfl⟩

/-! ## The write -/

/-- On exact floats, writing back a value that was just read changes the status and the
checksum alone; and it is done, where the frame has room for a checksum. -/
theorem write_back_unchanged {record : ChannelDefinition} {frame : Bytes} {v : DecodedValue}
    (hkind : record.valueKind ≠ .boolean) (hlen : record.length = 1 ∨ record.length = 2)
    (hscale : ∃ k : ℕ, 0 < k ∧ record.scale = .finite (k / 100))
    (hread : parseRecord frame record = .ok v) (hin : ¬ Outside record v) :
    (5 ≤ frame.length → ∃ out, composeRecord v frame record = .ok out) ∧
      ∀ out, composeRecord v frame record = .ok out →
        out.length = frame.length ∧ ∀ j, j ≠ 1 → j ≠ 2 → out[j]? = frame[j]? := by
  obtain ⟨raw, number, hdecode, hrange, hplace⟩ := decoded_in_place hlen hread
  obtain ⟨hnumber, hraw⟩ := rawOf_decoded hkind hscale hdecode
  have hencodable : Encodable v record := encodable_iff.mpr ⟨hin, by rw [hraw]; rfl⟩
  have hfield : FieldInRange frame.length v record := by
    cases v with
    | bool b => exact absurd rfl (hnumber b)
    | int n => exact hrange
    | float x => exact hrange
  have hwrites : ∀ g, fieldWrites v g record = shortWrites number record := by
    intro g
    cases v with
    | bool b => exact absurd rfl (hnumber b)
    | int n | float x =>
        simp only [fieldWrites, hraw]
        rfl
  refine ⟨fun hfive => composeRecord_succeeds_iff.mpr ⟨hfive, hencodable, hfield⟩, ?_⟩
  intro out hout
  refine ⟨composeRecord_length hout, ?_⟩
  obtain ⟨⟨hfive, _, _⟩, rfl⟩ := composeRecord_ok_iff.mp hout
  have hset : (frame.set 1 SET).length = frame.length := List.length_set ..
  obtain ⟨hnodup, hlt⟩ := shortWrites_places (by omega) hrange
  have hagrees : ∀ j, j ≠ 1 → ((shortWrites number record).apply (frame.set 1 SET))[j]?
      = (frame.set 1 SET)[j]? := by
    refine (Writes.apply_agrees_iff (P := fun j => j ≠ 1) ?_ ?_).mpr ?_
    · rw [hset]
      exact hnodup
    · rw [hset]
      exact hlt
    · intro w hw hne
      rw [hset] at hne ⊢
      rw [List.getElem?_set_ne (Ne.symm hne)]
      exact hplace w hw
  intro j h₁ h₂
  rw [List.getElem?_set_ne (Ne.symm h₂), fieldFrame, hwrites, hagrees j h₁,
    List.getElem?_set_ne (Ne.symm h₁)]

/-- Tenths of a degree, exactly. -/
def exactTenths : ChannelDefinition := { roomTempDay with scale := .finite (1 / 10) }

def twentyDegrees : Bytes := [0x01, 0x00, 0xD9, 0x0B, 0x00, 0x05, 0x00, 0xC8, 0x10, 0x03]

theorem write_back_unchanged_roomTemp :
    (5 ≤ twentyDegrees.length → ∃ out,
      composeRecord (.float (.finite 20)) twentyDegrees exactTenths = .ok out) ∧
    ∀ out, composeRecord (.float (.finite 20)) twentyDegrees exactTenths = .ok out →
      out.length = twentyDegrees.length ∧
      ∀ j, j ≠ 1 → j ≠ 2 → out[j]? = twentyDegrees[j]? :=
  have hscale : exactTenths.scale = .finite ((10 : ℕ) / 100) := by decide +kernel
  have hin : ¬ Outside exactTenths (.float (.finite 20)) := by
    unfold Outside OutOfBounds
    decide +kernel
  write_back_unchanged (by decide +kernel) (.inr rfl) ⟨10, by decide, hscale⟩
    (by decide +kernel) hin

end exact

end HeatpumpGateway
