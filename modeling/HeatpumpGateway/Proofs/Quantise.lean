import HeatpumpGateway.Model.Service
import HeatpumpGateway.Proofs.Decode

/-!
# Which accepted writes can be read back

A number is accepted by its record's bounds alone, and then kept as one or two low
bytes of its raw integer, which are read back as signed. Bounds and field width have
nothing to do with each other, so a shipped record with one byte and a maximum of
999 accepts what it cannot hold; and a field that is neither one nor two bytes long is
accepted and not written at all.

`accepted_write_recoverable_iff` says which accepted values come back within half a
step. That a value folded into the range of its field never does, however fine the
scale, is `Rounding.bmod_eq_of_near`.
-/

namespace HeatpumpGateway

open Fallible Rounding

/-! ## Finite floats -/

theorem PyFloat.floor_finite {x : PyFloat} {n : Int} (h : x.floor = .ok n) :
    ∃ q, x = .finite q := by
  cases x with
  | finite q => exact ⟨q, rfl⟩
  | posInf | negInf | nan => cases h

theorem PyFloat.add_finite [Arithmetic] {x y : PyFloat} {r : ℚ} (h : x.add y = .finite r) :
    ∃ q, x = .finite q := by
  cases x with
  | finite q => exact ⟨q, rfl⟩
  | posInf | negInf | nan => cases y <;> cases h

/-- An infinity in a product is an infinity of the result, or no number at all. -/
theorem PyFloat.mul_finite [Arithmetic] {x y : PyFloat} {r : ℚ} (h : x.mul y = .finite r) :
    (∃ p, x = .finite p) ∧ ∃ q, y = .finite q := by
  have branch : ∀ {p : ℚ} {a b : PyFloat}, a ≠ .finite r → b ≠ .finite r →
      (if p = 0 then PyFloat.nan else if 0 < p then a else b) ≠ .finite r := by
    intro p a b ha hb
    split
    · exact PyFloat.noConfusion
    · split
      · exact ha
      · exact hb
  cases x with
  | finite p =>
      cases y with
      | finite q => exact ⟨⟨p, rfl⟩, q, rfl⟩
      | posInf | negInf => exact absurd h (branch PyFloat.noConfusion PyFloat.noConfusion)
      | nan => cases h
  | posInf | negInf =>
      cases y with
      | finite q => exact absurd h (branch PyFloat.noConfusion PyFloat.noConfusion)
      | posInf | negInf | nan => cases h
  | nan => cases y <;> cases h

/-- So it is in a quotient. -/
theorem PyFloat.div_finite [Arithmetic] {x y : PyFloat} {r : ℚ} (h : x.div y = .ok (.finite r)) :
    ∃ p, x = .finite p := by
  have hquotient : ∀ s, x.quotient s = .finite r → ∃ p, x = .finite p := by
    intro s hs
    cases x with
    | finite p => exact ⟨p, rfl⟩
    | posInf | negInf =>
        rw [PyFloat.quotient] at hs
        split at hs <;> cases hs
    | nan => cases hs
  cases y with
  | finite s =>
      rw [PyFloat.div] at h
      split at h
      · cases h
      · exact hquotient s (Except.ok.inj h)
  | posInf | negInf | nan =>
      cases x with
      | finite p => exact ⟨p, rfl⟩
      | posInf | negInf | nan => cases h

/-! ## What is written -/

/-- Two values, no further apart than half a step. -/
def WithinHalfStep (scale : PyFloat) (d v : DecodedValue) : Prop :=
  match scale, d.toFloat, v.toFloat with
  | .finite s, .finite p, .finite q => |p - q| ≤ s / 2
  | .posInf, .finite _, .finite _ => True
  | _, _, _ => False

instance (scale : PyFloat) (d v : DecodedValue) : Decidable (WithinHalfStep scale d v) := by
  unfold WithinHalfStep
  split <;> infer_instance

/-- The field takes up the place of the checksum. -/
def CoversChecksum (record : ChannelDefinition) : Prop :=
  record.position ≤ 2 ∧ 2 < record.position + record.length

instance (record : ChannelDefinition) : Decidable (CoversChecksum record) :=
  inferInstanceAs (Decidable (_ ∧ _))

/-- A frame with a checksum of its own. -/
def sealed (frame : Bytes) : Bytes := frame.set 2 (checksumOf frame)

@[simp] theorem sealed_length (frame : Bytes) : (sealed frame).length = frame.length :=
  List.length_set ..

/-- The slot of the checksum does not count. -/
theorem checksumOf_set (frame : Bytes) (x : UInt8) :
    checksumOf (frame.set 2 x) = checksumOf frame := by
  rw [checksumOf, checksumOf, List.length_set, List.take_set, List.eraseIdx_set_eq]

@[simp] theorem sealed_set (frame : Bytes) (x : UInt8) : sealed (frame.set 2 x) = sealed frame := by
  rw [sealed, sealed, checksumOf_set, List.set_set]

theorem sealed_checksum {frame : Bytes} (h : 2 < frame.length) :
    (sealed frame)[2]? = some (checksumOf (sealed frame)) := by
  rw [sealed, checksumOf_set, List.getElem?_set_self h]

/-- A record whose values are numbers. -/
theorem not_boolean_iff {record : ChannelDefinition} :
    record.valueKind ≠ .boolean ↔ ¬ 0 < record.bitPosition ∧ record.isSwitch = false := by
  rw [ChannelDefinition.valueKind]
  split
  · next h => simp [h]
  · next h =>
      split
      · next hs => simp [hs]
      · next hs =>
          have hs' : record.isSwitch = false := by simpa using hs
          simp only [h, hs', not_false_eq_true, and_self, iff_true]
          split
          · decide
          · split <;> decide

/-- A number is coerced to an `int` where the raw integer is the value itself. -/
theorem coerce_number {record : ChannelDefinition} {given : CallerValue} {v : DecodedValue}
    (hkind : record.valueKind ≠ .boolean) (hv : HeatPumpService.coerce record given = .ok v) :
    (∃ x, v = .float x) ∨
      (∃ n, v = .int n) ∧ (record.length = 4 ∨ record.scale = .finite 1) := by
  rw [HeatPumpService.coerce] at hv
  split at hv
  · next h => exact absurd h hkind
  · next h =>
      cases hx : HeatPumpService.coerceNumber given with
      | error e =>
          rw [hx] at hv
          cases hv
      | ok x =>
          rw [hx] at hv
          cases hv
          exact .inl ⟨x, rfl⟩
  · next h =>
      refine .inr ⟨?_, ?_⟩
      · cases hn : HeatPumpService.coerceInteger given with
        | error e =>
            rw [hn] at hv
            cases hv
        | ok n =>
            rw [hn] at hv
            cases hv
            exact ⟨n, rfl⟩
      · rw [ChannelDefinition.valueKind] at h
        split at h
        · cases h
        · split at h
          · cases h
          · split at h
            · next h4 => exact .inl h4
            · split at h
              · cases h
              · next hscale =>
                  refine .inr ?_
                  cases hs : record.scale with
                  | finite s =>
                      rw [hs] at hscale
                      simpa [PyFloat.eq] using hscale
                  | posInf | negInf | nan =>
                      rw [hs] at hscale
                      simp [PyFloat.eq] at hscale

/-- What `scaled_to_raw` accepts is finite. -/
theorem scaledToRaw_finite [Arithmetic] {x scale : PyFloat} {raw : Int}
    (h : scaledToRaw x scale = .ok raw) : ∃ q, x = .finite q := by
  rw [scaledToRaw] at h
  obtain ⟨quotient, hdiv, hfloor⟩ := bind_eq_ok.mp h
  obtain ⟨_, hsum⟩ := PyFloat.floor_finite hfloor
  obtain ⟨_, rfl⟩ := PyFloat.add_finite hsum
  exact PyFloat.div_finite hdiv

/-- A value that can be encoded is finite. -/
theorem encodable_finite [Arithmetic] {record : ChannelDefinition} {given : CallerValue}
    {v : DecodedValue} (hkind : record.valueKind ≠ .boolean)
    (hv : HeatPumpService.coerce record given = .ok v)
    (hraw : (rawOf v record).toOption.isSome) : ∃ q, v.toFloat = .finite q := by
  rcases coerce_number hkind hv with ⟨x, rfl⟩ | ⟨⟨n, rfl⟩, _⟩
  · cases h : rawOf (.float x) record with
    | error e =>
        rw [h] at hraw
        cases hraw
    | ok raw => exact scaledToRaw_finite h
  · exact ⟨n, rfl⟩

/-- A number is written as its raw integer. -/
theorem fieldFrame_number [Arithmetic] {record : ChannelDefinition} {given : CallerValue}
    {v : DecodedValue} (hkind : record.valueKind ≠ .boolean)
    (hv : HeatPumpService.coerce record given = .ok v)
    (frame : Bytes) : fieldFrame v frame record =
      (shortWrites ((rawOf v record).toOption.getD 0) record).apply (frame.set 1 SET) := by
  rcases coerce_number hkind hv with ⟨x, rfl⟩ | ⟨⟨n, rfl⟩, _⟩
  · rfl
  · rfl

/-- With an infinite scale there is nothing to decode to. -/
theorem decodeNumber_infinite [Arithmetic] {record : ChannelDefinition}
    (hkind : record.valueKind ≠ .boolean) (hs : ∀ s, record.scale ≠ .finite s) (raw : Bytes)
    (number : Int) (d : DecodedValue) : decodeNumber raw number record ≠ .ok d := by
  obtain ⟨hbit, hswitch⟩ := not_boolean_iff.mp hkind
  rw [decodeNumber, if_neg hbit, hswitch, if_neg Bool.false_ne_true]
  have hone : record.scale.eq (.finite 1) = false := by
    cases h : record.scale with
    | finite s => exact absurd h (hs s)
    | posInf | negInf | nan => rfl
  rw [hone, Bool.not_false, if_pos rfl]
  intro h
  obtain ⟨x, hround, _⟩ := bind_eq_ok.mp h
  obtain ⟨n, hfloor, _⟩ := bind_eq_ok.mp hround
  obtain ⟨_, hsum⟩ := PyFloat.floor_finite hfloor
  obtain ⟨_, hproduct⟩ := PyFloat.add_finite hsum
  obtain ⟨_, hscaled⟩ := (PyFloat.mul_finite hproduct).1
  obtain ⟨s, hfinite⟩ := (PyFloat.mul_finite hscaled).2
  exact hs s hfinite

/-! ## Exact numbers

From here on floats are kept as they are: what is said of half a step is said of
rationals, and the doubles' own rounding comes on top of it. -/

section exact

attribute [local instance] Arithmetic.exact

/-- `math.floor(x + 0.5)` is the nearest integer. -/
theorem floor_add_half (q : ℚ) :
    ((PyFloat.finite q).add (.finite (1 / 2))).floor = .ok (round q) := by
  rw [round_eq]
  rfl

theorem scaledToRaw_round {q s : ℚ} (hs : s ≠ 0) :
    scaledToRaw (.finite q) (.finite s) = .ok (round (q / s)) := by
  have hdiv : (PyFloat.finite q).div (.finite s) = .ok (.finite (q / s)) := by
    rw [PyFloat.div, if_neg hs]
    rfl
  rw [scaledToRaw, hdiv, ok_bind, floor_add_half]

/-- Its raw integer is the nearest multiple of the scale. -/
theorem rawOf_eq {record : ChannelDefinition} {given : CallerValue} {v : DecodedValue} {q s : ℚ}
    (hkind : record.valueKind ≠ .boolean) (hv : HeatPumpService.coerce record given = .ok v)
    (hlen : record.length ≠ 4) (hq : v.toFloat = .finite q) (hs : record.scale = .finite s)
    (hraw : (rawOf v record).toOption.isSome) : s ≠ 0 ∧ rawOf v record = .ok (round (q / s)) := by
  rcases coerce_number hkind hv with ⟨x, rfl⟩ | ⟨⟨n, rfl⟩, h4 | hone⟩
  · obtain rfl : x = .finite q := hq
    rw [rawOf, hs] at hraw ⊢
    have hne : s ≠ 0 := by
      intro h
      obtain rfl := h
      simp [scaledToRaw, PyFloat.div, Except.toOption] at hraw
    exact ⟨hne, scaledToRaw_round hne⟩
  · exact absurd h4 hlen
  · obtain rfl : s = 1 := by
      rw [hone] at hs
      cases hs
      rfl
    have hcast : (n : ℚ) = q := by
      cases hq
      rfl
    refine ⟨one_ne_zero, ?_⟩
    rw [div_one, ← hcast, round_intCast]
    rfl

/-! ## What is read back -/

theorem roundHundredths_toGrid (x : ℚ) :
    roundHundredths (.finite x) = .ok (.finite (toGrid 100 x)) := by
  have hfloor : (((PyFloat.finite x).mul (.finite 100)).add (.finite (1 / 2))).floor
      = .ok (round (x * 100)) := floor_add_half (x * 100)
  rw [roundHundredths, hfloor, ok_bind, PyFloat.ofInt, PyFloat.div, if_neg (by norm_num)]
  rfl

/-- A number is decoded as a multiple of the scale, rounded to hundredths. -/
theorem decodeNumber_finite {record : ChannelDefinition} {s : ℚ}
    (hkind : record.valueKind ≠ .boolean) (hs : record.scale = .finite s) (raw : Bytes)
    (number : Int) : ∃ d, decodeNumber raw number record = .ok d ∧
      d.toFloat = .finite (toGrid 100 (number * s)) := by
  obtain ⟨hbit, hswitch⟩ := not_boolean_iff.mp hkind
  rw [decodeNumber, if_neg hbit, hswitch, if_neg Bool.false_ne_true, hs]
  by_cases hone : s = 1
  · refine ⟨.int number, ?_, ?_⟩
    · rw [if_neg]
      simp [PyFloat.eq, hone]
    · rw [hone, mul_one, toGrid_intCast (by decide)]
      rfl
  · refine ⟨.float (.finite (toGrid 100 (number * s))), ?_, rfl⟩
    rw [if_pos (by simp [PyFloat.eq, hone])]
    have hround : roundHundredths ((PyFloat.ofInt number).mul (.finite s))
        = .ok (.finite (toGrid 100 (number * s))) := roundHundredths_toGrid (number * s)
    rw [hround]
    rfl

/-! ## Recoverable values -/

/-- The accepted values of a numeric record that come back within half a step: those
whose raw integer fits the field and survives the rounding to hundredths. The other
cases are the fields that do not hold what was written to them: one over the
checksum holds the checksum, and one of four bytes holds what it held before. -/
inductive Recoverable (v : DecodedValue) (frame : Bytes) (record : ChannelDefinition) : Prop
  | fits {q s : ℚ} (hq : v.toFloat = .finite q) (hs : record.scale = .finite s) (hpos : 0 < s)
      (hlen : record.length = 1 ∨ record.length = 2) (hplace : ¬ CoversChecksum record)
      (hfits : FitsField (round (q / s)) record)
      (hgrid : |toGrid 100 (round (q / s) * s) - q| ≤ s / 2)
  | checksum {q s : ℚ} (hq : v.toFloat = .finite q) (hs : record.scale = .finite s) (hpos : 0 < s)
      (hlen : record.length = 1 ∨ record.length = 2) (hplace : CoversChecksum record)
      (hnear : |toGrid 100 (numberAt (sealed ((shortWrites (round (q / s)) record).apply
        (frame.set 1 SET))) record * s) - q| ≤ s / 2)
  | held {q s : ℚ} (hq : v.toFloat = .finite q) (hs : record.scale = .finite s)
      (hlen : record.length = 4)
      (hnear : |(numberAt (sealed (frame.set 1 SET)) record : ℚ) - q| ≤ s / 2)
  | vacuous (hs : record.scale = .posInf) (hlen : record.length = 4)

theorem withinHalfStep_finite_iff {scale : PyFloat} {s p q : ℚ} {d v : DecodedValue}
    (hs : scale = .finite s) (hd : d.toFloat = .finite p) (hv : v.toFloat = .finite q) :
    WithinHalfStep scale d v ↔ |p - q| ≤ s / 2 := by
  unfold WithinHalfStep
  rw [hs, hd, hv]

theorem WithinHalfStep.scale_cases {scale : PyFloat} {d v : DecodedValue}
    (h : WithinHalfStep scale d v) :
    scale = .posInf ∨ ∃ s p q, scale = .finite s ∧ d.toFloat = .finite p ∧
      v.toFloat = .finite q ∧ |p - q| ≤ s / 2 := by
  unfold WithinHalfStep at h
  split at h
  · next s p q hd hv => exact .inr ⟨s, p, q, rfl, hd, hv, h⟩
  · exact .inl rfl
  · exact absurd h id

/-- A field that is one or two bytes long, in terms of the number it ends up with. -/
theorem short_recoverable_iff {record : ChannelDefinition} {v : DecodedValue} {out : Bytes}
    {q s : ℚ} (hkind : record.valueKind ≠ .boolean) (hq : v.toFloat = .finite q)
    (hs : record.scale = .finite s) (hlen : record.length = 1 ∨ record.length = 2)
    (hfield : Contained out.length record) (hout : 2 ≤ out.length) :
    (∃ d, parseRecord out record = .ok d ∧ WithinHalfStep record.scale d v) ↔
      |toGrid 100 (numberAt out record * s) - q| ≤ s / 2 := by
  obtain ⟨d, hd, hdq⟩ := decodeNumber_finite hkind hs (fieldBytes out record) (numberAt out record)
  rw [← decodeField_short hfield hlen] at hd
  refine ⟨?_, ?_⟩
  · intro h
    obtain ⟨d', hd', hnear⟩ := h
    rw [parseRecord_ok_iff hfield hout, hd] at hd'
    cases hd'
    exact (withinHalfStep_finite_iff hs hdq hq).mp hnear
  · intro hnear
    exact ⟨d, (parseRecord_ok_iff hfield hout).mpr hd,
      (withinHalfStep_finite_iff hs hdq hq).mpr hnear⟩

/-- Away from the checksum, the field ends up with the raw integer modulo its range. -/
theorem numberAt_written {record : ChannelDefinition} {frame : Bytes} {raw : Int}
    (hlen : record.length = 1 ∨ record.length = 2) (hplace : ¬ CoversChecksum record)
    (hfield : Contained frame.length record) :
    numberAt (sealed ((shortWrites raw record).apply (frame.set 1 SET))) record
      = raw.bmod (fieldRange record) := by
  have hset : (frame.set 1 SET).length = frame.length := List.length_set ..
  obtain ⟨len, hnat⟩ : ∃ len : Nat, record.length = len :=
    ⟨record.length.toNat, by rcases hlen with h | h <;> rw [h] <;> rfl⟩
  rw [CoversChecksum] at hplace
  rw [numberAt, sealed,
    fieldBytes_set (by rw [Writes.apply_length, hset]; exact hfield) hnat (by omega),
    fieldBytes_written (by rw [hset]; exact hfield) hlen, signedNumber_shortBytes hlen]

/-- A short field: the number read back is near exactly when the raw integer fits, or when the
checksum happens to be near. -/
theorem short_near_iff {record : ChannelDefinition} {v : DecodedValue} {frame : Bytes} {q s : ℚ}
    (hshort : record.length = 1 ∨ record.length = 2) (hfield : Contained frame.length record)
    (hq : v.toFloat = .finite q) (hs : record.scale = .finite s) (hne : s ≠ 0) :
    |toGrid 100 (numberAt (sealed ((shortWrites (round (q / s)) record).apply
        (frame.set 1 SET))) record * s) - q| ≤ s / 2 ↔ Recoverable v frame record := by
  refine ⟨?_, ?_⟩
  · intro hnear
    have hpos : 0 < s := by
      have := (abs_nonneg _).trans hnear
      rcases lt_or_gt_of_ne hne with hneg | hpos
      · linarith
      · exact hpos
    by_cases hplace : CoversChecksum record
    · exact .checksum hq hs hpos hshort hplace hnear
    · have hnumber : numberAt (sealed ((shortWrites (round (q / s)) record).apply
          (frame.set 1 SET))) record = (round (q / s)).bmod (fieldRange record) :=
        numberAt_written hshort hplace hfield
      obtain ⟨_, hfour⟩ := fieldRange_even hshort
      have heq := bmod_eq_of_near hpos (by decide) hfour rfl hnumber hnear
      rw [heq] at hnear hnumber
      exact .fits hq hs hpos hshort hplace
        ((fitsField_iff hshort).mpr hnumber.symm) hnear
  · intro h
    cases h with
    | @fits q' s' hq' hs' _ _ hplace hfits hgrid =>
        obtain rfl : q' = q := PyFloat.finite.inj (hq'.symm.trans hq)
        obtain rfl : s' = s := PyFloat.finite.inj (hs'.symm.trans hs)
        rw [numberAt_written hshort hplace hfield, (fitsField_iff hshort).mp hfits]
        exact hgrid
    | @checksum q' s' hq' hs' _ _ _ hnear =>
        obtain rfl : q' = q := PyFloat.finite.inj (hq'.symm.trans hq)
        obtain rfl : s' = s := PyFloat.finite.inj (hs'.symm.trans hs)
        exact hnear
    | held _ _ hlen _ => omega
    | vacuous hinf _ =>
        rw [hs] at hinf
        cases hinf

/-- An infinite scale leaves a short field without a value. -/
theorem not_recoverable_of_infinite {record : ChannelDefinition} {v : DecodedValue}
    {frame : Bytes} (hshort : record.length = 1 ∨ record.length = 2)
    (hinf : ∀ s, record.scale ≠ .finite s) : ¬ Recoverable v frame record := by
  intro h
  cases h with
  | fits _ hfinite => exact hinf _ hfinite
  | checksum _ hfinite => exact hinf _ hfinite
  | held _ hfinite => exact hinf _ hfinite
  | vacuous _ hlen => omega

/-- A field of four bytes holds what it held. -/
theorem held_recoverable_iff {record : ChannelDefinition} {v : DecodedValue} {frame : Bytes}
    {q : ℚ} (hq : v.toFloat = .finite q) (hlen : record.length = 4) :
    WithinHalfStep record.scale (.int (numberAt (sealed (frame.set 1 SET)) record)) v ↔
      Recoverable v frame record := by
  refine ⟨?_, ?_⟩
  · intro hnear
    rcases hnear.scale_cases with hinf | ⟨s, p, q', hs, hp, hq', hle⟩
    · exact .vacuous hinf hlen
    · cases hp
      exact .held hq' hs hlen hle
  · intro h
    cases h with
    | fits _ _ _ hshort => omega
    | checksum _ _ _ hshort => omega
    | @held q' s hq' hs _ hnear => exact (withinHalfStep_finite_iff hs rfl hq').mpr hnear
    | vacuous hinf _ =>
        unfold WithinHalfStep
        rw [hinf, hq]
        trivial

/-- What an accepted write leaves in the frame decodes to within half a step of the
value exactly when the value is recoverable. -/
theorem accepted_write_recoverable_iff {record : ChannelDefinition} {given : CallerValue}
    {v : DecodedValue} {frame out : Bytes} (hkind : record.valueKind ≠ .boolean)
    (hv : HeatPumpService.coerce record given = .ok v) (hfield : Contained frame.length record)
    (hout : composeRecord v frame record = .ok out) :
    (∃ d, parseRecord out record = .ok d ∧ WithinHalfStep record.scale d v) ↔
      Recoverable v frame record := by
  have houtlen := composeRecord_length hout
  obtain ⟨⟨hfive, hencodable, _⟩, rfl⟩ := composeRecord_ok_iff.mp hout
  have hsome : (rawOf v record).toOption.isSome := by
    rcases coerce_number hkind hv with ⟨x, rfl⟩ | ⟨⟨n, rfl⟩, _⟩
    · exact hencodable.2.2
    · exact hencodable.2.2
  obtain ⟨q, hq⟩ := encodable_finite hkind hv hsome
  rw [fieldFrame_number hkind hv] at houtlen ⊢
  have hcontained := hfield
  rw [← houtlen] at hcontained
  have htwo : 2 ≤ frame.length := by omega
  rw [← houtlen] at htwo
  by_cases hshort : record.length = 1 ∨ record.length = 2
  · cases hs : record.scale with
    | finite s =>
        obtain ⟨hne, hraw⟩ := rawOf_eq hkind hv (by omega) hq hs hsome
        rw [← hs, short_recoverable_iff hkind hq hs hshort hcontained htwo, hraw]
        exact short_near_iff hshort hfield hq hs hne
    | posInf | negInf | nan =>
        have hinf : ∀ s, record.scale ≠ .finite s := by
          intro s h
          rw [h] at hs
          cases hs
        refine iff_of_false ?_ (not_recoverable_of_infinite hshort hinf)
        intro hc
        obtain ⟨d, hd, _⟩ := hc
        rw [parseRecord_ok_iff hcontained htwo, decodeField_short hcontained hshort] at hd
        exact decodeNumber_infinite hkind hinf _ _ _ hd
  · have hnone : ∀ raw, shortWrites raw record = [] := by
      intro raw
      rw [shortWrites, if_neg (by omega), if_neg (by omega)]
    rw [hnone] at hcontained htwo ⊢
    simp only [Writes.apply, List.foldl_nil] at hcontained htwo ⊢
    show (∃ d, parseRecord (sealed (frame.set 1 SET)) record = .ok d ∧ _) ↔ _
    by_cases hfour : record.length = 4
    · have hd : parseRecord (sealed (frame.set 1 SET)) record
          = .ok (.int (numberAt (sealed (frame.set 1 SET)) record)) :=
        (parseRecord_ok_iff hcontained htwo).mpr (decodeField_four hcontained hfour)
      simp only [hd, Except.ok.injEq, exists_eq_left']
      exact held_recoverable_iff hq hfour
    · refine iff_of_false ?_ ?_
      · intro hc
        obtain ⟨d, hd, _⟩ := hc
        have hfield' := (parseRecord_ok_iff hcontained htwo).mp hd
        rw [decodeField_other (by omega) (by omega) hfour] at hfield'
        cases hfield'
      · intro h
        cases h with
        | fits _ _ _ hlen => exact hshort hlen
        | checksum _ _ _ hlen => exact hshort hlen
        | held _ _ hlen => exact hfour hlen
        | vacuous _ hlen => exact hfour hlen

/-- A register's field of one byte, for values up to 999. -/
def switchingValueIntegralPortion : ChannelDefinition :=
  { channelId := "p30SwitchingValueIntegralPortionHeating", requestByte := "06"
    dataType := .settings, position := 13, length := 1, min := .finite 1, max := .finite 999
    step := .finite 1 }

def settings06 : Bytes :=
  [0x01, 0x00, 0x07, 0x06, 0x00, 0x00, 0x00, 0x00, 0x00, 0x00, 0x00, 0x00, 0x00, 0x00,
    0x10, 0x03]

theorem accepted_write_recoverable_hundred :
    ∃ d, parseRecord [0x01, 0x80, 0xEB, 0x06, 0x00, 0x00, 0x00, 0x00, 0x00, 0x00, 0x00, 0x00,
        0x00, 0x64, 0x10, 0x03] switchingValueIntegralPortion = .ok d ∧
      WithinHalfStep switchingValueIntegralPortion.scale d (.int 100) :=
  have hv : HeatPumpService.coerce switchingValueIntegralPortion (.int 100) = .ok (.int 100) := rfl
  have hfield : Contained settings06.length switchingValueIntegralPortion := by decide
  (accepted_write_recoverable_iff (by decide +kernel) hv hfield (by decide +kernel)).mpr
    (.fits (q := 100) (s := 1) rfl rfl (by decide) (.inl rfl) (by decide) (by decide +kernel)
      (by decide +kernel))

/-- The record accepts 200 and keeps the byte `C8`, which reads as -56. -/
theorem accepted_write_changes_sign :
    ∃ out, switchingValueIntegralPortion.writable = true ∧
      switchingValueIntegralPortion.valueKind ≠ .boolean ∧
      HeatPumpService.coerce switchingValueIntegralPortion (.int 200) = .ok (.int 200) ∧
      Contained settings06.length switchingValueIntegralPortion ∧
      composeRecord (.int 200) settings06 switchingValueIntegralPortion = .ok out ∧
      parseRecord out switchingValueIntegralPortion = .ok (.int (-56)) ∧
      ¬ WithinHalfStep switchingValueIntegralPortion.scale (.int (-56)) (.int 200) :=
  ⟨[0x01, 0x80, 0x4F, 0x06, 0x00, 0x00, 0x00, 0x00, 0x00, 0x00, 0x00, 0x00, 0x00, 0xC8,
    0x10, 0x03], by decide +kernel⟩

end exact

end HeatpumpGateway
