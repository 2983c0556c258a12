import HeatpumpGateway.Proofs.Doubles
import HeatpumpGateway.Proofs.Quantise

/-!
# Rounding a setting to its raw integer

`compose_record` compares the value a caller sends with the record's bounds and
rounds it afterwards, in `scaled_to_raw`. Half up is not symmetric around zero, so
that the two steps agree is a fact about both ends of the range and both signs.

On rationals the rounding is `scaledToRawExact`: it keeps the order, moves a value by
half a step at most, and leaves multiples of the scale alone. Hence a value between two
multiples of the scale is written as one between them. `scaled_to_raw` is this
function where floats are exact (`scaledToRaw_exact`), and at most one beside it on
doubles (`scaledToRaw_near`).
-/

namespace HeatpumpGateway

open Rounding

theorem scaledToRawExact_eq (value scale : ℚ) :
    scaledToRawExact value scale = round (value / scale) := by
  rw [scaledToRawExact, round_eq]

theorem scaledToRawExact_mono {s v w : ℚ} (hs : 0 < s) (hvw : v ≤ w) :
    scaledToRawExact v s ≤ scaledToRawExact w s := by
  rw [scaledToRawExact_eq, scaledToRawExact_eq]
  exact round_div_mono hs hvw

theorem scaledToRawExact_near {s : ℚ} (hs : 0 < s) (v : ℚ) :
    |(scaledToRawExact v s : ℚ) * s - v| ≤ s / 2 := by
  rw [scaledToRawExact_eq]
  exact abs_round_div_mul_sub_le hs

theorem scaledToRawExact_multiple {s : ℚ} (hs : 0 < s) (r : ℤ) :
    scaledToRawExact (r * s) s = r := by
  rw [scaledToRawExact_eq]
  exact round_mul_div hs.ne' r

/-- Between two multiples of the scale it stays between them. -/
theorem scaledToRawExact_between {s v : ℚ} {lo hi : ℤ} (hs : 0 < s) (hlo : lo * s ≤ v)
    (hhi : v ≤ hi * s) :
    lo * s ≤ scaledToRawExact v s * s ∧ scaledToRawExact v s * s ≤ hi * s := by
  have hraw := round_div_mem hs hlo hhi
  rw [← scaledToRawExact_eq] at hraw
  refine ⟨mul_le_mul_of_nonneg_right ?_ hs.le, mul_le_mul_of_nonneg_right ?_ hs.le⟩
  · exact_mod_cast hraw.1
  · exact_mod_cast hraw.2

section exact

attribute [local instance] Arithmetic.exact

/-- On exact floats the integer is the same. -/
theorem scaledToRaw_exact {s : ℚ} (hs : s ≠ 0) (v : ℚ) :
    scaledToRaw (.finite v) (.finite s) = .ok (scaledToRawExact v s) := by
  rw [scaledToRawExact_eq, scaledToRaw_round hs]

/-- The frame that is composed for a float, from the raw integer that was computed. -/
theorem composeRecord_float {x : PyFloat} {frame out : Bytes} {record : ChannelDefinition}
    (h : composeRecord (.float x) frame record = .ok out) :
    record.max.lt x = false ∧ x.lt record.min = false ∧
      ∃ raw, scaledToRaw x record.scale = .ok raw ∧
        out = sealed ((shortWrites raw record).apply (frame.set 1 SET)) := by
  obtain ⟨⟨_, ⟨hmax, hmin, hsome⟩, _⟩, rfl⟩ := composeRecord_ok_iff.mp h
  refine ⟨hmax, hmin, ?_⟩
  cases hraw : scaledToRaw x record.scale with
  | error e =>
      rw [rawOf, hraw] at hsome
      cases hsome
  | ok raw =>
      have hbytes : fieldFrame (.float x) frame record
          = (shortWrites ((scaledToRaw x record.scale).toOption.getD 0) record).apply
              (frame.set 1 SET) := rfl
      refine ⟨raw, rfl, ?_⟩
      rw [hbytes, hraw]
      rfl

/-- What `scaled_to_raw` does to the order, to a value, to the multiples of the scale and
to a range between two of them, and how far the doubles' is from it; and that
`compose_record`, on exact floats, writes a raw integer within the record's bounds. -/
theorem scaledToRaw_keeps_range {s v w : ℚ} (hs : 0 < s) (hvw : v ≤ w) :
    scaledToRawExact v s ≤ scaledToRawExact w s ∧
      |(scaledToRawExact v s : ℚ) * s - v| ≤ s / 2 ∧
      (∀ r : ℤ, scaledToRawExact (r * s) s = r) ∧
      (∀ lo hi : ℤ, lo * s ≤ v → v ≤ hi * s →
        lo * s ≤ scaledToRawExact v s * s ∧ scaledToRawExact v s * s ≤ hi * s) ∧
      (∀ x : ℚ, scaledToRaw (.finite x) (.finite s) = .ok (scaledToRawExact x s)) ∧
      (∀ x : ℚ, |x / s| ≤ 2 ^ 51 → ∃ raw,
        @scaledToRaw .double (.finite x) (.finite s) = .ok raw ∧
          |raw - scaledToRawExact x s| ≤ 1) ∧
      ∀ (record : ChannelDefinition) (lo hi : ℤ) (frame out : Bytes),
        record.scale = .finite s → record.min = .finite (lo * s) →
        record.max = .finite (hi * s) →
        composeRecord (.float (.finite v)) frame record = .ok out →
          ∃ raw : ℤ, scaledToRaw (.finite v) record.scale = .ok raw ∧
            out = sealed ((shortWrites raw record).apply (frame.set 1 SET)) ∧
            lo * s ≤ raw * s ∧ raw * s ≤ hi * s := by
  refine ⟨scaledToRawExact_mono hs hvw, scaledToRawExact_near hs v,
    scaledToRawExact_multiple hs, fun lo hi => scaledToRawExact_between hs,
    scaledToRaw_exact hs.ne', fun _ => scaledToRaw_near hs.ne', ?_⟩
  intro record lo hi frame out hscale hmin hmax hout
  obtain ⟨hnotmax, hnotmin, raw, hraw, hframe⟩ := composeRecord_float hout
  have hhi : v ≤ hi * s := by
    rw [hmax] at hnotmax
    exact not_lt.mp (of_decide_eq_false hnotmax)
  have hlo : lo * s ≤ v := by
    rw [hmin] at hnotmin
    exact not_lt.mp (of_decide_eq_false hnotmin)
  have hexact : raw = scaledToRawExact v s := by
    have hcode := hraw
    rw [hscale, scaledToRaw_exact hs.ne'] at hcode
    exact (Except.ok.inj hcode).symm
  refine ⟨raw, hraw, hframe, ?_⟩
  rw [hexact]
  exact scaledToRawExact_between hs hlo hhi

/-- A setting in tenths with a negative bound. -/
def bivalencePoint : ChannelDefinition :=
  { channelId := "p78BivalencePoint", requestByte := "0A01AC", dataType := .settings
    position := 6, length := 2, scale := .finite (1 / 10), min := .finite (-10)
    max := .finite 20, step := .finite (1 / 10) }

/-- -9.97 is written as -10.0, the lower bound. -/
theorem scaledToRaw_keeps_range_bivalence :
    scaledToRawExact (-997 / 100) (1 / 10) ≤ scaledToRawExact (-199 / 20) (1 / 10) ∧
      ∃ raw : ℤ, scaledToRaw (.finite (-997 / 100)) bivalencePoint.scale = .ok raw ∧
        [0x01, 0x80, 0xD3, 0x0A, 0x01, 0xAC, 0xFF, 0x9C, 0x10, 0x03]
          = sealed ((shortWrites raw bivalencePoint).apply
              [0x01, 0x80, 0xB8, 0x0A, 0x01, 0xAC, 0x00, 0x00, 0x10, 0x03]) ∧
        ((-100 : ℤ) : ℚ) * (1 / 10) ≤ raw * (1 / 10) ∧
          raw * (1 / 10) ≤ ((200 : ℤ) : ℚ) * (1 / 10) := by
  have hs : (0 : ℚ) < 1 / 10 := by norm_num
  have hvw : (-997 / 100 : ℚ) ≤ -199 / 20 := by norm_num
  obtain ⟨hmono, _, _, _, _, _, hcompose⟩ := scaledToRaw_keeps_range hs hvw
  exact ⟨hmono, hcompose bivalencePoint (-100) 200
    [0x01, 0x00, 0xB8, 0x0A, 0x01, 0xAC, 0x00, 0x00, 0x10, 0x03] _ rfl (by decide +kernel)
    (by decide +kernel) (by decide +kernel)⟩

end exact

end HeatpumpGateway
