import HeatpumpGateway.Lib.Fallible
import HeatpumpGateway.Model.Parser

/-!
# Arithmetic on doubles

Where a float operation has a number for a result: `ofRat` is finite below the bound at
which it overflows, and so far below the largest double that a half can be added. What
`scaled_to_raw` makes of two finite floats follows: it overflows where the quotient does
(`scaledToRaw_succeeds_iff`), and it is the exact integer or one beside it where the
quotient has a digit left behind the point (`scaledToRaw_near`).
-/

namespace HeatpumpGateway

open Fallible Floating

namespace PyFloat

/-- The range of the finite doubles. -/
def Representable (q : ℚ) : Prop := |q| < (overflowBound : ℚ)

instance (q : ℚ) : Decidable (Representable q) := inferInstanceAs (Decidable (_ < _))

theorem overflowBound_eq :
    (overflowBound : ℚ) = twoPow 1024 - twoPow (1024 - double.precision) / 2 := by
  decide +kernel

theorem ofRat_finite {q : ℚ} (h : Representable q) : ofRat q = .finite (double.nearest q) := by
  rw [ofRat, if_pos (show |q| < (overflowBound : ℚ) from h)]

theorem ofRat_infinite {q : ℚ} (h : ¬ Representable q) : ofRat q = .posInf ∨ ofRat q = .negInf := by
  rw [ofRat, if_neg (show ¬ |q| < (overflowBound : ℚ) from h)]
  split
  · exact .inl rfl
  · exact .inr rfl

theorem ofRat_finite_iff {q : ℚ} : (∃ y, ofRat q = .finite y) ↔ Representable q := by
  refine ⟨fun hc => ?_, fun h => ⟨_, ofRat_finite h⟩⟩
  obtain ⟨y, hy⟩ := hc
  by_contra hfar
  rcases ofRat_infinite hfar with h | h <;> rw [h] at hy <;> cases hy

theorem representable_of_lt {q : ℚ} {e : ℤ} (he : e ≤ 1023) (h : |q| < twoPow e) :
    Representable q := by
  have hle : twoPow e ≤ twoPow 1023 := twoPow_le he
  have hbound : twoPow 1023 ≤ (overflowBound : ℚ) := by decide +kernel
  exact h.trans_le (hle.trans hbound)

/-- No double is so large that a half more overflows. -/
theorem representable_add_half {q : ℚ} (h : Representable q) :
    Representable (double.nearest q + 1 / 2) := by
  rw [Representable, overflowBound_eq] at h
  have htop : |double.nearest q| ≤ twoPow 1024 - twoPow (1024 - double.precision) :=
    abs_nearest_le_top (by decide) (by decide) h
  have hadd := abs_add_le (double.nearest q) (1 / 2)
  have hhalf : |(1 / 2 : ℚ)| = 1 / 2 := abs_of_pos (by norm_num)
  have hunit : (1 : ℚ) < twoPow (1024 - double.precision) := by decide +kernel
  rw [Representable, overflowBound_eq]
  linarith

theorem ofRat_add_half {q : ℚ} (h : Representable q) :
    (ofRat q).add (.finite (1 / 2)) = .finite (double.nearest (double.nearest q + 1 / 2)) := by
  rw [ofRat_finite h]
  exact ofRat_finite (representable_add_half h)

/-- Doubling and one more is room enough for every rounding. -/
theorem abs_double_le (q : ℚ) : |double.nearest q| ≤ 2 * |q| + 1 :=
  abs_nearest_le (by decide) (by decide) q

end PyFloat

open PyFloat

/-! ## The encoder's quotient -/

theorem scaledToRaw_eq {q s : ℚ} (hs : s ≠ 0) (hrange : Representable (q / s)) :
    scaledToRaw (.finite q) (.finite s)
      = .ok ⌊double.nearest (double.nearest (q / s) + 1 / 2)⌋ := by
  have hdiv : (PyFloat.finite q).div (.finite s) = .ok (ofRat (q / s)) := by
    rw [PyFloat.div, if_neg hs]
    rfl
  rw [scaledToRaw, hdiv, ok_bind, ofRat_add_half hrange]
  rfl

/-- A finite quotient outside the range is refused. -/
theorem scaledToRaw_overflow {q s : ℚ} (hs : s ≠ 0) (hrange : ¬ Representable (q / s)) :
    scaledToRaw (.finite q) (.finite s)
      = .error (.overflowError "cannot convert float infinity to integer") := by
  have hdiv : (PyFloat.finite q).div (.finite s) = .ok (ofRat (q / s)) := by
    rw [PyFloat.div, if_neg hs]
    rfl
  rw [scaledToRaw, hdiv, ok_bind]
  rcases ofRat_infinite hrange with h | h <;> rw [h] <;> rfl

theorem scaledToRaw_succeeds_iff {q s : ℚ} (hs : s ≠ 0) :
    (∃ raw, scaledToRaw (.finite q) (.finite s) = .ok raw) ↔ Representable (q / s) := by
  refine ⟨fun hc => ?_, fun h => ⟨_, scaledToRaw_eq hs h⟩⟩
  obtain ⟨raw, hraw⟩ := hc
  by_contra hfar
  rw [scaledToRaw_overflow hs hfar] at hraw
  cases hraw

/-- On doubles the raw integer is the exact one or one beside it, as long as the quotient
has a digit left behind the point. -/
theorem scaledToRaw_near {q s : ℚ} (hs : s ≠ 0) (hsmall : |q / s| ≤ 2 ^ 51) :
    ∃ raw, scaledToRaw (.finite q) (.finite s) = .ok raw ∧
      |raw - scaledToRawExact q s| ≤ 1 := by
  have hpow : twoPow 52 = 2 * 2 ^ 51 := by decide +kernel
  have hone : (1 : ℚ) < 2 ^ 51 := by norm_num
  have hquotient : |q / s| < twoPow 52 := by linarith
  have hfirst : |double.nearest (q / s) - q / s| ≤ twoPow (52 - double.precision) / 2 :=
    abs_nearest_sub_le_of_lt (by decide) (by decide) hquotient
  have hstep : twoPow (52 - double.precision) / 2 = 1 / 4 := by decide +kernel
  rw [hstep] at hfirst
  have hsum : |double.nearest (q / s) + 1 / 2| < twoPow 52 := by
    rw [abs_lt]
    obtain ⟨h₁, h₂⟩ := abs_le.mp hfirst
    obtain ⟨h₃, h₄⟩ := abs_le.mp hsmall
    exact ⟨by linarith, by linarith⟩
  have hsecond : |double.nearest (double.nearest (q / s) + 1 / 2)
      - (double.nearest (q / s) + 1 / 2)| ≤ twoPow (52 - double.precision) / 2 :=
    abs_nearest_sub_le_of_lt (by decide) (by decide) hsum
  rw [hstep] at hsecond
  refine ⟨_, scaledToRaw_eq hs (representable_of_lt (by decide) hquotient), ?_⟩
  obtain ⟨h₁, h₂⟩ := abs_le.mp hfirst
  obtain ⟨h₃, h₄⟩ := abs_le.mp hsecond
  rw [scaledToRawExact, abs_le]
  have hlo : ⌊q / s + 1 / 2⌋ - 1 ≤ ⌊double.nearest (double.nearest (q / s) + 1 / 2)⌋ := by
    rw [Int.le_floor]
    have := Int.floor_le (q / s + 1 / 2)
    push_cast
    linarith
  have hhi : ⌊double.nearest (double.nearest (q / s) + 1 / 2)⌋ - 1 ≤ ⌊q / s + 1 / 2⌋ := by
    rw [Int.le_floor]
    have := Int.floor_le (double.nearest (double.nearest (q / s) + 1 / 2))
    push_cast
    linarith
  exact ⟨by omega, by omega⟩

end HeatpumpGateway
