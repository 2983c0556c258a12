import Mathlib.Algebra.Order.Round
import Mathlib.Tactic.FieldSimp
import Mathlib.Tactic.Linarith
import Mathlib.Tactic.Ring

/-!
# Numbers on a grid, kept in a few bits

A quantity `x` is stored as the nearest multiple of a step `s`, and the multiple is
kept modulo a range `M`, as a signed machine integer keeps it. Reading it back
multiplies by the step and rounds to a grid of its own, `1 / n`.

Ties go up, as they do in `round`, below zero as well, and that keeps the order; so a
quantity between two multiples is stored between them (`round_div_mem`). The file's
point is `bmod_eq_of_near`: whatever the step and the grid are, a number that was
folded into the range is never read back within half a step of what it stood for.
Where the folding did nothing, `toGrid_eq` says when reading back is exact.
-/

namespace Rounding

variable {K : Type} [Field K] [LinearOrder K] [IsStrictOrderedRing K] [FloorRing K]

/-- The nearest multiple of `1 / n`. -/
def toGrid (n : ℕ) (x : K) : K := round (x * n) / n

theorem abs_toGrid_sub_le {n : ℕ} (hn : 0 < n) (x : K) : |toGrid n x - x| ≤ 1 / (2 * n) := by
  have hpos : (0 : K) < n := Nat.cast_pos.mpr hn
  have h := abs_sub_round (x * n)
  rw [abs_sub_comm] at h
  have hscale : toGrid n x - x = ((round (x * n) : K) - x * n) / n := by
    rw [toGrid]
    field_simp
  rw [hscale, abs_div, abs_of_pos hpos, div_le_iff₀ hpos]
  have hhalf : 1 / (2 * (n : K)) * n = 1 / 2 := by field_simp
  rw [hhalf]
  exact h

/-- On the grid there is nothing to round. -/
theorem toGrid_eq {n : ℕ} (hn : 0 < n) {x : K} {m : ℤ} (hx : x * n = m) : toGrid n x = x := by
  have hpos : (n : K) ≠ 0 := (Nat.cast_pos.mpr hn).ne'
  rw [toGrid, hx, round_intCast, ← hx]
  field_simp

theorem toGrid_intCast {n : ℕ} (hn : 0 < n) (m : ℤ) : toGrid n (m : K) = m :=
  toGrid_eq hn (m := m * n) (by push_cast; rfl)

/-- Less than half a grid step is nothing. -/
theorem toGrid_eq_zero {n : ℕ} {x : K} (hx : |x * n| < 1 / 2) : toGrid n x = 0 := by
  obtain ⟨hlo, hhi⟩ := abs_lt.mp hx
  have hzero : round (x * n) = 0 := round_eq_zero_iff.mpr ⟨hlo.le, hhi⟩
  rw [toGrid, hzero, Int.cast_zero, zero_div]

/-! ## A stored multiple of a step -/

section stored

variable {q s : K} {n M : ℕ}

/-- Rounding to a multiple of the step costs at most half a step. -/
theorem abs_round_div_mul_sub_le (hs : 0 < s) : |(round (q / s) : K) * s - q| ≤ s / 2 := by
  have h := abs_sub_round (q / s)
  rw [abs_sub_comm] at h
  have hscale : (round (q / s) : K) * s - q = ((round (q / s) : K) - q / s) * s := by
    field_simp
  rw [hscale, abs_mul, abs_of_pos hs]
  calc |(round (q / s) : K) - q / s| * s ≤ 1 / 2 * s := mul_le_mul_of_nonneg_right h hs.le
    _ = s / 2 := by ring

theorem round_mono {x y : K} (h : x ≤ y) : round x ≤ round y := by
  rw [round_eq, round_eq]
  exact Int.floor_mono (by linarith)

theorem round_div_mono (hs : 0 < s) {q' : K} (h : q ≤ q') : round (q / s) ≤ round (q' / s) :=
  round_mono (div_le_div_of_nonneg_right h hs.le)

/-- A multiple of the step is stored as it is. -/
theorem round_mul_div (hs : s ≠ 0) (m : ℤ) : round ((m : K) * s / s) = m := by
  rw [mul_div_assoc, div_self hs, mul_one, round_intCast]

/-- Storing a quantity never takes it out of a range whose ends are multiples of the
step: the ends are stored as they are, and the order is kept. -/
theorem round_div_mem {lo hi : ℤ} (hs : 0 < s) (hlo : lo * s ≤ q) (hhi : q ≤ hi * s) :
    lo ≤ round (q / s) ∧ round (q / s) ≤ hi := by
  have hleast := round_div_mono hs hlo
  have hmost := round_div_mono hs hhi
  rw [round_mul_div hs.ne'] at hleast hmost
  exact ⟨hleast, hmost⟩

theorem le_abs_sub_of_bmod_ne {m raw : ℤ} (hm : m = raw.bmod M) (hne : m ≠ raw) :
    (M : ℤ) ≤ |m - raw| := by
  have hdvd : (M : ℤ) ∣ m - raw := by
    have hself : raw.bmod M - raw = -(raw - raw.bmod M) := by ring
    rw [hm, hself]
    exact (Int.dvd_neg).mpr Int.dvd_self_sub_bmod
  exact Int.le_of_dvd (abs_pos.mpr (sub_ne_zero.mpr hne)) ((dvd_abs _ _).mpr hdvd)

/-- A step so fine that a whole range of it is lost in the grid. -/
theorem step_small (hs : 0 < s) (hn : 0 < n) {m raw : ℤ} (hraw : raw = round (q / s))
    (hfar : (M : ℤ) ≤ |m - raw|) (hnear : |toGrid n ((m : K) * s) - q| ≤ s / 2) :
    ((M : K) - 1) * s ≤ 1 / (2 * n) := by
  have hgrid := abs_toGrid_sub_le hn ((m : K) * s)
  have hstored : |(raw : K) * s - q| ≤ s / 2 := by
    rw [hraw]
    exact abs_round_div_mul_sub_le hs
  have hgap : (M : K) * s ≤ |((m : K) - raw) * s| := by
    rw [abs_mul, abs_of_pos hs]
    refine mul_le_mul_of_nonneg_right ?_ hs.le
    exact_mod_cast hfar
  have hsplit : ((m : K) - raw) * s
      = (m * s - toGrid n (m * s)) + (toGrid n (m * s) - q) + (q - raw * s) := by ring
  have hsum := abs_add_three ((m : K) * s - toGrid n (m * s)) (toGrid n (m * s) - q) (q - raw * s)
  rw [← hsplit, abs_sub_comm ((m : K) * s), abs_sub_comm q] at hsum
  calc ((M : K) - 1) * s = M * s - s := by ring
    _ ≤ 1 / (2 * n) := by linarith

/-- What was folded into the range is not read back within half a step. -/
theorem bmod_eq_of_near (hs : 0 < s) (hn : 0 < n) (hM : 4 ≤ M) {m raw : ℤ}
    (hraw : raw = round (q / s)) (hm : m = raw.bmod M)
    (hnear : |toGrid n ((m : K) * s) - q| ≤ s / 2) : m = raw := by
  by_contra hne
  have hsmall := step_small hs hn hraw (le_abs_sub_of_bmod_ne hm hne) hnear
  have hpos : (0 : K) < n := Nat.cast_pos.mpr hn
  have hM' : (4 : K) ≤ M := by exact_mod_cast hM
  -- The whole range is then less than half a grid step, so zero was read back ...
  have hrange : |(m : K)| ≤ M / 2 := by
    have hlo : -(M : ℤ) ≤ 2 * m := by
      have := Int.le_bmod (x := raw) (m := M) (by omega)
      omega
    have hhi : 2 * m ≤ (M : ℤ) := by
      have := Int.bmod_lt (x := raw) (m := M) (by omega)
      omega
    have hlo' : -(M : K) ≤ 2 * m := by exact_mod_cast hlo
    have hhi' : 2 * (m : K) ≤ M := by exact_mod_cast hhi
    rw [abs_le]
    exact ⟨by linarith, by linarith⟩
  have hgridded : ((M : K) - 1) * s * n ≤ 1 / 2 := by
    have h := mul_le_mul_of_nonneg_right hsmall hpos.le
    have hhalf : 1 / (2 * (n : K)) * n = 1 / 2 := by field_simp
    linarith
  have hzero : toGrid n ((m : K) * s) = 0 := by
    refine toGrid_eq_zero ?_
    have hsn : 0 < s * n := mul_pos hs hpos
    rw [mul_assoc, abs_mul, abs_of_pos hsn]
    calc |(m : K)| * (s * n) ≤ M / 2 * (s * n) := mul_le_mul_of_nonneg_right hrange hsn.le
      _ < 1 / 2 := by nlinarith
  -- ... which is near only to what is stored as zero or one.
  rw [hzero, zero_sub, abs_neg, abs_le] at hnear
  have hq : -(1 / 2) ≤ q / s ∧ q / s ≤ 1 / 2 := by
    rw [le_div_iff₀ hs, div_le_iff₀ hs]
    exact ⟨by linarith, by linarith⟩
  have hraw₀ : 0 ≤ raw := by
    rw [hraw, round_eq]
    exact Int.floor_nonneg.mpr (by linarith)
  have hraw₁ : raw < 2 := by
    rw [hraw, round_eq, Int.floor_lt]
    push_cast
    linarith
  rw [Int.bmod_eq_of_le (by omega) (by omega)] at hm
  exact hne hm

end stored

end Rounding
