import AuditTrail.Binary64
import Mathlib.Algebra.Order.Field.Power
import Mathlib.Data.Rat.Cast.Order
import Mathlib.Tactic.FieldSimp
import Mathlib.Tactic.Linarith
import Mathlib.Tactic.Positivity
import Mathlib.Tactic.Ring

/-!
# What rounds to a number

Magnitudes as rational numbers, and the interval of the rationals that round to one.

* `RoundsTo q x`: the rational `q` rounds to the magnitude of `x`. It lies between the middles to
  the two neighbours; the middles themselves round to the even mantissa.
* `eq_of_roundsTo`: no rational rounds to two magnitudes.
* `holds_interval_iff`: the whole numbers of `Interval.holds` say the same.
-/

namespace AuditTrail.Binary64

/-- The magnitude as a rational number. -/
def magnitude (x : Binary64) : ℚ := x.mantissa * 2 ^ x.exponent

/-- A decimal as a rational number. -/
def Decimal.value (d : Decimal) : ℚ := d.digits * 10 ^ d.exponent

/-- Half the distance to the next smaller magnitude, in units of the last place. -/
def gap (x : Binary64) : ℚ := if x.mantissa = 2 ^ 52 ∧ x.exponent ≠ -1074 then 1 / 4 else 1 / 2

/-- The rational rounds to the magnitude of `x`. -/
def RoundsTo (q : ℚ) (x : Binary64) : Prop :=
  if x.mantissa % 2 = 0 then
    (x.mantissa - x.gap) * 2 ^ x.exponent ≤ q ∧ q ≤ (x.mantissa + 1 / 2) * 2 ^ x.exponent
  else (x.mantissa - x.gap) * 2 ^ x.exponent < q ∧ q < (x.mantissa + 1 / 2) * 2 ^ x.exponent

theorem gap_pos (x : Binary64) : 0 < x.gap := by unfold gap; split <;> norm_num

theorem gap_le (x : Binary64) : x.gap ≤ 1 / 2 := by unfold gap; split <;> norm_num

theorem RoundsTo.bounds {q : ℚ} {x : Binary64} (h : RoundsTo q x) :
    (x.mantissa - x.gap) * 2 ^ x.exponent ≤ q ∧ q ≤ (x.mantissa + 1 / 2) * 2 ^ x.exponent := by
  unfold RoundsTo at h
  split at h
  · exact h
  · exact ⟨h.1.le, h.2.le⟩

theorem RoundsTo.strict {q : ℚ} {x : Binary64} (h : RoundsTo q x) (hodd : x.mantissa % 2 = 1) :
    (x.mantissa - x.gap) * 2 ^ x.exponent < q ∧ q < (x.mantissa + 1 / 2) * 2 ^ x.exponent := by
  rwa [RoundsTo, if_neg (by omega)] at h

theorem roundsTo_of_strict {q : ℚ} {x : Binary64}
    (hlow : (x.mantissa - x.gap) * 2 ^ x.exponent < q)
    (hhigh : q < (x.mantissa + 1 / 2) * 2 ^ x.exponent) : RoundsTo q x := by
  unfold RoundsTo
  split
  · exact ⟨hlow.le, hhigh.le⟩
  · exact ⟨hlow, hhigh⟩

theorem pos_of_roundsTo {q : ℚ} {x : Binary64} (h : RoundsTo q x) (hm : x.mantissa ≠ 0) :
    0 < q := by
  have hm : (1 : ℚ) ≤ x.mantissa := by exact_mod_cast Nat.one_le_iff_ne_zero.2 hm
  have hgap := x.gap_le
  have hpow : (0 : ℚ) < 2 ^ x.exponent := by positivity
  have hlow : 0 < (x.mantissa - x.gap) * 2 ^ x.exponent := mul_pos (by linarith) hpow
  exact hlow.trans_le h.bounds.1

/-! ## Intervals do not overlap -/

/-- Of two magnitudes with one exponent the greater mantissa starts where the other ends, and the
common end rounds to one of them only. -/
theorem not_roundsTo_of_mantissa_lt {q : ℚ} {x y : Binary64} (he : x.exponent = y.exponent)
    (hlt : x.mantissa < y.mantissa) (hx : RoundsTo q x) : ¬ RoundsTo q y := by
  intro hy
  have hpow : (0 : ℚ) < 2 ^ y.exponent := by positivity
  have hgap := y.gap_le
  obtain ⟨-, hxu⟩ := hx.bounds
  obtain ⟨hyl, -⟩ := hy.bounds
  rw [he] at hxu
  have hle : (x.mantissa : ℚ) + 1 ≤ y.mantissa := by exact_mod_cast hlt
  have hends : (x.mantissa + 1 / 2 : ℚ) ≤ y.mantissa - y.gap := by linarith
  have hmid := mul_le_mul_of_nonneg_right hends hpow.le
  by_cases hodd : x.mantissa % 2 = 1
  · have hs := (hx.strict hodd).2
    rw [he] at hs
    linarith
  · by_cases hyodd : y.mantissa % 2 = 1
    · linarith [(hy.strict hyodd).1]
    · -- both are even, so there is another mantissa between them
      have htwo : (x.mantissa : ℚ) + 2 ≤ y.mantissa := by
        have : x.mantissa + 2 ≤ y.mantissa := by omega
        exact_mod_cast this
      have hapart : (x.mantissa + 1 / 2 : ℚ) < y.mantissa - y.gap := by linarith
      linarith [mul_lt_mul_of_pos_right hapart hpow]

/-- The magnitudes of a greater exponent start at `2 ^ 52` units, beyond all of a smaller one. -/
theorem not_roundsTo_of_exponent_lt {q : ℚ} {x y : Binary64} (hlt : x.exponent < y.exponent)
    (hx : RoundsTo q x) : ¬ RoundsTo q y := by
  intro hy
  have hey : y.exponent ≠ -1074 := by have := x.le_exponent; omega
  have hmy : 2 ^ 52 ≤ y.mantissa := y.normal.resolve_right hey
  have hpx : (0 : ℚ) < 2 ^ x.exponent := by positivity
  have hpy : (2 : ℚ) ^ x.exponent * 2 ≤ 2 ^ y.exponent := by
    rw [← zpow_add_one₀ (by norm_num)]
    exact zpow_le_zpow_right₀ (by norm_num) hlt
  obtain ⟨-, hxu⟩ := hx.bounds
  obtain ⟨hyl, -⟩ := hy.bounds
  have hstart : (2 ^ 52 - 1 / 4 : ℚ) ≤ y.mantissa - y.gap := by
    by_cases heq : y.mantissa = 2 ^ 52
    · rw [gap, if_pos ⟨heq, hey⟩, heq]; norm_num
    · have : 2 ^ 52 + 1 ≤ y.mantissa := by omega
      have hc : (2 ^ 52 + 1 : ℚ) ≤ y.mantissa := by exact_mod_cast this
      linarith [y.gap_le]
  have hq : (2 ^ 52 - 1 / 4 : ℚ) * (2 ^ x.exponent * 2) ≤ q :=
    calc (2 ^ 52 - 1 / 4 : ℚ) * (2 ^ x.exponent * 2)
        ≤ (2 ^ 52 - 1 / 4) * 2 ^ y.exponent := mul_le_mul_of_nonneg_left hpy (by norm_num)
      _ ≤ (y.mantissa - y.gap) * 2 ^ y.exponent := mul_le_mul_of_nonneg_right hstart (by positivity)
      _ ≤ q := hyl
  by_cases hmax : x.mantissa = 2 ^ 53 - 1
  · -- the greatest mantissa is odd, so its interval is open
    have hs := (hx.strict (by omega)).2
    rw [hmax] at hs
    norm_num at hs hq
    linarith
  · have hc : (x.mantissa + 2 : ℚ) ≤ 2 ^ 53 := by
      have hlt := x.mantissa_lt
      have hle : x.mantissa + 2 ≤ 2 ^ 53 := by omega
      exact_mod_cast hle
    have hend := mul_le_mul_of_nonneg_right hc hpx.le
    norm_num at hend hq
    linarith

/-- No rational rounds to two magnitudes. -/
theorem eq_of_roundsTo {q : ℚ} {x y : Binary64} (hx : RoundsTo q x) (hy : RoundsTo q y) :
    x.mantissa = y.mantissa ∧ x.exponent = y.exponent := by
  rcases lt_trichotomy x.exponent y.exponent with hlt | heq | hgt
  · exact absurd hy (not_roundsTo_of_exponent_lt hlt hx)
  · rcases lt_trichotomy x.mantissa y.mantissa with hlt | hm | hgt
    · exact absurd hy (not_roundsTo_of_mantissa_lt heq hlt hx)
    · exact ⟨hm, heq⟩
    · exact absurd hx (not_roundsTo_of_mantissa_lt heq.symm hgt hy)
  · exact absurd hx (not_roundsTo_of_exponent_lt hgt hy)

/-! ## The interval in whole numbers -/

/-- A power with an integer exponent as a quotient of two whole ones. -/
theorem natCast_pow_toNat {b : ℕ} (hb : b ≠ 0) (e : ℤ) :
    ((b ^ e.toNat : ℕ) : ℚ) = (b : ℚ) ^ e * (b ^ (-e).toNat : ℕ) := by
  have hb' : (b : ℚ) ≠ 0 := by exact_mod_cast hb
  push_cast
  rw [← zpow_natCast, ← zpow_natCast, ← zpow_add₀ hb']
  congr 1
  omega

/-- The interval and the grid of `10 ^ e` in the whole numbers that they are compared in. -/
theorem interval_casts {x : Binary64} (hm : x.mantissa ≠ 0) (e : ℤ) :
    ∃ k : ℚ, 0 < k ∧
      ((x.interval.lower * 10 ^ (-e).toNat : ℕ) : ℚ) =
        (x.mantissa - x.gap) * 2 ^ x.exponent * k ∧
      ((x.interval.point * 10 ^ (-e).toNat : ℕ) : ℚ) = x.magnitude * k ∧
      ((x.interval.upper * 10 ^ (-e).toNat : ℕ) : ℚ) =
        (x.mantissa + 1 / 2) * 2 ^ x.exponent * k ∧
      ((10 ^ e.toNat * x.interval.unit : ℕ) : ℚ) = 10 ^ e * k := by
  have he := natCast_pow_toNat (show (10 : ℕ) ≠ 0 by norm_num) e
  have hx := natCast_pow_toNat (show (2 : ℕ) ≠ 0 by norm_num) x.exponent
  refine ⟨4 * (10 ^ (-e).toNat : ℕ) * (2 ^ (-x.exponent).toNat : ℕ), by positivity, ?_, ?_, ?_, ?_⟩
  · have hbelow : ((4 * x.mantissa -
        (if x.mantissa = 2 ^ 52 ∧ x.exponent ≠ -1074 then 1 else 2) : ℕ) : ℚ) =
        4 * (x.mantissa - x.gap) := by
      rw [Nat.cast_sub (by split <;> omega), gap]
      split <;> push_cast <;> ring
    simp only [interval]
    rw [Nat.cast_mul, Nat.cast_mul, hbelow, hx]
    push_cast
    ring
  · simp only [interval, magnitude]
    rw [Nat.cast_mul, Nat.cast_mul, hx]
    push_cast
    ring
  · simp only [interval]
    rw [Nat.cast_mul, Nat.cast_mul, hx]
    push_cast
    ring
  · simp only [interval]
    rw [Nat.cast_mul, he]
    push_cast
    ring

/-- The interval of `x` holds the decimals that round to `x`. -/
theorem holds_interval_iff {x : Binary64} (hm : x.mantissa ≠ 0) (c : ℕ) (e : ℤ) :
    x.interval.holds c e = true ↔ RoundsTo (Decimal.value ⟨c, e⟩) x := by
  obtain ⟨k, hk, hlow, -, hupp, hstep⟩ := interval_casts hm e
  have hval : ((c * 10 ^ e.toNat * x.interval.unit : ℕ) : ℚ) = Decimal.value ⟨c, e⟩ * k := by
    rw [mul_assoc, Nat.cast_mul, hstep, Decimal.value, mul_assoc]
  have hclosed : x.interval.closed = decide (x.mantissa % 2 = 0) := rfl
  simp only [Interval.holds, RoundsTo, hclosed, decide_eq_true_eq]
  split
  · rw [Bool.and_eq_true, decide_eq_true_eq, decide_eq_true_eq, ← Rat.natCast_le_natCast,
      ← Rat.natCast_le_natCast, hlow, hval, hupp, mul_le_mul_iff_left₀ hk, mul_le_mul_iff_left₀ hk]
  · rw [Bool.and_eq_true, decide_eq_true_eq, decide_eq_true_eq, ← Rat.natCast_lt_natCast,
      ← Rat.natCast_lt_natCast, hlow, hval, hupp, mul_lt_mul_iff_left₀ hk, mul_lt_mul_iff_left₀ hk]

end AuditTrail.Binary64
