import AuditTrail.Proofs.Binary64.Rounding

/-!
# The shortest decimal rounds back

* `shortest_roundsTo`: the decimal of the fewest digits rounds to the number that it was found for.
  On the grid of seventeen digits one of the two neighbours of a magnitude always does.
* `parts_of_value_shortest_eq`: so the decimal determines the magnitude.
-/

namespace AuditTrail.Binary64

/-! ## The leading digit -/

theorem ten_pow_length_le {q : ℕ} (hq : q ≠ 0) : 10 ^ ((Nat.toDigits 10 q).length - 1) ≤ q := by
  by_cases hl : (Nat.toDigits 10 q).length - 1 = 0
  · rw [hl]
    omega
  · by_contra hlt
    have := (Nat.length_toDigits_le_iff (n := q) (b := 10) (by decide)
      (Nat.pos_of_ne_zero hl)).2 (by omega)
    omega

/-- The first digit of a quotient does not stand for more than the quotient. -/
theorem ten_zpow_leadingExponent_le {n d : ℕ} (hn : n ≠ 0) (hd : d ≠ 0) :
    (10 : ℚ) ^ leadingExponent n d ≤ n / d := by
  have hd' : (0 : ℚ) < d := by exact_mod_cast Nat.pos_of_ne_zero hd
  -- a whole part `q` of the quotient times `10 ^ zeros`
  have key : ∀ q zeros : ℕ, q ≠ 0 → q * d ≤ n * 10 ^ zeros →
      (10 : ℚ) ^ (((Nat.toDigits 10 q).length : ℤ) - 1 - zeros) ≤ n / d := by
    intro q zeros hq hle
    have hlen : 0 < (Nat.toDigits 10 q).length := Nat.length_toDigits_pos
    have hpow : ((10 : ℚ) ^ ((Nat.toDigits 10 q).length - 1)) ≤ q := by
      exact_mod_cast ten_pow_length_le hq
    have hle' : (q : ℚ) * d ≤ n * 10 ^ zeros := by exact_mod_cast hle
    rw [zpow_sub₀ (by norm_num), zpow_natCast, div_le_div_iff₀ (by positivity) hd',
      show ((Nat.toDigits 10 q).length : ℤ) - 1 = ((Nat.toDigits 10 q).length - 1 : ℕ) by omega,
      zpow_natCast]
    calc (10 : ℚ) ^ ((Nat.toDigits 10 q).length - 1) * d ≤ q * d :=
          mul_le_mul_of_nonneg_right hpow hd'.le
      _ ≤ n * 10 ^ zeros := hle'
  unfold leadingExponent
  split
  · next hle =>
    have := key (n / d) 0 (by have := Nat.div_pos hle (Nat.pos_of_ne_zero hd); omega)
      (by simpa using Nat.div_mul_le_self n d)
    simpa using this
  · next hlt =>
    have hdlt : d < 10 ^ ((Nat.toDigits 10 d).length + 1) := by
      have h := (Nat.length_toDigits_le_iff (n := d) (b := 10) (by decide)
        (k := (Nat.toDigits 10 d).length) Nat.length_toDigits_pos).1 le_rfl
      exact h.trans (Nat.pow_lt_pow_right (by decide) (by omega))
    have hle : d ≤ n * 10 ^ ((Nat.toDigits 10 d).length + 1) :=
      hdlt.le.trans (Nat.le_mul_of_pos_left _ (Nat.pos_of_ne_zero hn))
    have hpos := Nat.div_pos hle (Nat.pos_of_ne_zero hd)
    have := key _ ((Nat.toDigits 10 d).length + 1) (by omega) (Nat.div_mul_le_self _ d)
    simpa using this

/-! ## Neighbours on a grid -/

theorem holds_of_onGrid {i : Interval} {e : ℤ} {c : ℕ} (h : i.onGrid e = some c) :
    i.holds c e = true := by
  unfold Interval.onGrid at h
  simp only at h
  split at h
  · next hlow hhigh =>
    split at h <;> cases h
    · exact hlow
    · exact hhigh
  · next hlow _ => cases h; exact hlow
  · next _ hhigh => cases h; exact hhigh
  · cases h

/-- The number of whole steps of a grid below a magnitude. -/
def stepsBelow (x : Binary64) (e : ℤ) : ℕ :=
  x.interval.point * 10 ^ (-e).toNat / (10 ^ e.toNat * x.interval.unit)

theorem stepsBelow_bounds {x : Binary64} (hm : x.mantissa ≠ 0) (e : ℤ) :
    (x.stepsBelow e : ℚ) * 10 ^ e ≤ x.magnitude ∧
      x.magnitude < (x.stepsBelow e + 1) * 10 ^ e := by
  obtain ⟨k, hk, -, hpoint, -, hstep⟩ := interval_casts hm e
  have hpos : 0 < 10 ^ e.toNat * x.interval.unit := by simp only [interval]; positivity
  have hlow : x.stepsBelow e * (10 ^ e.toNat * x.interval.unit) ≤
      x.interval.point * 10 ^ (-e).toNat := Nat.div_mul_le_self _ _
  have hhigh : x.interval.point * 10 ^ (-e).toNat <
      (x.stepsBelow e + 1) * (10 ^ e.toNat * x.interval.unit) :=
    Nat.lt_mul_of_div_lt (Nat.lt_succ_self _) hpos
  rw [← Rat.natCast_le_natCast, Nat.cast_mul, hpoint, hstep, ← mul_assoc,
    mul_le_mul_iff_left₀ hk] at hlow
  rw [← Rat.natCast_lt_natCast, hpoint, Nat.cast_mul, hstep, ← mul_assoc,
    mul_lt_mul_iff_left₀ hk] at hhigh
  exact ⟨hlow, by exact_mod_cast hhigh⟩

/-- On a grid that is finer than the interval of `x` one of the two neighbours lies in it. -/
theorem onGrid_isSome {x : Binary64} (hm : x.mantissa ≠ 0) {e : ℤ}
    (hfine : (10 : ℚ) ^ e < 2 * x.gap * 2 ^ x.exponent) : (x.interval.onGrid e).isSome = true := by
  have hpow : (0 : ℚ) < 2 ^ x.exponent := by positivity
  have hgap := mul_le_mul_of_nonneg_right x.gap_le hpow.le
  have hgap0 := mul_pos x.gap_pos hpow
  obtain ⟨hlow, hhigh⟩ := stepsBelow_bounds hm e
  have hhit : x.interval.holds (x.stepsBelow e) e = true ∨
      x.interval.holds (x.stepsBelow e + 1) e = true := by
    rw [holds_interval_iff hm, holds_interval_iff hm]
    by_cases hnear : x.magnitude - x.stepsBelow e * 10 ^ e < x.gap * 2 ^ x.exponent
    · left
      apply roundsTo_of_strict <;> simp only [Decimal.value, magnitude] at * <;> linarith
    · right
      apply roundsTo_of_strict <;> simp only [Decimal.value, magnitude] at * <;> push_cast <;>
        linarith
  unfold Interval.onGrid
  simp only
  split
  · split <;> rfl
  · rfl
  · rfl
  · next hnone hnone' => exact hhit.elim (by simp [stepsBelow, hnone]) (by simp [stepsBelow, hnone'])

/-! ## The search -/

theorem value_strip (fuel : ℕ) (d : Decimal) : (Decimal.strip fuel d).value = d.value := by
  induction fuel generalizing d with
  | zero => rfl
  | succ fuel ih =>
    unfold Decimal.strip
    split
    · next h =>
      rw [ih]
      have hdiv : ((d.digits / 10 : ℕ) : ℚ) * 10 = d.digits := by
        exact_mod_cast Nat.div_mul_cancel (Nat.dvd_of_mod_eq_zero h.2)
      simp only [Decimal.value]
      rw [zpow_add_one₀ (by norm_num), ← hdiv]
      ring
    · rfl

/-- A search that hits some grid ends at a decimal of the interval. -/
theorem exists_search_eq {i : Interval} {leading : ℤ} {counts : List ℕ}
    (h : ∃ count ∈ counts, (i.onGrid (leading + 1 - count)).isSome = true) :
    ∃ c e, i.holds c e = true ∧ i.search leading counts = Decimal.strip 20 ⟨c, e⟩ := by
  induction counts with
  | nil => simp at h
  | cons count more ih =>
    rw [Interval.search]
    cases hg : i.onGrid (leading + 1 - count) with
    | some c => exact ⟨c, _, holds_of_onGrid hg, rfl⟩
    | none =>
      obtain ⟨k, hk, hs⟩ := h
      rcases List.mem_cons.1 hk with rfl | hk
      · simp [hg] at hs
      · exact ih ⟨k, hk, hs⟩

/-- Seventeen digits are finer than the interval of a number. -/
theorem seventeen_digits {x : Binary64} {leading : ℤ} (h : (10 : ℚ) ^ leading ≤ x.magnitude) :
    (10 : ℚ) ^ (leading + 1 - (17 : ℕ)) < 2 * x.gap * 2 ^ x.exponent := by
  have hpow : (0 : ℚ) < 2 ^ x.exponent := by positivity
  have hsplit : (10 : ℚ) ^ leading = 10 ^ (leading + 1 - (17 : ℕ)) * 10 ^ 16 := by
    rw [← zpow_natCast, ← zpow_add₀ (by norm_num)]
    congr 1
    push_cast
    ring
  rw [hsplit, magnitude] at h
  have hm : (x.mantissa : ℚ) < 2 ^ 53 := by exact_mod_cast x.mantissa_lt
  unfold gap
  split
  · next hmin =>
    rw [hmin.1] at h
    norm_num at h ⊢
    linarith
  · have := mul_lt_mul_of_pos_right hm hpow
    norm_num at h this ⊢
    linarith

/-- The decimal of the fewest digits rounds back. -/
theorem shortest_roundsTo {x : Binary64} (hm : x.mantissa ≠ 0) : RoundsTo x.shortest.value x := by
  have hunit : x.interval.unit ≠ 0 := by simp [interval]
  have hpoint : x.interval.point ≠ 0 := by simp [interval, hm]
  have hlead := ten_zpow_leadingExponent_le hpoint hunit
  have hmag : (x.interval.point : ℚ) / x.interval.unit = x.magnitude := by
    have hx := natCast_pow_toNat (show (2 : ℕ) ≠ 0 by norm_num) x.exponent
    rw [div_eq_iff (by exact_mod_cast hunit)]
    simp only [interval, magnitude]
    rw [Nat.cast_mul, hx]
    push_cast
    ring
  rw [hmag] at hlead
  have hhit : ∃ count ∈ (List.range 17).map (· + 1), (x.interval.onGrid
      (leadingExponent x.interval.point x.interval.unit + 1 - (count : ℕ))).isSome = true :=
    ⟨17, by decide, onGrid_isSome hm (seventeen_digits hlead)⟩
  obtain ⟨c, e, hc, hs⟩ := exists_search_eq hhit
  rw [shortest, if_neg hm, hs, value_strip]
  exact (holds_interval_iff hm c e).1 hc

theorem value_shortest_of_zero {x : Binary64} (hm : x.mantissa = 0) : x.shortest.value = 0 := by
  simp [shortest, hm, Decimal.value]

/-- The decimal of the fewest digits determines the magnitude. -/
theorem parts_of_value_shortest_eq {x y : Binary64} (h : x.shortest.value = y.shortest.value) :
    x.mantissa = y.mantissa ∧ x.exponent = y.exponent := by
  by_cases hx : x.mantissa = 0
  · by_cases hy : y.mantissa = 0
    · have hxe := x.normal.resolve_left (by omega)
      have hye := y.normal.resolve_left (by omega)
      exact ⟨by rw [hx, hy], by rw [hxe, hye]⟩
    · have hpos := pos_of_roundsTo (shortest_roundsTo hy) hy
      rw [← h, value_shortest_of_zero hx] at hpos
      exact absurd hpos (lt_irrefl 0)
  · by_cases hy : y.mantissa = 0
    · have hpos := pos_of_roundsTo (shortest_roundsTo hx) hx
      rw [h, value_shortest_of_zero hy] at hpos
      exact absurd hpos (lt_irrefl 0)
    · exact eq_of_roundsTo (shortest_roundsTo hx) (h ▸ shortest_roundsTo hy)

end AuditTrail.Binary64
