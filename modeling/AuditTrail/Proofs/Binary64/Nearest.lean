import AuditTrail.Proofs.Binary64.Rounding

/-!
# What a quotient is rounded to

* `RoundedAs`: a mantissa and an exponent that are nearest to a rational, with the least exponent
  that leaves the mantissa at most `2 ^ 53`; `exists_roundedAs`: these are the parts of
  `Binary64.ofRatio?`.
* `ofRatio?_isSome`: a quotient below `overflow` is rounded to a number.
* `magnitude_ofRatio?`: where 52 bits are at hand, the error is at most the quotient by `2 ^ 53`.
-/

namespace AuditTrail.Binary64

/-! ## Rounding to a whole number -/

/-- The nearest natural number is at most a half away. -/
theorem abs_roundDiv_sub_le {n d : ℕ} (hd : d ≠ 0) : |(roundDiv n d : ℚ) - n / d| ≤ 1 / 2 := by
  have hpos : (0 : ℚ) < d := by exact_mod_cast Nat.pos_of_ne_zero hd
  have hdiv : d * (n / d) + n % d = n := Nat.div_add_mod n d
  have hmod : n % d < d := Nat.mod_lt n (Nat.pos_of_ne_zero hd)
  have hbounds : 2 * (roundDiv n d * d) ≤ 2 * n + d ∧ 2 * n ≤ 2 * (roundDiv n d * d) + d := by
    unfold roundDiv
    simp only
    split
    · next h =>
      rw [Nat.mul_comm (n / d) d]
      omega
    · next h =>
      rw [Nat.add_mul, Nat.one_mul, Nat.mul_comm (n / d) d]
      omega
  have hlow : 2 * ((roundDiv n d : ℚ) * d) ≤ 2 * n + d := by exact_mod_cast hbounds.1
  have hhigh : 2 * (n : ℚ) ≤ 2 * ((roundDiv n d : ℚ) * d) + d := by exact_mod_cast hbounds.2
  rw [abs_le, neg_le_sub_iff_le_add, sub_le_iff_le_add, div_le_iff₀ hpos, ← sub_le_iff_le_add',
    le_div_iff₀ hpos]
  constructor <;> linarith

/-- The quotient in units of a power of two. -/
theorem inUnits_eq {n d : ℕ} (hd : d ≠ 0) (e : ℤ) :
    (inUnits n d e).2 ≠ 0 ∧
      ((inUnits n d e).1 : ℚ) / (inUnits n d e).2 = n / d / 2 ^ e := by
  have hpow := natCast_pow_toNat (show (2 : ℕ) ≠ 0 by norm_num) e
  have hd' : (d : ℚ) ≠ 0 := by exact_mod_cast hd
  refine ⟨by simp [inUnits, hd], ?_⟩
  simp only [inUnits]
  rw [Nat.cast_mul, Nat.cast_mul, hpow]
  push_cast
  field_simp

theorem div_lt_iff {n d m : ℕ} (hd : d ≠ 0) : n / d < m ↔ (n : ℚ) / d < m := by
  have hpos : (0 : ℚ) < d := by exact_mod_cast Nat.pos_of_ne_zero hd
  rw [Nat.div_lt_iff_lt_mul (Nat.pos_of_ne_zero hd), div_lt_iff₀ hpos]
  exact_mod_cast Iff.rfl

/-- A quotient lies within a factor of two around the quotient of the leading bits. -/
theorem log2_bounds {n d : ℕ} (hn : n ≠ 0) (hd : d ≠ 0) :
    (2 : ℚ) ^ ((n.log2 : ℤ) - d.log2 - 1) < n / d ∧
      (n : ℚ) / d < 2 ^ ((n.log2 : ℤ) - d.log2 + 1) := by
  have hpos : (0 : ℚ) < d := by exact_mod_cast Nat.pos_of_ne_zero hd
  have hn₁ : ((2 : ℚ) ^ n.log2) ≤ n := by exact_mod_cast Nat.log2_self_le hn
  have hn₂ : (n : ℚ) < 2 ^ (n.log2 + 1) := by exact_mod_cast Nat.lt_log2_self
  have hd₁ : ((2 : ℚ) ^ d.log2) ≤ d := by exact_mod_cast Nat.log2_self_le hd
  have hd₂ : (d : ℚ) < 2 ^ (d.log2 + 1) := by exact_mod_cast Nat.lt_log2_self
  have htwo : (2 : ℚ) ≠ 0 := two_ne_zero
  constructor
  · rw [lt_div_iff₀ hpos, zpow_sub₀ htwo, zpow_sub₀ htwo, zpow_natCast, zpow_natCast, zpow_one]
    calc (2 : ℚ) ^ n.log2 / 2 ^ d.log2 / 2 * d
        < 2 ^ n.log2 / 2 ^ d.log2 / 2 * 2 ^ (d.log2 + 1) :=
          mul_lt_mul_of_pos_left hd₂ (by positivity)
      _ = 2 ^ n.log2 := by
          rw [pow_succ]
          field_simp
      _ ≤ n := hn₁
  · rw [div_lt_iff₀ hpos, zpow_add₀ htwo, zpow_sub₀ htwo, zpow_natCast, zpow_natCast, zpow_one]
    calc (n : ℚ) < 2 ^ (n.log2 + 1) := hn₂
      _ = 2 ^ n.log2 / 2 ^ d.log2 * 2 * 2 ^ d.log2 := by
          rw [pow_succ]
          field_simp
      _ ≤ 2 ^ n.log2 / 2 ^ d.log2 * 2 * d := mul_le_mul_of_nonneg_left hd₁ (by positivity)

/-! ## Rounding to a number -/

/-- The rational is nearest to this mantissa at this exponent, which is the least that leaves the
mantissa at most `2 ^ 53`. -/
structure RoundedAs (q : ℚ) (mantissa : ℕ) (exponent : ℤ) : Prop where
  le_exponent : -1074 ≤ exponent
  near : |(mantissa : ℚ) - q / 2 ^ exponent| ≤ 1 / 2
  lt : q / 2 ^ exponent < 2 ^ 53
  normal : 2 ^ 52 ≤ q / 2 ^ exponent ∨ exponent = -1074

namespace RoundedAs

variable {q : ℚ} {m : ℕ} {e : ℤ}

theorem mantissa_le (h : RoundedAs q m e) : m ≤ 2 ^ 53 := by
  have hnear := (abs_le.1 h.near).2
  have hlt := h.lt
  have hm : (m : ℚ) < 2 ^ 53 + 1 := by linarith
  have : m < 2 ^ 53 + 1 := by exact_mod_cast hm
  omega

theorem le_mantissa (h : RoundedAs q m e) : 2 ^ 52 ≤ m ∨ e = -1074 := by
  refine h.normal.imp_left fun hnormal => ?_
  have hnear := (abs_le.1 h.near).1
  have hm : (2 : ℚ) ^ 52 - 1 < m := by linarith
  have : 2 ^ 52 < m + 1 := by
    have hm' : (2 : ℚ) ^ 52 < m + 1 := by linarith
    exact_mod_cast hm'
  omega

end RoundedAs

/-- The exponent that `ofRatio?` tries first is the right one, or one below it. -/
theorem guess_bounds {n d : ℕ} (hn : n ≠ 0) (hd : d ≠ 0) {guess : ℤ}
    (hguess : guess = max (-1074) ((n.log2 : ℤ) - d.log2 - 53)) :
    (n : ℚ) / d / 2 ^ guess < 2 ^ 54 ∧
      (2 ^ 52 < (n : ℚ) / d / 2 ^ guess ∨ guess = -1074) := by
  obtain ⟨hlow, hhigh⟩ := log2_bounds hn hd
  have hpow : (0 : ℚ) < 2 ^ guess := by positivity
  constructor
  · rw [div_lt_iff₀ hpow, ← zpow_natCast, ← zpow_add₀ two_ne_zero]
    exact hhigh.trans_le (zpow_le_zpow_right₀ one_le_two (by push_cast; omega))
  · by_cases hmin : guess = -1074
    · exact .inr hmin
    · refine .inl ?_
      rw [lt_div_iff₀ hpow, ← zpow_natCast, ← zpow_add₀ two_ne_zero]
      refine lt_of_eq_of_lt ?_ hlow
      congr 1
      push_cast
      omega

/-- The exponent that `ofRatio?` takes, and the mantissa that goes with it. -/
theorem exists_roundedAs (negative : Bool) {n d : ℕ} (hn : n ≠ 0) (hd : d ≠ 0) :
    ∃ m e, RoundedAs (n / d) m e ∧
      ofRatio? negative n d =
        if m = 2 ^ 53 then ofParts? negative (2 ^ 52) (e + 1) else ofParts? negative m e := by
  obtain ⟨guess, hguess⟩ : ∃ g : ℤ, g = max (-1074) ((n.log2 : ℤ) - d.log2 - 53) := ⟨_, rfl⟩
  obtain ⟨hupper, hlower⟩ := guess_bounds hn hd hguess
  obtain ⟨e, he⟩ : ∃ e, e = if (inUnits n d guess).1 / (inUnits n d guess).2 < 2 ^ 53 then guess
      else guess + 1 := ⟨_, rfl⟩
  obtain ⟨hd₀, hunits₀⟩ := inUnits_eq (n := n) hd guess
  obtain ⟨hd₁, hunits₁⟩ := inUnits_eq (n := n) hd e
  refine ⟨roundDiv (inUnits n d e).1 (inUnits n d e).2, e, ⟨?_, ?_, ?_, ?_⟩, ?_⟩
  · rw [he]
    split <;> omega
  · rw [← hunits₁]
    exact abs_roundDiv_sub_le hd₁
  · rw [he]
    split
    · next hlt =>
      rw [div_lt_iff hd₀, hunits₀] at hlt
      exact_mod_cast hlt
    · rw [zpow_add_one₀ two_ne_zero, ← div_div, div_lt_iff₀ two_pos]
      norm_num at hupper ⊢
      exact hupper
  · rw [he]
    split
    · exact hlower.imp_left le_of_lt
    · next hge =>
      rw [div_lt_iff hd₀, hunits₀, not_lt] at hge
      refine .inl ?_
      rw [zpow_add_one₀ two_ne_zero, ← div_div, le_div_iff₀ two_pos]
      norm_num at hge ⊢
      exact hge
  · rw [ofRatio?, if_neg hn]
    simp only
    rw [← hguess, ← he]

/-- From here on a rational is rounded to no number. -/
def overflow : ℚ := (2 ^ 53 - 1 / 2) * 2 ^ (971 : ℤ)

theorem ofParts?_isSome {negative : Bool} {m : ℕ} {e : ℤ} (hm : m < 2 ^ 53) (hlow : -1074 ≤ e)
    (hhigh : e ≤ 971) (hnormal : 2 ^ 52 ≤ m ∨ e = -1074) :
    (ofParts? negative m e).isSome = true := by
  rw [ofParts?, dif_pos ⟨hm, hlow, hhigh, hnormal⟩]
  rfl

/-- A quotient that does not overflow is rounded to a number. -/
theorem ofRatio?_isSome (negative : Bool) {n d : ℕ} (hd : d ≠ 0) (h : (n : ℚ) / d < overflow) :
    (ofRatio? negative n d).isSome = true := by
  by_cases hn : n = 0
  · simp [ofRatio?, hn]
  obtain ⟨m, e, hround, heq⟩ := exists_roundedAs negative hn hd
  have hle := hround.mantissa_le
  have hlow := hround.le_exponent
  have htwo : (1 : ℚ) ≤ 2 := one_le_two
  have hhigh : e ≤ 971 := by
    by_contra hbig
    have hnormal := hround.normal.resolve_right (by omega)
    rw [le_div_iff₀ (by positivity)] at hnormal
    have hpow : (2 : ℚ) ^ (972 : ℤ) ≤ 2 ^ e := zpow_le_zpow_right₀ htwo (by omega)
    have : overflow ≤ 2 ^ 52 * 2 ^ e := by
      refine le_trans ?_ (mul_le_mul_of_nonneg_left hpow (by positivity))
      rw [overflow, show (972 : ℤ) = 971 + 1 by norm_num, zpow_add_one₀ two_ne_zero,
        mul_comm ((2 : ℚ) ^ (971 : ℤ)), ← mul_assoc]
      exact mul_le_mul_of_nonneg_right (by norm_num) (by positivity)
    linarith
  rw [heq]
  split
  · next hm =>
    refine ofParts?_isSome (by norm_num) (by omega) ?_ (.inl le_rfl)
    by_contra hbig
    obtain rfl : e = 971 := by omega
    have hnear := (abs_le.1 hround.near).2
    rw [hm, sub_le_comm, le_div_iff₀ (by positivity)] at hnear
    have : overflow ≤ n / d := by
      refine le_trans (le_of_eq ?_) hnear
      norm_num [overflow]
    linarith
  · next hm => exact ofParts?_isSome (by omega) hlow hhigh hround.le_mantissa

theorem magnitude_of_ofParts? {negative : Bool} {m : ℕ} {e : ℤ} {y : Binary64}
    (h : ofParts? negative m e = some y) : y.magnitude = m * 2 ^ e := by
  unfold ofParts? at h
  split at h
  · obtain rfl := Option.some.inj h
    rfl
  · cases h

/-- Where 52 bits are at hand, the error is at most the quotient by `2 ^ 53`. -/
theorem magnitude_ofRatio? {negative : Bool} {n d : ℕ} {y : Binary64} (hn : n ≠ 0) (hd : d ≠ 0)
    (hbig : (1 : ℚ) ≤ n / d) (h : ofRatio? negative n d = some y) :
    |y.magnitude - n / d| ≤ n / d / 2 ^ 53 := by
  obtain ⟨m, e, hround, heq⟩ := exists_roundedAs negative hn hd
  have hpos : (0 : ℚ) < 2 ^ e := by positivity
  have hmagnitude : y.magnitude = m * 2 ^ e := by
    rw [heq] at h
    split at h
    · next hm =>
      rw [magnitude_of_ofParts? h, hm, zpow_add_one₀ two_ne_zero]
      push_cast
      ring
    · exact magnitude_of_ofParts? h
  have hunit : (2 : ℚ) ^ e ≤ n / d / 2 ^ 52 := by
    rcases hround.normal with hnormal | hmin
    · rwa [le_div_iff₀ hpos, mul_comm, ← le_div_iff₀ (by positivity)] at hnormal
    · rw [hmin]
      refine le_trans ?_ (div_le_div_of_nonneg_right hbig (by positivity))
      rw [one_div, ← zpow_natCast, ← zpow_neg]
      exact zpow_le_zpow_right₀ one_le_two (by norm_num)
  have hscale : y.magnitude - n / d = (m - n / d / 2 ^ e) * 2 ^ e := by
    rw [hmagnitude, sub_mul, div_mul_cancel₀ _ hpos.ne']
  rw [hscale, abs_mul, abs_of_pos hpos]
  calc |(m : ℚ) - n / d / 2 ^ e| * 2 ^ e ≤ 1 / 2 * 2 ^ e :=
        mul_le_mul_of_nonneg_right hround.near hpos.le
    _ ≤ 1 / 2 * (n / d / 2 ^ 52) := mul_le_mul_of_nonneg_left hunit (by norm_num)
    _ = n / d / 2 ^ 53 := by ring

/-! ## Products and quotients -/

theorem ratio_eq (x : Binary64) :
    x.ratio.2 ≠ 0 ∧ (x.ratio.1 : ℚ) / x.ratio.2 = x.magnitude := by
  have hx := natCast_pow_toNat (show (2 : ℕ) ≠ 0 by norm_num) x.exponent
  refine ⟨by simp [ratio], ?_⟩
  simp only [ratio, magnitude]
  rw [Nat.cast_mul, hx]
  push_cast
  field_simp

theorem magnitude_nonneg (x : Binary64) : 0 ≤ x.magnitude := by
  unfold magnitude
  positivity

/-- No number is as great as what overflows. -/
theorem magnitude_lt_overflow (x : Binary64) : x.magnitude < overflow := by
  have hm : (x.mantissa : ℚ) ≤ 2 ^ 53 - 1 := by
    have : x.mantissa + 1 ≤ 2 ^ 53 := x.mantissa_lt
    have hm' : (x.mantissa : ℚ) + 1 ≤ 2 ^ 53 := by exact_mod_cast this
    linarith
  have hpow : (2 : ℚ) ^ x.exponent ≤ 2 ^ (971 : ℤ) := zpow_le_zpow_right₀ one_le_two x.exponent_le
  calc x.magnitude ≤ (2 ^ 53 - 1) * 2 ^ (971 : ℤ) :=
        mul_le_mul hm hpow (by positivity) (by norm_num)
    _ < overflow := by norm_num [overflow]

theorem mul?_isSome {x y : Binary64} (h : x.magnitude * y.magnitude < overflow) :
    (x.mul? y).isSome = true := by
  obtain ⟨hx, hxm⟩ := x.ratio_eq
  obtain ⟨hy, hym⟩ := y.ratio_eq
  refine ofRatio?_isSome _ (Nat.mul_ne_zero hx hy) ?_
  push_cast
  rwa [mul_div_mul_comm, hxm, hym]

/-- A quotient by a number that is at least one does not overflow. -/
theorem div?_isSome (x : Binary64) {y : Binary64} (h : 1 ≤ y.magnitude) :
    (x.div? y).isSome = true := by
  obtain ⟨hx, hxm⟩ := x.ratio_eq
  obtain ⟨hy, hym⟩ := y.ratio_eq
  have hy₁ : y.ratio.1 ≠ 0 := by
    intro hzero
    rw [← hym, hzero, Nat.cast_zero, zero_div] at h
    linarith
  refine ofRatio?_isSome _ (Nat.mul_ne_zero hx hy₁) ?_
  push_cast
  rw [mul_div_mul_comm, hxm, ← inv_div, hym, ← div_eq_mul_inv]
  exact (div_le_self x.magnitude_nonneg h).trans_lt x.magnitude_lt_overflow

end AuditTrail.Binary64
