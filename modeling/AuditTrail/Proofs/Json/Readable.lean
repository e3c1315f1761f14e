import AuditTrail.Proofs.Binary64.Nearest
import AuditTrail.Proofs.Json.Depth

/-!
# What is written can be read

Not every binary number reads back, but every one can be read: the reader drops digits before it
multiplies, and the two roundings that follow never carry a number that was written beyond the
largest one.

* `NumberForm.toBinary?_isSome`: a spelling whose whole part fits in 64 bits is read if what is
  left of its digits can be scaled.
* `NumberForm.scale?_isSome`: scaling stays below the largest number if the exact product does so
  with room for two roundings.
* `NumberForm.toBinary?_ofBinary_isSome`: the spelling of a binary number is read.
* `Json.parse?_text_isSome_iff`: a text is read if and only if its value nests at most `maxDepth`
  deep.
-/

namespace AuditTrail

open Text

namespace NumberForm

/-! ## The digits that are kept -/

/-- The digits that are taken stand in front of those that are left. -/
theorem takeSignificant_spec (n : ℕ) (cs : List Char) :
    ∃ taken, cs = taken ++ (takeSignificant n cs).2 ∧
      (takeSignificant n cs).1 = n * 10 ^ taken.length + ofDigits taken ∧
      (n ≤ maxUnsigned → (takeSignificant n cs).1 ≤ maxUnsigned) := by
  induction cs generalizing n with
  | nil => exact ⟨[], rfl, by simp [takeSignificant, ofDigits], id⟩
  | cons c cs ih =>
    rw [takeSignificant]
    split
    · next hle =>
      obtain ⟨taken, hcs, hvalue, hbound⟩ := ih (10 * n + (c.toNat - '0'.toNat))
      refine ⟨c :: taken, by rw [List.cons_append, ← hcs], ?_, fun _ => hbound hle⟩
      rw [hvalue, ofDigits_cons, List.length_cons, pow_succ]
      ring
    · exact ⟨[], rfl, by simp [ofDigits], id⟩

/-- No digit is left if 64 bits hold the whole number. -/
theorem takeSignificant_of_le {n : ℕ} {cs : List Char}
    (h : n * 10 ^ cs.length + ofDigits cs ≤ maxUnsigned) :
    takeSignificant n cs = (n * 10 ^ cs.length + ofDigits cs, []) := by
  induction cs generalizing n with
  | nil => simp [takeSignificant, ofDigits]
  | cons c cs ih =>
    have hsum : n * 10 ^ (c :: cs).length + ofDigits (c :: cs) =
        (10 * n + (c.toNat - '0'.toNat)) * 10 ^ cs.length + ofDigits cs := by
      rw [ofDigits_cons, List.length_cons, pow_succ]
      ring
    rw [hsum] at h ⊢
    have hle : 10 * n + (c.toNat - '0'.toNat) ≤ maxUnsigned :=
      (Nat.le_mul_of_pos_right _ (by positivity)).trans ((Nat.le_add_right _ _).trans h)
    rw [takeSignificant, if_pos hle, ih h]

/-- The digits that are taken spell at most what all of them do. -/
theorem taken_le_magnitude {f : NumberForm} {taken left : List Char} {n : ℕ}
    (hfraction : f.fraction.getD [] = taken ++ left)
    (hn : n = ofDigits f.whole * 10 ^ taken.length + ofDigits taken) :
    (n : ℚ) * 10 ^ (f.power - taken.length) ≤ f.magnitude := by
  have hdigits : ofDigits (f.whole ++ f.fraction.getD []) =
      n * 10 ^ left.length + ofDigits left := by
    rw [hfraction, ← List.append_assoc, ofDigits_append, ofDigits_append, ← hn]
  have hlength : (f.fraction.getD []).length = taken.length + left.length := by
    rw [hfraction, List.length_append]
  rw [magnitude, hdigits, hlength]
  push_cast
  rw [← sub_sub, zpow_sub₀ (by norm_num) _ (left.length : ℤ), zpow_natCast, mul_div_assoc',
    le_div_iff₀ (by positivity)]
  calc (n : ℚ) * 10 ^ (f.power - taken.length) * 10 ^ left.length
      = (n * 10 ^ left.length) * 10 ^ (f.power - taken.length) := by ring
    _ ≤ (n * 10 ^ left.length + ofDigits left) * 10 ^ (f.power - taken.length) := by
        gcongr
        exact le_add_of_nonneg_right (Nat.cast_nonneg _)

/-- A spelling whose whole part fits in 64 bits is read if what is left of its digits can be
scaled. What is left is at most what is spelt. -/
theorem toBinary?_isSome {f : NumberForm} (hwhole : ofDigits f.whole ≤ maxUnsigned)
    (hpower : f.power ≤ maxExponent)
    (hscale : ∀ (n : ℕ) (e : ℤ), n ≤ maxUnsigned → (n : ℚ) * 10 ^ e ≤ f.magnitude → e ≤ f.power →
      ((Binary64.ofNat? n).bind (scale? · e)).isSome = true) :
    f.toBinary?.isSome = true := by
  obtain ⟨taken, hfraction, hn, hbound⟩ :=
    takeSignificant_spec (ofDigits f.whole) (f.fraction.getD [])
  obtain ⟨n, left, hleft⟩ : ∃ n left,
      takeSignificant (ofDigits f.whole) (f.fraction.getD []) = (n, left) := ⟨_, _, rfl⟩
  rw [hleft] at hfraction hn hbound
  simp only at hfraction hn hbound
  have hsome := hscale n (f.power - taken.length) (hbound hwhole)
    (taken_le_magnitude hfraction hn) (by omega)
  have hstart : ((([] : List Char).length : ℤ) -
      ((f.fraction.getD []).length - left.length : ℕ)) = -taken.length := by
    rw [hfraction, List.length_append]
    simp
  rw [toBinary?, takeSignificant_of_le (by simpa using hwhole)]
  simp only [Nat.zero_mul, Nat.zero_add, hleft, hstart]
  obtain ⟨y, hy⟩ := Option.isSome_iff_exists.1 hsome
  obtain ⟨x, hx, hy⟩ := Option.bind_eq_some_iff.1 hy
  rcases hexponent : f.exponent with - | ⟨negative, ds⟩
  · have hzero : f.power = 0 := by simp [power, hexponent]
    rw [hzero, zero_sub] at hy
    simp [hx, hy]
  · simp only [hx, Option.bind_eq_bind, Option.bind_some]
    cases negative with
    | true =>
      have hdown : f.power = -ofDigits ds := by simp [power, hexponent]
      rw [hdown, sub_eq_neg_add] at hy
      by_cases hbeyond : maxExponent < ofDigits ds
      · simp [hbeyond]
      · simp [hbeyond, hy]
    | false =>
      have hup : f.power = ofDigits ds := by simp [power, hexponent]
      rw [hup] at hpower
      rw [hup, sub_eq_neg_add] at hy
      have hwithin : ¬ maxExponent < ofDigits ds := by omega
      simp [hwithin, hy]

/-! ## The powers of ten -/

/-- The greatest power of ten is below the largest number. -/
theorem ten_pow_lt_overflow {k : ℕ} (hk : k ≤ maxPower) : (10 : ℚ) ^ k < Binary64.overflow := by
  have hwhole : 2 * 10 ^ maxPower + 2 ^ 971 < 2 ^ 54 * 2 ^ 971 := by decide +kernel
  have hcast : (2 : ℚ) * 10 ^ maxPower + 2 ^ 971 < 2 ^ 54 * 2 ^ 971 := by exact_mod_cast hwhole
  have hpow : (2 : ℚ) ^ (971 : ℤ) = 2 ^ 971 := zpow_natCast 2 971
  refine (pow_le_pow_right₀ (by norm_num) hk).trans_lt ?_
  rw [Binary64.overflow, hpow]
  generalize (2 : ℚ) ^ 971 = unit at hcast ⊢
  linarith

theorem overflow_lt_ten_pow : Binary64.overflow < 10 ^ 309 := by
  have hwhole : 2 ^ 53 * 2 ^ 971 < 10 ^ 309 := by decide +kernel
  have hcast : (2 : ℚ) ^ 53 * 2 ^ 971 < 10 ^ 309 := by exact_mod_cast hwhole
  refine lt_of_le_of_lt ?_ hcast
  exact mul_le_mul_of_nonneg_right (by norm_num) (by positivity)

theorem exists_powTen? {k : ℕ} (hk : k ≤ maxPower) :
    ∃ y, powTen? k = some y ∧ |y.magnitude - 10 ^ k| ≤ 10 ^ k / 2 ^ 53 := by
  have hsome : (powTen? k).isSome = true := by
    refine Binary64.ofRatio?_isSome _ one_ne_zero ?_
    push_cast
    rw [div_one]
    exact ten_pow_lt_overflow hk
  obtain ⟨y, hy⟩ := Option.isSome_iff_exists.1 hsome
  have herror := Binary64.magnitude_ofRatio? (by positivity) one_ne_zero
    (by push_cast; rw [div_one]; exact one_le_pow₀ (by norm_num)) hy
  push_cast at herror
  rw [div_one] at herror
  exact ⟨y, hy, herror⟩

/-- A power of ten from the first on is at least one after it was rounded. -/
theorem one_le_magnitude_powTen {k : ℕ} {y : Binary64} (hk : k ≠ 0)
    (herror : |y.magnitude - 10 ^ k| ≤ 10 ^ k / 2 ^ 53) : 1 ≤ y.magnitude := by
  have hten : (10 : ℚ) ≤ 10 ^ k := le_self_pow₀ (by norm_num) hk
  have hlow := (abs_le.1 herror).1
  norm_num at hlow
  linarith

theorem divideRepeatedly_isSome (steps : ℕ) (x : Binary64) :
    (divideRepeatedly steps x).isSome = true := by
  induction steps generalizing x with
  | zero => rfl
  | succ steps ih =>
    rw [divideRepeatedly]
    split
    · rfl
    · obtain ⟨y, hy, herror⟩ := exists_powTen? le_rfl
      obtain ⟨z, hz⟩ := Option.isSome_iff_exists.1
        (x.div?_isSome (one_le_magnitude_powTen (by decide) herror))
      simp [hy, hz, ih]

/-- What is divided never becomes too large. -/
theorem scaleDown_isSome (x : Binary64) {k : ℕ} (hk : k ≠ 0) : (scaleDown x k).isSome = true := by
  obtain ⟨y, hy⟩ := Option.isSome_iff_exists.1 (divideRepeatedly_isSome ((k - 1) / maxPower) x)
  have hdiv := Nat.div_add_mod (k - 1) maxPower
  have hmod : (k - 1) % maxPower < maxPower := Nat.mod_lt _ (by decide)
  have hrest : k - (k - 1) / maxPower * maxPower = (k - 1) % maxPower + 1 := by
    rw [Nat.mul_comm]
    omega
  obtain ⟨p, hp, herror⟩ := exists_powTen? (Nat.succ_le_of_lt hmod)
  have hsome := y.div?_isSome (one_le_magnitude_powTen (Nat.succ_ne_zero _) herror)
  simp only [scaleDown, hy, hrest, Option.bind_eq_bind, Option.bind_some]
  rw [hp]
  exact hsome

theorem ofNat?_isSome {n : ℕ} (hn : n ≤ maxUnsigned) : (Binary64.ofNat? n).isSome = true := by
  refine Binary64.ofRatio?_isSome _ one_ne_zero ?_
  have hcast : (n : ℚ) ≤ 10 ^ 20 := by
    have : n ≤ 10 ^ 20 := hn.trans (by decide)
    exact_mod_cast this
  rw [Nat.cast_one, div_one]
  exact hcast.trans_lt (ten_pow_lt_overflow (by decide))

theorem magnitude_ofNat?_le {n : ℕ} {x : Binary64} (h : Binary64.ofNat? n = some x) :
    x.magnitude ≤ n * (1 + 1 / 2 ^ 53) := by
  by_cases hzero : n = 0
  · subst hzero
    obtain rfl : Binary64.zero false = x := by
      simpa [Binary64.ofNat?, Binary64.ofRatio?] using h
    simp [Binary64.magnitude, Binary64.zero]
  · have herror := Binary64.magnitude_ofRatio? hzero one_ne_zero
      (by rw [Nat.cast_one, div_one]; exact_mod_cast Nat.pos_of_ne_zero hzero) h
    rw [Nat.cast_one, div_one] at herror
    linarith [(abs_le.1 herror).2]

/-- Two roundings of a product at hand enlarge it by at most two parts in `2 ^ 53`, twice. -/
theorem scale?_isSome {n : ℕ} {e : ℤ} (hn : n ≤ maxUnsigned) (he : e ≤ maxPower)
    (h : (n : ℚ) * 10 ^ e * (1 + 1 / 2 ^ 53) ^ 2 < Binary64.overflow) :
    ((Binary64.ofNat? n).bind (scale? · e)).isSome = true := by
  obtain ⟨x, hx⟩ := Option.isSome_iff_exists.1 (ofNat?_isSome hn)
  rw [hx, Option.bind_some, scale?]
  split
  · exact scaleDown_isSome x (by omega)
  · next hnonneg =>
    obtain ⟨k, rfl⟩ := Int.eq_ofNat_of_zero_le (not_lt.1 hnonneg)
    rw [if_pos (by omega)]
    obtain ⟨p, hp, herror⟩ := exists_powTen? (k := k) (by omega)
    have hupper := (abs_le.1 herror).2
    have hpow : p.magnitude ≤ 10 ^ k * (1 + 1 / 2 ^ 53) := by linarith
    simp only [Int.toNat_natCast, hp, Option.bind_eq_bind, Option.bind_some]
    refine Binary64.mul?_isSome (lt_of_le_of_lt ?_ h)
    rw [zpow_natCast]
    calc x.magnitude * p.magnitude
        ≤ n * (1 + 1 / 2 ^ 53) * (10 ^ k * (1 + 1 / 2 ^ 53)) :=
          mul_le_mul (magnitude_ofNat?_le hx) hpow p.magnitude_nonneg (by positivity)
      _ = n * 10 ^ k * (1 + 1 / 2 ^ 53) ^ 2 := by ring

/-! ## Decimals that are written -/

/-- Sixteen digits at most stand in front of the point. -/
theorem length_whole_ofDecimal (negative : Bool) (d : Binary64.Decimal) :
    (ofDecimal negative d).whole.length ≤ 16 := by
  have hpos := length_decimalChars_pos d.digits
  unfold ofDecimal
  simp only
  split
  · simp only [List.length_take]
    omega
  · split
    · simp only [List.length_append, List.length_replicate]
      omega
    · split
      · simp only [List.length_take]
        omega
      · simp

/-- An exponent is written for the first digit, so it is at most that of the greatest number. -/
theorem power_ofDecimal_le (negative : Bool) {d : Binary64.Decimal} (hd : d.digits ≠ 0)
    (h : d.value < 10 ^ 309) : (ofDecimal negative d).power ≤ maxPower := by
  have hpos := length_decimalChars_pos d.digits
  unfold ofDecimal
  simp only
  split
  · next hlead =>
    have hle : (10 : ℚ) ^ ((decimalChars d.digits).length + d.exponent - 1) ≤ d.value := by
      have hdigits : ((10 : ℚ) ^ ((decimalChars d.digits).length - 1)) ≤ d.digits := by
        exact_mod_cast Binary64.ten_pow_length_le hd
      rw [Binary64.Decimal.value, add_sub_right_comm, zpow_add₀ (by norm_num),
        show ((decimalChars d.digits).length : ℤ) - 1 = ((decimalChars d.digits).length - 1 : ℕ) by
          omega, zpow_natCast]
      exact mul_le_mul_of_nonneg_right hdigits (by positivity)
    have hlt := (zpow_lt_zpow_iff_right₀ (by norm_num)).1
      (hle.trans_lt (h.trans_eq (zpow_natCast 10 309).symm))
    simp only [power, maxPower, ofDigits_decimalChars, decide_eq_true_eq]
    split <;> omega
  · have hnone : maxPower = 308 := rfl
    split
    · simp [power, hnone]
    · split <;> simp [power, hnone]

/-! ## Binary numbers that are written -/

/-- The decimal of a number leaves room for two roundings, except for the three greatest. -/
theorem value_shortest_lt_overflow {x : Binary64} (hm : x.mantissa ≠ 0)
    (h : x.exponent = 971 → x.mantissa ≤ 2 ^ 53 - 4) :
    x.shortest.value * (1 + 1 / 2 ^ 53) ^ 2 < Binary64.overflow := by
  have hupper := (Binary64.shortest_roundsTo hm).bounds.2
  suffices hbound : (x.mantissa + 1 / 2 : ℚ) * 2 ^ x.exponent ≤
      (2 ^ 53 - 7 / 2) * 2 ^ (971 : ℤ) by
    calc x.shortest.value * (1 + 1 / 2 ^ 53) ^ 2
        ≤ (2 ^ 53 - 7 / 2) * 2 ^ (971 : ℤ) * (1 + 1 / 2 ^ 53) ^ 2 :=
          mul_le_mul_of_nonneg_right (hupper.trans hbound) (by positivity)
      _ = (2 ^ 53 - 7 / 2) * (1 + 1 / 2 ^ 53) ^ 2 * 2 ^ (971 : ℤ) := by ring
      _ < Binary64.overflow := mul_lt_mul_of_pos_right (by norm_num) (by positivity)
  by_cases htop : x.exponent = 971
  · have hle : x.mantissa + 4 ≤ 2 ^ 53 := by
      have := h htop
      omega
    have hcast : (x.mantissa : ℚ) + 4 ≤ 2 ^ 53 := by exact_mod_cast hle
    rw [htop]
    exact mul_le_mul_of_nonneg_right (by linarith) (by positivity)
  · have hlt : x.mantissa + 1 ≤ 2 ^ 53 := x.mantissa_lt
    have hcast : (x.mantissa : ℚ) + 1 ≤ 2 ^ 53 := by exact_mod_cast hlt
    have hpow : (2 : ℚ) ^ x.exponent ≤ 2 ^ (970 : ℤ) :=
      zpow_le_zpow_right₀ one_le_two (by have := x.exponent_le; omega)
    calc (x.mantissa + 1 / 2 : ℚ) * 2 ^ x.exponent ≤ 2 ^ 53 * 2 ^ (970 : ℤ) :=
          mul_le_mul (by linarith) hpow (by positivity) (by positivity)
      _ = 2 ^ 52 * 2 ^ (971 : ℤ) := by
          rw [show (971 : ℤ) = 970 + 1 by norm_num, zpow_add_one₀ two_ne_zero]
          ring
      _ ≤ (2 ^ 53 - 7 / 2) * 2 ^ (971 : ℤ) :=
          mul_le_mul_of_nonneg_right (by norm_num) (by positivity)

/-- The three greatest numbers are read as well. -/
theorem toBinary?_greatest : ∀ (negative : Bool) (k : Fin 3),
    (ofBinary ⟨negative, 2 ^ 53 - 3 + k, 971, by omega, by decide, by decide,
      by omega⟩).toBinary?.isSome = true := by
  decide +kernel

/-- The spelling of a binary number is read, though not always as the same number. -/
theorem toBinary?_ofBinary_isSome (x : Binary64) : (ofBinary x).toBinary?.isSome = true := by
  by_cases hm : x.mantissa = 0
  · have hback : x.ReadsBack := Binary64.readsBack_of_isZero (by simp [Binary64.isZero, hm])
    rw [hback]
    rfl
  by_cases htop : x.exponent = 971 ∧ 2 ^ 53 - 3 ≤ x.mantissa
  · obtain ⟨negative, mantissa, exponent, hlt, _, _, _⟩ := x
    obtain ⟨rfl, hge⟩ := htop
    obtain ⟨k, rfl⟩ := Nat.exists_eq_add_of_le hge
    exact toBinary?_greatest negative ⟨k, by omega⟩
  have hroom := value_shortest_lt_overflow hm fun htop' => by omega
  have hpower : (ofBinary x).power ≤ maxPower := by
    refine power_ofDecimal_le _ (digits_shortest_ne_zero hm) ?_
    have hnonneg : 0 ≤ x.shortest.value := by
      unfold Binary64.Decimal.value
      positivity
    calc x.shortest.value ≤ x.shortest.value * (1 + 1 / 2 ^ 53) ^ 2 :=
          le_mul_of_one_le_right hnonneg (by norm_num)
      _ < Binary64.overflow := hroom
      _ < 10 ^ 309 := overflow_lt_ten_pow
  refine toBinary?_isSome ?_ (hpower.trans (by decide)) fun n e hn hvalue he =>
    scale?_isSome hn (he.trans hpower) (lt_of_le_of_lt ?_ hroom)
  · have hlt := ofDigits_lt (wellSpelt_ofBinary x).whole.2
    have hlength := length_whole_ofDecimal x.negative x.shortest
    have := Nat.pow_le_pow_right (show 0 < 10 by decide) hlength
    exact (hlt.trans_le this).le.trans (by decide)
  · rw [ofBinary, magnitude_ofDecimal] at hvalue
    exact mul_le_mul_of_nonneg_right hvalue (by positivity)

end NumberForm

theorem Number.value?_form_isSome (n : Number) (hrange : n.InRange) :
    ∃ m, n.form.value? = some m ∧ m.InRange := by
  cases n with
  | int n => exact ⟨.int n, NumberForm.value?_ofInt hrange, hrange⟩
  | float x =>
    obtain ⟨y, hy⟩ := Option.isSome_iff_exists.1 (NumberForm.toBinary?_ofBinary_isSome x)
    exact ⟨.float y, by rw [form, NumberForm.value?_ofBinary, hy]; rfl, trivial⟩

namespace Json

namespace Raw

mutual

/-- A value that has room is read from its spelling. -/
theorem value?_form_isSome : ∀ {r : Raw}, r.Canonical → ∀ {room : Nat}, r.depth ≤ room →
    (r.form.value? room).isSome = true
  | .null, _, _, _ => by rw [form, Form.value?]; rfl
  | .bool _, _, _, _ => by rw [form, Form.value?]; rfl
  | .number n, hc, _, _ => by
    obtain ⟨m, hm, hrange⟩ := n.value?_form_isSome hc
    rw [form, Form.value?, hm]
    cases m with
    | int i => exact congrArg Option.isSome (dif_pos hrange)
    | float x => rfl
  | .string s, _, _, _ => by rw [form, Form.value?, decodeString_piecesOf]; rfl
  | .array items, hc, room + 1, hd => by
    obtain ⟨vs, hvs⟩ := Option.isSome_iff_exists.1
      (items?_form_isSome (show CanonicalItems items by simpa [Canonical] using hc)
        (show depthItems items ≤ room by simpa [depth] using hd))
    simp [form, Form.value?, hvs]
  | .object members, hc, room + 1, hd => by
    rw [Canonical] at hc
    obtain ⟨ms, hms⟩ := Option.isSome_iff_exists.1
      (members?_form_isSome hc.2 (show depthMembers members ≤ room by simpa [depth] using hd))
    simp [form, Form.value?, hms]
  | .array _, _, 0, hd => absurd hd (by simp [depth])
  | .object _, _, 0, hd => absurd hd (by simp [depth])

theorem items?_form_isSome : ∀ {items : List Raw}, CanonicalItems items → ∀ {room : Nat},
    depthItems items ≤ room → (Form.items? room (formItems items)).isSome = true
  | [], _, _, _ => by simp [formItems, Form.items?]
  | item :: items, hc, room, hd => by
    rw [depthItems, Nat.max_le] at hd
    obtain ⟨v, hv⟩ := Option.isSome_iff_exists.1 (value?_form_isSome hc.1 hd.1)
    obtain ⟨vs, hvs⟩ := Option.isSome_iff_exists.1 (items?_form_isSome hc.2 hd.2)
    simp [formItems, Form.items?, hv, hvs]

theorem members?_form_isSome : ∀ {members : List (String × Raw)}, CanonicalMembers members →
    ∀ {room : Nat}, depthMembers members ≤ room →
      (Form.members? room (formMembers members)).isSome = true
  | [], _, _, _ => by simp [formMembers, Form.members?]
  | (key, value) :: members, hc, room, hd => by
    rw [depthMembers, Nat.max_le] at hd
    obtain ⟨v, hv⟩ := Option.isSome_iff_exists.1 (value?_form_isSome hc.1 hd.1)
    obtain ⟨ms, hms⟩ := Option.isSome_iff_exists.1 (members?_form_isSome hc.2 hd.2)
    simp [formMembers, Form.members?, decodeString_piecesOf, hv, hms]

end

end Raw

/-- A text is read if and only if its value nests at most `maxDepth` deep. -/
theorem parse?_text_isSome_iff {v : Json} : (parse? v.text).isSome = true ↔ v.depth ≤ maxDepth := by
  constructor
  · intro h
    obtain ⟨w, hw⟩ := Option.isSome_iff_exists.1 h
    exact depth_of_parse?_text hw
  · intro h
    rw [parse?_of_text]
    exact Raw.value?_form_isSome v.canonical h

end Json

end AuditTrail
