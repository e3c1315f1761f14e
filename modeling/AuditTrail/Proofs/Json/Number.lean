import AuditTrail.Json.Basic
import AuditTrail.Json.Form
import AuditTrail.Proofs.Binary64.Shortest
import AuditTrail.Proofs.Text.Numeral

/-!
# Spellings of numbers

* `NumberForm.WellSpelt`: digits where digits have to be, and no needless zero in front. Every
  spelling that is written is of this kind.
* `NumberForm.magnitude`: the number that a spelling stands for, exactly.
* `Number.form_injective`: two numbers with one spelling are the same.
* `Binary64.ReadsBack`: the spelling of the number means the number. Not every binary number reads
  back, since the reader rounds twice. `Number.value?_form` needs it of binary numbers only.
* `Number.same_iff`: equality of numbers, with one zero for both.
-/

namespace AuditTrail

open Text

namespace NumberForm

/-! ## Characters -/

/-- Digits, at least one. -/
def AreDigits (ds : List Char) : Prop := ds ≠ [] ∧ ∀ c ∈ ds, c.isDigit = true

theorem areDigits_decimalChars (n : Nat) : AreDigits (decimalChars n) :=
  ⟨decimalChars_ne_nil n, fun _ => isDigit_of_mem_decimalChars⟩

/-- Digits where digits have to be, and no needless zero in front. -/
structure WellSpelt (f : NumberForm) : Prop where
  whole : AreDigits f.whole
  no_zero : f.whole.head? = some '0' → f.whole.length = 1
  fraction : ∀ ds, f.fraction = some ds → AreDigits ds
  exponent : ∀ negative ds, f.exponent = some (negative, ds) → AreDigits ds

/-- May the character continue a number? -/
def continues (c : Char) : Bool := c.isDigit || c = '.' || c = 'e' || c = 'E'

theorem stopsAt_isDigit {rest : List Char} (h : StopsAt continues rest) :
    StopsAt Char.isDigit rest := fun c hc => by
  have := h c hc
  simp_all [continues]

/-- The characters of the exponent. -/
def exponentChars (f : NumberForm) : List Char :=
  match f.exponent with
  | some (negative, ds) => 'e' :: (if negative then '-' else '+') :: ds
  | none => []

/-- The characters of the fraction. -/
def fractionChars (f : NumberForm) : List Char :=
  match f.fraction with
  | some ds => '.' :: ds
  | none => []

theorem chars_eq (f : NumberForm) :
    f.chars = (if f.negative then ['-'] else []) ++ (f.whole ++ (f.fractionChars ++
      f.exponentChars)) := by
  simp only [chars, List.append_assoc]
  rfl

/-- A digit is no other mark. -/
theorem ne_of_isDigit {c d : Char} (hc : c.isDigit = true) (hd : d.isDigit = false) : c ≠ d := by
  rintro rfl
  rw [hc] at hd
  contradiction

/-! ## What a spelling stands for -/

/-- The power of ten that the exponent spells. -/
def power (f : NumberForm) : ℤ :=
  match f.exponent with
  | some (negative, ds) => if negative then -(ofDigits ds : ℤ) else ofDigits ds
  | none => 0

/-- The number that a spelling stands for, without its sign. -/
def magnitude (f : NumberForm) : ℚ :=
  ofDigits (f.whole ++ f.fraction.getD []) * 10 ^ (f.power - (f.fraction.getD []).length)

theorem length_decimalChars_pos (n : Nat) : 0 < (decimalChars n).length :=
  List.length_pos_of_ne_nil (decimalChars_ne_nil n)

theorem magnitude_ofDecimal (negative : Bool) (d : Binary64.Decimal) :
    (ofDecimal negative d).magnitude = d.value := by
  have hpos := length_decimalChars_pos d.digits
  unfold ofDecimal
  simp only
  split
  · -- one digit, and the others behind the point
    have hpower : ∀ lead : ℤ, (if decide (lead < 0) = true then -(lead.natAbs : ℤ)
        else (lead.natAbs : ℤ)) = lead := fun lead => by
      split
      · next h => have := of_decide_eq_true h; omega
      · next h => have := mt decide_eq_true h; omega
    by_cases hone : (decimalChars d.digits).length = 1
    · simp only [magnitude, power, hone, if_pos, Option.getD_none, List.append_nil,
        ofDigits_decimalChars, hpower, Binary64.Decimal.value, List.length_nil]
      rw [List.take_of_length_le (by omega), ofDigits_decimalChars]
      congr 2
      omega
    · simp only [magnitude, power, if_neg hone, Option.getD_some, List.take_append_drop,
        ofDigits_decimalChars, hpower, Binary64.Decimal.value, List.length_drop]
      congr 2
      omega
  · split
    · next h =>
      simp only [magnitude, power, Option.getD_some, ofDigits_append, ofDigits_decimalChars,
        ofDigits_replicate_zero, List.length_replicate, Binary64.Decimal.value, List.length_singleton]
      obtain ⟨k, hk⟩ := Int.eq_ofNat_of_zero_le h
      have hzero : ofDigits ['0'] = 0 := by decide
      rw [hk, hzero]
      push_cast
      rw [zpow_neg_one, zpow_natCast, Int.toNat_natCast]
      ring
    · split
      · next h =>
        simp only [magnitude, power, Option.getD_some, List.take_append_drop,
          ofDigits_decimalChars, Binary64.Decimal.value, List.length_drop]
        congr 2
        omega
      · next h =>
        have hzero : ofDigits ['0'] = 0 := by decide
        simp only [magnitude, power, Option.getD_some, ofDigits_append, ofDigits_decimalChars,
          ofDigits_replicate_zero, hzero, Binary64.Decimal.value, List.length_append,
          List.length_replicate, Nat.zero_mul, Nat.zero_add]
        congr 2
        omega

theorem negative_ofDecimal (negative : Bool) (d : Binary64.Decimal) :
    (ofDecimal negative d).negative = negative := by
  unfold ofDecimal
  simp only
  split
  · rfl
  · split
    · rfl
    · split <;> rfl

/-- The spelling of a decimal never looks like that of an integer. -/
theorem fraction_or_exponent_ofDecimal (negative : Bool) (d : Binary64.Decimal) :
    (ofDecimal negative d).fraction ≠ none ∨ (ofDecimal negative d).exponent ≠ none := by
  unfold ofDecimal
  simp only
  split
  · exact .inr (by simp)
  · split
    · exact .inl (by simp)
    · split <;> exact .inl (by simp)

theorem wellSpelt_ofInt (n : Int) : (ofInt n).WellSpelt where
  whole := areDigits_decimalChars _
  no_zero h := by
    by_cases hn : n.natAbs = 0
    · simp only [ofInt, hn]; rfl
    · exact absurd h (head?_decimalChars hn)
  fraction _ h := nomatch h
  exponent _ _ h := nomatch h

/-- The digits of a decimal in some layout have no needless zero in front. -/
theorem wellSpelt_ofDecimal (negative : Bool) {d : Binary64.Decimal}
    (h : d.digits = 0 → d.exponent = 0) : (ofDecimal negative d).WellSpelt := by
  have hpos := length_decimalChars_pos d.digits
  have hdigit : ∀ c ∈ decimalChars d.digits, c.isDigit = true :=
    fun _ => isDigit_of_mem_decimalChars
  have hhead : (decimalChars d.digits).head? = some '0' → d.exponent = 0 := fun hz => by
    by_contra hne
    exact head?_decimalChars (fun h0 => hne (h h0)) hz
  unfold ofDecimal
  simp only
  split
  · refine ⟨⟨?_, fun c hc => hdigit c (List.mem_of_mem_take hc)⟩, fun _ => ?_, ?_, ?_⟩
    · simp [decimalChars_ne_nil]
    · simp only [List.length_take]; omega
    · intro ds hds
      split at hds
      · cases hds
      · cases hds
        refine ⟨fun hnil => ?_, fun c hc => hdigit c (List.mem_of_mem_drop hc)⟩
        have := List.drop_eq_nil_iff.1 hnil
        omega
    · rintro _ _ hds
      cases hds
      exact areDigits_decimalChars _
  · split
    · refine ⟨⟨by simp [decimalChars_ne_nil], ?_⟩, ?_, ?_, fun _ _ h => nomatch h⟩
      · intro c hc
        rcases List.mem_append.1 hc with hc | hc
        · exact hdigit c hc
        · rw [List.eq_of_mem_replicate hc]; decide
      · intro hz
        rw [List.head?_append_of_ne_nil _ (decimalChars_ne_nil _)] at hz
        have hzero : d.digits = 0 := by
          by_contra hne
          exact head?_decimalChars hne hz
        rw [hhead hz, hzero]
        rfl
      · rintro _ ⟨⟩
        exact ⟨by simp, by simp⟩
    · next hneg =>
      split
      · refine ⟨⟨by simp [decimalChars_ne_nil], fun c hc => hdigit c (List.mem_of_mem_take hc)⟩,
          fun hz => ?_, ?_, fun _ _ h => nomatch h⟩
        · rw [List.head?_take, if_neg (by omega)] at hz
          exact absurd (hhead hz) (by omega)
        · rintro _ ⟨⟩
          refine ⟨fun hnil => ?_, fun c hc => hdigit c (List.mem_of_mem_drop hc)⟩
          have := List.drop_eq_nil_iff.1 hnil
          omega
      · refine ⟨⟨by simp, by simp⟩, fun _ => rfl, ?_, fun _ _ h => nomatch h⟩
        rintro _ ⟨⟩
        refine ⟨by simp [decimalChars_ne_nil], fun c hc => ?_⟩
        rcases List.mem_append.1 hc with hc | hc
        · rw [List.eq_of_mem_replicate hc]; decide
        · exact hdigit c hc

/-! ## Integers and binary numbers -/

theorem ofInt_injective {m n : Int} (h : ofInt m = ofInt n) : m = n := by
  simp only [ofInt, NumberForm.mk.injEq, decide_eq_decide] at h
  have := decimalChars_injective h.2.1
  omega

theorem digits_shortest_ne_zero {x : Binary64} (hx : x.mantissa ≠ 0) : x.shortest.digits ≠ 0 := by
  intro h
  have hpos := Binary64.pos_of_roundsTo (Binary64.shortest_roundsTo hx) hx
  simp [Binary64.Decimal.value, h] at hpos

theorem wellSpelt_ofBinary (x : Binary64) : (ofBinary x).WellSpelt := by
  refine wellSpelt_ofDecimal _ fun h => ?_
  by_cases hx : x.mantissa = 0
  · simp [Binary64.shortest, hx]
  · exact absurd h (digits_shortest_ne_zero hx)

theorem ofBinary_injective {x y : Binary64} (h : ofBinary x = ofBinary y) : x = y := by
  have hsign := congrArg negative h
  have hvalue := congrArg magnitude h
  rw [ofBinary, ofBinary, negative_ofDecimal, negative_ofDecimal] at hsign
  rw [ofBinary, ofBinary, magnitude_ofDecimal, magnitude_ofDecimal] at hvalue
  obtain ⟨hm, he⟩ := Binary64.parts_of_value_shortest_eq hvalue
  obtain ⟨_, _, _⟩ := x
  obtain ⟨_, _, _⟩ := y
  simp_all

theorem ofInt_ne_ofBinary (n : Int) (x : Binary64) : ofInt n ≠ ofBinary x := by
  intro h
  rcases fraction_or_exponent_ofDecimal x.negative x.shortest with hf | he
  · exact hf (congrArg fraction h).symm
  · exact he (congrArg exponent h).symm

theorem value?_ofInt {n : Int} (h : (Number.int n).InRange) :
    (ofInt n).value? = some (.int n) := by
  obtain ⟨hlow, hhigh⟩ := h
  unfold value?
  simp only [ofInt, ofDigits_decimalChars, true_and, decide_eq_true_eq, maxUnsigned, maxSigned]
  split
  · congr 2
    omega
  · rw [if_pos (by omega)]
    congr 2
    omega

theorem value?_ofBinary (x : Binary64) :
    (ofBinary x).value? = (ofBinary x).toBinary?.map .float := by
  have h := fraction_or_exponent_ofDecimal x.negative x.shortest
  unfold value?
  rw [if_neg, if_neg]
  · rintro ⟨hf, he, -⟩
    exact h.elim (· hf) (· he)
  · rintro ⟨hf, he, -⟩
    exact h.elim (· hf) (· he)

end NumberForm

/-- The number is what its spelling means: the two roundings of the reader meet the number that the
spelling was found for. -/
def Binary64.ReadsBack (x : Binary64) : Prop := (NumberForm.ofBinary x).toBinary? = some x

instance (x : Binary64) : Decidable x.ReadsBack :=
  inferInstanceAs (Decidable ((NumberForm.ofBinary x).toBinary? = some x))

namespace Binary64

theorem readsBack_zero (negative : Bool) : (zero negative).ReadsBack := by
  revert negative
  decide +kernel

theorem readsBack_of_isZero {x : Binary64} (h : x.isZero = true) : x.ReadsBack := by
  obtain ⟨negative, mantissa, exponent, _, _, _, hnormal⟩ := x
  obtain rfl : mantissa = 0 := by simpa [isZero] using h
  obtain rfl : exponent = -1074 := hnormal.resolve_left (by norm_num)
  exact readsBack_zero negative

end Binary64

namespace Number

/-- The number is what its spelling means. -/
def ReadsBack : Number → Prop
  | .int _ => True
  | .float x => x.ReadsBack

theorem form_injective {m n : Number} (h : m.form = n.form) : m = n := by
  cases m <;> cases n
  · rw [NumberForm.ofInt_injective h]
  · exact absurd h (NumberForm.ofInt_ne_ofBinary _ _)
  · exact absurd h.symm (NumberForm.ofInt_ne_ofBinary _ _)
  · rw [NumberForm.ofBinary_injective h]

theorem wellSpelt_form (n : Number) : n.form.WellSpelt := by
  cases n
  · exact NumberForm.wellSpelt_ofInt _
  · exact NumberForm.wellSpelt_ofBinary _

theorem value?_form {n : Number} (hrange : n.InRange) (hback : n.ReadsBack) :
    n.form.value? = some n := by
  cases n with
  | int n => exact NumberForm.value?_ofInt hrange
  | float x =>
    have hx : (NumberForm.ofBinary x).toBinary? = some x := hback
    rw [form, NumberForm.value?_ofBinary, hx]
    rfl

/-- Numbers are equal if they are the same once zeros have no sign. -/
theorem same_iff {m n : Number} : m.same n = true ↔ m.normalized = n.normalized := by
  cases m <;> cases n
  · simp [same, normalized]
  · simp [same, normalized]
  · simp [same, normalized]
  · next x y =>
    simp only [same, normalized, Binary64.same, Bool.or_eq_true, decide_eq_true_eq,
      Bool.and_eq_true, Number.float.injEq]
    cases hx : x.isZero <;> cases hy : y.isZero <;> simp [Binary64.isZero, Binary64.zero] at * <;>
      grind

end Number

end AuditTrail
