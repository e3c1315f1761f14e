import AuditTrail.Text.Digits
import Mathlib.Tactic.Ring

/-!
# Digits that are read back

* `StopsAt p rest`: no character of the kind `p` stands in front of `rest`, so that a run of such
  characters in front of `rest` ends there (`takeWhile_append_stop`, `dropWhile_append_stop`).
* `ofDigits_decimalChars`: decimal digits stand for the number that they were written for, and
  `head?_decimalChars` says that none of them is a needless zero. `ofDigits_append` is the number
  of digits behind others, and `ofDigits_lt` bounds it by how many there are.
* `readNatural_eq_ok_iff`: the texts that are read as numbers up to a bound (`NaturalSpeltBy`).
* `hexDigit?_hexDigitOf`: a hexadecimal digit is read back.
-/

namespace AuditTrail.Text

/-! ## Runs of characters -/

/-- No character of the kind stands in front of the text. -/
def StopsAt (p : Char → Bool) (cs : List Char) : Prop := ∀ c, cs.head? = some c → p c = false

theorem stopsAt_nil (p : Char → Bool) : StopsAt p [] := by simp [StopsAt]

theorem stopsAt_cons {p : Char → Bool} {c : Char} {cs : List Char} :
    StopsAt p (c :: cs) ↔ p c = false := by simp [StopsAt]

theorem takeWhile_append_stop {p : Char → Bool} {run rest : List Char}
    (hrun : ∀ c ∈ run, p c = true) (hrest : StopsAt p rest) :
    (run ++ rest).takeWhile p = run := by
  rw [List.takeWhile_append_of_pos hrun]
  cases rest with
  | nil => simp
  | cons c cs => simp [stopsAt_cons.1 hrest]

theorem dropWhile_append_stop {p : Char → Bool} {run rest : List Char}
    (hrun : ∀ c ∈ run, p c = true) (hrest : StopsAt p rest) :
    (run ++ rest).dropWhile p = rest := by
  rw [List.dropWhile_append_of_pos hrun]
  cases rest with
  | nil => rfl
  | cons c cs => simp [stopsAt_cons.1 hrest]

/-! ## Decimal digits -/

theorem decimalChars_ne_nil (n : Nat) : decimalChars n ≠ [] := Nat.toDigits_ne_nil

theorem isDigit_of_mem_decimalChars {n : Nat} {c : Char} (h : c ∈ decimalChars n) :
    c.isDigit = true :=
  Nat.isDigit_of_mem_toDigits (by decide) (by decide) h

@[simp] theorem ofDigits_decimalChars (n : Nat) : ofDigits (decimalChars n) = n :=
  Nat.ofDigitChars_ten_toDigits

theorem ofDigits_append (a b : List Char) :
    ofDigits (a ++ b) = ofDigits a * 10 ^ b.length + ofDigits b := by
  rw [ofDigits, Nat.ofDigitChars_append, Nat.ofDigitChars_eq_ofDigitChars_zero, Nat.mul_comm]
  rfl

theorem ofDigits_cons (c : Char) (cs : List Char) :
    ofDigits (c :: cs) = (c.toNat - '0'.toNat) * 10 ^ cs.length + ofDigits cs := by
  have hdigit : ofDigits [c] = c.toNat - '0'.toNat := by
    simp [ofDigits, Nat.ofDigitChars]
  rw [← List.singleton_append, ofDigits_append, hdigit]

theorem ofDigits_lt {cs : List Char} (h : ∀ c ∈ cs, c.isDigit = true) :
    ofDigits cs < 10 ^ cs.length := by
  induction cs with
  | nil => simp [ofDigits]
  | cons c cs ih =>
    obtain ⟨hc, hcs⟩ := List.forall_mem_cons.1 h
    have hdigit : c.toNat - '0'.toNat ≤ 9 := by
      simp only [Char.isDigit, Bool.and_eq_true, decide_eq_true_eq] at hc
      have : c.toNat ≤ '9'.toNat := UInt32.le_iff_toNat_le.1 hc.2
      simp at this ⊢
      omega
    have := Nat.mul_le_mul_right (10 ^ cs.length) hdigit
    rw [ofDigits_cons, List.length_cons, pow_succ]
    have := ih hcs
    omega

@[simp] theorem ofDigits_replicate_zero (n : Nat) : ofDigits (List.replicate n '0') = 0 := by
  simp [ofDigits]

theorem decimalChars_injective {m n : Nat} (h : decimalChars m = decimalChars n) : m = n := by
  rw [← ofDigits_decimalChars m, h, ofDigits_decimalChars]

theorem decimalChars_of_lt {n : Nat} (h : n < 10) : decimalChars n = [Nat.digitChar n] :=
  Nat.toDigits_of_lt_base h

theorem decimalChars_of_le {n : Nat} (h : 10 ≤ n) :
    decimalChars n = decimalChars (n / 10) ++ [Nat.digitChar (n % 10)] :=
  Nat.toDigits_of_base_le (by decide) h

/-- Only zero starts with the digit zero. -/
theorem head?_decimalChars {n : Nat} (h : n ≠ 0) : (decimalChars n).head? ≠ some '0' := by
  induction n using Nat.strongRecOn with
  | _ n ih =>
    by_cases hn : n < 10
    · simp [decimalChars_of_lt hn, h]
    · have ih := ih (n / 10) (by omega) (by omega)
      obtain ⟨c, cs, hc⟩ := List.exists_cons_of_ne_nil (decimalChars_ne_nil (n / 10))
      rw [decimalChars_of_le (by omega), hc]
      rwa [hc] at ih

/-! ## Numbers that are read -/

/-- Decimal digits, with or without a plus sign, of a number that is at most the bound. -/
def NaturalSpeltBy (bound n : Nat) (cs : List Char) : Prop :=
  ∃ ds, (cs = ds ∨ cs = '+' :: ds) ∧ ds ≠ [] ∧ (∀ c ∈ ds, c.isDigit = true) ∧
    ofDigits ds = n ∧ n ≤ bound

theorem readDigits_eq_ok_iff {bound n m : Nat} {cs : List Char} (hn : n ≤ bound) :
    readDigits bound n cs = .ok m ↔
      (∀ c ∈ cs, c.isDigit = true) ∧ n * 10 ^ cs.length + ofDigits cs = m ∧ m ≤ bound := by
  induction cs generalizing n with
  | nil =>
    have hzero : n * 10 ^ ([] : List Char).length + ofDigits [] = n := by simp [ofDigits]
    rw [readDigits, hzero, Except.ok.injEq]
    exact ⟨fun h => ⟨List.forall_mem_nil _, h, h ▸ hn⟩, fun h => h.2.1⟩
  | cons c cs ih =>
    rw [readDigits, digit?, List.forall_mem_cons]
    by_cases hc : c.isDigit = true
    · -- The digit goes behind those that were read before.
      have hshift : n * 10 ^ (c :: cs).length + ofDigits (c :: cs) =
          (10 * n + (c.toNat - '0'.toNat)) * 10 ^ cs.length + ofDigits cs := by
        rw [ofDigits_cons, List.length_cons, pow_succ]
        ring
      simp only [hc, if_true, true_and, hshift]
      split
      · next hle => exact ih hle
      · next hgt =>
        have := Nat.le_mul_of_pos_right (10 * n + (c.toNat - '0'.toNat))
          (Nat.pow_pos (n := cs.length) (show 0 < 10 by decide))
        simp only [reduceCtorEq, false_iff]
        omega
    · simp [hc]

/-- A text is read as a number exactly if it spells one that is not too large. -/
theorem readNatural_eq_ok_iff {bound n : Nat} {cs : List Char} :
    readNatural bound cs = .ok n ↔ NaturalSpeltBy bound n cs := by
  have hread : ∀ ds : List Char, readDigits bound 0 ds = .ok n ↔
      (∀ c ∈ ds, c.isDigit = true) ∧ ofDigits ds = n ∧ n ≤ bound := fun ds => by
    rw [readDigits_eq_ok_iff (Nat.zero_le bound), Nat.zero_mul, Nat.zero_add]
  unfold readNatural NaturalSpeltBy
  split
  · simp
  · -- A sign alone spells nothing.
    simp only [reduceCtorEq, false_iff]
    rintro ⟨ds, rfl | hsign, hne, hdigits, -⟩
    · exact absurd (hdigits '+' List.mem_cons_self) (by decide)
    · exact hne (List.cons.inj hsign).2.symm
  · next cs hne =>
    rw [hread]
    constructor
    · exact fun h => ⟨cs, .inr rfl, fun hnil => hne hnil, h⟩
    · rintro ⟨ds, rfl | hsign, -, hdigits, hvalue⟩
      · exact absurd (hdigits '+' List.mem_cons_self) (by decide)
      · obtain rfl := (List.cons.inj hsign).2
        exact ⟨hdigits, hvalue⟩
  · next hne _ hplus =>
    rw [hread]
    constructor
    · exact fun h => ⟨_, .inl rfl, hne, h⟩
    · rintro ⟨ds, rfl | rfl, -, hspelt⟩
      · exact hspelt
      · exact absurd rfl (hplus ds)

/-! ## Hexadecimal digits -/

theorem hexDigit?_hexDigitOf {n : Nat} (h : n < 16) : hexDigit? (hexDigitOf n) = some n := by
  revert n; decide

end AuditTrail.Text
