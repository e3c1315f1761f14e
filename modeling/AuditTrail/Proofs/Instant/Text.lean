import AuditTrail.Instant.Text
import AuditTrail.Proofs.Instant.Basic
import AuditTrail.Proofs.Text.Numeral
import Mathlib.Data.Nat.Digits.Defs

/-!
# Instants are read back

* `Text.takeNumber_paddedChars`: padded digits are read back.
* `Instant.takeFraction_fractionChars`: so is a fraction of a second, however many digits it needs.
* `Instant.parse_text`: an instant is read back from its text, if its year has four digits.
  `Instant.exists_parse_text_iff`: no other can be read.
-/

namespace AuditTrail

open Text

/-! ## Padded digits -/

namespace Text

theorem length_paddedChars {width n : Nat} (hwidth : width ≠ 0) (h : n < 10 ^ width) :
    (paddedChars width n).length = width := by
  have : (decimalChars n).length ≤ width :=
    Nat.toDigits_length 10 n width (Nat.pos_of_ne_zero hwidth) h
  rw [paddedChars, List.length_append, List.length_replicate]
  omega

theorem isDigit_of_mem_paddedChars {width n : Nat} {c : Char} (h : c ∈ paddedChars width n) :
    c.isDigit = true := by
  rcases List.mem_append.1 h with h | h
  · rw [List.eq_of_mem_replicate h]
    rfl
  · exact isDigit_of_mem_decimalChars h

@[simp] theorem ofDigits_paddedChars (width n : Nat) : ofDigits (paddedChars width n) = n := by
  rw [paddedChars, ofDigits_append, ofDigits_replicate_zero, Nat.zero_mul, Nat.zero_add,
    ofDigits_decimalChars]

end Text

namespace Instant

theorem takeNumber_paddedChars {width n : Nat} (hwidth : width ≠ 0) (h : n < 10 ^ width)
    (rest : List Char) : takeNumber width (paddedChars width n ++ rest) = .ok (n, rest) := by
  have hlength := length_paddedChars hwidth h
  have hall : (paddedChars width n).all Char.isDigit = true :=
    List.all_eq_true.2 fun c hc => isDigit_of_mem_paddedChars hc
  rw [takeNumber, List.take_left' hlength, List.drop_left' hlength, if_pos ⟨hlength, hall⟩,
    ofDigits_paddedChars]

/-! ## Fractions -/

/-- Up to nine digits behind the point are kept. -/
theorem takeFraction_paddedChars {width n : Nat} (hwidth : width ≠ 0) (hle : width ≤ 9)
    (h : n < 10 ^ width) {rest : List Char} (hrest : StopsAt Char.isDigit rest) :
    takeFraction ('.' :: (paddedChars width n ++ rest)) = .ok (n * 10 ^ (9 - width), rest) := by
  have hlength := length_paddedChars hwidth h
  have hdigits : ∀ c ∈ paddedChars width n, c.isDigit = true :=
    fun c hc => isDigit_of_mem_paddedChars hc
  have hne : paddedChars width n ≠ [] := by
    rw [← List.length_pos_iff, hlength]
    exact Nat.pos_of_ne_zero hwidth
  have hnanos : nanosOf (paddedChars width n) = n * 10 ^ (9 - width) := by
    rw [nanosOf, List.take_of_length_le (hlength.trans_le hle), hlength, ofDigits_paddedChars]
  rw [takeFraction, takeWhile_append_stop hdigits hrest, dropWhile_append_stop hdigits hrest,
    if_pos hne, hnanos]

/-- A fraction is written with the digits that it needs, and read back from them. -/
theorem takeFraction_fractionChars {nano : Nat} (h : nano < 1000000000) {rest : List Char}
    (hrest : StopsAt Char.isDigit rest) (hpoint : rest.head? ≠ some '.') :
    takeFraction (fractionChars nano ++ rest) = .ok (nano, rest) := by
  rw [fractionChars]
  split
  · next hzero =>
    rw [hzero, List.nil_append]
    cases rest with
    | nil => rfl
    | cons c cs =>
      rw [takeFraction]
      rintro tail heq
      exact hpoint (congrArg List.head? heq)
  · split
    · next hmillis =>
      rw [List.cons_append, takeFraction_paddedChars (by decide) (by decide) (by omega) hrest]
      simp only [Nat.reduceSub, Nat.reducePow]
      congr 2
      omega
    · split
      · next hmicros =>
        rw [List.cons_append, takeFraction_paddedChars (by decide) (by decide) (by omega) hrest]
        simp only [Nat.reduceSub, Nat.reducePow]
        congr 2
        omega
      · rw [List.cons_append, takeFraction_paddedChars (by decide) (by decide) (by omega) hrest]
        simp

/-! ## The whole text -/

theorem length_le_byteLength (cs : List Char) : cs.length ≤ byteLength cs := by
  induction cs with
  | nil => exact Nat.zero_le _
  | cons c cs ih =>
    have hpos := c.utf8Size_pos
    rw [byteLength, List.map_cons, List.sum_cons, List.length_cons]
    rw [byteLength] at ih
    omega

theorem takeOneOf_of_mem {allowed : List Char} {c : Char} (h : c ∈ allowed) (cs : List Char) :
    takeOneOf allowed (c :: cs) = .ok cs :=
  if_pos (List.contains_iff_mem.2 h)

/-- The characters of padded parts, in universal time. -/
def partsChars (year : Nat) (date : Date) (hour minute second nano : Nat) : List Char :=
  paddedChars 4 year ++ '-' :: (paddedChars 2 date.month ++ '-' :: (paddedChars 2 date.day ++
    'T' :: (paddedChars 2 hour ++ ':' :: (paddedChars 2 minute ++ ':' :: (paddedChars 2 second ++
      (fractionChars nano ++ Offset.zero.chars))))))

/-- A text of padded parts is read part by part. -/
theorem parseChars_partsChars {date : Date} {year hour minute second nano : Nat}
    (hvalid : date.IsValid) (hdate : date.year = year) (hyear : year < 10000)
    (hmonth : date.month < 100) (hday : date.day < 100) (hhour : hour ≤ 23)
    (hminute : minute ≤ 59) (hsecond : second ≤ 60) (hnano : nano < 1000000000) :
    parseChars (partsChars year date hour minute second nano) =
      assemble date hour minute second nano 0 := by
  have hlong : ¬ byteLength (partsChars year date hour minute second nano) < 19 := by
    refine Nat.not_lt.2 (Nat.le_trans ?_ (length_le_byteLength _))
    simp only [partsChars, List.length_append, List.length_cons]
    rw [length_paddedChars (by decide) hyear]
    rw [length_paddedChars (by decide) hmonth]
    rw [length_paddedChars (by decide) hday]
    rw [length_paddedChars (by decide) (show hour < 10 ^ 2 by omega)]
    rw [length_paddedChars (by decide) (show minute < 10 ^ 2 by omega)]
    rw [length_paddedChars (by decide) (show second < 10 ^ 2 by omega)]
    omega
  have hparts : (⟨year, date.month, date.day⟩ : Date) = date := by
    rw [← hdate]
  have hclock : ¬ (23 < hour ∨ 59 < minute ∨ 60 < second) := by omega
  have hfraction : takeFraction (fractionChars nano ++ Offset.zero.chars) =
      .ok (nano, Offset.zero.chars) :=
    takeFraction_fractionChars hnano (stopsAt_cons.2 (by decide)) (by decide)
  have hoffset : takeOffset (takeOneOf [':']) Offset.zero.chars = .ok (0, []) := by decide
  have htwo : ∀ {n : Nat}, n < 100 → ∀ rest,
      takeNumber 2 (paddedChars 2 n ++ rest) = .ok (n, rest) :=
    fun hn => takeNumber_paddedChars (by decide) hn
  have hhours := htwo (show hour < 100 by omega)
  have hminutes := htwo (show minute < 100 by omega)
  have hseconds := htwo (show second < 100 by omega)
  rw [parseChars, if_neg hlong, partsChars, takeNumber_paddedChars (by decide) hyear]
  simp only [bind, Except.bind, takeOneOf_of_mem, List.mem_cons, true_or, htwo hmonth, htwo hday,
    hparts, if_neg (not_not_intro hvalid), hhours, hminutes, hseconds, hfraction, if_neg hclock,
    hoffset, ne_eq, not_true_eq_false, if_false]

/-- The year in universal time. -/
def year (t : Instant) : Int := (Date.ofDayNumber (t.second / 86400)).year

/-- The parts of an instant are put together again: what the nanoseconds run on past a second is
the second that leaps. -/
theorem assemble_parts {t : Instant} {date : Date} (hdate : date.dayNumber = t.second / 86400) :
    assemble date ((t.second % 86400).toNat / 3600) ((t.second % 86400).toNat / 60 % 60)
      ((t.second % 86400).toNat % 60 + t.nano / 1000000000) (t.nano % 1000000000) 0 = .ok t := by
  have hnano := t.nano_lt
  have hleap := t.leap_last
  have hlocal : ofLocal? date ((t.second % 86400).toNat / 3600)
      ((t.second % 86400).toNat / 60 % 60) ((t.second % 86400).toNat % 60) t.nano 0 = some t := by
    rw [ofLocal?, ofParts?_eq_some_iff, hdate]
    exact ⟨by omega, rfl⟩
  unfold assemble
  by_cases h : t.nano < 1000000000
  · have hsecond : (t.second % 86400).toNat % 60 + t.nano / 1000000000 =
        (t.second % 86400).toNat % 60 := by omega
    have hplain : ¬ (t.second % 86400).toNat % 60 = 60 := by omega
    simp only [hsecond, if_neg hplain, Nat.mod_eq_of_lt h, Nat.sub_zero, Nat.zero_mul,
      Nat.add_zero, hlocal]
    exact if_pos (by decide)
  · have hlast := hleap (Nat.not_lt.1 h)
    have hsecond : (t.second % 86400).toNat % 60 + t.nano / 1000000000 = 60 := by omega
    have hminute : 60 - 1 = (t.second % 86400).toNat % 60 := by omega
    have hrest : t.nano % 1000000000 + 1 * 1000000000 = t.nano := by omega
    simp only [hsecond, if_true, hminute, hrest, hlocal]
    exact if_pos (by decide)

/-- An instant is read back from its text, if its year has four digits. -/
theorem parse_text {t : Instant} (hfirst : 0 ≤ t.year) (hlast : t.year ≤ 9999) :
    parse (t.text .zero) = .ok t := by
  obtain ⟨hvalid, hdate, hmonth, hday⟩ := Date.ofDayNumber_spec (t.second / 86400)
  have hyear : yearChars (Date.ofDayNumber (t.second / 86400)).year =
      paddedChars 4 t.year.toNat := if_pos ⟨hfirst, hlast⟩
  have hchars : t.chars .zero = partsChars t.year.toNat (Date.ofDayNumber (t.second / 86400))
      ((t.second % 86400).toNat / 3600) ((t.second % 86400).toNat / 60 % 60)
      ((t.second % 86400).toNat % 60 + t.nano / 1000000000) (t.nano % 1000000000) := by
    simp only [chars, dateChars, hyear, partsChars, List.append_assoc, List.cons_append]
  have hnano := t.nano_lt
  rw [parse, text, String.toList_ofList, hchars, parseChars_partsChars hvalid
    (show t.year = _ by omega) (by omega) (by omega) (by omega) (by omega) (by omega) (by omega)
    (by omega), assemble_parts hdate]

/-- A number starts with a digit. -/
theorem takeNumber_cons {c : Char} (h : c.isDigit = false) (n : Nat) (cs : List Char) :
    takeNumber (n + 1) (c :: cs) = .error .invalid :=
  if_neg fun hdigits => by simp [h] at hdigits

/-- The text of an instant is read exactly if the year has four digits. Other years have a sign. -/
theorem exists_parse_text_iff {t : Instant} :
    (∃ u, parse (t.text .zero) = .ok u) ↔ 0 ≤ t.year ∧ t.year ≤ 9999 := by
  refine ⟨fun ⟨u, hu⟩ => ?_, fun h => ⟨t, parse_text h.1 h.2⟩⟩
  by_contra hyear
  have hyearChars : yearChars (Date.ofDayNumber (t.second / 86400)).year = _ := if_neg hyear
  obtain ⟨sign, hsign, rest, hchars⟩ :
      ∃ sign : Char, sign.isDigit = false ∧ ∃ rest, t.chars .zero = sign :: rest := by
    simp only [chars, dateChars, hyearChars, List.cons_append, List.append_assoc]
    refine ⟨_, ?_, _, rfl⟩
    split <;> decide
  have hread : parseChars (sign :: rest) = .error .tooShort ∨
      parseChars (sign :: rest) = .error .invalid := by
    rw [parseChars, takeNumber_cons hsign]
    split
    · exact .inl rfl
    · exact .inr rfl
  rw [parse, text, String.toList_ofList, hchars] at hu
  rcases hread with hread | hread <;> cases hread.symm.trans hu

end Instant

end AuditTrail
