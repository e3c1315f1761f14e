import AuditTrail.Proofs.Instant.Text
import AuditTrail.Proofs.Text.Separated

/-!
# The loose reader reads what is written

The strict reader knows years of four digits only. The loose one reads every instant back, with the
signed years before 0 and after 9999, with the seconds that leap, and with all the digits of a
fraction.

* `Instant.takeLoose_append`: as many digits as may stand there are read, up to where they stop.
* `Instant.takeYear_yearChars`: a year is read back, with or without a sign.
* `Instant.year_bounds`: the years that an instant can have.
* `Instant.parseLoose?_text`: an instant is read back from the text that an entry has for it.
-/

namespace AuditTrail.Instant

open Text

/-! ## Runs of digits -/

theorem trimStart_of_stopsAt {cs : List Char} (h : StopsAt isBlank cs) : trimStart cs = cs := by
  cases cs with
  | nil => rfl
  | cons c cs => simp [trimStart, stopsAt_cons.1 h]

theorem stopsAt_take {p : Char → Bool} {cs : List Char} (h : StopsAt p cs) (n : Nat) :
    StopsAt p (cs.take n) := by
  cases n with
  | zero => exact stopsAt_nil p
  | succ n =>
    cases cs with
    | nil => exact h
    | cons c cs => exact stopsAt_cons.2 (stopsAt_cons.1 h)

/-- As many digits as may stand there are read: the run ends where no more may stand, or where no
digit follows. -/
theorem takeLoose_append {most : Nat} {digits rest : List Char} (hne : digits ≠ [])
    (hdigits : ∀ c ∈ digits, c.isDigit = true) (hle : digits.length ≤ most)
    (hstop : digits.length = most ∨ StopsAt Char.isDigit rest) :
    takeLoose most (digits ++ rest) = .ok (ofDigits digits, rest) := by
  have hfront : trimStart (digits ++ rest) = digits ++ rest := by
    obtain ⟨c, cs, rfl⟩ := List.exists_cons_of_ne_nil hne
    exact trimStart_of_stopsAt (stopsAt_cons.2 ((isPlain_of_isDigit (hdigits c (by simp))).2))
  have htake : (digits ++ rest).take most = digits ++ rest.take (most - digits.length) := by
    rw [List.take_append, List.take_of_length_le hle]
  have hend : StopsAt Char.isDigit (rest.take (most - digits.length)) := by
    rcases hstop with hlength | hstop
    · rw [hlength, Nat.sub_self, List.take_zero]
      exact stopsAt_nil _
    · exact stopsAt_take hstop _
  simp only [takeLoose, hfront, htake, takeWhile_append_stop hdigits hend, if_neg hne,
    List.drop_left]

theorem paddedChars_ne_nil (width n : Nat) : paddedChars width n ≠ [] :=
  List.append_ne_nil_of_right_ne_nil _ (decimalChars_ne_nil n)

theorem takeLoose_paddedChars {width n : Nat} (hwidth : width ≠ 0) (h : n < 10 ^ width)
    (rest : List Char) : takeLoose width (paddedChars width n ++ rest) = .ok (n, rest) := by
  have hlength := length_paddedChars hwidth h
  rw [takeLoose_append (paddedChars_ne_nil width n) (fun _ => isDigit_of_mem_paddedChars)
    (Nat.le_of_eq hlength) (.inl hlength), ofDigits_paddedChars]

/-! ## Years -/

theorem exists_cons_paddedChars (width n : Nat) (rest : List Char) :
    ∃ c cs, paddedChars width n ++ rest = c :: cs ∧ c.isDigit = true := by
  obtain ⟨c, cs, hcs⟩ := List.exists_cons_of_ne_nil (paddedChars_ne_nil width n)
  exact ⟨c, cs ++ rest, by rw [hcs, List.cons_append],
    isDigit_of_mem_paddedChars (hcs ▸ List.mem_cons_self)⟩

/-- What starts with a digit has no sign. -/
theorem takeYear_of_isDigit {c : Char} {cs : List Char} (h : c.isDigit = true) :
    takeYear (c :: cs) = (takeLoose 4 (c :: cs)).map fun (n, more) => ((n : Int), more) := by
  have hminus : c ≠ '-' := by rintro rfl; exact absurd h (by decide)
  have hplus : c ≠ '+' := by rintro rfl; exact absurd h (by decide)
  rw [takeYear, trimStart_of_stopsAt (stopsAt_cons.2 (isPlain_of_isDigit h).2)]
  split
  · next heq => exact absurd (List.cons.inj heq).1 hminus
  · next heq => exact absurd (List.cons.inj heq).1 hplus
  · rfl

/-- A year is read back: without a sign from its four digits, with one from all there are. -/
theorem takeYear_yearChars (year : Int) {rest : List Char} (hrest : StopsAt Char.isDigit rest) :
    takeYear (yearChars year ++ rest) = .ok (year, rest) := by
  rw [yearChars]
  split
  · next hfour =>
    have hloose : takeLoose 4 (paddedChars 4 year.toNat ++ rest) = .ok (year.toNat, rest) :=
      takeLoose_paddedChars (by decide) (by omega) rest
    obtain ⟨c, cs, hcs, hdigit⟩ := exists_cons_paddedChars 4 year.toNat rest
    rw [hcs] at hloose ⊢
    rw [takeYear_of_isDigit hdigit, hloose]
    simp only [Except.map, Int.toNat_of_nonneg hfour.1]
  · next hfar =>
    have hloose : takeLoose (paddedChars 4 year.natAbs ++ rest).length
        (paddedChars 4 year.natAbs ++ rest) = .ok (year.natAbs, rest) := by
      rw [takeLoose_append (paddedChars_ne_nil 4 _) (fun _ => isDigit_of_mem_paddedChars)
        (by simp) (.inr hrest), ofDigits_paddedChars]
    obtain ⟨c, cs, hcs, hdigit⟩ := exists_cons_paddedChars 4 year.natAbs rest
    have hany : (c :: cs).head?.any Char.isDigit = true := hdigit
    rw [List.cons_append]
    rw [hcs] at hloose ⊢
    split
    · next hneg =>
      have hvalue : -(year.natAbs : Int) = year := by omega
      rw [takeYear, trimStart_of_stopsAt (stopsAt_cons.2 (by decide))]
      simp only [hany, if_true, hloose, Except.map, hvalue]
    · next hpos =>
      have hvalue : (year.natAbs : Int) = year := by omega
      rw [takeYear, trimStart_of_stopsAt (stopsAt_cons.2 (by decide))]
      simp only [hany, if_true, hloose, Except.map, hvalue]

/-- A year that starts earlier is an earlier one. -/
theorem lt_of_yearStart_lt {a b : Int} (h : Date.yearStart a < Date.yearStart b) : a < b := by
  by_contra hle
  simp only [Date.yearStart] at h
  omega

/-- The years that an instant can have. -/
theorem year_bounds (t : Instant) : -262143 ≤ t.year ∧ t.year ≤ 262142 := by
  have hyear : t.year = Date.yearOfDay (t.second / 86400 + Date.epoch) := rfl
  obtain ⟨hstart, hend⟩ := Date.yearOfDay_spec (t.second / 86400 + Date.epoch)
  have hepoch : Date.epoch = 719528 := by decide
  have hfirst : Date.yearStart (-262143) ≤ t.second / 86400 + Date.epoch := by
    have hday : Date.yearStart (-262143) = -95745764 := by decide
    have := t.first_le
    omega
  have hlast : t.second / 86400 + Date.epoch < Date.yearStart 262143 := by
    have hday : Date.yearStart 262143 = 95745765 := by decide
    have := t.le_last
    omega
  have hlow := lt_of_yearStart_lt (Int.lt_of_le_of_lt hfirst hend)
  have hhigh := lt_of_yearStart_lt (Int.lt_of_le_of_lt hstart hlast)
  omega

/-! ## The whole text -/

/-- A text of padded parts is read part by part. -/
theorem parseLooseChars_parts {date : Date} {hour minute second nano : Nat}
    (hvalid : date.IsValid) (hfirst : -262143 ≤ date.year) (hlast : date.year ≤ 262142)
    (hmonth : date.month < 100) (hday : date.day < 100) (hhour : hour ≤ 23)
    (hminute : minute ≤ 59) (hsecond : second ≤ 60) (hnano : nano < 1000000000) :
    parseLooseChars (dateChars date ++ 'T' :: paddedChars 2 hour ++ ':' :: paddedChars 2 minute ++
      ':' :: paddedChars 2 second ++ fractionChars nano ++ Offset.zulu.chars) =
      assemble date hour minute second nano 0 := by
  have hdash (cs : List Char) : takeOneOf ['-'] (trimStart ('-' :: cs)) = .ok cs := rfl
  have hcolon (cs : List Char) : takeOneOf [':'] (trimStart (':' :: cs)) = .ok cs := rfl
  have hbetween (cs : List Char) : takeOneOf ['T', 't', ' '] ('T' :: cs) = .ok cs := rfl
  have hyear (cs : List Char) :
      takeYear (yearChars date.year ++ '-' :: cs) = .ok (date.year, '-' :: cs) :=
    takeYear_yearChars _ (stopsAt_cons.2 (by decide))
  have htwo {n : Nat} (hn : n < 100) (rest : List Char) :
      takeLoose 2 (paddedChars 2 n ++ rest) = .ok (n, rest) :=
    takeLoose_paddedChars (by decide) hn rest
  have hhours := htwo (show hour < 100 by omega)
  have hminutes := htwo (show minute < 100 by omega)
  have hseconds := htwo (show second < 100 by omega)
  have hfraction : takeFraction (fractionChars nano ++ Offset.zulu.chars) =
      .ok (nano, Offset.zulu.chars) :=
    takeFraction_fractionChars hnano (stopsAt_cons.2 (by decide)) (by decide)
  have hoffset : takeLooseOffset (trimStart Offset.zulu.chars) = .ok (0, []) := by decide
  have hend : trimStart ([] : List Char) = [] := rfl
  have hdate : ¬ (¬ date.IsValid ∨ date.year < -262143 ∨ 262142 < date.year) := by
    rw [not_or, not_not]
    exact ⟨hvalid, by omega⟩
  have hclock : ¬ (23 < hour ∨ 59 < minute ∨ 60 < second) := by omega
  simp only [parseLooseChars, dateChars, List.append_assoc, List.cons_append, bind, Except.bind,
    hyear, hdash, hcolon, hbetween, htwo hmonth, htwo hday, hhours, hminutes, hseconds, hfraction,
    hoffset, hend, ne_eq, not_true_eq_false, if_false, if_neg hdate, if_neg hclock]

/-- An instant is read back from the text that an entry has for it, whatever its year. -/
theorem parseLoose?_text (t : Instant) : parseLoose? (t.text .zulu) = some t := by
  obtain ⟨hvalid, hdate, hmonth, hday⟩ := Date.ofDayNumber_spec (t.second / 86400)
  obtain ⟨hfirst, hlast⟩ := t.year_bounds
  have hnano := t.nano_lt
  have hchars : parseLooseChars (t.chars .zulu) = .ok t := by
    rw [← assemble_parts hdate]
    exact parseLooseChars_parts hvalid hfirst hlast (by omega) (by omega) (by omega) (by omega)
      (by omega) (by omega)
  rw [parseLoose?, text, String.toList_ofList, hchars]

end AuditTrail.Instant
