import AuditTrail.Instant.Basic
import Mathlib.Tactic.Common

/-!
# Days, microseconds and instants

* `Date.yearOfDay_spec`: the year of a day is the one in which the day lies.
* `Date.monthOfDay_spec`: a day among months of some lengths is a day of one of them.
* `Date.ofDayNumber_spec`: a number of days is that of a date in the calendar.
* `Instant.ofMicros?_eq_some_iff`: a number of microseconds is that of exactly one instant of whole
  microseconds outside a leap second.
* `Instant.ofMicros?_micros_eq_none_iff`: only the leap second at the very end of time counts
  microseconds of which no instant is made.
* `Instant.micros_le_iff`: whole instants are in the order of their microseconds.
-/

namespace AuditTrail

-- Sums start from the zero of the core library.
attribute [local instance (high)] Zero.ofOfNat0

namespace Date

/-! ## Years -/

/-- Four hundred years have 146097 days, and no year is far from their average. -/
theorem yearStart_bounds (year : Int) :
    146097 * year - 400 < 400 * yearStart year ∧ 400 * yearStart year < 146097 * year + 800 := by
  unfold yearStart
  omega

/-- A year is as long as its months. -/
theorem yearStart_succ (year : Int) :
    yearStart (year + 1) = yearStart year + (monthLengths (isLeap year)).sum := by
  have hlength : ((monthLengths (isLeap year)).sum : Int) =
      if isLeap year = true then 366 else 365 := by
    cases isLeap year <;> rfl
  rw [hlength]
  simp only [isLeap, yearStart, Bool.and_eq_true, Bool.or_eq_true, decide_eq_true_eq]
  split <;> omega

/-- The day lies in the year. -/
theorem yearOfDay_spec (day : Int) :
    yearStart (yearOfDay day) ≤ day ∧ day < yearStart (yearOfDay day + 1) := by
  -- The guess is off by one at the most.
  have hbefore := yearStart_bounds (day * 400 / 146097 - 1)
  have hbehind := yearStart_bounds (day * 400 / 146097 + 1 + 1)
  rw [yearOfDay]
  split
  · next h =>
    rw [Int.sub_add_cancel]
    omega
  · split
    · next h₁ h₂ => exact ⟨Int.not_lt.1 h₁, h₂⟩
    · next h₁ h₂ => omega

/-! ## Months -/

/-- A day among months of some lengths is a day of one of them. -/
theorem monthOfDay_spec {lengths : List Nat} {rest : Nat} (h : rest < lengths.sum) (first : Nat) :
    ∃ (i : Nat) (hi : i < lengths.length) (day : Nat),
      monthOfDay lengths first rest = (first + i, day + 1) ∧ day < lengths[i] ∧
        rest = (lengths.take i).sum + day := by
  induction lengths generalizing rest first with
  | nil => simp at h
  | cons length more ih =>
    rw [monthOfDay]
    split
    · next hday => exact ⟨0, Nat.succ_pos _, rest, rfl, hday, by simp⟩
    · next hday =>
      rw [List.sum_cons] at h
      obtain ⟨i, hi, day, hmonth, hlt, hrest⟩ := ih (show rest - length < more.sum by omega)
        (first + 1)
      refine ⟨i + 1, Nat.succ_lt_succ hi, day, ?_, hlt, ?_⟩
      · rw [hmonth, Nat.add_assoc, Nat.add_comm 1]
      · rw [List.take_succ_cons, List.sum_cons]
        omega

theorem length_monthLengths (leap : Bool) : (monthLengths leap).length = 12 := rfl

theorem monthLengths_le {leap : Bool} {n : Nat} (h : n ∈ monthLengths leap) : n ≤ 31 := by
  revert n
  cases leap <;> decide

/-! ## Days -/

/-- A number of days is that of a date in the calendar. -/
theorem ofDayNumber_spec (n : Int) :
    (ofDayNumber n).IsValid ∧ (ofDayNumber n).dayNumber = n ∧ (ofDayNumber n).month ≤ 12 ∧
      (ofDayNumber n).day ≤ 31 := by
  obtain ⟨hstart, hend⟩ := yearOfDay_spec (n + epoch)
  rw [yearStart_succ] at hend
  obtain ⟨i, hi, day, hmonth, hday, hrest⟩ := monthOfDay_spec
    (show (n + epoch - yearStart (yearOfDay (n + epoch))).toNat <
      (monthLengths (isLeap (yearOfDay (n + epoch)))).sum by omega) 1
  have hdate : ofDayNumber n = ⟨yearOfDay (n + epoch), 1 + i, day + 1⟩ := by
    rw [ofDayNumber, hmonth]
  have hle := monthLengths_le (List.getElem_mem hi)
  rw [hdate]
  refine ⟨⟨Nat.le_add_right 1 i, Nat.le_add_left 1 day, ?_⟩, ?_, ?_, ?_⟩
  · rw [Nat.add_sub_cancel_left, List.getD_eq_getElem?_getD, List.getElem?_eq_getElem hi]
    exact hday
  · simp only [dayNumber, Nat.add_sub_cancel_left]
    omega
  · rw [length_monthLengths] at hi
    exact Nat.one_add_le_iff.2 hi
  · exact Nat.le_trans hday hle

end Date

end AuditTrail

namespace AuditTrail.Instant

/-! ## Microseconds -/

/-- A whole number of microseconds, and not in a leap second. -/
def IsWhole (t : Instant) : Prop := t.truncated = t ∧ t.isLeap = false

instance (t : Instant) : Decidable t.IsWhole :=
  inferInstanceAs (Decidable (t.truncated = t ∧ t.isLeap = false))

/-- In the leap second that follows the last second of all. -/
def IsBeyondLast (t : Instant) : Prop := t.isLeap = true ∧ t.second = 8210266876799

instance (t : Instant) : Decidable t.IsBeyondLast :=
  inferInstanceAs (Decidable (t.isLeap = true ∧ t.second = 8210266876799))

@[ext] theorem ext {a b : Instant} (hs : a.second = b.second) (hn : a.nano = b.nano) : a = b := by
  cases a; cases b; simp_all

theorem ofParts?_eq_some_iff {second : Int} {nano : Nat} {t : Instant} :
    ofParts? second nano = some t ↔ t.second = second ∧ t.nano = nano := by
  unfold ofParts?
  split
  · constructor
    · rintro ⟨⟩
      exact ⟨rfl, rfl⟩
    · rintro ⟨rfl, rfl⟩
      rfl
  · next h =>
    constructor
    · intro hnone
      cases hnone
    · rintro ⟨rfl, rfl⟩
      exact absurd ⟨t.first_le, t.le_last, t.nano_lt, t.leap_last⟩ h

/-- A number of microseconds is that of one instant of whole microseconds. -/
theorem ofMicros?_eq_some_iff {n : Int} {t : Instant} :
    ofMicros? n = some t ↔ t.micros = n ∧ t.IsWhole := by
  have hmod := Int.emod_nonneg n (show (1000000 : Int) ≠ 0 by decide)
  have hlt := Int.emod_lt_of_pos n (show (0 : Int) < 1000000 by decide)
  rw [ofMicros?, ofParts?_eq_some_iff, micros, IsWhole, Instant.ext_iff, isLeap]
  simp only [truncated, decide_eq_false_iff_not, true_and]
  constructor
  · rintro ⟨hs, hn⟩
    refine ⟨?_, ?_, ?_⟩ <;> omega
  · rintro ⟨hn, hwhole, hleap⟩
    omega

theorem ofMicros?_micros {t : Instant} (h : t.IsWhole) : ofMicros? t.micros = some t :=
  ofMicros?_eq_some_iff.2 ⟨rfl, h⟩

/-- No instant is made of the microseconds of the leap second at the end of time. -/
theorem ofMicros?_micros_eq_none_iff {t : Instant} :
    ofMicros? t.micros = none ↔ t.IsBeyondLast := by
  have hfirst := t.first_le
  have hlast := t.le_last
  have hnano := t.nano_lt
  rw [ofMicros?, ofParts?, IsBeyondLast, isLeap, micros]
  split
  · next h =>
    simp only [decide_eq_true_eq, reduceCtorEq, false_iff]
    rintro ⟨hleap, hs⟩
    omega
  · next h =>
    simp only [decide_eq_true_eq, true_iff]
    refine Decidable.byContradiction fun hnot => h ⟨?_, ?_, ?_, ?_⟩ <;> omega

/-! ## Order -/

theorem le_iff {a b : Instant} :
    a.le b = true ↔ a.second < b.second ∨ a.second = b.second ∧ a.nano ≤ b.nano := by
  simp [le]

theorem le_trans {a b c : Instant} (hab : a.le b = true) (hbc : b.le c = true) :
    a.le c = true := by
  rw [le_iff] at *
  omega

theorem le_total (a b : Instant) : (a.le b || b.le a) = true := by
  rw [Bool.or_eq_true, le_iff, le_iff]
  omega

theorem IsWhole.nano_mod {t : Instant} (h : t.IsWhole) : t.nano % 1000 = 0 := by
  have := congrArg nano h.1
  simp only [truncated] at this
  omega

/-- Whole instants are in the order of their microseconds. -/
theorem micros_le_iff {a b : Instant} (ha : a.IsWhole) (hb : b.IsWhole) :
    a.micros ≤ b.micros ↔ a.le b = true := by
  have hna := ha.nano_mod
  have hnb := hb.nano_mod
  have hla := ha.2
  have hlb := hb.2
  simp only [isLeap, decide_eq_false_iff_not] at hla hlb
  rw [le_iff, micros, micros]
  omega

/-- The leap second at the end of time. -/
def beyondLast : Instant := ⟨8210266876799, 1000000000, by decide, by decide, by decide, by decide⟩

end AuditTrail.Instant
