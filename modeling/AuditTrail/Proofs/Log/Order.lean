import AuditTrail.Entry.Basic
import AuditTrail.Proofs.Instant.Basic
import Mathlib.Data.List.Nodup

/-!
# The order of reading

* `Log.newest`: items by descending instant; `Log.latest`: items by descending number, as of
  microseconds. Items that are level stay in the order that they had.
* `Log.filter_mergeSort`, `Log.filter_newest`, `Log.filter_latest`: what is left of a sorted list is
  in the order that it has alone.
* `Log.cut_of_pairwise`, `Log.pairwise_of_cut`: a list is in descending order exactly if every
  number cuts it into what is above it, what is level with it and what is below it.
-/

namespace AuditTrail.Log

variable {α β : Type}

/-! ## Sorting what is left -/

section Sorting

variable {le : α → α → Bool} (trans : ∀ a b c, le a b = true → le b c = true → le a c = true)
  (total : ∀ a b, (le a b || le b a) = true)

include trans total

/-- A new item divides the others: those in front of it come before it. -/
theorem exists_mergeSort_cons (a : α) (xs : List α) :
    ∃ front rest, (a :: xs).mergeSort le = front ++ a :: rest ∧ xs.mergeSort le = front ++ rest ∧
      (∀ b ∈ front, (!le a b) = true) ∧ ∀ b ∈ rest, le a b = true := by
  obtain ⟨front, rest, hcons, hxs, hfront⟩ := List.mergeSort_cons trans total a xs
  have hsorted := List.pairwise_mergeSort trans total (a :: xs)
  rw [hcons, List.pairwise_append, List.pairwise_cons] at hsorted
  exact ⟨front, rest, hcons, hxs, hfront, hsorted.2.1.1⟩

/-- A new item stands in front of the first that does not come before it. -/
theorem mergeSort_cons_eq (a : α) (xs : List α) :
    (a :: xs).mergeSort le =
      (xs.mergeSort le).takeWhile (fun b => !le a b) ++
        a :: (xs.mergeSort le).dropWhile fun b => !le a b := by
  obtain ⟨front, rest, hcons, hxs, hfront, hrest⟩ := exists_mergeSort_cons trans total a xs
  rw [hcons, hxs, List.takeWhile_append_of_pos hfront, List.dropWhile_append_of_pos hfront]
  cases rest with
  | nil => simp
  | cons b rest => simp [hrest b List.mem_cons_self]

/-- Items that are left of a sorted list are in the order that they have alone. -/
theorem filter_mergeSort (p : α → Bool) (xs : List α) :
    (xs.mergeSort le).filter p = (xs.filter p).mergeSort le := by
  induction xs with
  | nil => simp
  | cons a xs ih =>
    obtain ⟨front, rest, hcons, hxs, hfront, hrest⟩ := exists_mergeSort_cons trans total a xs
    rw [hxs, List.filter_append] at ih
    rw [hcons, List.filter_append, List.filter_cons]
    split
    · next hp =>
      have hfront' : ∀ b ∈ front.filter p, (!le a b) = true :=
        fun b hb => hfront b (List.mem_of_mem_filter hb)
      rw [List.filter_cons_of_pos hp, mergeSort_cons_eq trans total, ← ih,
        List.takeWhile_append_of_pos hfront', List.dropWhile_append_of_pos hfront']
      cases hr : rest.filter p with
      | nil => simp
      | cons b bs =>
        have hb : b ∈ rest := List.mem_of_mem_filter (hr ▸ List.mem_cons_self)
        simp [hrest b hb]
    · next hp => rw [List.filter_cons_of_neg hp, ← ih]

end Sorting

/-! ## The newest first -/

section Newest

variable (instant : α → Instant)

/-- The items by descending instant, those of the same instant in the order that they had. -/
def newest (xs : List α) : List α := xs.mergeSort fun a b => (instant b).le (instant a)

theorem mem_newest {a : α} {xs : List α} : a ∈ newest instant xs ↔ a ∈ xs := List.mem_mergeSort

theorem newest_trans (a b c : α) (hab : (instant b).le (instant a) = true)
    (hbc : (instant c).le (instant b) = true) : (instant c).le (instant a) = true :=
  Instant.le_trans hbc hab

theorem newest_total (a b : α) :
    ((instant b).le (instant a) || (instant a).le (instant b)) = true :=
  Instant.le_total _ _

/-- A new item stands in front of the first that is not newer. -/
theorem newest_cons (a : α) (xs : List α) :
    newest instant (a :: xs) =
      (newest instant xs).takeWhile (fun b => !(instant b).le (instant a)) ++
        a :: (newest instant xs).dropWhile fun b => !(instant b).le (instant a) :=
  mergeSort_cons_eq (newest_trans instant) (newest_total instant) a xs

/-- Items that are left of the order are in the order that they have alone. -/
theorem filter_newest (p : α → Bool) (xs : List α) :
    (newest instant xs).filter p = newest instant (xs.filter p) :=
  filter_mergeSort (newest_trans instant) (newest_total instant) p xs

theorem pairwise_newest (xs : List α) :
    (newest instant xs).Pairwise fun a b => (instant b).le (instant a) = true :=
  List.pairwise_mergeSort (newest_trans instant) (newest_total instant) xs

variable {instant} in
theorem map_newest {instant' : β → Instant} {f : α → β} {xs : List α}
    (h : ∀ a ∈ xs, instant' (f a) = instant a) :
    (newest instant xs).map f = newest instant' (xs.map f) :=
  List.map_mergeSort fun a ha b hb => by rw [h a ha, h b hb]

end Newest

/-! ## The greatest number first -/

section Latest

variable (number : α → Int)

/-- The items by descending number, those of the same number in the order that they had. -/
def latest (xs : List α) : List α := xs.mergeSort fun a b => number b ≤ number a

theorem latest_trans (a b c : α) (hab : decide (number b ≤ number a) = true)
    (hbc : decide (number c ≤ number b) = true) : decide (number c ≤ number a) = true := by
  rw [decide_eq_true_iff] at *
  omega

theorem latest_total (a b : α) :
    (decide (number b ≤ number a) || decide (number a ≤ number b)) = true := by
  rw [Bool.or_eq_true, decide_eq_true_iff, decide_eq_true_iff]
  omega

theorem filter_latest (p : α → Bool) (xs : List α) :
    (latest number xs).filter p = latest number (xs.filter p) :=
  filter_mergeSort (latest_trans number) (latest_total number) p xs

theorem pairwise_latest (xs : List α) :
    (latest number xs).Pairwise fun a b => number b ≤ number a :=
  (List.pairwise_mergeSort (latest_trans number) (latest_total number) xs).imp of_decide_eq_true

variable {number} in
theorem map_latest {number' : β → Int} {f : α → β} {xs : List α}
    (h : ∀ a ∈ xs, number' (f a) = number a) :
    (latest number xs).map f = latest number' (xs.map f) :=
  List.map_mergeSort fun a ha b hb => by rw [h a ha, h b hb]

/-! ## Cutting the order -/

/-- What is above a number, what is level with it and what is below it. -/
def cut (t : Int) (xs : List α) : List α :=
  xs.filter (fun a => t < number a) ++ xs.filter (fun a => number a = t) ++
    xs.filter fun a => number a < t

variable {number}

/-- Every number cuts a list in descending order into runs. -/
theorem cut_of_pairwise {xs : List α} (h : xs.Pairwise fun a b => number b ≤ number a) (t : Int) :
    cut number t xs = xs := by
  induction xs with
  | nil => rfl
  | cons a xs ih =>
    obtain ⟨ha, h⟩ := List.pairwise_cons.1 h
    have hnil : ∀ p : α → Bool, (∀ b ∈ xs, p b = false) → xs.filter p = [] :=
      fun p hp => List.filter_eq_nil_iff.2 fun b hb => by simp [hp b hb]
    have ih := ih h
    unfold cut at ih ⊢
    -- An item that is not above the number has none behind it that is.
    obtain hlt | rfl | hgt := Int.lt_trichotomy t (number a)
    · have hne : number a ≠ t := by omega
      have hnot : ¬ number a < t := by omega
      simpa [hlt, hne, hnot] using ih
    · have habove := hnil (fun b => number a < number b) fun b hb => by
        simpa using ha b hb
      simpa [habove] using ih
    · have hne : number a ≠ t := by omega
      have hnot : ¬ t < number a := by omega
      have habove := hnil (fun b => t < number b) fun b hb => by
        have := ha b hb
        simp only [decide_eq_false_iff_not]
        omega
      have hlevel := hnil (fun b => number b = t) fun b hb => by
        have := ha b hb
        simp only [decide_eq_false_iff_not]
        omega
      simpa [hgt, hne, hnot, habove, hlevel] using ih

/-- A list that every number cuts into runs is in descending order. -/
theorem pairwise_of_cut {xs : List α} (h : ∀ a ∈ xs, cut number (number a) xs = xs) :
    xs.Pairwise fun a b => number b ≤ number a := by
  have hcut : ∀ t, (cut number t xs).Pairwise fun a b => number b = t → t ≤ number a := by
    intro t
    have hfront : ∀ a ∈ xs.filter (fun a => t < number a) ++ xs.filter (fun a => number a = t),
        t ≤ number a := by
      simp only [List.mem_append, List.mem_filter, decide_eq_true_eq]
      rintro a (⟨-, ha⟩ | ⟨-, ha⟩) <;> omega
    have hback : ∀ a ∈ xs.filter (fun a => number a < t), number a ≠ t := by
      simp only [List.mem_filter, decide_eq_true_eq]
      rintro a ⟨-, ha⟩
      omega
    refine List.pairwise_append.2 ⟨?_, ?_, fun a ha _ _ _ => hfront a ha⟩
    · exact List.pairwise_of_forall_mem_list fun a ha _ _ _ => hfront a ha
    · exact List.pairwise_of_forall_mem_list fun _ _ b hb heq => absurd heq (hback b hb)
  refine List.pairwise_iff_forall_sublist.2 fun {a b} hab => ?_
  have hb : b ∈ xs := hab.subset (by simp)
  have hsub : [a, b].Sublist (cut number (number b) xs) := by rwa [h b hb]
  exact List.pairwise_iff_forall_sublist.1 (hcut (number b)) hsub rfl

end Latest

end AuditTrail.Log
