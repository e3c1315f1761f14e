import AuditTrail.Command.Clause
import AuditTrail.Proofs.EntryId
import Mathlib.Data.List.TakeWhile

/-!
# White space and separators

* `Trims`: what is left of a text without the white space at its ends; `trimChars_eq_iff`.
* `splitFirst_eq_some_iff`, `splitLast_eq_some_iff`: a text is cut at the first separator, and at
  the last one. `splitAll_eq_splitOn`: it is cut at all of them as a list is.
* `IsItem`: a text that is not changed between commas; `isItem_of_plain`.
* `commaSeparated_joinWith`: such texts are read back from between commas.
-/

namespace AuditTrail

namespace Text

/-! ## White space at the ends -/

/-- The word stands in the text with nothing but white space around it, and has none at its
ends. -/
structure Trims (cs word : List Char) : Prop where
  stands : ∃ front back, cs = front ++ word ++ back ∧ (∀ c ∈ front, isBlank c = true) ∧
    ∀ c ∈ back, isBlank c = true
  start : StopsAt isBlank word
  finish : StopsAt isBlank word.reverse

theorem stopsAt_dropWhile (p : Char → Bool) (cs : List Char) : StopsAt p (cs.dropWhile p) := by
  induction cs with
  | nil => exact stopsAt_nil p
  | cons c cs ih =>
    rw [List.dropWhile_cons]
    split_ifs with hc
    · exact ih
    · exact stopsAt_cons.2 (eq_false_of_ne_true hc)

theorem exists_append_dropWhile (p : Char → Bool) (cs : List Char) :
    ∃ run, cs = run ++ cs.dropWhile p ∧ ∀ c ∈ run, p c = true :=
  ⟨cs.takeWhile p, List.takeWhile_append_dropWhile.symm, fun _ hc => List.mem_takeWhile_imp hc⟩

theorem trims_trimChars (cs : List Char) : Trims cs (trimChars cs) := by
  obtain ⟨front, hfront, hblank⟩ := exists_append_dropWhile isBlank cs
  obtain ⟨back, hback, hblank'⟩ := exists_append_dropWhile isBlank (trimStart cs).reverse
  have hrest : trimStart cs = trimChars cs ++ back.reverse := by
    rw [← List.reverse_inj, List.reverse_append, List.reverse_reverse, trimChars, trimEnd,
      List.reverse_reverse]
    exact hback
  refine ⟨⟨front, back.reverse, ?_, hblank, fun c hc => hblank' c (List.mem_reverse.1 hc)⟩, ?_, ?_⟩
  · rw [List.append_assoc, ← hrest]
    exact hfront
  · -- The word starts as what the white space in front is cut from, unless nothing is left.
    intro c hc
    refine stopsAt_dropWhile isBlank cs c ?_
    rw [← trimStart, hrest, List.head?_append, hc]
    rfl
  · rw [trimChars, trimEnd, List.reverse_reverse]
    exact stopsAt_dropWhile isBlank _

/-- The text without the white space at its two ends is the only such word. -/
theorem trimChars_eq_iff {cs word : List Char} : trimChars cs = word ↔ Trims cs word := by
  refine ⟨fun h => h ▸ trims_trimChars cs, ?_⟩
  rintro ⟨⟨front, back, rfl, hfront, hback⟩, hstart, hfinish⟩
  rw [trimChars, trimStart, List.append_assoc, List.dropWhile_append_of_pos hfront]
  cases word with
  | nil => simp [trimEnd, List.dropWhile_eq_nil_iff.2 hback]
  | cons c word =>
    have hkeep : (c :: word ++ back).dropWhile isBlank = c :: word ++ back := by
      simp [stopsAt_cons.1 hstart]
    rw [hkeep, trimEnd, List.reverse_append,
      dropWhile_append_stop (fun c hc => hback c (List.mem_reverse.1 hc)) hfinish,
      List.reverse_reverse]

/-! ## Separators -/

variable {sep : Char} {a : List Char}

theorem splitFirst_append (h : sep ∉ a) (b : List Char) :
    splitFirst sep (a ++ sep :: b) = some (a, b) := by
  induction a with
  | nil => simp [splitFirst]
  | cons c a ih =>
    obtain ⟨hc, ha⟩ := not_or.1 (mt List.mem_cons.2 h)
    rw [List.cons_append, splitFirst, if_neg (Ne.symm hc), ih ha]
    rfl

/-- A text is cut at the separator before which no other stands. -/
theorem splitFirst_eq_some_iff {cs b : List Char} :
    splitFirst sep cs = some (a, b) ↔ cs = a ++ sep :: b ∧ sep ∉ a := by
  constructor
  · intro h
    refine ⟨splitFirst_eq_some h, ?_⟩
    induction cs generalizing a with
    | nil => cases h
    | cons c cs ih =>
      rw [splitFirst] at h
      split at h
      · obtain ⟨rfl, -⟩ := Prod.mk.inj (Option.some.inj h)
        exact List.not_mem_nil
      · next hc =>
        obtain ⟨⟨front, rest⟩, hs, heq⟩ := Option.map_eq_some_iff.1 h
        obtain ⟨rfl, rfl⟩ := Prod.mk.inj heq
        exact fun hmem => (List.mem_cons.1 hmem).elim (fun heq => hc heq.symm) (ih hs)
  · rintro ⟨rfl, ha⟩
    exact splitFirst_append ha b

theorem splitLast_eq_none_iff {cs : List Char} : splitLast sep cs = none ↔ sep ∉ cs := by
  induction cs with
  | nil => simp [splitLast]
  | cons c cs ih =>
    rw [splitLast, List.mem_cons, not_or, ← ih]
    cases splitLast sep cs with
    | none => simp [eq_comm]
    | some p => simp

/-- A text is cut at the separator behind which no other follows. -/
theorem splitLast_eq_some_iff {cs b : List Char} :
    splitLast sep cs = some (a, b) ↔ cs = a ++ sep :: b ∧ sep ∉ b := by
  constructor
  · intro h
    refine ⟨splitLast_eq_some h, ?_⟩
    induction cs generalizing a with
    | nil => cases h
    | cons c cs ih =>
      rw [splitLast] at h
      split at h
      · next hs =>
        obtain ⟨-, rfl⟩ := Prod.mk.inj (Option.some.inj h)
        exact ih hs
      · next hnone =>
        split at h
        · obtain ⟨-, rfl⟩ := Prod.mk.inj (Option.some.inj h)
          exact splitLast_eq_none_iff.1 hnone
        · cases h
  · rintro ⟨rfl, hb⟩
    induction a with
    | nil => rw [List.nil_append, splitLast, splitLast_eq_none_iff.2 hb, if_pos rfl]
    | cons c a ih => rw [List.cons_append, splitLast, ih]

theorem splitAll_of_not_mem (h : sep ∉ a) : splitAll sep a = [a] := by
  induction a with
  | nil => rfl
  | cons c a ih =>
    obtain ⟨hc, ha⟩ := not_or.1 (mt List.mem_cons.2 h)
    rw [splitAll, if_neg (Ne.symm hc), ih ha]

theorem splitAll_append (h : sep ∉ a) (b : List Char) :
    splitAll sep (a ++ sep :: b) = a :: splitAll sep b := by
  induction a with
  | nil => simp [splitAll]
  | cons c a ih =>
    obtain ⟨hc, ha⟩ := not_or.1 (mt List.mem_cons.2 h)
    rw [List.cons_append, splitAll, if_neg (Ne.symm hc), ih ha]

/-- A text is cut at all separators as a list is. -/
theorem splitAll_eq_splitOn (sep : Char) (cs : List Char) : splitAll sep cs = cs.splitOn sep := by
  induction cs with
  | nil => rfl
  | cons c cs ih =>
    rw [splitAll, ih, List.splitOn_cons_eq_if_modifyHead]
    by_cases hc : c = sep
    · simp [hc]
    · rw [if_neg hc, if_neg (by simpa using hc)]
      cases h : cs.splitOn sep with
      | nil => exact absurd h (List.splitOn_ne_nil sep cs)
      | cons piece pieces => rfl

theorem splitAll_ne_nil (sep : Char) (cs : List Char) : splitAll sep cs ≠ [] :=
  splitAll_eq_splitOn sep cs ▸ List.splitOn_ne_nil sep cs

theorem splitAll_append_separator (sep : Char) (cs b : List Char) :
    splitAll sep (cs ++ sep :: b) = splitAll sep cs ++ splitAll sep b := by
  induction cs with
  | nil => simp [splitAll]
  | cons c cs ih =>
    rw [List.cons_append, splitAll, splitAll, ih]
    split
    · rfl
    · cases h : splitAll sep cs with
      | nil => exact absurd h (splitAll_ne_nil sep cs)
      | cons piece pieces => rfl

/-- Texts without the separator are read back from between separators, if there are any. -/
theorem splitAll_joinWith {texts : List String} (hne : texts ≠ [])
    (h : ∀ s ∈ texts, sep ∉ s.toList) :
    splitAll sep (joinWith (String.singleton sep) texts).toList = texts.map String.toList := by
  induction texts with
  | nil => exact absurd rfl hne
  | cons s more ih =>
    obtain ⟨hs, hmore⟩ := List.forall_mem_cons.1 h
    cases more with
    | nil => exact splitAll_of_not_mem hs
    | cons t rest =>
      have hjoin : (joinWith (String.singleton sep) (s :: t :: rest)).toList =
          s.toList ++ sep :: (joinWith (String.singleton sep) (t :: rest)).toList := by
        simp [joinWith]
      rw [hjoin, splitAll_append hs, ih (List.cons_ne_nil t rest) hmore]
      rfl

/-- A text without commas, and without white space at its ends. -/
def IsItem (s : String) : Prop := ',' ∉ s.toList ∧ trim s = s

instance (s : String) : Decidable (IsItem s) := inferInstanceAs (Decidable (_ ∧ _))

/-- Neither a comma nor white space. -/
def IsPlain (c : Char) : Prop := c ≠ ',' ∧ isBlank c = false

instance (c : Char) : Decidable (IsPlain c) := inferInstanceAs (Decidable (_ ∧ _))

/-- A text of plain characters is an item. -/
theorem isItem_of_plain {cs : List Char} (h : ∀ c ∈ cs, IsPlain c) :
    IsItem (String.ofList cs) := by
  rw [IsItem, trim, String.toList_ofList,
    EntryId.trimChars_of_not_blank fun c hc => (h c hc).2]
  exact ⟨fun hc => (h ',' hc).1 rfl, rfl⟩

theorem isPlain_of_isDigit {c : Char} (h : c.isDigit = true) : IsPlain c := by
  simp only [Char.isDigit, Bool.and_eq_true, decide_eq_true_eq] at h
  have hfirst : '0'.toNat ≤ c.toNat := UInt32.le_iff_toNat_le.1 h.1
  have hlast : c.toNat ≤ '9'.toNat := UInt32.le_iff_toNat_le.1 h.2
  simp only [Char.reduceToNat] at hfirst hlast
  constructor
  · rintro rfl
    revert hfirst
    decide
  · simp only [isBlank, Bool.or_eq_false_iff, Bool.and_eq_false_iff, decide_eq_false_iff_not,
      beq_eq_false_iff_ne]
    omega

end Text

open Text

theorem EntryId.isItem_text (id : EntryId) : IsItem id.text :=
  isItem_of_plain fun c hc => (plain_of_mem_hyphenated c hc).2

/-- A text without commas is the only one. -/
theorem Filter.commaSeparated_of_not_mem {s : String} (h : ',' ∉ s.toList) :
    commaSeparated s.toList = [trim s] := by
  rw [commaSeparated, splitAll_of_not_mem h]
  rfl

/-- Items are read back from between commas, if there are any. -/
theorem Filter.commaSeparated_joinWith {texts : List String} (hne : texts ≠ [])
    (h : ∀ s ∈ texts, IsItem s) : commaSeparated (joinWith "," texts).toList = texts := by
  have hsplit : splitAll ',' (joinWith "," texts).toList = texts.map String.toList :=
    splitAll_joinWith hne fun s hs => (h s hs).1
  have htrim : texts.map trim = texts :=
    (List.map_congr_left fun s hs => (h s hs).2).trans (List.map_id' texts)
  rw [commaSeparated, hsplit, List.map_map]
  exact htrim

end AuditTrail
