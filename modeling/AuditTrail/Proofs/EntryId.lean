import AuditTrail.EntryId
import AuditTrail.Proofs.Text.Numeral

/-!
# Identifiers are read back

* `readHex_hexChars`, `readGroups_hyphenated`: bytes are read back from their digits, alone and in
  groups with hyphens between them.
* `parseExact_text`, `parse_text`: an identifier is read back from its text.
-/

namespace AuditTrail.EntryId

open Text

/-! ## Digits -/

theorem readHex_hexChars (bs : List UInt8) : readHex (hexChars bs) = some bs := by
  induction bs with
  | nil => rfl
  | cons b bs ih =>
    have hb := b.toNat_lt
    have hbyte : UInt8.ofNat (16 * (b.toNat / 16) + b.toNat % 16) = b := by
      rw [Nat.div_add_mod, UInt8.ofNat_toNat]
    have hchars : hexChars (b :: bs) =
        hexDigitOf (b.toNat / 16) :: hexDigitOf (b.toNat % 16) :: hexChars bs := rfl
    rw [hchars, readHex, hexDigit?_hexDigitOf (by omega), hexDigit?_hexDigitOf (by omega), ih]
    exact congrArg (fun c => some (c :: bs)) hbyte

theorem length_hexChars (bs : List UInt8) : (hexChars bs).length = 2 * bs.length := by
  induction bs with
  | nil => rfl
  | cons b bs ih =>
    have hchars : (hexChars (b :: bs)).length = (hexChars bs).length + 2 := rfl
    rw [hchars, ih, List.length_cons, Nat.mul_succ]

/-- Bytes are read back from groups, if there are enough of them. -/
theorem readGroups_hyphenated {ns : List Nat} {bs : List UInt8} (h : ns.sum ≤ bs.length) :
    readGroups ns (hyphenated ns bs) = some bs := by
  induction ns generalizing bs with
  | nil => exact readHex_hexChars bs
  | cons n ns ih =>
    rw [List.sum_cons] at h
    have hlength : (hexChars (bs.take n)).length = 2 * n := by
      rw [length_hexChars, List.length_take]
      omega
    have hrest := ih (show ns.sum ≤ (bs.drop n).length by rw [List.length_drop]; omega)
    rw [hyphenated, readGroups, List.drop_left' hlength, List.take_left' hlength]
    simp [readHex_hexChars, hrest]

theorem length_hyphenated {ns : List Nat} {bs : List UInt8} (h : ns.sum ≤ bs.length) :
    (hyphenated ns bs).length = 2 * bs.length + ns.length := by
  induction ns generalizing bs with
  | nil => exact length_hexChars bs
  | cons n ns ih =>
    rw [List.sum_cons] at h
    have hrest := ih (show ns.sum ≤ (bs.drop n).length by rw [List.length_drop]; omega)
    rw [hyphenated, List.length_append, List.length_cons, hrest, length_hexChars, List.length_take,
      List.length_drop, List.length_cons]
    omega

/-! ## Texts -/

/-- The characters of a text are digits and hyphens: one byte each, and neither white space nor
commas. -/
theorem plain_of_mem_hyphenated {ns : List Nat} {bs : List UInt8} :
    ∀ c ∈ hyphenated ns bs, c.utf8Size = 1 ∧ c ≠ ',' ∧ isBlank c = false := by
  have hdigit : ∀ n < 16, (hexDigitOf n).utf8Size = 1 ∧ hexDigitOf n ≠ ',' ∧
      isBlank (hexDigitOf n) = false := by
    decide
  have hhex : ∀ (bs : List UInt8), ∀ c ∈ hexChars bs,
      c.utf8Size = 1 ∧ c ≠ ',' ∧ isBlank c = false := by
    intro bs c hc
    obtain ⟨b, -, hc⟩ := List.mem_flatMap.1 hc
    have hb := b.toNat_lt
    simp only [hexPair, List.mem_cons, List.not_mem_nil, or_false] at hc
    rcases hc with rfl | rfl
    · exact hdigit _ (by omega)
    · exact hdigit _ (by omega)
  induction ns generalizing bs with
  | nil => exact hhex bs
  | cons n ns ih =>
    intro c hc
    rcases List.mem_append.1 hc with hc | hc
    · exact hhex _ c hc
    · rcases List.mem_cons.1 hc with rfl | hc
      · decide
      · exact ih c hc

theorem trimChars_of_not_blank {cs : List Char} (h : ∀ c ∈ cs, isBlank c = false) :
    trimChars cs = cs := by
  have hstart : ∀ {cs : List Char}, (∀ c ∈ cs, isBlank c = false) → cs.dropWhile isBlank = cs := by
    intro cs h
    cases cs with
    | nil => rfl
    | cons c cs => rw [List.dropWhile_cons, if_neg (by simp [h c List.mem_cons_self])]
  rw [trimChars, trimStart, hstart h, trimEnd, hstart fun c hc => h c (List.mem_reverse.1 hc),
    List.reverse_reverse]

theorem sum_groups_le (id : EntryId) : [4, 2, 2, 2].sum ≤ id.bytes.length := by
  rw [id.length_eq]
  decide

theorem byteLength_chars (id : EntryId) : byteLength id.chars = 36 := by
  have hones : id.chars.map Char.utf8Size = List.replicate id.chars.length 1 :=
    List.eq_replicate_iff.2 ⟨List.length_map _, fun n hn => by
      obtain ⟨c, hc, rfl⟩ := List.mem_map.1 hn
      exact (plain_of_mem_hyphenated c hc).1⟩
  rw [byteLength, hones, List.sum_replicate_nat, chars, length_hyphenated id.sum_groups_le,
    id.length_eq]
  rfl

theorem parseExact_text (id : EntryId) : parseExact id.text = .ok id := by
  have hbytes : readBytes id.chars = some id.bytes := by
    rw [readBytes, body?, byteLength_chars]
    exact readGroups_hyphenated id.sum_groups_le
  rw [parseExact, text, String.toList_ofList, hbytes]
  simp [id.length_eq]

/-- An identifier is read back from its text. -/
theorem parse_text (id : EntryId) : parse id.text = .ok id := by
  have htrim : trimChars id.chars = id.chars :=
    trimChars_of_not_blank fun c hc => (plain_of_mem_hyphenated c hc).2.2
  rw [parse, trim, text, String.toList_ofList, htrim]
  exact id.parseExact_text

theorem text_injective : Function.Injective text := by
  intro a b h
  have hparse := parse_text a
  rw [h, parse_text] at hparse
  exact (Except.ok.inj hparse).symm

end AuditTrail.EntryId
