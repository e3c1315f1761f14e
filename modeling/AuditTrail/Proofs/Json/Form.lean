import AuditTrail.Proofs.Json.Grammar

/-!
# JSON texts are read back

* `Form.WellSpelt`: numbers and strings as they are written. The compact text of such a form spells
  it (`Form.speltBy_chars`), so that the form is read back from it (`Form.ofChars?_chars`) and the
  text determines the form (`Form.chars_injective`).
-/

namespace AuditTrail.Json

open Text NumberForm

/-! ## Strings -/

/-- A piece as it is written: a control character has a short escape or is a number. -/
def Piece.WellSpelt : Piece → Prop
  | .unit n => n < 2 ^ 16
  | .char c => shortEscape? c = none → 0x20 ≤ c.toNat

theorem hexUnit?_fourHex {n : Nat} (h : n < 2 ^ 16) :
    hexUnit? (hexDigitOf (n / 4096 % 16)) (hexDigitOf (n / 256 % 16)) (hexDigitOf (n / 16 % 16))
      (hexDigitOf (n % 16)) = some n := by
  have hlt : ∀ k, k % 16 < 16 := fun k => Nat.mod_lt _ (by decide)
  simp only [hexUnit?, hexDigit?_hexDigitOf (hlt _), Option.bind_eq_bind, Option.bind_some]
  exact congrArg some (by omega)

/-- A short escape stands for its character. -/
theorem unescape?_of_shortEscape? {c e : Char} (h : shortEscape? c = some e) :
    unescape? e = some c := by
  unfold shortEscape? at h
  split at h
  · next hc => cases h; subst hc; rfl
  · repeat (split at h; · next hc => cases h; subst hc; rfl)
    cases h

theorem ne_of_shortEscape?_none {c : Char} (h : shortEscape? c = none) : c ≠ '"' ∧ c ≠ '\\' := by
  constructor <;> rintro rfl <;> exact absurd h (by decide)

theorem Piece.speltBy_chars {p : Piece} (h : p.WellSpelt) : p.SpeltBy p.chars := by
  cases p with
  | unit n => exact ⟨_, _, _, _, hexUnit?_fourHex h, rfl⟩
  | char c =>
    rw [Piece.chars]
    cases he : shortEscape? c with
    | some e => exact .inr ⟨e, unescape?_of_shortEscape? he, rfl⟩
    | none => exact .inl ⟨⟨h he, ne_of_shortEscape?_none he⟩, rfl⟩

theorem quotedBy_quoted {pieces : List Piece} (h : ∀ p ∈ pieces, p.WellSpelt) :
    QuotedBy pieces (quoted pieces) := by
  refine ⟨pieces.flatMap Piece.chars, ?_, rfl⟩
  induction pieces with
  | nil => rfl
  | cons p pieces ih =>
    obtain ⟨hp, hpieces⟩ := List.forall_mem_cons.1 h
    exact ⟨p.chars, _, Piece.speltBy_chars hp, ih hpieces, List.flatMap_cons⟩

namespace Form

mutual

/-- Numbers and strings as they are written. -/
def WellSpelt : Form → Prop
  | .null => True
  | .bool _ => True
  | .number n => n.WellSpelt
  | .string pieces => ∀ p ∈ pieces, p.WellSpelt
  | .array items => WellSpeltItems items
  | .object members => WellSpeltMembers members

/-- All items as they are written. -/
def WellSpeltItems : List Form → Prop
  | [] => True
  | item :: items => WellSpelt item ∧ WellSpeltItems items

/-- All keys and values as they are written. -/
def WellSpeltMembers : List (List Piece × Form) → Prop
  | [] => True
  | (key, value) :: members =>
    (∀ p ∈ key, p.WellSpelt) ∧ WellSpelt value ∧ WellSpeltMembers members

end

/-! ## The whole form -/

mutual

/-- The compact text spells the form. -/
theorem speltBy_chars : ∀ {f : Form}, f.WellSpelt → f.SpeltBy f.chars
  | .null, _ => rfl
  | .bool true, _ => rfl
  | .bool false, _ => rfl
  | .number _, h => NumberForm.speltBy_chars h
  | .string _, h => quotedBy_quoted h
  | .array [], _ => ⟨[], .inl ⟨rfl, areSpaces_nil⟩, rfl⟩
  | .array (item :: items), h => by
    obtain ⟨body, hbody, hchars⟩ := itemsSpeltBy_chars (speltBy_chars h.1) h.2
    exact ⟨body, .inr hbody, by rw [chars, List.cons_append, hchars]⟩
  | .object [], _ => ⟨[], .inl ⟨rfl, areSpaces_nil⟩, rfl⟩
  | .object ((key, value) :: members), h => by
    obtain ⟨body, hbody, hchars⟩ :=
      membersSpeltBy_chars (quotedBy_quoted h.1) (speltBy_chars h.2.1) h.2.2
    exact ⟨body, .inr hbody, by simp [chars, ← hchars]⟩

theorem itemsSpeltBy_chars : ∀ {item : Form} {items : List Form}, item.SpeltBy item.chars →
    WellSpeltItems items →
      ∃ body, ItemsSpeltBy (item :: items) body ∧ item.chars ++ moreItems items = body ++ [']']
  | item, [], hitem, _ => ⟨item.chars, ⟨_, spaced_self hitem, .inl ⟨rfl, rfl⟩⟩, rfl⟩
  | item, next :: items, hitem, h => by
    obtain ⟨body, hbody, hchars⟩ := itemsSpeltBy_chars (speltBy_chars h.1) h.2
    refine ⟨_, ⟨_, spaced_self hitem, .inr ⟨body, hbody, rfl⟩⟩, ?_⟩
    rw [moreItems, List.cons_append, hchars, List.append_assoc, List.cons_append]

theorem membersSpeltBy_chars : ∀ {key : List Piece} {value : Form}
    {members : List (List Piece × Form)}, QuotedBy key (quoted key) →
      value.SpeltBy value.chars → WellSpeltMembers members →
        ∃ body, MembersSpeltBy ((key, value) :: members) body ∧
          quoted key ++ ':' :: (value.chars ++ moreMembers members) = body ++ ['\x7d']
  | key, value, [], hkey, hvalue, _ =>
    ⟨_, ⟨_, _, spaced_self hkey, spaced_self hvalue, .inl ⟨rfl, rfl⟩⟩,
      by rw [moreMembers, List.append_assoc, List.cons_append]⟩
  | key, value, (key', value') :: members, hkey, hvalue, h => by
    obtain ⟨body, hbody, hchars⟩ :=
      membersSpeltBy_chars (quotedBy_quoted h.1) (speltBy_chars h.2.1) h.2.2
    refine ⟨_, ⟨_, _, spaced_self hkey, spaced_self hvalue, .inr ⟨body, hbody, rfl⟩⟩, ?_⟩
    rw [moreMembers, List.append_assoc, List.cons_append]
    simp [← hchars]

end

/-- Each form that is well spelt is the form of its text. -/
theorem ofChars?_chars {f : Form} (h : f.WellSpelt) : ofChars? f.chars = some f :=
  ofChars?_eq_some_iff.2 (spaced_self (speltBy_chars h))

/-- The text determines the form. -/
theorem chars_injective {f g : Form} (hf : f.WellSpelt) (hg : g.WellSpelt)
    (h : f.chars = g.chars) : f = g := by
  have := ofChars?_chars hf
  rw [h, ofChars?_chars hg] at this
  exact (Option.some.inj this).symm

end Form

end AuditTrail.Json
