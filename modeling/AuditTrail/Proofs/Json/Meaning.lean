import AuditTrail.Proofs.Json.Depth
import AuditTrail.Proofs.Json.Grammar

/-!
# Which texts have a value

* `Paired`: the halves of pairs of units stand side by side.
* `Form.HasValue`: a form nests within the room, none of its numbers is too large, and in its
  strings no half of a pair stands alone. `Form.value?_isSome_iff`: it is exactly these that mean a
  value.
* `Json.parse?_isSome_iff`, `Payload.parse?_isSome_iff`: the texts that have a value, and those that
  have an object.
-/

namespace AuditTrail

namespace NumberForm

/-- An integer that is read fits 64 bits. -/
theorem inRange_of_value? {f : NumberForm} {n : Number} (h : f.value? = some n) : n.InRange := by
  unfold value? at h
  simp only at h
  split at h
  · next hn =>
    obtain rfl := Option.some.inj h
    simp only [Number.InRange, Text.maxUnsigned] at hn ⊢
    omega
  · split at h
    · next hn =>
      obtain rfl := Option.some.inj h
      simp only [Number.InRange, Text.maxSigned] at hn ⊢
      omega
    · obtain ⟨x, -, rfl⟩ := Option.map_eq_some_iff.1 h
      trivial

end NumberForm

namespace Json

theorem isSome_bind_some {α β : Type} {f : α → β} {o : Option α} :
    (o.bind fun a => some (f a)).isSome = o.isSome := by
  cases o <;> rfl

theorem number?_isSome_iff {n : Number} : (number? n).isSome = true ↔ n.InRange := by
  cases n with
  | int i =>
    rw [number?]
    split
    · next h => exact iff_of_true rfl h
    · next h => exact iff_of_false (by simp) h
  | float x => exact iff_of_true rfl trivial

/-! ## Strings -/

/-- The first half of a pair of units. -/
def IsHigh (n : Nat) : Prop := 0xD800 ≤ n ∧ n < 0xDC00

/-- The second half of a pair of units. -/
def IsLow (n : Nat) : Prop := 0xDC00 ≤ n ∧ n < 0xE000

/-- The halves of pairs of units stand side by side. -/
inductive Paired : List Piece → Prop
  | nil : Paired []
  | char {c : Char} {pieces : List Piece} (h : Paired pieces) : Paired (.char c :: pieces)
  | unit {n : Nat} {pieces : List Piece} (hn : ¬ IsHigh n ∧ ¬ IsLow n) (h : Paired pieces) :
    Paired (.unit n :: pieces)
  | pair {m n : Nat} {pieces : List Piece} (hm : IsHigh m) (hn : IsLow n) (h : Paired pieces) :
    Paired (.unit m :: .unit n :: pieces)

theorem paired_char_iff {c : Char} {pieces : List Piece} :
    Paired (.char c :: pieces) ↔ Paired pieces :=
  ⟨fun | .char h => h, .char⟩

/-- The second half stands behind the first. -/
theorem paired_high_iff {m : Nat} {pieces : List Piece} (hm : IsHigh m) :
    Paired (.unit m :: pieces) ↔ ∃ n rest, pieces = .unit n :: rest ∧ IsLow n ∧ Paired rest := by
  constructor
  · intro h
    cases h with
    | unit hn => exact absurd hm hn.1
    | pair _ hn h => exact ⟨_, _, rfl, hn, h⟩
  · rintro ⟨n, rest, rfl, hn, h⟩
    exact .pair hm hn h

theorem paired_unit_iff {n : Nat} {pieces : List Piece} (hn : ¬ IsHigh n) :
    Paired (.unit n :: pieces) ↔ ¬ IsLow n ∧ Paired pieces := by
  constructor
  · intro h
    cases h with
    | unit hn h => exact ⟨hn.2, h⟩
    | pair hm => exact absurd hm hn
  · exact fun ⟨hlow, h⟩ => .unit ⟨hn, hlow⟩ h

theorem isHigh_or_isLow_iff {n : Nat} : IsHigh n ∨ IsLow n ↔ 0xD800 ≤ n ∧ n < 0xE000 := by
  unfold IsHigh IsLow
  omega

/-- A half of a pair stands alone in front of what is no unit. -/
theorem not_paired_of_half {n : Nat} {pieces : List Piece} (hn : 0xD800 ≤ n ∧ n < 0xE000)
    (hpieces : ∀ m rest, pieces ≠ .unit m :: rest) : ¬ Paired (.unit n :: pieces) := by
  by_cases hhigh : IsHigh n
  · rw [paired_high_iff hhigh]
    rintro ⟨m, rest, rfl, -⟩
    exact hpieces m rest rfl
  · rw [paired_unit_iff hhigh]
    exact fun h => h.1 ((isHigh_or_isLow_iff.2 hn).resolve_left hhigh)

theorem paired_whole_iff {n : Nat} {pieces : List Piece} (hn : ¬ (0xD800 ≤ n ∧ n < 0xE000)) :
    Paired (.unit n :: pieces) ↔ Paired pieces := by
  rw [← isHigh_or_isLow_iff, not_or] at hn
  rw [paired_unit_iff hn.1, and_iff_right hn.2]

/-- Strings mean something if the halves of pairs of units stand side by side. -/
theorem decodePieces_isSome_iff {pieces : List Piece} :
    (decodePieces pieces).isSome = true ↔ Paired pieces := by
  fun_induction decodePieces pieces with
  | case1 => exact iff_of_true rfl .nil
  | case2 c pieces ih => simp [isSome_bind_some, paired_char_iff, ← ih]
  | case3 n h => exact iff_of_false (by simp) (not_paired_of_half h nofun)
  | case4 n h => exact iff_of_true rfl ((paired_whole_iff h).2 .nil)
  | case5 n m pieces hn hm ih =>
    have hpair : Paired (.unit n :: .unit m :: pieces) ↔ Paired pieces := by
      rw [paired_high_iff hn]
      exact ⟨fun ⟨_, _, heq, _, h⟩ => (List.cons.inj heq).2 ▸ h, fun h => ⟨m, pieces, rfl, hm, h⟩⟩
    simp [isSome_bind_some, hpair, ← ih]
  | case6 n m pieces hn hm =>
    refine iff_of_false (by simp) ?_
    rw [paired_high_iff hn]
    rintro ⟨_, _, ⟨⟩, hlow, -⟩
    exact hm hlow
  | case7 n m pieces hn hlow =>
    refine iff_of_false (by simp) ?_
    rw [paired_unit_iff hn]
    exact fun h => h.1 hlow
  | case8 n m pieces hn hlow ih =>
    simp [isSome_bind_some, paired_unit_iff hn, show ¬ IsLow n from hlow, ← ih]
  | case9 n c pieces h => exact iff_of_false (by simp) (not_paired_of_half h nofun)
  | case10 n c pieces h ih => simp [isSome_bind_some, paired_whole_iff h, paired_char_iff, ← ih]

theorem decodeString_isSome_iff {pieces : List Piece} :
    (decodeString pieces).isSome = true ↔ Paired pieces := by
  rw [← decodePieces_isSome_iff, decodeString]
  cases decodePieces pieces <;> rfl

/-! ## Forms -/

namespace Form

mutual

/-- The numbers of a form. -/
def numbers : Form → List NumberForm
  | .number n => [n]
  | .array items => numbersItems items
  | .object members => numbersMembers members
  | .null => []
  | .bool _ => []
  | .string _ => []

/-- The numbers of all items. -/
def numbersItems : List Form → List NumberForm
  | [] => []
  | item :: items => numbers item ++ numbersItems items

/-- The numbers of the values of all members. -/
def numbersMembers : List (List Piece × Form) → List NumberForm
  | [] => []
  | (_, value) :: members => numbers value ++ numbersMembers members

end

mutual

/-- The strings of a form, keys included. -/
def strings : Form → List (List Piece)
  | .string pieces => [pieces]
  | .array items => stringsItems items
  | .object members => stringsMembers members
  | .null => []
  | .bool _ => []
  | .number _ => []

/-- The strings of all items. -/
def stringsItems : List Form → List (List Piece)
  | [] => []
  | item :: items => strings item ++ stringsItems items

/-- The keys of all members and the strings of their values. -/
def stringsMembers : List (List Piece × Form) → List (List Piece)
  | [] => []
  | (key, value) :: members => key :: (strings value ++ stringsMembers members)

end

/-- The form nests within the room, no number is too large, and no half of a pair stands alone. -/
structure HasValue (f : Form) (room : Nat) : Prop where
  depth : f.depth ≤ room
  numbers : ∀ n ∈ f.numbers, n.value?.isSome = true
  strings : ∀ s ∈ f.strings, Paired s

theorem depthItems_le_iff {items : List Form} {room : Nat} :
    depthItems items ≤ room ↔ ∀ item ∈ items, item.depth ≤ room := by
  induction items with
  | nil => simp [depthItems]
  | cons item items ih => simp [depthItems, ih]

theorem depthMembers_le_iff {members : List (List Piece × Form)} {room : Nat} :
    depthMembers members ≤ room ↔ ∀ m ∈ members, m.2.depth ≤ room := by
  induction members with
  | nil => simp [depthMembers]
  | cons m members ih => simp [depthMembers, ih]

theorem mem_numbersItems {items : List Form} {n : NumberForm} :
    n ∈ numbersItems items ↔ ∃ item ∈ items, n ∈ item.numbers := by
  induction items with
  | nil => simp [numbersItems]
  | cons item items ih => simp [numbersItems, ih]

theorem mem_numbersMembers {members : List (List Piece × Form)} {n : NumberForm} :
    n ∈ numbersMembers members ↔ ∃ m ∈ members, n ∈ m.2.numbers := by
  induction members with
  | nil => simp [numbersMembers]
  | cons m members ih =>
    simp only [numbersMembers, List.mem_append, ih, List.mem_cons, exists_eq_or_imp]

theorem mem_stringsItems {items : List Form} {s : List Piece} :
    s ∈ stringsItems items ↔ ∃ item ∈ items, s ∈ item.strings := by
  induction items with
  | nil => simp [stringsItems]
  | cons item items ih => simp [stringsItems, ih]

theorem mem_stringsMembers {members : List (List Piece × Form)} {s : List Piece} :
    s ∈ stringsMembers members ↔ ∃ m ∈ members, s = m.1 ∨ s ∈ m.2.strings := by
  induction members with
  | nil => simp [stringsMembers]
  | cons m members ih =>
    simp only [stringsMembers, List.mem_cons, List.mem_append, ih, exists_eq_or_imp, or_assoc]

theorem hasValue_array_iff {items : List Form} {room : Nat} :
    (array items).HasValue (room + 1) ↔ ∀ item ∈ items, item.HasValue room := by
  constructor
  · rintro ⟨hd, hn, hs⟩ item hitem
    exact ⟨depthItems_le_iff.1 (Nat.le_of_succ_le_succ hd) item hitem,
      fun n hmem => hn n (mem_numbersItems.2 ⟨item, hitem, hmem⟩),
      fun s hmem => hs s (mem_stringsItems.2 ⟨item, hitem, hmem⟩)⟩
  · intro h
    refine ⟨Nat.succ_le_succ (depthItems_le_iff.2 fun item hitem => (h item hitem).depth), ?_, ?_⟩
    · intro n hmem
      obtain ⟨item, hitem, hmem⟩ := mem_numbersItems.1 hmem
      exact (h item hitem).numbers n hmem
    · intro s hmem
      obtain ⟨item, hitem, hmem⟩ := mem_stringsItems.1 hmem
      exact (h item hitem).strings s hmem

theorem hasValue_object_iff {members : List (List Piece × Form)} {room : Nat} :
    (object members).HasValue (room + 1) ↔ ∀ m ∈ members, Paired m.1 ∧ m.2.HasValue room := by
  constructor
  · rintro ⟨hd, hn, hs⟩ m hm
    exact ⟨hs m.1 (mem_stringsMembers.2 ⟨m, hm, .inl rfl⟩),
      depthMembers_le_iff.1 (Nat.le_of_succ_le_succ hd) m hm,
      fun n hmem => hn n (mem_numbersMembers.2 ⟨m, hm, hmem⟩),
      fun s hmem => hs s (mem_stringsMembers.2 ⟨m, hm, .inr hmem⟩)⟩
  · intro h
    refine ⟨Nat.succ_le_succ (depthMembers_le_iff.2 fun m hm => (h m hm).2.depth), ?_, ?_⟩
    · intro n hmem
      obtain ⟨m, hm, hmem⟩ := mem_numbersMembers.1 hmem
      exact (h m hm).2.numbers n hmem
    · intro s hmem
      obtain ⟨m, hm, rfl | hmem⟩ := mem_stringsMembers.1 hmem
      · exact (h m hm).1
      · exact (h m hm).2.strings s hmem

mutual

/-- It is exactly the forms with a value that mean one. -/
theorem value?_isSome_iff : ∀ {f : Form} {room : Nat},
    (f.value? room).isSome = true ↔ f.HasValue room
  | .null, _ => iff_of_true (by rw [value?]; rfl) ⟨Nat.zero_le _, nofun, nofun⟩
  | .bool _, _ => iff_of_true (by rw [value?]; rfl) ⟨Nat.zero_le _, nofun, nofun⟩
  | .number n, room => by
    have hvalue : (value? room (number n)).isSome = true ↔ n.value?.isSome = true := by
      rw [value?, Option.bind_eq_bind]
      cases hn : n.value? with
      | none => rfl
      | some x => exact iff_of_true (number?_isSome_iff.2 (NumberForm.inRange_of_value? hn)) rfl
    rw [hvalue]
    exact ⟨fun h => ⟨Nat.zero_le _, by simpa [numbers] using h, nofun⟩,
      fun h => h.numbers n List.mem_cons_self⟩
  | .string pieces, room => by
    have hvalue : (value? room (string pieces)).isSome = true ↔ Paired pieces := by
      rw [value?, Option.bind_eq_bind, ← decodeString_isSome_iff]
      cases decodeString pieces <;> rfl
    rw [hvalue]
    exact ⟨fun h => ⟨Nat.zero_le _, nofun, by simpa [strings] using h⟩,
      fun h => h.strings pieces List.mem_cons_self⟩
  | .array items, room + 1 => by
    rw [hasValue_array_iff, ← items?_isSome_iff, value?, Option.bind_eq_bind]
    cases items? room items <;> rfl
  | .object members, room + 1 => by
    rw [hasValue_object_iff, ← members?_isSome_iff, value?, Option.bind_eq_bind]
    cases members? room members <;> rfl
  | .array _, 0 => iff_of_false (by simp [value?]) fun h => absurd h.depth (by simp [depth])
  | .object _, 0 => iff_of_false (by simp [value?]) fun h => absurd h.depth (by simp [depth])

theorem items?_isSome_iff : ∀ {items : List Form} {room : Nat},
    (items? room items).isSome = true ↔ ∀ item ∈ items, item.HasValue room
  | [], _ => iff_of_true (by rw [items?]; rfl) nofun
  | item :: items, room => by
    rw [List.forall_mem_cons, ← value?_isSome_iff, ← items?_isSome_iff, items?]
    cases value? room item <;> cases items? room items <;> simp

theorem members?_isSome_iff : ∀ {members : List (List Piece × Form)} {room : Nat},
    (members? room members).isSome = true ↔ ∀ m ∈ members, Paired m.1 ∧ m.2.HasValue room
  | [], _ => iff_of_true (by rw [members?]; rfl) nofun
  | (key, value) :: members, room => by
    rw [List.forall_mem_cons, ← decodeString_isSome_iff, ← value?_isSome_iff,
      ← members?_isSome_iff, members?]
    cases decodeString key <;> cases value? room value <;> cases members? room members <;> simp

end

theorem exists_array_of_value? {room : Nat} {items : List Form} {v : Json}
    (h : (Form.array items).value? room = some v) : ∃ vs, Json.array vs = v := by
  cases room with
  | zero => simp [value?] at h
  | succ room =>
    simp only [value?, Option.bind_eq_bind, Option.bind_eq_some_iff, Option.pure_def,
      Option.some.injEq] at h
    obtain ⟨vs, -, hvs⟩ := h
    exact ⟨vs, hvs⟩

theorem exists_object_of_value? {room : Nat} {members : List (List Piece × Form)} {v : Json}
    (h : (Form.object members).value? room = some v) : ∃ p, Json.object p = v := by
  cases room with
  | zero => simp [value?] at h
  | succ room =>
    simp only [value?, Option.bind_eq_bind, Option.bind_eq_some_iff, Option.pure_def,
      Option.some.injEq] at h
    obtain ⟨ms, -, hms⟩ := h
    exact ⟨_, hms⟩

theorem exists_string_of_value? {room : Nat} {pieces : List Piece} {v : Json}
    (h : (Form.string pieces).value? room = some v) :
    ∃ s, decodeString pieces = some s ∧ Json.string s = v := by
  rw [value?, Option.bind_eq_bind, Option.bind_eq_some_iff] at h
  obtain ⟨s, hs, hv⟩ := h
  exact ⟨s, hs, Option.some.inj hv⟩

theorem exists_number_of_value? {room : Nat} {n : NumberForm} {v : Json}
    (h : (Form.number n).value? room = some v) : ∃ x, v.raw = .number x := by
  rw [value?, Option.bind_eq_bind, Option.bind_eq_some_iff] at h
  obtain ⟨x, -, hv⟩ := h
  cases x with
  | int i =>
    rw [number?] at hv
    split at hv
    · exact ⟨_, (congrArg raw (Option.some.inj hv)).symm⟩
    · cases hv
  | float x => exact ⟨_, (congrArg raw (Option.some.inj hv)).symm⟩

/-- Objects alone mean objects. -/
theorem payload?_isSome_iff {f : Form} {room : Nat} {v : Json} (h : f.value? room = some v) :
    v.payload?.isSome = true ↔ ∃ members, f = .object members := by
  cases f with
  | object members =>
    obtain ⟨p, rfl⟩ := exists_object_of_value? h
    exact iff_of_true rfl ⟨members, rfl⟩
  | array items =>
    obtain ⟨vs, rfl⟩ := exists_array_of_value? h
    exact iff_of_false Bool.false_ne_true nofun
  | null | bool b =>
    rw [value?] at h
    obtain rfl := Option.some.inj h
    exact iff_of_false Bool.false_ne_true nofun
  | string pieces =>
    obtain ⟨s, -, rfl⟩ := exists_string_of_value? h
    exact iff_of_false Bool.false_ne_true nofun
  | number n =>
    obtain ⟨x, hx⟩ := exists_number_of_value? h
    refine iff_of_false ?_ nofun
    obtain ⟨raw, hc⟩ := v
    obtain rfl : raw = .number x := hx
    exact Bool.false_ne_true

/-- `null` alone means `null`. -/
theorem isNull_iff_of_value? {f : Form} {room : Nat} {v : Json} (h : f.value? room = some v) :
    v.isNull = true ↔ f = .null := by
  cases f with
  | null =>
    rw [value?] at h
    obtain rfl := Option.some.inj h
    exact iff_of_true rfl rfl
  | bool b =>
    rw [value?] at h
    obtain rfl := Option.some.inj h
    exact iff_of_false Bool.false_ne_true nofun
  | number n =>
    obtain ⟨x, hx⟩ := exists_number_of_value? h
    refine iff_of_false ?_ nofun
    rw [isNull, hx]
    exact Bool.false_ne_true
  | string pieces =>
    obtain ⟨s, -, rfl⟩ := exists_string_of_value? h
    exact iff_of_false Bool.false_ne_true nofun
  | array items =>
    obtain ⟨vs, rfl⟩ := exists_array_of_value? h
    exact iff_of_false Bool.false_ne_true nofun
  | object members =>
    obtain ⟨p, rfl⟩ := exists_object_of_value? h
    exact iff_of_false Bool.false_ne_true nofun

end Form

/-! ## Texts -/

/-- The text spells the form, with spaces around it, and the form has a value. -/
def Form.IsTextOf (f : Form) (s : String) : Prop :=
  Spaced f.SpeltBy s.toList ∧ f.HasValue maxDepth

/-- A text is read exactly if it spells a form that has a value. -/
theorem parse?_eq_some_iff {s : String} {v : Json} :
    parse? s = some v ↔ ∃ f : Form, f.IsTextOf s ∧ f.value? maxDepth = some v := by
  rw [parse?, parseChars?, Option.bind_eq_bind, Option.bind_eq_some_iff]
  simp only [Form.ofChars?_eq_some_iff, Form.IsTextOf, ← Form.value?_isSome_iff]
  constructor
  · rintro ⟨f, hf, hv⟩
    exact ⟨f, ⟨hf, by rw [hv]; rfl⟩, hv⟩
  · rintro ⟨f, ⟨hf, -⟩, hv⟩
    exact ⟨f, hf, hv⟩

theorem parse?_isSome_iff {s : String} :
    (parse? s).isSome = true ↔ ∃ f : Form, f.IsTextOf s := by
  rw [Option.isSome_iff_exists]
  simp only [parse?_eq_some_iff]
  constructor
  · rintro ⟨v, f, hf, -⟩
    exact ⟨f, hf⟩
  · rintro ⟨f, hf⟩
    obtain ⟨v, hv⟩ := Option.isSome_iff_exists.1 (Form.value?_isSome_iff.2 hf.2)
    exact ⟨v, f, hf, hv⟩

end Json

/-- A text is read as an object exactly if it spells one that has a value. -/
theorem Payload.parse?_isSome_iff {s : String} :
    (parse? s).isSome = true ↔ ∃ members, (Json.Form.object members).IsTextOf s := by
  have hparse : (parse? s).isSome = true ↔
      ∃ v, Json.parse? s = some v ∧ v.payload?.isSome = true := by
    rw [parse?, Option.bind_eq_bind]
    cases Json.parse? s <;> simp
  simp only [hparse, Json.parse?_eq_some_iff]
  constructor
  · rintro ⟨v, ⟨f, hf, hv⟩, hobject⟩
    obtain ⟨members, rfl⟩ := (Json.Form.payload?_isSome_iff hv).1 hobject
    exact ⟨members, hf⟩
  · rintro ⟨members, hf⟩
    obtain ⟨v, hv⟩ := Option.isSome_iff_exists.1 (Json.Form.value?_isSome_iff.2 hf.2)
    exact ⟨v, ⟨_, hf, hv⟩, (Json.Form.payload?_isSome_iff hv).2 ⟨members, rfl⟩⟩

end AuditTrail
