import AuditTrail.Proofs.Filter.Clause
import AuditTrail.Proofs.Json.Meaning

/-!
# Asking for a text

A text that was recorded as a type, a user or an object is asked for in a clause. A recording takes
it as it is; a clause takes it as it is only if it is JSON, and else without white space at its
ends.

* `Json.length_lt_of_parse?_string`: a string is shorter than any text that spells it.
* `Json.string_beq_loose_trim_iff`: a text that is no JSON means itself without the white space at
  its ends exactly if there is none.
* `Entry.Carries`: what an entry carries for a text.
* `Filter.ofClause_text`: the clause of a text is read, and matches the entries that carry the text
  exactly if white space at its ends does not count.
-/

namespace AuditTrail

open Text

/-! ## Strings and their texts -/

theorem Text.length_trim_le (s : String) : (trim s).toList.length ≤ s.toList.length := by
  have hdrop (cs : List Char) : (cs.dropWhile isBlank).length ≤ cs.length :=
    (List.dropWhile_sublist _).length_le
  rw [trim, String.toList_ofList, trimChars, trimEnd, List.length_reverse]
  exact (hdrop _).trans (by rw [List.length_reverse]; exact hdrop _)

namespace Json

theorem string_injective : Function.Injective string :=
  fun _ _ h => Raw.string.inj (congrArg raw h)

theorem string_beq_iff {s : String} {v : Json} : (string s == v) = true ↔ v = string s := by
  obtain ⟨raw, hc⟩ := v
  change Raw.same (.string s) raw = true ↔ _
  cases raw with
  | string t =>
    rw [Raw.same, beq_iff_eq]
    exact ⟨fun h => h ▸ rfl, fun h => (string_injective h).symm⟩
  | _ => exact iff_of_false Bool.false_ne_true fun h => nomatch congrArg Json.raw h

theorem cons_of_bind {o : Option (List Char)} {c : Char} {cs : List Char}
    (h : (do return c :: (← o)) = some cs) : ∃ rest, o = some rest ∧ cs = c :: rest := by
  obtain ⟨rest, hrest, heq⟩ := Option.bind_eq_some_iff.1 h
  exact ⟨rest, hrest, (Option.some.inj heq).symm⟩

theorem length_le_of_decodePieces {pieces : List Piece} {cs : List Char}
    (h : decodePieces pieces = some cs) : cs.length ≤ pieces.length := by
  fun_induction decodePieces pieces generalizing cs with
  | case1 => simp_all
  | case2 c pieces ih =>
    obtain ⟨cs, hcs, rfl⟩ := cons_of_bind h
    exact Nat.succ_le_succ (ih hcs)
  | case3 n hn => cases h
  | case4 n hn =>
    obtain rfl := Option.some.inj h
    exact Nat.le_refl 1
  | case5 n m pieces hn hm ih =>
    obtain ⟨cs, hcs, rfl⟩ := cons_of_bind h
    exact Nat.succ_le_succ (Nat.le_succ_of_le (ih hcs))
  | case6 n m pieces hn hm => cases h
  | case7 n m pieces hn hlow => cases h
  | case8 n m pieces hn hlow ih =>
    obtain ⟨cs, hcs, rfl⟩ := cons_of_bind h
    exact Nat.succ_le_succ (ih hcs)
  | case9 n c pieces hn => cases h
  | case10 n c pieces hn ih =>
    obtain ⟨cs, hcs, heq⟩ := Option.bind_eq_some_iff.1 h
    obtain rfl := Option.some.inj heq
    exact Nat.succ_le_succ (Nat.succ_le_succ (ih hcs))

theorem length_le_of_piecesSpeltBy {pieces : List Piece} {cs : List Char}
    (h : PiecesSpeltBy pieces cs) : pieces.length ≤ cs.length := by
  induction pieces generalizing cs with
  | nil => exact Nat.zero_le _
  | cons p pieces ih =>
    obtain ⟨front, back, hp, hback, rfl⟩ := h
    have hfront : 1 ≤ front.length := by
      cases p with
      | unit n =>
        obtain ⟨a, b, c, d, -, rfl⟩ := hp
        simp
      | char c => rcases hp with ⟨-, rfl⟩ | ⟨e, -, rfl⟩ <;> simp
    have := ih hback
    rw [List.length_append, List.length_cons]
    omega

/-- Strings alone mean strings. -/
theorem exists_pieces_of_value? {f : Form} {room : Nat} {w : String}
    (h : f.value? room = some (.string w)) :
    ∃ pieces, f = .string pieces ∧ decodeString pieces = some w := by
  cases f with
  | string pieces =>
    obtain ⟨w', hw, heq⟩ := Form.exists_string_of_value? h
    obtain rfl := string_injective heq
    exact ⟨pieces, rfl, hw⟩
  | null | bool b =>
    rw [Form.value?] at h
    cases congrArg raw (Option.some.inj h)
  | number n =>
    obtain ⟨x, hx⟩ := Form.exists_number_of_value? h
    cases hx
  | array items =>
    obtain ⟨vs, hvs⟩ := Form.exists_array_of_value? h
    cases congrArg raw hvs
  | object members =>
    obtain ⟨p, hp⟩ := Form.exists_object_of_value? h
    cases congrArg raw hp

/-- A string is shorter than any text that spells it. -/
theorem length_lt_of_parse?_string {s w : String} (h : parse? s = some (.string w)) :
    w.toList.length < s.toList.length := by
  obtain ⟨f, ⟨⟨a, body, b, -, hbody, -, hs⟩, -⟩, hv⟩ := parse?_eq_some_iff.1 h
  obtain ⟨pieces, rfl, hw⟩ := exists_pieces_of_value? hv
  obtain ⟨inner, hinner, rfl⟩ := hbody
  obtain ⟨cs, hcs, heq⟩ := Option.bind_eq_some_iff.1 hw
  obtain rfl := Option.some.inj heq
  have hpieces := length_le_of_piecesSpeltBy hinner
  have hdecoded := length_le_of_decodePieces hcs
  simp only [hs, String.toList_ofList, List.length_append, List.length_cons]
  omega

/-- A text that is no JSON means itself without the white space at its ends exactly if there is
none. -/
theorem string_beq_loose_trim_iff {s : String} (h : parse? s = none) :
    (string s == loose (trim s)) = true ↔ trim s = s := by
  constructor
  · intro hsame
    have hloose := string_beq_iff.1 hsame
    rw [loose] at hloose
    cases hparse : parse? (trim s) with
    | none =>
      rw [hparse] at hloose
      exact string_injective hloose
    | some v =>
      rw [hparse] at hloose
      obtain rfl : v = string s := hloose
      have := length_lt_of_parse?_string hparse
      have := length_trim_le s
      omega
  · intro htrim
    rw [htrim, loose, h]
    exact beq_iff.2 rfl

theorem present?_loose {s : String} (h : parse? s = none) :
    (loose s).present? = some (string s) := by
  rw [loose, h]
  rfl

end Json

/-! ## Clauses of texts -/

/-- What an entry carries for a text that was given as a type, a user or an object. -/
def Entry.Carries (e : Entry) : FilterName → String → Prop
  | .type, s => e.type = s
  | .user, s => e.user = (Json.loose s).present?
  | .object, s => e.object = (Json.loose s).present?
  | _, _ => False

namespace Filter

/-- A value that is no array is the only candidate. -/
theorem candidates_of_not_array {v : Json} (h : ∀ vs, v ≠ .array vs) : candidates v = [v] := by
  obtain ⟨raw, hc⟩ := v
  cases raw with
  | array items =>
    rw [Json.Raw.Canonical, Json.Raw.canonicalItems_iff] at hc
    refine absurd (Json.ext_raw ?_) (h (items.attach.map fun r => ⟨r.1, hc r.1 r.2⟩))
    simp [Json.array]
  | _ => rfl

theorem sameOrAbsent_present? (v : Json) : sameOrAbsent v v.present? = true := by
  cases hnull : v.isNull with
  | true => simp [Json.present?, hnull, sameOrAbsent]
  | false =>
    rw [Json.present?_eq_some hnull]
    exact Json.beq_iff.2 rfl

/-- The candidates of a text for a user or an object: those in the value that it means, or else what
it means without the white space at its ends. -/
def textCandidates (s : String) : List Json :=
  match Json.parse? s with
  | some v => candidates v
  | none => [Json.loose (trim s)]

/-- A text that is no array has one candidate. -/
theorem length_textCandidates {s : String} (harray : ∀ vs, Json.parse? s ≠ some (.array vs)) :
    (textCandidates s).length = 1 := by
  unfold textCandidates
  cases hparse : Json.parse? s with
  | some v =>
    have hone : candidates v = [v] :=
      candidates_of_not_array fun vs hv => harray vs (hparse.trans (congrArg some hv))
    exact congrArg List.length hone
  | none => rfl

theorem ofNamed_user_text {clause s : String} (hcomma : ',' ∉ s.toList) :
    ofNamed clause .user s.toList = .ok (.user (textCandidates s)) := by
  have hparse : Json.parseChars? s.toList = Json.parse? s := rfl
  rw [ofNamed.eq_def, textCandidates, hparse]
  cases Json.parse? s with
  | some v => rfl
  | none => simp only [parseClause, commaSeparated_of_not_mem hcomma]; rfl

theorem ofNamed_object_text {clause s : String} (hcomma : ',' ∉ s.toList) :
    ofNamed clause .object s.toList = .ok (.object (textCandidates s)) := by
  have hparse : Json.parseChars? s.toList = Json.parse? s := rfl
  rw [ofNamed.eq_def, textCandidates, hparse]
  cases Json.parse? s with
  | some v => rfl
  | none => simp only [parseClause, commaSeparated_of_not_mem hcomma]; rfl

/-- A candidate fits what was recorded for the text exactly if there is no white space at the ends of
the text, or it is JSON. -/
theorem any_textCandidates_iff {s : String} (harray : ∀ vs, Json.parse? s ≠ some (.array vs)) :
    ((textCandidates s).any fun v => sameOrAbsent v (Json.loose s).present?) = true ↔
      trim s = s ∨ (Json.parse? s).isSome = true := by
  rw [textCandidates]
  cases hparse : Json.parse? s with
  | some v =>
    have hone : candidates v = [v] :=
      candidates_of_not_array fun vs hv => harray vs (hparse.trans (congrArg some hv))
    have hloose : Json.loose s = v := by rw [Json.loose, hparse]; rfl
    simp [hone, hloose, sameOrAbsent_present?]
  | none =>
    simp only [List.any_cons, List.any_nil, Bool.or_false, Json.present?_loose hparse, sameOrAbsent,
      Json.string_beq_loose_trim_iff hparse, Option.isSome_none, Bool.false_eq_true, or_false]

/-- The clause of a text is read, as a filter with one candidate. It matches the entries that carry
the text exactly if there is no white space at the ends of the text, or the text is JSON where values
are meant. -/
theorem ofClause_text {name : FilterName} {s : String}
    (hname : name = .type ∨ name = .user ∨ name = .object) (hcomma : ',' ∉ s.toList)
    (harray : ∀ vs, Json.parse? s ≠ some (.array vs)) :
    ∃ f, ofClause (name.text ++ "=" ++ s) = .ok f ∧ f.size = 1 ∧ ∀ e : Entry, e.Carries name s →
      (f.matches e = true ↔ trim s = s ∨ name ≠ .type ∧ (Json.parse? s).isSome = true) := by
  rw [ofClause_named]
  rcases hname with rfl | rfl | rfl
  · refine ⟨.type [trim s], ?_, rfl, fun e he => ?_⟩
    · simp only [ofNamed, parseClause, commaSeparated_of_not_mem hcomma, parseValues]
      rfl
    · obtain rfl : e.type = s := he
      simp [«matches»]
  · refine ⟨_, ofNamed_user_text hcomma, length_textCandidates harray, fun e he => ?_⟩
    have huser : e.user = (Json.loose s).present? := he
    simpa [«matches», huser] using any_textCandidates_iff harray
  · refine ⟨_, ofNamed_object_text hcomma, length_textCandidates harray, fun e he => ?_⟩
    have hobject : e.object = (Json.loose s).present? := he
    simpa [«matches», hobject] using any_textCandidates_iff harray

end Filter

end AuditTrail
