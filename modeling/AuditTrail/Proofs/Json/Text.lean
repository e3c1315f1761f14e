import AuditTrail.Json.Text
import AuditTrail.Proofs.Json.Form

/-!
# JSON values are read back

* `Raw.form_injective`: a tree is determined by how it is spelt, so a value by its text.
* `Raw.same_iff`: values are equal if they have one tree once zeros have no sign.
* `Raw.floats`: the binary numbers of a tree.
* `parse?_text`: a value is read back from its text if it nests at most `maxDepth` deep and its
  binary numbers read back. `Raw.readsBack_of_value?` says that the latter is needed.
* `text_injective`: the text determines the value.
-/

namespace AuditTrail.Json

open Text

/-! ## Strings -/

theorem decodePieces_unit {n : Nat} (h : n < 0xD800) (pieces : List Piece) :
    decodePieces (.unit n :: pieces) = (decodePieces pieces).map (Char.ofNat n :: ·) := by
  rcases pieces with - | ⟨c | m, pieces⟩
  · simp only [decodePieces]
    rw [if_neg (by omega)]
    rfl
  · simp only [decodePieces]
    rw [if_neg (by omega)]
    cases decodePieces pieces <;> rfl
  · rw [decodePieces, if_neg (by omega), if_neg (by omega)]
    cases decodePieces (.unit m :: pieces) <;> rfl

theorem decodePieces_pieceOf (c : Char) (pieces : List Piece) :
    decodePieces (pieceOf c :: pieces) = (decodePieces pieces).map (c :: ·) := by
  unfold pieceOf
  split
  · next h => rw [decodePieces_unit (by omega), Char.ofNat_toNat]
  · rw [decodePieces]
    cases decodePieces pieces <;> rfl

theorem decodeString_piecesOf (s : String) : decodeString (piecesOf s) = some s := by
  have h : ∀ cs : List Char, decodePieces (cs.map pieceOf) = some cs := fun cs => by
    induction cs with
    | nil => rfl
    | cons c cs ih => rw [List.map_cons, decodePieces_pieceOf, ih]; rfl
  simp [decodeString, piecesOf, h]

theorem piecesOf_injective {s t : String} (h : piecesOf s = piecesOf t) : s = t := by
  have := decodeString_piecesOf s
  rw [h, decodeString_piecesOf] at this
  exact (Option.some.inj this).symm

theorem wellSpelt_piecesOf (s : String) : ∀ p ∈ piecesOf s, p.WellSpelt := by
  intro p hp
  obtain ⟨c, -, rfl⟩ := List.mem_map.1 hp
  unfold pieceOf
  split
  · next h => exact Nat.lt_trans h.1 (by decide)
  · next h =>
    intro hnone
    by_contra hlt
    exact h ⟨by omega, hnone⟩

namespace Raw

/-! ## Spellings of trees -/

mutual

theorem wellSpelt_form : ∀ r : Raw, r.form.WellSpelt
  | .null => trivial
  | .bool _ => trivial
  | .number n => n.wellSpelt_form
  | .string s => wellSpelt_piecesOf s
  | .array items => wellSpelt_formItems items
  | .object members => wellSpelt_formMembers members

theorem wellSpelt_formItems : ∀ items : List Raw, Form.WellSpeltItems (formItems items)
  | [] => trivial
  | item :: items => ⟨wellSpelt_form item, wellSpelt_formItems items⟩

theorem wellSpelt_formMembers :
    ∀ members : List (String × Raw), Form.WellSpeltMembers (formMembers members)
  | [] => trivial
  | (key, value) :: members =>
    ⟨wellSpelt_piecesOf key, wellSpelt_form value, wellSpelt_formMembers members⟩

end

mutual

/-- A tree is determined by how it is spelt. -/
theorem form_injective : ∀ {r s : Raw}, r.form = s.form → r = s
  | .null, s, h => by cases s <;> simp_all [form]
  | .bool _, s, h => by cases s <;> simp_all [form]
  | .number m, s, h => by
    cases s with
    | number n => exact congrArg Raw.number (Number.form_injective (by simpa [form] using h))
    | _ => simp [form] at h
  | .string a, s, h => by
    cases s with
    | string b => exact congrArg Raw.string (piecesOf_injective (by simpa [form] using h))
    | _ => simp [form] at h
  | .array xs, s, h => by
    cases s with
    | array ys => exact congrArg Raw.array (formItems_injective (by simpa [form] using h))
    | _ => simp [form] at h
  | .object xs, s, h => by
    cases s with
    | object ys => exact congrArg Raw.object (formMembers_injective (by simpa [form] using h))
    | _ => simp [form] at h

theorem formItems_injective : ∀ {xs ys : List Raw}, formItems xs = formItems ys → xs = ys
  | [], [], _ => rfl
  | _ :: _, _ :: _, h => by
    obtain ⟨hx, hxs⟩ := List.cons.inj h
    rw [form_injective hx, formItems_injective hxs]

theorem formMembers_injective :
    ∀ {xs ys : List (String × Raw)}, formMembers xs = formMembers ys → xs = ys
  | [], [], _ => rfl
  | (_, _) :: _, (_, _) :: _, h => by
    obtain ⟨hx, hxs⟩ := List.cons.inj h
    obtain ⟨hkey, hvalue⟩ := Prod.mk.inj hx
    rw [piecesOf_injective hkey, form_injective hvalue, formMembers_injective hxs]

end

/-! ## Equality and zeros -/

mutual

/-- Values are equal if they have one tree once zeros have no sign. -/
theorem same_iff : ∀ {r s : Raw}, r.same s = true ↔ r.normalized = s.normalized
  | .number m, s => by
    cases s <;> simp [same, normalized, Number.same_iff]
  | .array xs, s => by
    cases s with
    | array ys => simp [same, normalized, @sameItems_iff xs ys]
    | _ => simp [same, normalized]
  | .object xs, s => by
    cases s with
    | object ys => simp [same, normalized, @sameMembers_iff xs ys]
    | _ => simp [same, normalized]
  | .null, s => by cases s <;> simp [same, normalized]
  | .bool b, s => by cases s <;> simp [same, normalized]
  | .string t, s => by cases s <;> simp [same, normalized]

theorem sameItems_iff :
    ∀ {xs ys : List Raw}, sameItems xs ys = true ↔ normalizedItems xs = normalizedItems ys
  | [], [] => by simp [sameItems]
  | [], _ :: _ => by simp [sameItems, normalizedItems]
  | _ :: _, [] => by simp [sameItems, normalizedItems]
  | x :: xs, y :: ys => by
    simp [sameItems, normalizedItems, same_iff (r := x) (s := y),
      @sameItems_iff xs ys]

theorem sameMembers_iff :
    ∀ {xs ys : List (String × Raw)},
      sameMembers xs ys = true ↔ normalizedMembers xs = normalizedMembers ys
  | [], [] => by simp [sameMembers]
  | [], (_, _) :: _ => by simp [sameMembers, normalizedMembers]
  | (_, _) :: _, [] => by simp [sameMembers, normalizedMembers]
  | (j, x) :: xs, (k, y) :: ys => by
    simp [sameMembers, normalizedMembers, same_iff (r := x) (s := y),
      @sameMembers_iff xs ys, and_assoc]

end

mutual

theorem depth_normalized : ∀ r : Raw, r.normalized.depth = r.depth
  | .null => rfl
  | .bool _ => rfl
  | .number _ => rfl
  | .string _ => rfl
  | .array items => by rw [normalized, depth, depth, depthItems_normalized items]
  | .object members => by rw [normalized, depth, depth, depthMembers_normalized members]

theorem depthItems_normalized : ∀ items, depthItems (normalizedItems items) = depthItems items
  | [] => rfl
  | item :: items => by
    rw [normalizedItems, depthItems, depthItems, depth_normalized item, depthItems_normalized items]

theorem depthMembers_normalized :
    ∀ members, depthMembers (normalizedMembers members) = depthMembers members
  | [] => rfl
  | (_, value) :: members => by
    rw [normalizedMembers, depthMembers, depthMembers, depth_normalized value,
      depthMembers_normalized members]

end

mutual

theorem normalized_normalized : ∀ r : Raw, r.normalized.normalized = r.normalized
  | .null => rfl
  | .bool _ => rfl
  | .number (.int _) => rfl
  | .number (.float x) => by
    cases hx : x.isZero <;> simp [normalized, Number.normalized, hx]
  | .string _ => rfl
  | .array items => by rw [normalized, normalized, normalizedItems_normalizedItems items]
  | .object members => by rw [normalized, normalized, normalizedMembers_normalizedMembers members]

theorem normalizedItems_normalizedItems :
    ∀ items, normalizedItems (normalizedItems items) = normalizedItems items
  | [] => rfl
  | item :: items => by
    rw [normalizedItems, normalizedItems, normalized_normalized item,
      normalizedItems_normalizedItems items]

theorem normalizedMembers_normalizedMembers :
    ∀ members, normalizedMembers (normalizedMembers members) = normalizedMembers members
  | [] => rfl
  | (_, value) :: members => by
    rw [normalizedMembers, normalizedMembers, normalized_normalized value,
      normalizedMembers_normalizedMembers members]

end

/-! ## Binary numbers -/

mutual

/-- The binary numbers of a tree. -/
def floats : Raw → List Binary64
  | .number (.float x) => [x]
  | .number (.int _) => []
  | .array items => floatsItems items
  | .object members => floatsMembers members
  | .null => []
  | .bool _ => []
  | .string _ => []

/-- The binary numbers of all items. -/
def floatsItems : List Raw → List Binary64
  | [] => []
  | item :: items => floats item ++ floatsItems items

/-- The binary numbers of the values of all members. -/
def floatsMembers : List (String × Raw) → List Binary64
  | [] => []
  | (_, value) :: members => floats value ++ floatsMembers members

end

mutual

/-- The zeros read back in either case. -/
theorem readsBack_normalized :
    ∀ r : Raw, (∀ x ∈ r.normalized.floats, x.ReadsBack) ↔ ∀ x ∈ r.floats, x.ReadsBack
  | .null => Iff.rfl
  | .bool _ => Iff.rfl
  | .string _ => Iff.rfl
  | .number (.int _) => Iff.rfl
  | .number (.float x) => by
    cases hx : x.isZero
    · simp [normalized, Number.normalized, hx, floats]
    · have hzero : x.ReadsBack := Binary64.readsBack_of_isZero hx
      simp [normalized, Number.normalized, hx, floats, Binary64.readsBack_zero, hzero]
  | .array items => readsBack_normalizedItems items
  | .object members => readsBack_normalizedMembers members

theorem readsBack_normalizedItems : ∀ items : List Raw,
    (∀ x ∈ floatsItems (normalizedItems items), x.ReadsBack) ↔
      ∀ x ∈ floatsItems items, x.ReadsBack
  | [] => Iff.rfl
  | item :: items => by
    simp only [normalizedItems, floatsItems, List.forall_mem_append, readsBack_normalized item,
      readsBack_normalizedItems items]

theorem readsBack_normalizedMembers : ∀ members : List (String × Raw),
    (∀ x ∈ floatsMembers (normalizedMembers members), x.ReadsBack) ↔
      ∀ x ∈ floatsMembers members, x.ReadsBack
  | [] => Iff.rfl
  | (_, value) :: members => by
    simp only [normalizedMembers, floatsMembers, List.forall_mem_append,
      readsBack_normalized value, readsBack_normalizedMembers members]

end

/-! ## Members in ascending order -/

theorem insertMember_of_lt {key : String} {value : Raw} {members : List (String × Raw)}
    (h : ∀ m ∈ members, m.1 < key) : insertMember key value members = members ++ [(key, value)] := by
  induction members with
  | nil => rfl
  | cons m members ih =>
    obtain ⟨k, v⟩ := m
    have hk : k < key := h _ List.mem_cons_self
    have hne : key ≠ k := by
      rintro rfl
      exact String.lt_irrefl _ hk
    rw [insertMember, if_neg (String.lt_asymm hk), if_neg hne,
      ih fun m hm => h m (List.mem_cons_of_mem _ hm)]
    rfl

end Raw

theorem members_foldl_insert (ms : List (String × Json)) (p : Payload)
    (h : (p.members.map Prod.fst ++ ms.map Prod.fst).Pairwise (· < ·)) :
    (ms.foldl (fun p m => p.insert m.1 m.2) p).members =
      p.members ++ ms.map fun m => (m.1, m.2.raw) := by
  induction ms generalizing p with
  | nil => simp
  | cons m ms ih =>
    have hlt : ∀ q ∈ p.members, q.1 < m.1 := fun q hq =>
      (List.pairwise_append.1 h).2.2 q.1 (List.mem_map_of_mem hq) m.1 (by simp)
    have hmembers : (p.insert m.1 m.2).members = p.members ++ [(m.1, m.2.raw)] :=
      Raw.insertMember_of_lt hlt
    rw [List.foldl_cons, ih _ (by rw [hmembers]; simpa using h), hmembers]
    simp

/-- Members that are written by ascending keys stay as they are. -/
theorem members_ofMembers {ms : List (String × Json)}
    (h : (ms.map Prod.fst).Pairwise (· < ·)) :
    (Payload.ofMembers ms).members = ms.map fun m => (m.1, m.2.raw) := by
  simpa [Payload.ofMembers, Payload.empty] using
    members_foldl_insert ms .empty (by simpa [Payload.empty] using h)

/-! ## Reading back -/

namespace Raw

mutual

theorem value?_form : ∀ {r : Raw} (hc : r.Canonical) (room : Nat), r.depth ≤ room →
    (∀ x ∈ r.floats, x.ReadsBack) → r.form.value? room = some ⟨r, hc⟩
  | .null, _, _, _, _ => by rw [form, Form.value?]; rfl
  | .bool _, _, _, _, _ => by rw [form, Form.value?]; rfl
  | .number n, hc, _, _, hf => by
    have hn : n.ReadsBack := by
      cases n with
      | int n => trivial
      | float x => exact hf x (by simp [floats])
    rw [form, Form.value?, Number.value?_form hc hn]
    cases n with
    | int n => exact dif_pos hc
    | float x => rfl
  | .string s, _, _, _, _ => by rw [form, Form.value?, decodeString_piecesOf]; rfl
  | .array items, hc, room + 1, hd, hf => by
    obtain ⟨vs, hvs, hraw⟩ := items?_form (show CanonicalItems items by simpa [Canonical] using hc)
      room (by simpa [depth] using hd) (by simpa [floats] using hf)
    rw [form, Form.value?, hvs]
    simp [Json.array, hraw]
  | .object members, hc, room + 1, hd, hf => by
    rw [Canonical] at hc
    obtain ⟨ms, hms, hraw⟩ := members?_form hc.2 room
      (by simpa [depth] using hd) (by simpa [floats] using hf)
    have hkeys : ms.map Prod.fst = members.map Prod.fst := by
      rw [← hraw, List.map_map]
      rfl
    rw [form, Form.value?, hms]
    simp [Json.object, members_ofMembers (hkeys ▸ hc.1), hraw]
  | .array items, _, 0, hd, _ => absurd hd (by simp [depth])
  | .object members, _, 0, hd, _ => absurd hd (by simp [depth])

theorem items?_form : ∀ {items : List Raw}, CanonicalItems items → ∀ room : Nat,
    depthItems items ≤ room → (∀ x ∈ floatsItems items, x.ReadsBack) →
      ∃ vs, Form.items? room (formItems items) = some vs ∧ vs.map Json.raw = items
  | [], _, _, _, _ => ⟨[], by simp [formItems, Form.items?], rfl⟩
  | item :: items, hc, room, hd, hf => by
    rw [depthItems, Nat.max_le] at hd
    rw [floatsItems, List.forall_mem_append] at hf
    have hv := value?_form hc.1 room hd.1 hf.1
    obtain ⟨vs, hvs, hraw⟩ := items?_form hc.2 room hd.2 hf.2
    exact ⟨⟨item, hc.1⟩ :: vs, by simp [formItems, Form.items?, hv, hvs], by simp [hraw]⟩

theorem members?_form : ∀ {members : List (String × Raw)}, CanonicalMembers members →
    ∀ room : Nat, depthMembers members ≤ room → (∀ x ∈ floatsMembers members, x.ReadsBack) →
      ∃ ms, Form.members? room (formMembers members) = some ms ∧
        ms.map (fun m => (m.1, m.2.raw)) = members
  | [], _, _, _, _ => ⟨[], by simp [formMembers, Form.members?], rfl⟩
  | (key, value) :: members, hc, room, hd, hf => by
    rw [depthMembers, Nat.max_le] at hd
    rw [floatsMembers, List.forall_mem_append] at hf
    have hv := value?_form hc.1 room hd.1 hf.1
    obtain ⟨ms, hms, hraw⟩ := members?_form hc.2 room hd.2 hf.2
    exact ⟨(key, ⟨value, hc.1⟩) :: ms,
      by simp [formMembers, Form.members?, hv, hms, decodeString_piecesOf], by simp [hraw]⟩

end

theorem keys_of_members? : ∀ {members : List (String × Raw)} {room : Nat}
    {ms : List (String × Json)}, Form.members? room (formMembers members) = some ms →
      ms.map Prod.fst = members.map Prod.fst
  | [], _, _, h => by
    simp only [formMembers, Form.members?, Option.some.injEq] at h
    subst h
    rfl
  | (key, value) :: members, room, ms, h => by
    simp only [formMembers, Form.members?, decodeString_piecesOf, Option.bind_eq_bind,
      Option.bind_some, Option.bind_eq_some_iff, Option.pure_def, Option.some.injEq] at h
    obtain ⟨v, -, ms', hms, rfl⟩ := h
    simp [keys_of_members? hms]

mutual

/-- If the value that is read back is equal, then all binary numbers read back. -/
theorem readsBack_of_value? : ∀ {r : Raw}, r.Canonical → ∀ {room : Nat} {v : Json},
    r.form.value? room = some v → v.raw.normalized = r.normalized →
      ∀ x ∈ r.floats, x.ReadsBack
  | .null, _, _, _, _, _ => by simp [floats]
  | .bool _, _, _, _, _, _ => by simp [floats]
  | .string _, _, _, _, _, _ => by simp [floats]
  | .number (.int _), _, _, _, _, _ => by simp [floats]
  | .number (.float x), _, room, v, h, hsame => by
    simp only [form, Number.form, Form.value?, NumberForm.value?_ofBinary, Option.bind_eq_bind,
      Option.bind_eq_some_iff, Option.map_eq_some_iff] at h
    obtain ⟨_, ⟨y, hy, rfl⟩, hv⟩ := h
    obtain rfl := Option.some.inj hv
    simp only [normalized, Number.normalized, Raw.number.injEq, Number.float.injEq] at hsame
    intro z hz
    obtain rfl : z = x := by simpa [floats] using hz
    by_cases hzero : z.isZero = true
    · exact Binary64.readsBack_of_isZero hzero
    · rw [if_neg hzero] at hsame
      split at hsame
      · exact absurd (congrArg Binary64.isZero hsame.symm) hzero
      · exact hsame ▸ hy
  | .array items, hc, 0, v, h, _ => by simp [form, Form.value?] at h
  | .array items, hc, room + 1, v, h, hsame => by
    simp only [form, Form.value?, Option.bind_eq_bind, Option.bind_eq_some_iff, Option.pure_def,
      Option.some.injEq] at h
    obtain ⟨vs, hvs, rfl⟩ := h
    simp only [Json.array, normalized, Raw.array.injEq] at hsame
    exact readsBack_of_items? (by simpa [Canonical] using hc) hvs hsame
  | .object members, hc, 0, v, h, _ => by simp [form, Form.value?] at h
  | .object members, hc, room + 1, v, h, hsame => by
    simp only [form, Form.value?, Option.bind_eq_bind, Option.bind_eq_some_iff, Option.pure_def,
      Option.some.injEq] at h
    obtain ⟨ms, hms, rfl⟩ := h
    rw [Canonical] at hc
    simp only [Json.object, normalized, Raw.object.injEq,
      members_ofMembers (keys_of_members? hms ▸ hc.1)] at hsame
    exact readsBack_of_members? hc.2 hms hsame

theorem readsBack_of_items? : ∀ {items : List Raw}, CanonicalItems items →
    ∀ {room : Nat} {vs : List Json}, Form.items? room (formItems items) = some vs →
      normalizedItems (vs.map Json.raw) = normalizedItems items →
        ∀ x ∈ floatsItems items, x.ReadsBack
  | [], _, _, _, _, _ => by simp [floatsItems]
  | item :: items, hc, room, vs, h, hsame => by
    simp only [formItems, Form.items?, Option.bind_eq_bind, Option.bind_eq_some_iff,
      Option.pure_def, Option.some.injEq] at h
    obtain ⟨v, hv, vs', hvs, rfl⟩ := h
    simp only [List.map_cons, normalizedItems, List.cons.injEq] at hsame
    rw [floatsItems, List.forall_mem_append]
    exact ⟨readsBack_of_value? hc.1 hv hsame.1, readsBack_of_items? hc.2 hvs hsame.2⟩

theorem readsBack_of_members? : ∀ {members : List (String × Raw)}, CanonicalMembers members →
    ∀ {room : Nat} {ms : List (String × Json)},
      Form.members? room (formMembers members) = some ms →
        normalizedMembers (ms.map fun m => (m.1, m.2.raw)) = normalizedMembers members →
          ∀ x ∈ floatsMembers members, x.ReadsBack
  | [], _, _, _, _, _ => by simp [floatsMembers]
  | (key, value) :: members, hc, room, ms, h, hsame => by
    simp only [formMembers, Form.members?, decodeString_piecesOf, Option.bind_eq_bind,
      Option.bind_some, Option.bind_eq_some_iff, Option.pure_def, Option.some.injEq] at h
    obtain ⟨v, hv, ms', hms, rfl⟩ := h
    simp only [List.map_cons, normalizedMembers, List.cons.injEq, Prod.mk.injEq, true_and] at hsame
    rw [floatsMembers, List.forall_mem_append]
    exact ⟨readsBack_of_value? hc.1 hv hsame.1, readsBack_of_members? hc.2 hms hsame.2⟩

end

end Raw

/-- The binary numbers of a value. -/
def floats (v : Json) : List Binary64 := v.raw.floats

theorem ext_raw {v w : Json} (h : v.raw = w.raw) : v = w := by
  cases v; cases w; simp_all

theorem parse?_of_text (v : Json) : parse? v.text = v.raw.form.value? maxDepth := by
  rw [parse?, parseChars?, text, String.toList_ofList, chars,
    Form.ofChars?_chars v.raw.wellSpelt_form]
  rfl

/-- A value is read back from its text. -/
theorem parse?_text {v : Json} (hd : v.depth ≤ maxDepth) (hf : ∀ x ∈ v.floats, x.ReadsBack) :
    parse? v.text = some v := by
  rw [parse?_of_text]
  exact Raw.value?_form v.canonical maxDepth hd hf

/-- The text determines the value. -/
theorem text_injective {v w : Json} (h : v.text = w.text) : v = w := by
  have hchars : v.chars = w.chars := by simpa [text] using congrArg String.toList h
  exact ext_raw (Raw.form_injective
    (Form.chars_injective v.raw.wellSpelt_form w.raw.wellSpelt_form hchars))

/-- Values are equal if they are the same once zeros have no sign. -/
theorem beq_iff {v w : Json} : (v == w) = true ↔ v.normalized = w.normalized := by
  refine Raw.same_iff.trans ⟨fun h => ext_raw h, fun h => congrArg Json.raw h⟩

end AuditTrail.Json
