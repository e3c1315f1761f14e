import AuditTrail.Proofs.Json.Text

/-!
# How deep texts may nest

* `Form.depth`: how deep a text nests; `Raw.depth_form`: as deep as the value that it spells.
* `Form.depth_of_value?`: what is read has room, and the value nests no deeper than its text.
* `depth_of_parse?`, `depth_of_parse?_text`: neither does a value that was read from a text, nor a
  value whose text can be read, nest deeper than `maxDepth`.
-/

namespace AuditTrail.Json

namespace Form

mutual

/-- How deep arrays and objects nest in a text. -/
def depth : Form → Nat
  | .array items => depthItems items + 1
  | .object members => depthMembers members + 1
  | .null => 0
  | .bool _ => 0
  | .number _ => 0
  | .string _ => 0

/-- The greatest depth of the items. -/
def depthItems : List Form → Nat
  | [] => 0
  | item :: items => max (depth item) (depthItems items)

/-- The greatest depth of the values. -/
def depthMembers : List (List Piece × Form) → Nat
  | [] => 0
  | (_, value) :: members => max (depth value) (depthMembers members)

end

end Form

namespace Raw

mutual

theorem depth_form : ∀ r : Raw, r.form.depth = r.depth
  | .null => rfl
  | .bool _ => rfl
  | .number _ => rfl
  | .string _ => rfl
  | .array items => by rw [form, Form.depth, depth, depth_formItems items]
  | .object members => by rw [form, Form.depth, depth, depth_formMembers members]

theorem depth_formItems : ∀ items, Form.depthItems (formItems items) = depthItems items
  | [] => rfl
  | item :: items => by
    rw [formItems, Form.depthItems, depthItems, depth_form item, depth_formItems items]

theorem depth_formMembers :
    ∀ members, Form.depthMembers (formMembers members) = depthMembers members
  | [] => rfl
  | (_, value) :: members => by
    rw [formMembers, Form.depthMembers, depthMembers, depth_form value,
      depth_formMembers members]

end

theorem depthItems_le_iff {items : List Raw} {n : Nat} :
    depthItems items ≤ n ↔ ∀ item ∈ items, item.depth ≤ n := by
  induction items with
  | nil => simp [depthItems]
  | cons item items ih => simp [depthItems, ih]

theorem depthMembers_le_iff {members : List (String × Raw)} {n : Nat} :
    depthMembers members ≤ n ↔ ∀ m ∈ members, m.2.depth ≤ n := by
  induction members with
  | nil => simp [depthMembers]
  | cons m members ih => simp [depthMembers, ih]

/-- One more member may nest deeper than the others, but nothing else does. -/
theorem depthMembers_insertMember {key : String} {value : Raw} {members : List (String × Raw)}
    {n : Nat} (hvalue : value.depth ≤ n) (hmembers : depthMembers members ≤ n) :
    depthMembers (insertMember key value members) ≤ n := by
  rw [depthMembers_le_iff] at hmembers ⊢
  intro m hm
  rcases mem_insertMember hm with rfl | hm
  · exact hvalue
  · exact hmembers m hm

end Raw

theorem depthMembers_ofMembers {ms : List (String × Json)} {n : Nat}
    (h : ∀ m ∈ ms, m.2.depth ≤ n) : Raw.depthMembers (Payload.ofMembers ms).members ≤ n := by
  have hfold : ∀ (ms : List (String × Json)) (p : Payload), (∀ m ∈ ms, m.2.depth ≤ n) →
      Raw.depthMembers p.members ≤ n →
        Raw.depthMembers (ms.foldl (fun p m => p.insert m.1 m.2) p).members ≤ n := by
    intro ms
    induction ms with
    | nil => exact fun p _ hp => hp
    | cons m ms ih =>
      intro p hms hp
      obtain ⟨hm, hms⟩ := List.forall_mem_cons.1 hms
      exact ih _ hms (Raw.depthMembers_insertMember hm hp)
  exact hfold ms .empty h (Nat.zero_le n)

namespace Form

mutual

/-- What is read has room, and the value nests no deeper than its text. -/
theorem depth_of_value? : ∀ {f : Form} {room : Nat} {v : Json}, f.value? room = some v →
    f.depth ≤ room ∧ v.depth ≤ room
  | .null, _, _, h => by
    rw [value?] at h
    exact ⟨Nat.zero_le _, Option.some.inj h ▸ Nat.zero_le _⟩
  | .bool b, _, _, h => by
    rw [value?] at h
    exact ⟨Nat.zero_le _, Option.some.inj h ▸ Nat.zero_le _⟩
  | .number n, _, v, h => by
    rw [value?, Option.bind_eq_bind, Option.bind_eq_some_iff] at h
    obtain ⟨n, -, hv⟩ := h
    refine ⟨Nat.zero_le _, ?_⟩
    cases n with
    | int i =>
      rw [number?] at hv
      split at hv
      · exact Option.some.inj hv ▸ Nat.zero_le _
      · cases hv
    | float x => exact Option.some.inj hv ▸ Nat.zero_le _
  | .string pieces, _, v, h => by
    rw [value?, Option.bind_eq_bind, Option.bind_eq_some_iff] at h
    obtain ⟨s, -, hv⟩ := h
    exact ⟨Nat.zero_le _, Option.some.inj hv ▸ Nat.zero_le _⟩
  | .array items, room + 1, v, h => by
    rw [value?, Option.bind_eq_bind, Option.bind_eq_some_iff] at h
    obtain ⟨vs, hvs, hv⟩ := h
    obtain rfl := Option.some.inj hv
    obtain ⟨hitems, hvalues⟩ := depth_of_items? hvs
    refine ⟨Nat.succ_le_succ hitems, Nat.succ_le_succ (Raw.depthItems_le_iff.2 fun r hr => ?_)⟩
    obtain ⟨w, hw, rfl⟩ := List.mem_map.1 hr
    exact hvalues w hw
  | .object members, room + 1, v, h => by
    rw [value?, Option.bind_eq_bind, Option.bind_eq_some_iff] at h
    obtain ⟨ms, hms, hv⟩ := h
    obtain rfl := Option.some.inj hv
    obtain ⟨hmembers, hvalues⟩ := depth_of_members? hms
    exact ⟨Nat.succ_le_succ hmembers, Nat.succ_le_succ (depthMembers_ofMembers hvalues)⟩
  | .array _, 0, _, h => by rw [value?] at h; cases h
  | .object _, 0, _, h => by rw [value?] at h; cases h

theorem depth_of_items? : ∀ {items : List Form} {room : Nat} {vs : List Json},
    items? room items = some vs → depthItems items ≤ room ∧ ∀ v ∈ vs, v.depth ≤ room
  | [], _, _, h => by
    rw [items?] at h
    exact ⟨Nat.zero_le _, Option.some.inj h ▸ List.forall_mem_nil _⟩
  | item :: items, room, vs, h => by
    simp only [items?, Option.bind_eq_bind, Option.bind_eq_some_iff, Option.pure_def,
      Option.some.injEq] at h
    obtain ⟨v, hv, vs', hvs, rfl⟩ := h
    obtain ⟨hitem, hvalue⟩ := depth_of_value? hv
    obtain ⟨hitems, hvalues⟩ := depth_of_items? hvs
    exact ⟨Nat.max_le.2 ⟨hitem, hitems⟩, List.forall_mem_cons.2 ⟨hvalue, hvalues⟩⟩

theorem depth_of_members? : ∀ {members : List (List Piece × Form)} {room : Nat}
    {ms : List (String × Json)}, members? room members = some ms →
      depthMembers members ≤ room ∧ ∀ m ∈ ms, m.2.depth ≤ room
  | [], _, _, h => by
    rw [members?] at h
    exact ⟨Nat.zero_le _, Option.some.inj h ▸ List.forall_mem_nil _⟩
  | (key, value) :: members, room, ms, h => by
    simp only [members?, Option.bind_eq_bind, Option.bind_eq_some_iff, Option.pure_def,
      Option.some.injEq] at h
    obtain ⟨_, -, v, hv, ms', hms, rfl⟩ := h
    obtain ⟨hitem, hvalue⟩ := depth_of_value? hv
    obtain ⟨hitems, hvalues⟩ := depth_of_members? hms
    exact ⟨Nat.max_le.2 ⟨hitem, hitems⟩, List.forall_mem_cons.2 ⟨hvalue, hvalues⟩⟩

end

end Form

/-- A value that was read nests no deeper than texts are read. -/
theorem depth_of_parse? {s : String} {v : Json} (h : parse? s = some v) : v.depth ≤ maxDepth := by
  rw [parse?, parseChars?, Option.bind_eq_bind, Option.bind_eq_some_iff] at h
  obtain ⟨f, -, hv⟩ := h
  exact (Form.depth_of_value? hv).2

/-- A value whose text can be read nests no deeper than texts are read. -/
theorem depth_of_parse?_text {v w : Json} (h : parse? v.text = some w) : v.depth ≤ maxDepth := by
  rw [parse?_of_text] at h
  have hdepth := (Form.depth_of_value? h).1
  rwa [Raw.depth_form] at hdepth

end AuditTrail.Json
