import AuditTrail.Proofs.Json.Readable
import AuditTrail.Proofs.Row

/-!
# Rows that can be read

* `Json.parse?_encode_isSome_iff`, `Payload.parse?_encode_isSome_iff`: what a value left in a column
  can be read if and only if the value nests at most `maxDepth` deep.
* `Row.exists_toEntry_iff`: which entries have a row that can be read.
* `Entry.Admissible`: only the payload may keep the row of the entry from being read.
-/

namespace AuditTrail

/-! ## Values -/

theorem Json.parse?_encode_isSome_iff {v : Json} :
    (parse? v.encode).isSome = true ↔ v.depth ≤ maxDepth := by
  rw [encode, parse?_text_isSome_iff, depth, normalized, Raw.depth_normalized]
  rfl

/-- The text of an object is read as an object. -/
theorem Payload.exists_of_parse?_encode {p : Payload} {v : Json}
    (h : Json.parse? p.encode = some v) : ∃ q, v = Json.object q := by
  have hform : (Json.object p).normalized.raw.form =
      .object (Json.Raw.formMembers (Json.Raw.normalizedMembers p.members)) := rfl
  rw [encode, Json.encode, Json.parse?_of_text, hform, Json.maxDepth, Json.Form.value?,
    Option.bind_eq_bind, Option.bind_eq_some_iff] at h
  obtain ⟨ms, -, hv⟩ := h
  exact ⟨_, (Option.some.inj hv).symm⟩

theorem Payload.parse?_encode_isSome_iff {p : Payload} :
    (parse? p.encode).isSome = true ↔ (Json.object p).depth ≤ Json.maxDepth := by
  rw [← Json.parse?_encode_isSome_iff, Option.isSome_iff_exists, Option.isSome_iff_exists]
  simp only [parse?, Option.bind_eq_bind, Option.bind_eq_some_iff, payload?_eq_some_iff]
  constructor
  · rintro ⟨_, v, hv, -⟩
    exact ⟨v, hv⟩
  · rintro ⟨v, hv⟩
    obtain ⟨q, rfl⟩ := exists_of_parse?_encode hv
    exact ⟨q, _, hv, rfl⟩

/-! ## Rows -/

namespace Row

theorem exists_readValue_iff {o : Option Json} :
    (∃ w, readValue (o.map Json.encode) = .ok w) ↔ ∀ v, o = some v → v.depth ≤ Json.maxDepth := by
  cases o with
  | none => simp [readValue]
  | some v =>
    simp only [Option.map_some, readValue, Option.some.injEq, forall_eq',
      ← Json.parse?_encode_isSome_iff]
    cases Json.parse? v.encode <;> simp

theorem exists_readPayload_iff {p : Payload} :
    (∃ q, readPayload (some p.encode) = .ok q) ↔ (Json.object p).depth ≤ Json.maxDepth := by
  rw [← Payload.parse?_encode_isSome_iff, readPayload]
  cases Payload.parse? p.encode <;> simp

/-- The row of an entry can be read if and only if its instant is not beyond the last, its content
type is registered, and its values do not nest too deep. -/
theorem exists_toEntry_iff {types : ContentTypes} {e : Entry} :
    (∃ e', (ofEntry e).toEntry types = .ok e') ↔
      ¬ e.timestamp.IsBeyondLast ∧
        (∀ ct, e.contentType = some ct → types.contains ct.key = true) ∧
        e.NestsIn Json.maxDepth := by
  have hcontains : (∀ ct, e.contentType = some ct → types.contains ct.key = true) ↔
      ∀ ct, e.contentType = some ct → (types.resolve ct.key).isSome = true := by
    simp [ContentTypes.contains, ContentTypes.resolve]
  have hinstant : ¬ e.timestamp.IsBeyondLast ↔
      ∃ t, Instant.ofMicros? e.timestamp.micros = some t := by
    rw [← Instant.ofMicros?_micros_eq_none_iff]
    exact Option.ne_none_iff_exists'
  rw [hcontains, hinstant, ← readContentType_key_iff]
  constructor
  · rintro ⟨e', h⟩
    obtain ⟨t, user, object, ct, data, ht, hu, ho, hct, hd, -⟩ := toEntry_ofEntry_eq_ok_iff.1 h
    exact ⟨⟨t, ht⟩, ⟨ct, hct⟩, exists_readValue_iff.1 ⟨user, hu⟩,
      exists_readValue_iff.1 ⟨object, ho⟩, exists_readPayload_iff.1 ⟨data, hd⟩⟩
  · rintro ⟨⟨t, ht⟩, ⟨ct, hct⟩, huser, hobject, hdata⟩
    obtain ⟨user, hu⟩ := exists_readValue_iff.2 huser
    obtain ⟨object, ho⟩ := exists_readValue_iff.2 hobject
    obtain ⟨data, hd⟩ := exists_readPayload_iff.2 hdata
    exact ⟨_, toEntry_ofEntry_eq_ok_iff.2 ⟨t, user, object, ct, data, ht, hu, ho, hct, hd, rfl⟩⟩

end Row

/-- Only the payload may keep the row of the entry from being read. -/
structure Entry.Admissible (types : ContentTypes) (e : Entry) : Prop where
  instant : ¬ e.timestamp.IsBeyondLast
  contentType : ∀ ct, e.contentType = some ct → types.contains ct.key = true
  user : ∀ v, e.user = some v → v.depth ≤ Json.maxDepth
  object : ∀ v, e.object = some v → v.depth ≤ Json.maxDepth

theorem Entry.Admissible.exists_toEntry_iff {types : ContentTypes} {e : Entry}
    (h : e.Admissible types) :
    (∃ e', (Row.ofEntry e).toEntry types = .ok e') ↔
      (Json.object e.data).depth ≤ Json.maxDepth := by
  rw [Row.exists_toEntry_iff]
  exact ⟨fun hread => hread.2.2.data, fun hd => ⟨h.instant, h.contentType, h.user, h.object, hd⟩⟩

end AuditTrail
