import AuditTrail.Proofs.ReadBack
import AuditTrail.Proofs.Readable

/-!
# Rows in normal form

A row that can be read may spell its values in many ways. The row of the entry that was read is its
normal form.

* `Row.isPlain_of_toEntry`: an entry that was read, from whatever row, has a row of its own.
* `Row.ofEntry_toEntry`: the columns of the normal form that are those of the row; which of the
  others are absent. The normal form can be read, and it is its own normal form exactly if the
  binary numbers read back.
-/

namespace AuditTrail

theorem ContentTypes.key_of_resolve {types : ContentTypes} {key : String} {ct : ContentType}
    (h : types.resolve key = some ct) : ct.key = key := by
  obtain ⟨r, hr, rfl⟩ := Option.map_eq_some_iff.1 h
  exact key_of_find? hr

theorem Json.isNull_iff {v : Json} : v.isNull = true ↔ v = .null := by
  constructor
  · intro h
    refine ext_raw ?_
    unfold isNull at h
    split at h
    · next hraw => exact hraw
    · cases h
  · rintro rfl
    rfl

/-- Only `null` is left out. -/
theorem Json.present?_eq_none_iff {v : Json} : v.present? = none ↔ v = .null := by
  rw [← isNull_iff, present?]
  cases v.isNull <;> simp

theorem Payload.encode_empty : Payload.empty.encode = "\x7b\x7d" := by decide

namespace Row

/-! ## One column -/

theorem readId_eq_ok_iff {bytes : List UInt8} {id : EntryId} :
    readId bytes = .ok id ↔ id.bytes = bytes := by
  constructor
  · intro h
    rw [readId, EntryId.ofBytes] at h
    split at h
    · rw [← Except.ok.inj h]
    · cases h
  · rintro rfl
    exact readId_bytes id

theorem readLevel_eq_ok_iff {n : Int} {level : Level} :
    readLevel n = .ok level ↔ (level.rank : Int) = n := by
  rw [← Level.ofRank?_eq_some_iff, readLevel]
  cases Level.ofRank? n <;> simp

theorem readValue_eq_ok_iff {o : Option String} {v : Json} :
    readValue o = .ok v ↔ o.elim (some .null) Json.parse? = some v := by
  cases o with
  | none => simp [readValue]
  | some s =>
    rw [readValue, Option.elim_some]
    cases Json.parse? s <;> simp

theorem readPayload_eq_ok_iff {o : Option String} {p : Payload} :
    readPayload o = .ok p ↔ o.elim (some .empty) Payload.parse? = some p := by
  cases o with
  | none => simp [readPayload]
  | some s =>
    rw [readPayload, Option.elim_some]
    cases Payload.parse? s <;> simp

/-- The content type that is read has the key of the column, under which it is registered. -/
theorem readContentType_eq_ok {types : ContentTypes} {o : Option String}
    {contentType : Option ContentType} (h : readContentType types o = .ok contentType) :
    contentType.map ContentType.key = o ∧
      ∀ ct, contentType = some ct → types.resolve ct.key = some ct := by
  cases o with
  | none =>
    obtain rfl := Except.ok.inj h
    simp
  | some key =>
    rw [readContentType] at h
    cases hct : types.resolve key with
    | none => rw [hct] at h; cases h
    | some ct =>
      rw [hct] at h
      obtain rfl := Except.ok.inj h
      have hkey := ContentTypes.key_of_resolve hct
      refine ⟨congrArg some hkey, ?_⟩
      rintro _ ⟨⟩
      rwa [hkey]

theorem depth_of_readValue {o : Option String} {v : Json} (h : readValue o = .ok v) :
    v.depth ≤ Json.maxDepth := by
  rw [readValue_eq_ok_iff] at h
  cases o with
  | none => exact Option.some.inj h ▸ Nat.zero_le _
  | some s => exact Json.depth_of_parse? h

theorem depth_of_readPayload {o : Option String} {p : Payload} (h : readPayload o = .ok p) :
    (Json.object p).depth ≤ Json.maxDepth := by
  rw [readPayload_eq_ok_iff] at h
  cases o with
  | none => exact Option.some.inj h ▸ (by decide : (Json.object .empty).depth ≤ Json.maxDepth)
  | some s =>
    simp only [Option.elim_some, Payload.parse?, Option.bind_eq_bind, Option.bind_eq_some_iff,
      Payload.payload?_eq_some_iff] at h
    obtain ⟨_, hv, rfl⟩ := h
    exact Json.depth_of_parse? hv

/-- The column of a value that was read is absent if the value is `null`. -/
theorem encode_present?_eq_none_iff {o : Option String} {v : Json} (h : readValue o = .ok v) :
    v.present?.map Json.encode = none ↔ ∀ s, o = some s → Json.parse? s = some .null := by
  rw [Option.map_eq_none_iff, Json.present?_eq_none_iff]
  rw [readValue_eq_ok_iff] at h
  cases o with
  | none => simpa using (Option.some.inj h).symm
  | some s => simp [show Json.parse? s = some v from h]

/-! ## Rows -/

section

variable {types : ContentTypes} {r : Row} {e : Entry} (h : r.toEntry types = .ok e)

include h

theorem nestsIn_of_toEntry : e.NestsIn Json.maxDepth := by
  obtain ⟨id, level, t, user, object, ct, data, -, -, -, hu, ho, -, hd, rfl⟩ :=
    toEntry_eq_ok_iff.1 h
  have hpresent : ∀ {v w : Json}, v.present? = some w → v = w := fun hw =>
    (Json.present?_eq_some_iff.1 hw).2
  exact {
    user := fun v hv => hpresent hv ▸ depth_of_readValue hu
    object := fun v hv => hpresent hv ▸ depth_of_readValue ho
    data := depth_of_readPayload hd }

theorem timestamp_of_toEntry : e.timestamp.micros = r.occurredAt ∧ e.timestamp.IsWhole := by
  obtain ⟨id, level, t, user, object, ct, data, -, -, ht, -, -, -, -, rfl⟩ :=
    toEntry_eq_ok_iff.1 h
  obtain ⟨hmicros, hwhole⟩ := Instant.ofMicros?_eq_some_iff.1 ht
  have ht : t.truncated = t := hwhole.1
  change t.truncated.micros = r.occurredAt ∧ t.truncated.IsWhole
  rw [ht]
  exact ⟨hmicros, hwhole⟩

theorem isOwn_of_toEntry : e.IsOwn types := by
  obtain ⟨id, level, t, user, object, ct, data, -, -, -, -, -, hct, -, rfl⟩ :=
    toEntry_eq_ok_iff.1 h
  exact (readContentType_eq_ok hct).2

/-- The columns that are the same in the normal form. -/
theorem columns_ofEntry_of_toEntry :
    (ofEntry e).id = r.id ∧ (ofEntry e).type = r.type ∧ (ofEntry e).level = r.level ∧
      (ofEntry e).occurredAt = r.occurredAt ∧ (ofEntry e).contentType = r.contentType := by
  have hmicros := (timestamp_of_toEntry h).1
  obtain ⟨id, level, t, user, object, ct, data, hid, hlevel, -, -, -, hct, -, rfl⟩ :=
    toEntry_eq_ok_iff.1 h
  exact ⟨readId_eq_ok_iff.1 hid, rfl, readLevel_eq_ok_iff.1 hlevel, hmicros,
    (readContentType_eq_ok hct).1⟩

/-- The values that are absent in the normal form. -/
theorem absent_ofEntry_of_toEntry :
    ((ofEntry e).userId = none ↔ ∀ s, r.userId = some s → Json.parse? s = some .null) ∧
      ((ofEntry e).objectId = none ↔ ∀ s, r.objectId = some s → Json.parse? s = some .null) ∧
      ∃ s, (ofEntry e).data = some s ∧ (r.data = none → s = "\x7b\x7d") := by
  obtain ⟨id, level, t, user, object, ct, data, -, -, -, hu, ho, -, hd, rfl⟩ :=
    toEntry_eq_ok_iff.1 h
  refine ⟨encode_present?_eq_none_iff hu, encode_present?_eq_none_iff ho, data.encode, rfl, ?_⟩
  intro hnone
  rw [hnone, readPayload_eq_ok_iff] at hd
  rw [← Payload.encode_empty, ← Option.some.inj hd]

theorem isPlain_of_toEntry : e.IsPlain types :=
  ⟨(timestamp_of_toEntry h).2, isOwn_of_toEntry h, nestsIn_of_toEntry h⟩

/-- The normal form can be read. -/
theorem exists_toEntry_ofEntry_of_toEntry : ∃ e', (ofEntry e).toEntry types = .ok e' := by
  have hplain := isPlain_of_toEntry h
  refine exists_toEntry_iff.2 ⟨?_, fun ct hct => ?_, hplain.nests⟩
  · rw [← Instant.ofMicros?_micros_eq_none_iff, Instant.ofMicros?_micros hplain.whole]
    simp
  · have hresolve := hplain.own ct hct
    rw [ContentTypes.resolve, Option.map_eq_some_iff] at hresolve
    obtain ⟨_, hfind, -⟩ := hresolve
    rw [ContentTypes.contains, hfind]
    rfl

/-- The row of an entry that was read from any row spells the same identifier, type, level,
microsecond and key. It leaves out the user and the object if the row does, or if they are `null`
there, and always has a payload. It can be read, and reading it and writing it again changes nothing
exactly if the binary numbers of the entry read back. -/
theorem ofEntry_toEntry :
    ((ofEntry e).id = r.id ∧ (ofEntry e).type = r.type ∧ (ofEntry e).level = r.level ∧
        (ofEntry e).occurredAt = r.occurredAt ∧ (ofEntry e).contentType = r.contentType) ∧
      (((ofEntry e).userId = none ↔ ∀ s, r.userId = some s → Json.parse? s = some .null) ∧
        ((ofEntry e).objectId = none ↔ ∀ s, r.objectId = some s → Json.parse? s = some .null) ∧
        ∃ s, (ofEntry e).data = some s ∧ (r.data = none → s = "\x7b\x7d")) ∧
      ∃ e', (ofEntry e).toEntry types = .ok e' ∧
        ((e' == e) = true ↔ ∀ x ∈ e.floats, x.ReadsBack) ∧
        (ofEntry e' = ofEntry e ↔ ∀ x ∈ e.floats, x.ReadsBack) := by
  obtain ⟨e', hread⟩ := exists_toEntry_ofEntry_of_toEntry h
  have hsame := Entry.exists_readBack_iff (isPlain_of_toEntry h)
  simp only [hread, Except.ok.injEq, exists_eq_left'] at hsame
  exact ⟨columns_ofEntry_of_toEntry h, absent_ofEntry_of_toEntry h, e', hread, hsame,
    ofEntry_eq_iff hread⟩

end

/-- A row with blanks, a key that is written twice, a negative zero, an escape and a `null`. -/
def loose : Row where
  id := List.replicate 16 1
  type := ""
  level := 4
  occurredAt := -1
  userId := some " \x7b \"b\" : 1 , \"a\":[-0.0],\"b\": 15e-1 \x7d "
  objectId := some "\tnull"
  contentType := some "shop.Order"
  data := some "\x7b\"\\u0041\":\"\\/\"\x7d"

/-- The normal form of a row that is written loosely. -/
theorem ofEntry_toEntry_loose :
    ∃ e e', loose.toEntry (ContentTypes.empty.registerKey ⟨"shop", "Order"⟩) = .ok e ∧
      ofEntry e = { loose with
        userId := some "\x7b\"a\":[0.0],\"b\":1.5\x7d"
        objectId := none
        data := some "\x7b\"A\":\"/\"\x7d" } ∧
      (ofEntry e).toEntry (ContentTypes.empty.registerKey ⟨"shop", "Order"⟩) = .ok e' ∧
      (e' == e) = true ∧ ofEntry e' = ofEntry e := by
  have hnormal : (loose.toEntry (ContentTypes.empty.registerKey ⟨"shop", "Order"⟩)).map ofEntry =
      .ok { loose with
        userId := some "\x7b\"a\":[0.0],\"b\":1.5\x7d"
        objectId := none
        data := some "\x7b\"A\":\"/\"\x7d" } := by decide +kernel
  have hfloats : (loose.toEntry (ContentTypes.empty.registerKey ⟨"shop", "Order"⟩)).map
      (fun e => decide (∀ x ∈ e.floats, x.ReadsBack)) = .ok true := by decide +kernel
  cases he : loose.toEntry (ContentTypes.empty.registerKey ⟨"shop", "Order"⟩) with
  | error err => rw [he] at hnormal; cases hnormal
  | ok e =>
    rw [he] at hnormal hfloats
    have hback : ∀ x ∈ e.floats, x.ReadsBack := by simpa [Except.map] using hfloats
    obtain ⟨-, -, e', hread, hsame, hrow⟩ := ofEntry_toEntry he
    exact ⟨e, e', rfl, Except.ok.inj hnormal, hread, hsame.2 hback, hrow.2 hback⟩

end Row

end AuditTrail
