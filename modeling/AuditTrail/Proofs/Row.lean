import AuditTrail.Proofs.Instant.Basic
import AuditTrail.Proofs.Json.Text
import AuditTrail.Proofs.OneByOne
import AuditTrail.Row

/-!
# Rows are read back

* `Json.encode_eq_iff`, `Payload.encode_eq_iff`: two values have one text in a column exactly if
  they are equal.
* `Entry.asStored`: the entry that a table keeps: at the instant of its microseconds, with the
  content type that is registered under its key.
* `Row.toEntry_ofEntry_iff`: what has to hold for the row of an entry to give it back.
-/

namespace AuditTrail

/-! ## Texts of values -/

namespace Json

theorem normalized_normalized (v : Json) : v.normalized.normalized = v.normalized :=
  ext_raw v.raw.normalized_normalized

theorem normalized_beq (v : Json) : (v.normalized == v) = true :=
  beq_iff.2 v.normalized_normalized

/-- Two values have one text in a column exactly if they are equal. -/
theorem encode_eq_iff {v w : Json} : v.encode = w.encode ↔ (v == w) = true := by
  rw [beq_iff]
  exact ⟨text_injective, congrArg text⟩

theorem isNull_normalized (v : Json) : v.normalized.isNull = v.isNull := by
  obtain ⟨raw, _⟩ := v
  cases raw <;> rfl

theorem isNull_eq_of_beq {v w : Json} (h : (v == w) = true) : v.isNull = w.isNull := by
  rw [← isNull_normalized v, beq_iff.1 h, isNull_normalized]

theorem present?_eq_some_iff {v w : Json} :
    v.present? = some w ↔ v.isNull = false ∧ v = w := by
  unfold present?
  cases v.isNull <;> simp

/-- What is read from the column is equal to the value exactly if its binary numbers read back. -/
theorem parse?_encode_iff {v : Json} (hd : v.depth ≤ maxDepth) :
    (∃ w, parse? v.encode = some w ∧ (w == v) = true) ↔ ∀ x ∈ v.floats, x.ReadsBack := by
  constructor
  · rintro ⟨w, hw, hsame⟩
    rw [encode, parse?_of_text] at hw
    refine v.raw.readsBack_normalized.1
      (Raw.readsBack_of_value? v.normalized.canonical hw ?_)
    exact congrArg raw ((beq_iff.1 hsame).trans v.normalized_normalized.symm)
  · intro hf
    refine ⟨v.normalized, parse?_text ?_ (v.raw.readsBack_normalized.2 hf), v.normalized_beq⟩
    exact (Raw.depth_normalized v.raw).trans_le hd

end Json

namespace Payload

/-- The binary numbers of a payload. -/
def floats (p : Payload) : List Binary64 := (Json.object p).floats

theorem payload?_eq_some_iff {v : Json} {p : Payload} :
    v.payload? = some p ↔ v = Json.object p := by
  obtain ⟨raw, h⟩ := v
  cases raw <;> simp [Json.payload?, Json.object]
  constructor
  · rintro rfl
    rfl
  · rintro rfl
    rfl

theorem beq_iff {p q : Payload} : (p == q) = true ↔ (Json.object p == Json.object q) = true := by
  change same p q = true ↔ Json.same (Json.object p) (Json.object q) = true
  simp [same, Json.same, Json.object, Json.Raw.same]

/-- Two payloads have one text in a column exactly if they are equal. -/
theorem encode_eq_iff {p q : Payload} : p.encode = q.encode ↔ (p == q) = true :=
  Json.encode_eq_iff.trans beq_iff.symm

theorem parse?_encode_iff {p : Payload} (hd : (Json.object p).depth ≤ Json.maxDepth) :
    (∃ q, parse? p.encode = some q ∧ (q == p) = true) ↔ ∀ x ∈ p.floats, x.ReadsBack := by
  rw [floats, ← Json.parse?_encode_iff hd]
  simp only [parse?, encode, Option.bind_eq_bind, Option.bind_eq_some_iff, payload?_eq_some_iff,
    beq_iff]
  constructor
  · rintro ⟨q, ⟨w, hw, rfl⟩, hsame⟩
    exact ⟨_, hw, hsame⟩
  · rintro ⟨w, hw, hsame⟩
    obtain ⟨q, rfl⟩ : ∃ q, w = Json.object q := by
      obtain ⟨raw, hraw⟩ := w
      cases raw with
      | object members => exact ⟨⟨members, hraw⟩, rfl⟩
      | _ => exact absurd hsame (by simp [BEq.beq, Json.same, Json.object, Json.Raw.same])
    exact ⟨q, ⟨_, hw, rfl⟩, hsame⟩

end Payload

/-! ## Entries -/

namespace Entry

/-- The values of an entry nest at most so deep. -/
structure NestsIn (e : Entry) (room : Nat) : Prop where
  user : ∀ v, e.user = some v → v.depth ≤ room
  object : ∀ v, e.object = some v → v.depth ≤ room
  data : (Json.object e.data).depth ≤ room

/-- The binary numbers of a value that may be absent. -/
def valueFloats : Option Json → List Binary64
  | none => []
  | some v => v.floats

/-- The binary numbers of an entry. -/
def floats (e : Entry) : List Binary64 :=
  valueFloats e.user ++ valueFloats e.object ++ e.data.floats

/-- The entry that a table keeps: at an instant that was read, with the content type that is
registered under its key. -/
def asStored (e : Entry) (types : ContentTypes) (t : Instant) : Entry :=
  { e.atInstant t with contentType := e.contentType.bind fun ct => types.resolve ct.key }

/-- The content type, if there is one, is registered as it is. -/
def IsOwn (types : ContentTypes) (e : Entry) : Prop :=
  ∀ ct, e.contentType = some ct → types.resolve ct.key = some ct

theorem asStored_timestamp {e : Entry} {types : ContentTypes} (h : e.IsOwn types) :
    e.asStored types e.timestamp = e := by
  have hct : (e.contentType.bind fun ct => types.resolve ct.key) = e.contentType := by
    cases he : e.contentType with
    | none => rfl
    | some ct => exact h ct he
  rw [asStored, hct]
  rfl

end Entry

theorem Level.ofRank?_eq_some_iff {n : Int} {level : Level} :
    ofRank? n = some level ↔ (level.rank : Int) = n := by
  constructor
  · intro h
    simpa using List.find?_some h
  · rintro rfl
    exact ofRank?_rank level

namespace Row

theorem readColumn_eq_ok {α : Type} {column : Column} {r : Except ReadFault α} {a : α} :
    readColumn column r = .ok a ↔ r = .ok a := by
  cases r <;> simp [readColumn, Except.mapError]

theorem readId_bytes (id : EntryId) : readId id.bytes = .ok id := by
  simp [readId, EntryId.ofBytes, id.length_eq, Except.mapError]

theorem readLevel_rank (level : Level) : readLevel level.rank = .ok level := by
  simp [readLevel, Level.ofRank?_rank]

theorem readInstant_eq_ok {n : Int} {t : Instant} :
    readInstant n = .ok t ↔ Instant.ofMicros? n = some t := by
  unfold readInstant
  cases Instant.ofMicros? n <;> simp

/-- The entry of a row is put together from what its columns say. -/
theorem toEntry_eq_ok_iff {types : ContentTypes} {r : Row} {e : Entry} :
    r.toEntry types = .ok e ↔
      ∃ id level t user object contentType data,
        readId r.id = .ok id ∧ readLevel r.level = .ok level ∧
        Instant.ofMicros? r.occurredAt = some t ∧ readValue r.userId = .ok user ∧
        readValue r.objectId = .ok object ∧
        readContentType types r.contentType = .ok contentType ∧ readPayload r.data = .ok data ∧
        e = { (((Entry.ofType r.type level t).withId id).withUser user |>.withObject object)
          |>.withData data with contentType } := by
  simp only [toEntry, bind_eq_ok, readColumn_eq_ok, readInstant_eq_ok, pure, Except.pure,
    Except.ok.injEq]
  constructor
  · rintro ⟨id, hid, level, hlevel, t, ht, user, hu, object, ho, ct, hct, data, hd, rfl⟩
    exact ⟨id, level, t, user, object, ct, data, hid, hlevel, ht, hu, ho, hct, hd, rfl⟩
  · rintro ⟨id, level, t, user, object, ct, data, hid, hlevel, ht, hu, ho, hct, hd, rfl⟩
    exact ⟨id, hid, level, hlevel, t, ht, user, hu, object, ho, ct, hct, data, hd, rfl⟩

theorem toEntry_ofEntry_eq_ok_iff {types : ContentTypes} {e e' : Entry} :
    (ofEntry e).toEntry types = .ok e' ↔
      ∃ t user object contentType data,
        Instant.ofMicros? e.timestamp.micros = some t ∧
        readValue (e.user.map Json.encode) = .ok user ∧
        readValue (e.object.map Json.encode) = .ok object ∧
        readContentType types (e.contentType.map ContentType.key) = .ok contentType ∧
        readPayload (some e.data.encode) = .ok data ∧
        e' = { (((Entry.ofType e.type e.level t).withId e.id).withUser user |>.withObject object)
          |>.withData data with contentType } := by
  simp only [toEntry_eq_ok_iff, ofEntry, readId_bytes, readLevel_rank, Except.ok.injEq,
    exists_and_left, exists_eq_left']

/-- A value that is present or absent is read back exactly if its binary numbers read back. -/
theorem readValue_encode_iff {o : Option Json} (hpresent : ∀ v, o = some v → v.isNull = false)
    (hd : ∀ v, o = some v → v.depth ≤ Json.maxDepth) :
    (∃ w, readValue (o.map Json.encode) = .ok w ∧ Entry.sameValue w.present? o = true) ↔
      ∀ x ∈ Entry.valueFloats o, x.ReadsBack := by
  cases o with
  | none =>
    simp only [Entry.valueFloats, List.not_mem_nil, false_implies, implies_true, iff_true]
    exact ⟨.null, rfl, rfl⟩
  | some v =>
    have hv := hpresent v rfl
    rw [Entry.valueFloats, ← Json.parse?_encode_iff (hd v rfl)]
    simp only [Option.map_some, readValue]
    constructor
    · rintro ⟨w, hw, hsame⟩
      split at hw
      · next w' hparse =>
        obtain rfl := Except.ok.inj hw
        refine ⟨w', hparse, ?_⟩
        unfold Json.present? at hsame
        split at hsame
        · exact absurd hsame (by simp [Entry.sameValue])
        · exact hsame
      · cases hw
    · rintro ⟨w, hparse, hsame⟩
      have hw : w.isNull = false := (Json.isNull_eq_of_beq hsame).trans hv
      exact ⟨w, by rw [hparse], by rw [Json.present?_eq_some hw]; exact hsame⟩

theorem readPayload_encode_iff {p : Payload} (hd : (Json.object p).depth ≤ Json.maxDepth) :
    (∃ q, readPayload (some p.encode) = .ok q ∧ (q == p) = true) ↔ ∀ x ∈ p.floats, x.ReadsBack := by
  rw [← Payload.parse?_encode_iff hd]
  simp only [readPayload]
  cases Payload.parse? p.encode <;> simp

theorem readContentType_key_iff {types : ContentTypes} {o : Option ContentType} :
    (∃ ct, readContentType types (o.map ContentType.key) = .ok ct) ↔
      ∀ ct, o = some ct → (types.resolve ct.key).isSome = true := by
  cases o with
  | none => simp [readContentType]
  | some c =>
    simp only [readContentType, Option.map_some, Option.some.injEq, forall_eq']
    cases types.resolve c.key <;> simp

theorem eq_of_readContentType {types : ContentTypes} {o ct : Option ContentType}
    (h : readContentType types (o.map ContentType.key) = .ok ct) :
    ct = o.bind fun c => types.resolve c.key := by
  cases o with
  | none => exact (Except.ok.inj h).symm
  | some c =>
    simp only [readContentType, Option.map_some] at h
    simp only [Option.bind_some]
    cases hr : types.resolve c.key with
    | none => rw [hr] at h; cases h
    | some c' => rw [hr] at h; exact (Except.ok.inj h).symm

/-- What has to hold for the row of an entry to give back the entry that the table keeps. -/
theorem toEntry_ofEntry_iff {types : ContentTypes} {e : Entry} (hd : e.NestsIn Json.maxDepth) :
    (∃ t e', Instant.ofMicros? e.timestamp.micros = some t ∧ (ofEntry e).toEntry types = .ok e' ∧
        (e' == e.asStored types t) = true) ↔
      ¬ e.timestamp.IsBeyondLast ∧
        (∀ ct, e.contentType = some ct → (types.resolve ct.key).isSome = true) ∧
        ∀ x ∈ e.floats, x.ReadsBack := by
  have hfloats : (∀ x ∈ e.floats, x.ReadsBack) ↔
      (∀ x ∈ Entry.valueFloats e.user, x.ReadsBack) ∧
        (∀ x ∈ Entry.valueFloats e.object, x.ReadsBack) ∧ ∀ x ∈ e.data.floats, x.ReadsBack := by
    rw [Entry.floats, List.forall_mem_append, List.forall_mem_append, and_assoc]
  rw [hfloats, ← readValue_encode_iff e.user_present hd.user,
    ← readValue_encode_iff e.object_present hd.object, ← readPayload_encode_iff hd.data,
    ← readContentType_key_iff, ← Instant.ofMicros?_micros_eq_none_iff]
  constructor
  · rintro ⟨t, e', ht, hread, hsame⟩
    obtain ⟨t', user, object, ct, data, ht', hu, ho, hct, hdata, rfl⟩ :=
      toEntry_ofEntry_eq_ok_iff.1 hread
    have hparts : Entry.same _ (e.asStored types t) = true := hsame
    simp only [Entry.same, Entry.withData, Entry.withObject, Entry.withUser, Entry.withId,
      Entry.asStored, Entry.atInstant, Bool.and_eq_true] at hparts
    obtain ⟨⟨⟨⟨-, husame⟩, hosame⟩, -⟩, hdsame⟩ := hparts
    exact ⟨by simp [ht], ⟨ct, hct⟩, ⟨user, hu, husame⟩, ⟨object, ho, hosame⟩, data, hdata, hdsame⟩
  · rintro ⟨ht, ⟨ct, hct⟩, ⟨user, hu, husame⟩, ⟨object, ho, hosame⟩, data, hdata, hdsame⟩
    obtain ⟨t, ht⟩ := Option.ne_none_iff_exists'.1 ht
    refine ⟨t, _, ht, toEntry_ofEntry_eq_ok_iff.2
      ⟨t, user, object, ct, data, ht, hu, ho, hct, hdata, rfl⟩, ?_⟩
    have hwhole : t.truncated = t := (Instant.ofMicros?_eq_some_iff.1 ht).2.1
    change Entry.same _ (e.asStored types t) = true
    simp [Entry.same, Entry.withData, Entry.withObject, Entry.withUser, Entry.withId,
      Entry.asStored, Entry.atInstant, Entry.ofType, hwhole, husame, hosame, hdsame,
      eq_of_readContentType hct]

end Row

/-! ## Entries that have a row of their own -/

namespace Entry

variable {types : ContentTypes}

/-- The entry is at a whole microsecond, its content type is registered as it is, and its values
nest no deeper than texts are read. -/
structure IsPlain (types : ContentTypes) (e : Entry) : Prop where
  whole : e.timestamp.IsWhole
  own : e.IsOwn types
  nests : e.NestsIn Json.maxDepth

theorem IsPlain.withId {e : Entry} (h : e.IsPlain types) (id : EntryId) :
    (e.withId id).IsPlain types :=
  ⟨h.whole, h.own, h.nests.user, h.nests.object, h.nests.data⟩

/-- A table gives an entry back exactly if its binary numbers read back. -/
theorem exists_readBack_iff {e : Entry} (h : e.IsPlain types) :
    (∃ e', (Row.ofEntry e).toEntry types = .ok e' ∧ (e' == e) = true) ↔
      ∀ x ∈ e.floats, x.ReadsBack := by
  have hmicros := Instant.ofMicros?_micros h.whole
  have hresolve : ∀ ct, e.contentType = some ct → (types.resolve ct.key).isSome = true :=
    fun ct hct => by rw [h.own ct hct]; rfl
  have hlast : ¬ e.timestamp.IsBeyondLast := by
    rw [← Instant.ofMicros?_micros_eq_none_iff, hmicros]
    simp
  refine Iff.trans ?_
    ((Row.toEntry_ofEntry_iff h.nests).trans ((and_iff_right hlast).trans (and_iff_right hresolve)))
  constructor
  · rintro ⟨e', he', hsame⟩
    exact ⟨e.timestamp, e', hmicros, he', by rwa [asStored_timestamp h.own]⟩
  · rintro ⟨t, e', ht, he', hsame⟩
    obtain rfl : e.timestamp = t := Option.some.inj (hmicros.symm.trans ht)
    exact ⟨e', he', by rwa [asStored_timestamp h.own] at hsame⟩

end Entry

namespace Row

theorem isSome_eq_of_sameValue {a b : Option Json} (h : Entry.sameValue a b = true) :
    a.isSome = b.isSome := by
  cases a <;> cases b <;> simp_all [Entry.sameValue]

/-- The row of an entry gives the entry back: nothing is lost but what is finer than a microsecond,
the mark of a leap second, and a content type that is registered anew under its key. -/
theorem toEntry_ofEntry {types : ContentTypes} {e : Entry} (hd : e.NestsIn Json.maxDepth)
    (htypes : ∀ ct, e.contentType = some ct → types.contains ct.key = true)
    (hfloats : ∀ x ∈ e.floats, x.ReadsBack) (hlast : ¬ e.timestamp.IsBeyondLast) :
    ∃ t e', (t.IsWhole ∧ t.micros = e.timestamp.micros) ∧ (ofEntry e).toEntry types = .ok e' ∧
      (e' == e.asStored types t) = true ∧
      (∀ ct, e.contentType = some ct → ∃ ct', e'.contentType = some ct' ∧ ct'.key = ct.key) ∧
      e'.user.isSome = e.user.isSome ∧ e'.object.isSome = e.object.isSome ∧
      (e.timestamp.IsWhole → e.IsOwn types → (e' == e) = true) := by
  have hresolve : ∀ ct, e.contentType = some ct → (types.resolve ct.key).isSome = true :=
    fun ct hct => by simpa [ContentTypes.resolve, ContentTypes.contains] using htypes ct hct
  obtain ⟨t, e', ht, hread, hsame⟩ := (toEntry_ofEntry_iff hd).2 ⟨hlast, hresolve, hfloats⟩
  obtain ⟨hmicros, hwhole⟩ := Instant.ofMicros?_eq_some_iff.1 ht
  have hparts : Entry.same e' (e.asStored types t) = true := hsame
  simp only [Entry.same, Bool.and_eq_true, decide_eq_true_eq] at hparts
  obtain ⟨⟨⟨⟨-, hu⟩, ho⟩, hct⟩, -⟩ := hparts
  refine ⟨t, e', ⟨hwhole, hmicros⟩, hread, hsame, ?_, isSome_eq_of_sameValue hu,
    isSome_eq_of_sameValue ho, ?_⟩
  · intro ct he
    obtain ⟨r, hr⟩ := Option.isSome_iff_exists.1 (htypes ct he)
    refine ⟨r.contentType, ?_, ContentTypes.key_of_find? hr⟩
    rw [hct]
    simp [Entry.asStored, he, ContentTypes.resolve, hr]
  · intro hown_t hown
    obtain rfl : t = e.timestamp := by
      have := Instant.ofMicros?_micros hown_t
      rw [ht] at this
      exact Option.some.inj this
    rwa [Entry.asStored_timestamp hown] at hsame

/-- The number one half. -/
def half : Binary64 := ⟨false, 2 ^ 52, -53, by decide, by decide, by decide, by decide⟩

/-- An entry with a user, a content type and a binary number. -/
def payment : Entry :=
  ((Entry.ofType "paid" .warn ⟨-1, 999999000, by decide, by decide, by decide, by decide⟩).withUser
    (.string "u1")).withContentType ⟨"shop", "Order"⟩ |>.withField "total"
      ⟨.number (.float half), trivial⟩

theorem toEntry_ofEntry_payment :
    payment.NestsIn Json.maxDepth ∧ (∀ x ∈ payment.floats, x.ReadsBack) ∧
      ∃ e', (ofEntry payment).toEntry (ContentTypes.empty.registerKey ⟨"shop", "Order"⟩) = .ok e' ∧
        (e' == payment) = true := by
  have hd : payment.NestsIn Json.maxDepth := by
    refine ⟨?_, ?_, by decide⟩
    · rintro v ⟨⟩
      decide
    · rintro v ⟨⟩
  have htypes : ∀ ct, payment.contentType = some ct →
      (ContentTypes.empty.registerKey ⟨"shop", "Order"⟩).contains ct.key = true := by
    rintro ct ⟨⟩
    decide
  have hfloats : ∀ x ∈ payment.floats, x.ReadsBack := by decide +kernel
  obtain ⟨_, e', -, hread, -, -, -, -, hwhole⟩ :=
    toEntry_ofEntry hd htypes hfloats (show ¬ payment.timestamp.IsBeyondLast by decide)
  exact ⟨hd, hfloats, e', hread, hwhole (by decide) (by rintro ct ⟨⟩; decide)⟩

/-- The leap second at the end of time has no row that can be read. -/
theorem not_forall_toEntry_ofEntry :
    ¬ ∀ (types : ContentTypes) (e : Entry), e.NestsIn Json.maxDepth →
      (∀ ct, e.contentType = some ct → types.contains ct.key = true) →
        (∀ x ∈ e.floats, x.ReadsBack) → ∃ e', (ofEntry e).toEntry types = .ok e' := by
  intro h
  obtain ⟨e', he⟩ := h .empty ((Entry.ofType "t" .info .epoch).atInstant .beyondLast)
    ⟨by rintro v ⟨⟩, by rintro v ⟨⟩, by decide⟩ (by rintro ct ⟨⟩) (by decide)
  obtain ⟨t, -, -, -, -, ht, -⟩ := toEntry_ofEntry_eq_ok_iff.1 he
  have hnone : Instant.ofMicros? Instant.beyondLast.micros = none :=
    Instant.ofMicros?_micros_eq_none_iff.2 (by decide)
  exact absurd ((hnone.symm.trans ht : none = some t)) (by simp)

end Row

end AuditTrail
