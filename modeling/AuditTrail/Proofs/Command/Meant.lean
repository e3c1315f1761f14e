import AuditTrail.Proofs.Command.Recording
import AuditTrail.Proofs.Text.Separated

/-!
# What a recording means

* `Recording.Means`: the entry that the texts of a recording mean, part by part.
* `Recording.IsField`: the member that a field means, cut at its first `=`.
* `Recording.toEntry_eq_ok_iff`: a recording is read exactly if it means an entry, and as that one.
-/

namespace AuditTrail

theorem Entry.ext_parts {a b : Entry} (hid : a.id = b.id) (htype : a.type = b.type)
    (hlevel : a.level = b.level) (htimestamp : a.timestamp = b.timestamp) (huser : a.user = b.user)
    (hobject : a.object = b.object) (hcontentType : a.contentType = b.contentType)
    (hdata : a.data = b.data) : a = b := by
  cases a
  cases b
  simp_all

namespace Recording

open Text

variable {types : ContentTypes} {now : Instant} {r : Recording} {e e' : Entry}

/-! ## Fields -/

/-- The field means the member: the key stands before the first `=`, and the value behind it. -/
def IsField (field : String) (member : String × Json) : Prop :=
  ∃ value, field = member.1 ++ "=" ++ value ∧ '=' ∉ member.1.toList ∧ member.2 = Json.loose value

theorem readField_eq_ok_iff {field : String} {member : String × Json} :
    readField field = .ok member ↔ IsField field member := by
  unfold readField
  constructor
  · intro h
    split at h
    · next key value hsplit =>
      obtain ⟨hchars, hkey⟩ := splitFirst_eq_some_iff.1 hsplit
      obtain rfl := Except.ok.inj h
      refine ⟨String.ofList value, String.toList_injective ?_, ?_, rfl⟩
      · simpa using hchars
      · simpa using hkey
    · cases h
  · rintro ⟨value, rfl, hkey, hvalue⟩
    have hsplit : splitFirst '=' (member.1 ++ "=" ++ value).toList =
        some (member.1.toList, value.toList) := by
      refine splitFirst_eq_some_iff.2 ⟨?_, hkey⟩
      simp
    rw [hsplit]
    simp only [String.ofList_toList, ← hvalue]

theorem insertFields_eq_ok_iff {fields : List String} {p q : Payload} :
    insertFields fields p = .ok q ↔ ∃ members, List.Forall₂ IsField fields members ∧
      q = members.foldl (fun p m => p.insert m.1 m.2) p := by
  induction fields generalizing p with
  | nil => simp [insertFields, eq_comm]
  | cons s fields ih =>
    simp only [insertFields, bind_eq_ok, readField_eq_ok_iff, ih]
    constructor
    · rintro ⟨m, hm, members, hmembers, rfl⟩
      exact ⟨m :: members, .cons hm hmembers, rfl⟩
    · rintro ⟨_, _ | ⟨hm, hmembers⟩, rfl⟩
      exact ⟨_, hm, _, hmembers, rfl⟩

/-! ## Part by part -/

/-- The entry that the texts of a recording mean. What is not given is left as it is in a new
entry, which is stamped `now`. -/
structure Means (types : ContentTypes) (now : Instant) (r : Recording) (e : Entry) : Prop where
  type : e.type = r.type
  level : Level.parse? r.level = some e.level
  id : r.id.elim (e.id = .nil) fun s => EntryId.parse s = .ok e.id
  timestamp : r.timestamp.elim (e.timestamp = now.truncated) fun s =>
    ∃ t, Instant.parse s = .ok t ∧ e.timestamp = t.truncated
  user : e.user = r.user.bind fun s => (Json.loose s).present?
  object : e.object = r.object.bind fun s => (Json.loose s).present?
  contentType : r.contentType.elim (e.contentType = none) fun key =>
    types.contains key = true ∧
      ∃ ct, ContentType.parse? key = some ct ∧ ct.key = key ∧ e.contentType = some ct
  data : ∃ p members, r.data.elim (p = .empty) (fun s => Payload.parse? s = some p) ∧
    List.Forall₂ IsField r.fields members ∧ e.data = members.foldl (fun p m => p.insert m.1 m.2) p

/-- A text gives what it says, and no text gives what is there already. -/
theorem given_eq_ok_iff {α : Type} {read : String → Except CommandFault α}
    {put : Entry → α → Entry} {text : Option String} {a₀ : α} (h₀ : put e a₀ = e) :
    given read put text e = .ok e' ↔
      ∃ a, text.elim (a = a₀) (fun s => read s = .ok a) ∧ e' = put e a := by
  cases text with
  | none => simp [given, h₀, eq_comm]
  | some s => simp only [given, map_eq_ok, Option.elim_some, eq_comm]

theorem readLevel_eq_ok_iff {s : String} {level : Level} :
    readLevel s = .ok level ↔ Level.parse? s = some level := by
  unfold readLevel
  cases Level.parse? s <;> simp

theorem readId_eq_ok_iff {s : String} {id : EntryId} :
    readId s = .ok id ↔ EntryId.parse s = .ok id :=
  mapError_eq_ok.trans mapError_eq_ok

theorem readInstant_eq_ok_iff {s : String} {t : Instant} :
    readInstant s = .ok t ↔ Instant.parse s = .ok t :=
  mapError_eq_ok

theorem readPayload_eq_ok_iff {s : String} {p : Payload} :
    readPayload s = .ok p ↔ Payload.parse? s = some p := by
  unfold readPayload
  cases Payload.parse? s <;> simp

theorem readContentType_eq_ok_iff {key : String} {ct : ContentType} :
    readContentType types key = .ok ct ↔
      types.contains key = true ∧ ContentType.parse? key = some ct := by
  unfold readContentType
  cases types.contains key <;> cases ContentType.parse? key <;> simp

/-- A content type that is given is found under its own key. -/
theorem given_contentType_eq_ok_iff {text : Option String} (h : e.contentType = none) :
    given (readContentType types) Entry.withContentType text e = .ok e' ↔
      ∃ contentType, text.elim (contentType = none) (fun key => types.contains key = true ∧
          ∃ ct, ContentType.parse? key = some ct ∧ ct.key = key ∧ contentType = some ct) ∧
        e' = { e with contentType } := by
  cases text with
  | none =>
    have hsame : { e with contentType := none } = e := by rw [← h]
    simp only [given, Option.elim_none, exists_eq_left, hsame, Except.ok.injEq, eq_comm]
  | some key =>
    simp only [given, map_eq_ok, Option.elim_some, readContentType_eq_ok_iff]
    constructor
    · rintro ⟨ct, ⟨hcontains, hparse⟩, rfl⟩
      exact ⟨some ct, ⟨hcontains, ct, hparse, ContentType.key_of_parse? hparse, rfl⟩, rfl⟩
    · rintro ⟨_, ⟨hcontains, ct, hparse, -, rfl⟩, rfl⟩
      exact ⟨ct, ⟨hcontains, hparse⟩, rfl⟩

theorem timestamp_iff {text : Option String} {x : Instant} :
    (text.elim (x = now.truncated) fun s => ∃ t, Instant.parse s = .ok t ∧ x = t.truncated) ↔
      ∃ t, text.elim (t = now) (fun s => readInstant s = .ok t) ∧ x = t.truncated := by
  cases text <;> simp [readInstant_eq_ok_iff]

theorem value_iff {text : Option String} {x : Option Json} :
    (x = text.bind fun s => (Json.loose s).present?) ↔
      ∃ v, text.elim (v = .null) (fun s => Except.ok (Json.loose s) = (Except.ok v : Except CommandFault Json)) ∧
        x = v.present? := by
  cases text with
  | none => simp [Json.present?, Json.isNull, Json.null]
  | some s => simp

/-- A recording is read exactly if it means an entry, and as that one. -/
theorem toEntry_eq_ok_iff : r.toEntry types now = .ok e ↔ r.Means types now e := by
  simp only [toEntry, bind_eq_ok, readLevel_eq_ok_iff, withFields_eq_ok, insertFields_eq_ok_iff]
  constructor
  · rintro ⟨level, hlevel, e₁, h₁, e₂, h₂, e₃, h₃, e₄, h₄, e₅, h₅, e₆, h₆, q,
      ⟨members, hmembers, rfl⟩, rfl⟩
    obtain ⟨id, hid, rfl⟩ := (given_eq_ok_iff (show Entry.withId _ .nil = _ from rfl)).1 h₁
    obtain ⟨t, ht, rfl⟩ := (given_eq_ok_iff (show Entry.withTimestamp _ now = _ from rfl)).1 h₂
    obtain ⟨user, hu, rfl⟩ := (given_eq_ok_iff (show Entry.withUser _ .null = _ from rfl)).1 h₃
    obtain ⟨object, ho, rfl⟩ := (given_eq_ok_iff (show Entry.withObject _ .null = _ from rfl)).1 h₄
    obtain ⟨contentType, hct, rfl⟩ := (given_contentType_eq_ok_iff rfl).1 h₅
    obtain ⟨p, hd, rfl⟩ := (given_eq_ok_iff (show Entry.withData _ .empty = _ from rfl)).1 h₆
    simp only [readId_eq_ok_iff, readPayload_eq_ok_iff] at hid hd
    exact ⟨rfl, hlevel, hid, timestamp_iff.2 ⟨t, ht, rfl⟩, value_iff.2 ⟨user, hu, rfl⟩,
      value_iff.2 ⟨object, ho, rfl⟩, hct, p, members, hd, hmembers, rfl⟩
  · intro h
    obtain ⟨t, ht, htimestamp⟩ := timestamp_iff.1 h.timestamp
    obtain ⟨user, hu, huser⟩ := value_iff.1 h.user
    obtain ⟨object, ho, hobject⟩ := value_iff.1 h.object
    obtain ⟨p, members, hd, hmembers, hdata⟩ := h.data
    have hid : r.id.elim (e.id = .nil) fun s => readId s = .ok e.id := by
      simpa only [readId_eq_ok_iff] using h.id
    have hd : r.data.elim (p = .empty) fun s => readPayload s = .ok p := by
      simpa only [readPayload_eq_ok_iff] using hd
    refine ⟨e.level, h.level, _, (given_eq_ok_iff rfl).2 ⟨e.id, hid, rfl⟩,
      _, (given_eq_ok_iff rfl).2 ⟨t, ht, rfl⟩, _, (given_eq_ok_iff rfl).2 ⟨user, hu, rfl⟩,
      _, (given_eq_ok_iff rfl).2 ⟨object, ho, rfl⟩,
      _, (given_contentType_eq_ok_iff rfl).2 ⟨e.contentType, h.contentType, rfl⟩,
      _, (given_eq_ok_iff rfl).2 ⟨p, hd, rfl⟩, _, ⟨members, hmembers, rfl⟩, ?_⟩
    exact Entry.ext_parts rfl h.type rfl htimestamp huser hobject rfl hdata

end Recording

end AuditTrail
