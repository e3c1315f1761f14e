import AuditTrail.Proofs.Json.Depth
import AuditTrail.Proofs.Row
import AuditTrail.Proofs.Sql.Clause

/-!
# Rows of entries that were read back

* `Json.encode_eq_iff_of_parse?`, `Payload.encode_eq_iff_of_parse?`: a value that was read from a
  column is written there again exactly if its binary numbers read back.
* `Row.ofEntry_eq_iff`: so it is with the row of an entry.
* `Filter.matchesAll_congr`: filters only see what is in the row. `Filter.identifying`: filters that
  see all of it that may change.
-/

namespace AuditTrail

/-! ## Texts of values -/

theorem Json.depth_of_parse?_encode {v w : Json} (h : parse? v.encode = some w) :
    v.depth ≤ maxDepth := by
  have hdepth := depth_of_parse?_text h
  rwa [depth, normalized, Raw.depth_normalized] at hdepth

/-- What was read from the text of a value has the same text exactly if the binary numbers of the
value read back. -/
theorem Json.encode_eq_iff_of_parse? {v w : Json} (h : parse? v.encode = some w) :
    w.encode = v.encode ↔ ∀ x ∈ v.floats, x.ReadsBack := by
  rw [encode_eq_iff, ← parse?_encode_iff (depth_of_parse?_encode h), h]
  simp

theorem Payload.encode_eq_iff_of_parse? {p q : Payload} (h : parse? p.encode = some q) :
    q.encode = p.encode ↔ ∀ x ∈ p.floats, x.ReadsBack := by
  have hjson : Json.parse? (Json.object p).encode = some (Json.object q) := by
    simp only [parse?, encode, Option.bind_eq_bind, Option.bind_eq_some_iff,
      payload?_eq_some_iff] at h
    obtain ⟨w, hw, rfl⟩ := h
    exact hw
  exact Json.encode_eq_iff_of_parse? hjson

namespace Row

theorem encode_present?_eq_iff {o : Option Json} {w : Json}
    (hpresent : ∀ v, o = some v → v.isNull = false)
    (h : readValue (o.map Json.encode) = .ok w) :
    w.present?.map Json.encode = o.map Json.encode ↔
      ∀ x ∈ Entry.valueFloats o, x.ReadsBack := by
  cases o with
  | none =>
    obtain rfl : Json.null = w := Except.ok.inj h
    simp [Json.present?, Json.isNull, Json.null, Entry.valueFloats]
  | some v =>
    have hparse : Json.parse? v.encode = some w := by
      simp only [Option.map_some, readValue] at h
      split at h
      · next w' hw' => rw [hw', Except.ok.inj h]
      · cases h
    rw [Entry.valueFloats, ← Json.encode_eq_iff_of_parse? hparse]
    have hnull : w.encode = v.encode → w.isNull = false := fun hsame =>
      (Json.isNull_eq_of_beq (Json.encode_eq_iff.1 hsame)).trans (hpresent v rfl)
    cases hw : w.isNull with
    | true => simpa [Json.present?, hw] using mt hnull (by simp [hw])
    | false => simp [Json.present?, hw]

section

variable {types : ContentTypes} {e e' : Entry} (h : (ofEntry e).toEntry types = .ok e')

include h

theorem key_of_toEntry :
    e'.contentType.map ContentType.key = e.contentType.map ContentType.key := by
  obtain ⟨t, user, object, ct, data, -, -, -, hct, -, rfl⟩ := toEntry_ofEntry_eq_ok_iff.1 h
  cases he : e.contentType with
  | none =>
    rw [he] at hct
    rw [← Except.ok.inj hct]
  | some c =>
    have hsome := eq_of_readContentType hct
    rw [he] at hct hsome
    obtain ⟨c', hc'⟩ : ∃ c', types.resolve c.key = some c' :=
      Option.isSome_iff_exists.1 (readContentType_key_iff.1 ⟨ct, hct⟩ c rfl)
    obtain ⟨r, hr, rfl⟩ := Option.map_eq_some_iff.1 hc'
    rw [hsome, Option.bind_some, hc']
    exact congrArg some (ContentTypes.key_of_find? hr)

/-- What is read back is at the same microsecond, and under the same identifier, type and level. -/
theorem parts_of_toEntry :
    e'.timestamp.micros = e.timestamp.micros ∧ e'.id = e.id ∧ e'.type = e.type ∧
      e'.level = e.level := by
  obtain ⟨t, user, object, ct, data, ht, -, -, -, -, rfl⟩ := toEntry_ofEntry_eq_ok_iff.1 h
  obtain ⟨hmicros, hwhole, -⟩ := Instant.ofMicros?_eq_some_iff.1 ht
  exact ⟨(congrArg Instant.micros hwhole).trans hmicros, rfl, rfl, rfl⟩

/-- Only the values of an entry may change when it is read back from its row. -/
theorem ofEntry_eq_iff_values :
    ofEntry e' = ofEntry e ↔
      e'.user.map Json.encode = e.user.map Json.encode ∧
        e'.object.map Json.encode = e.object.map Json.encode ∧ e'.data.encode = e.data.encode := by
  obtain ⟨hmicros, hid, htype, hlevel⟩ := parts_of_toEntry h
  simp [ofEntry, hmicros, hid, htype, hlevel, key_of_toEntry h]

/-- An entry that was read from the row of another has the same row exactly if the binary numbers of
the other read back. -/
theorem ofEntry_eq_iff : ofEntry e' = ofEntry e ↔ ∀ x ∈ e.floats, x.ReadsBack := by
  rw [ofEntry_eq_iff_values h, Entry.floats, List.forall_mem_append, List.forall_mem_append,
    and_assoc]
  obtain ⟨t, user, object, ct, data, -, hu, ho, -, hd, rfl⟩ := toEntry_ofEntry_eq_ok_iff.1 h
  have hdata : Payload.parse? e.data.encode = some data := by
    simp only [readPayload] at hd
    split at hd
    · next p hp => rw [hp, Except.ok.inj hd]
    · cases hd
  rw [← encode_present?_eq_iff e.user_present hu, ← encode_present?_eq_iff e.object_present ho,
    ← Payload.encode_eq_iff_of_parse? hdata]
  rfl

end

end Row

/-! ## Filters -/

namespace Filter

/-- Filters only see what is in the row of an entry. -/
theorem matchesAll_congr {e e' : Entry} (h : Row.ofEntry e' = Row.ofEntry e)
    (filters : List Filter) : matchesAll filters e' = matchesAll filters e := by
  rw [← Sql.Clause.holds_ofFilters e' filters, ← Sql.Clause.holds_ofFilters e filters]
  exact congrArg (fun r => (Sql.Clause.ofFilters filters).holds (Sql.StoredRow.ofRow r)) h

/-- Filters for the identifier of an entry and for its values. -/
def identifying (e : Entry) : List Filter :=
  [.id [e.id], .user [e.user.getD .null], .object [e.object.getD .null], .data [e.data]]

theorem sameOrAbsent_getD_iff {o o' : Option Json} (h : ∀ v, o' = some v → v.isNull = false)
    (h' : ∀ v, o = some v → v.isNull = false) :
    sameOrAbsent (o'.getD .null) o = true ↔ o'.map Json.encode = o.map Json.encode := by
  cases o with
  | none => cases o' with
    | none => simp [sameOrAbsent, Json.isNull, Json.null]
    | some v => simp [sameOrAbsent, h v rfl]
  | some w => cases o' with
    | none =>
      have hne : (w == Json.null) = false := by
        by_contra hsame
        have := Json.isNull_eq_of_beq (by simpa using hsame : (w == Json.null) = true)
        rw [h' w rfl] at this
        exact absurd this (by decide)
      simp [sameOrAbsent, hne]
    | some v =>
      simp only [sameOrAbsent, Option.getD_some, Option.map_some, Option.some.injEq]
      rw [← Json.encode_eq_iff, eq_comm]

theorem matchesAll_identifying_self (e : Entry) : matchesAll (identifying e) e = true := by
  have hdata : (e.data == e.data) = true := Payload.encode_eq_iff.1 rfl
  simp [matchesAll, identifying, «matches», hdata,
    (sameOrAbsent_getD_iff e.user_present e.user_present).2 rfl,
    (sameOrAbsent_getD_iff e.object_present e.object_present).2 rfl]

theorem id_of_matchesAll_identifying {e e' : Entry}
    (h : matchesAll (identifying e') e = true) : e'.id = e.id := by
  have hid : («matches» (.id [e'.id]) e) = true := List.all_eq_true.1 h _ List.mem_cons_self
  simpa [«matches»] using hid

/-- What is read back from the row of an entry is identified by filters that match the entry exactly
if it has the same row. -/
theorem matchesAll_identifying_iff {types : ContentTypes} {e e' : Entry}
    (h : (Row.ofEntry e).toEntry types = .ok e') :
    matchesAll (identifying e') e = true ↔ Row.ofEntry e' = Row.ofEntry e := by
  obtain ⟨-, hid, -⟩ := Row.parts_of_toEntry h
  rw [Row.ofEntry_eq_iff_values h, ← sameOrAbsent_getD_iff e'.user_present e.user_present,
    ← sameOrAbsent_getD_iff e'.object_present e.object_present, Payload.encode_eq_iff]
  simp [matchesAll, identifying, «matches», hid]

end Filter

end AuditTrail
