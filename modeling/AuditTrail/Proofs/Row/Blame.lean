import AuditTrail.Proofs.Json.Meaning
import AuditTrail.Proofs.Row

/-!
# Which column is blamed

* `Row.Readable`: what the columns of a row have to hold. `Row.exists_toEntry_iff_readable`: a row
  is read exactly if all of its columns hold it.
* `Row.blame`: the error for a column. `Row.toEntry_eq_error_iff`: a row that is not read fails with
  the error for the first column that does not hold what it has to.
-/

namespace AuditTrail

theorem Level.ofRank?_isSome_iff {n : Int} : (ofRank? n).isSome = true ↔ 0 ≤ n ∧ n ≤ 4 := by
  constructor
  · intro h
    obtain ⟨level, hlevel⟩ := Option.isSome_iff_exists.1 h
    have hrank : level.rank ≤ 4 := by cases level <;> decide
    have := ofRank?_eq_some_iff.1 hlevel
    omega
  · intro h
    obtain rfl | rfl | rfl | rfl | rfl : n = 0 ∨ n = 1 ∨ n = 2 ∨ n = 3 ∨ n = 4 := by omega
    all_goals rfl

theorem Instant.ofMicros?_isSome_iff {n : Int} :
    (ofMicros? n).isSome = true ↔ -8334601228800000000 ≤ n ∧ n ≤ 8210266876799999999 := by
  rw [ofMicros?, ofParts?]
  split
  · next h => exact iff_of_true rfl (by omega)
  · next h => exact iff_of_false (by simp) (by omega)

namespace Row

/-! ## One column -/

/-- What a column has to hold: sixteen bytes, a level, a microsecond in range, nothing or a text
that has a value, nothing or a registered key, nothing or a text that has an object. -/
def Readable (types : ContentTypes) (r : Row) : Column → Prop
  | .id => r.id.length = 16
  | .type => True
  | .level => 0 ≤ r.level ∧ r.level ≤ 4
  | .occurredAt => -8334601228800000000 ≤ r.occurredAt ∧ r.occurredAt ≤ 8210266876799999999
  | .userId => ∀ s, r.userId = some s → ∃ f : Json.Form, f.IsTextOf s
  | .objectId => ∀ s, r.objectId = some s → ∃ f : Json.Form, f.IsTextOf s
  | .contentType => ∀ key, r.contentType = some key → types.contains key = true
  | .data => ∀ s, r.data = some s → ∃ members, (Json.Form.object members).IsTextOf s

/-- The error for a column. -/
def blame (r : Row) : Column → Error
  | .id => .unreadable .id (.input (.idBytes (.byteCount r.id.length)))
  | .level => .unreadable .level (.input (.levelRange r.level))
  | .occurredAt => .unreadable .occurredAt (.instantRange r.occurredAt)
  | .contentType => .unregistered (r.contentType.getD "")
  | column => .unreadable column .json

/-- The reading of one column without what is read. -/
def check (types : ContentTypes) (r : Row) : Column → Except Error Unit
  | .id => (readColumn .id (readId r.id)).map fun _ => ()
  | .type => .ok ()
  | .level => (readColumn .level (readLevel r.level)).map fun _ => ()
  | .occurredAt => (readColumn .occurredAt (readInstant r.occurredAt)).map fun _ => ()
  | .userId => (readColumn .userId (readValue r.userId)).map fun _ => ()
  | .objectId => (readColumn .objectId (readValue r.objectId)).map fun _ => ()
  | .contentType => (readContentType types r.contentType).map fun _ => ()
  | .data => (readColumn .data (readPayload r.data)).map fun _ => ()

variable {types : ContentTypes} {r : Row} {c : Column} {err : Error}

theorem check_value {column : Column} {o : Option String} :
    (∀ s, o = some s → ∃ f : Json.Form, f.IsTextOf s) ∧
        (readColumn column (readValue o)).map (fun _ => ()) = .ok () ∨
      ¬ (∀ s, o = some s → ∃ f : Json.Form, f.IsTextOf s) ∧
        (readColumn column (readValue o)).map (fun _ => ()) =
          .error (.unreadable column .json) := by
  cases o with
  | none => exact .inl ⟨nofun, rfl⟩
  | some s =>
    simp only [Option.some.injEq, forall_eq', ← Json.parse?_isSome_iff, readValue]
    cases Json.parse? s <;> simp [readColumn, Except.mapError, Except.map]

/-- A column that does not hold what it has to is blamed, and no other. -/
theorem check_spec (types : ContentTypes) (r : Row) (c : Column) :
    r.Readable types c ∧ r.check types c = .ok () ∨
      ¬ r.Readable types c ∧ r.check types c = .error (r.blame c) := by
  cases c with
  | id =>
    simp only [Readable, check, readId, EntryId.ofBytes]
    split
    · next h => exact .inl ⟨h, rfl⟩
    · next h => exact .inr ⟨h, rfl⟩
  | type => exact .inl ⟨trivial, rfl⟩
  | level =>
    simp only [Readable, check, ← Level.ofRank?_isSome_iff, readLevel, blame]
    cases Level.ofRank? r.level <;> simp [readColumn, Except.mapError, Except.map]
  | occurredAt =>
    simp only [Readable, check, ← Instant.ofMicros?_isSome_iff, readInstant, blame]
    cases Instant.ofMicros? r.occurredAt <;> simp [readColumn, Except.mapError, Except.map]
  | userId => exact check_value
  | objectId => exact check_value
  | contentType =>
    simp only [Readable, check, blame]
    cases r.contentType with
    | none => exact .inl ⟨by rintro s ⟨⟩, rfl⟩
    | some key =>
      have hresolve : types.contains key = (types.resolve key).isSome := by
        simp [ContentTypes.contains, ContentTypes.resolve]
      simp only [Option.some.injEq, forall_eq', hresolve, readContentType, Option.getD_some]
      cases types.resolve key <;> simp [Except.map]
  | data =>
    simp only [Readable, check, blame]
    cases r.data with
    | none => exact .inl ⟨by rintro s ⟨⟩, rfl⟩
    | some s =>
      simp only [Option.some.injEq, forall_eq', ← Payload.parse?_isSome_iff, readPayload]
      cases Payload.parse? s <;> simp [readColumn, Except.mapError, Except.map]

theorem exists_check_eq_ok_iff : (∃ u, r.check types c = .ok u) ↔ r.Readable types c := by
  rcases check_spec types r c with ⟨h, hc⟩ | ⟨h, hc⟩ <;> simp [h, hc]

theorem check_eq_error_iff :
    r.check types c = .error err ↔ ¬ r.Readable types c ∧ err = r.blame c := by
  rcases check_spec types r c with ⟨h, hc⟩ | ⟨h, hc⟩ <;> simp [h, hc, eq_comm]

/-! ## All columns -/

/-- A row is read column by column. -/
theorem toEntry_eq_check :
    (r.toEntry types).map (fun _ => ()) = (Column.all.mapM (r.check types)).map fun _ => () := by
  simp only [toEntry, Column.all, List.mapM_cons, List.mapM_nil, check]
  rcases readColumn .id (readId r.id) with err | id
  · rfl
  rcases readColumn .level (readLevel r.level) with err | level
  · rfl
  rcases readColumn .occurredAt (readInstant r.occurredAt) with err | t
  · rfl
  rcases readColumn .userId (readValue r.userId) with err | user
  · rfl
  rcases readColumn .objectId (readValue r.objectId) with err | object
  · rfl
  rcases readContentType types r.contentType with err | contentType
  · rfl
  rcases readColumn .data (readPayload r.data) with err | data <;> rfl

theorem exists_eq_ok_iff_map {ε α : Type} {x : Except ε α} :
    (∃ a, x = .ok a) ↔ x.map (fun _ => ()) = .ok () := by
  cases x <;> simp [Except.map]

theorem eq_error_iff_map {ε α : Type} {x : Except ε α} {e : ε} :
    x = .error e ↔ x.map (fun _ => ()) = .error e := by
  cases x <;> simp [Except.map]

/-- A row is read exactly if all columns hold what they have to. -/
theorem exists_toEntry_iff_readable :
    (∃ e, r.toEntry types = .ok e) ↔ ∀ c, r.Readable types c := by
  rw [exists_eq_ok_iff_map, toEntry_eq_check, ← exists_eq_ok_iff_map, exists_mapM_eq_ok_iff]
  simp only [Column.mem_all, forall_const, exists_check_eq_ok_iff]

/-- A row that is not read fails with the error for the first column that does not hold what it has
to. -/
theorem toEntry_eq_error_iff :
    r.toEntry types = .error err ↔
      ∃ front c back, Column.all = front ++ c :: back ∧ (∀ d ∈ front, r.Readable types d) ∧
        ¬ r.Readable types c ∧ err = r.blame c := by
  rw [eq_error_iff_map, toEntry_eq_check, ← eq_error_iff_map, mapM_eq_error_iff]
  simp only [check_eq_error_iff, exists_check_eq_ok_iff]

end Row

end AuditTrail
