import AuditTrail.ContentTypes
import AuditTrail.Error
import AuditTrail.Json.Text
import AuditTrail.Level

/-!
# Entries

* `Entry`: one record of the log: who did what to which object, how severe it is, and when.
* `Entry.ofType` starts an entry; `withId`, `withTimestamp`, `withUser`, `withObject`,
  `withContentType`, `withData` and `withField` fill it in.
* `Entry.same`, written `==`: equality of entries.
* `Entry.userAs`, `Entry.objectAs`: the user and the object as values of another type.
-/

namespace AuditTrail

/-- A record of the log. The user and the object are absent rather than `null`. -/
structure Entry where
  id : EntryId
  type : String
  level : Level
  timestamp : Instant
  user : Option Json
  object : Option Json
  contentType : Option ContentType
  data : Payload
  user_present : ∀ v, user = some v → v.isNull = false
  object_present : ∀ v, object = some v → v.isNull = false

/-- The value, unless it is `null`. -/
def Json.present? (v : Json) : Option Json := if v.isNull then none else some v

theorem Json.isNull_of_present? {v w : Json} (h : v.present? = some w) : w.isNull = false := by
  unfold Json.present? at h
  split at h
  · simp at h
  · next hn => simp only [Option.some.injEq] at h; subst h; simpa using hn

theorem Json.present?_eq_some {v : Json} (h : v.isNull = false) : v.present? = some v := by
  simp [Json.present?, h]

namespace Entry

/-- An entry without an identifier, cut to whole microseconds. -/
def ofType (type : String) (level : Level) (timestamp : Instant) : Entry :=
  ⟨.nil, type, level, timestamp.truncated, none, none, none, .empty, by simp, by simp⟩

instance : Inhabited Entry := ⟨ofType "" .info .epoch⟩

/-- The entry with another identifier. -/
def withId (e : Entry) (id : EntryId) : Entry := { e with id }

/-- The entry at another time, cut to whole microseconds. -/
def withTimestamp (e : Entry) (t : Instant) : Entry := { e with timestamp := t.truncated }

/-- The entry at exactly this time. -/
def atInstant (e : Entry) (t : Instant) : Entry := { e with timestamp := t }

/-- The entry with another user; `null` means none. -/
def withUser (e : Entry) (v : Json) : Entry :=
  { e with user := v.present?, user_present := fun _ => Json.isNull_of_present? }

/-- The entry with another object; `null` means none. -/
def withObject (e : Entry) (v : Json) : Entry :=
  { e with object := v.present?, object_present := fun _ => Json.isNull_of_present? }

/-- The entry with a content type. -/
def withContentType (e : Entry) (ct : ContentType) : Entry := { e with contentType := some ct }

/-- The entry with another payload. -/
def withData (e : Entry) (data : Payload) : Entry := { e with data }

/-- The entry with one more member of the payload. -/
def withField (e : Entry) (key : String) (value : Json) : Entry :=
  { e with data := e.data.insert key value }

/-- Equality of optional values. -/
def sameValue : Option Json → Option Json → Bool
  | none, none => true
  | some v, some w => v == w
  | _, _ => false

/-- Equality of entries. -/
def same (a b : Entry) : Bool :=
  a.id = b.id && a.type = b.type && a.level = b.level && a.timestamp = b.timestamp &&
    sameValue a.user b.user && sameValue a.object b.object && a.contentType = b.contentType &&
    a.data == b.data

instance : BEq Entry := ⟨same⟩

/-- Does the entry still lack an identifier? -/
def isUnassigned (e : Entry) : Bool := e.id.isNil

/-! ## Views -/

/-- An optional value through a reader, which blames the column for a value that it refuses. -/
def viewAs {α : Type} (column : Column) (read : Json → Option α) :
    Option Json → Except Error (Option α)
  | none => .ok none
  | some v =>
    match read v with
    | some a => .ok (some a)
    | none => .error (.unreadable column .json)

/-- The user through a reader. -/
def userAs {α : Type} (read : Json → Option α) (e : Entry) : Except Error (Option α) :=
  viewAs .userId read e.user

/-- The object through a reader. -/
def objectAs {α : Type} (read : Json → Option α) (e : Entry) : Except Error (Option α) :=
  viewAs .objectId read e.object

end Entry

end AuditTrail
