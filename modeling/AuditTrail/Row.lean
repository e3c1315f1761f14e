import AuditTrail.ContentTypes
import AuditTrail.Entry.Basic

/-!
# Rows

A row holds an entry in eight primitive columns: raw bytes, texts and integers. Users, objects and
payloads are JSON texts, an instant is a number of microseconds, and a content type is its key.

* `Json.encode`: the text of a JSON value in a column; values that are equal have equal texts.
* `Row.ofEntry`: the row of an entry.
* `Row.toEntry`: the entry of a row. Of several unreadable columns the first is reported.
-/

namespace AuditTrail

/-- The text of a value in a column. The zeros, which are equal, have one text. -/
def Json.encode (v : Json) : String := v.normalized.text

/-- The text of a payload in a column. -/
def Payload.encode (p : Payload) : String := (Json.object p).encode

/-- An entry in primitive columns. -/
structure Row where
  id : List UInt8
  type : String
  level : Int
  occurredAt : Int
  userId : Option String
  objectId : Option String
  contentType : Option String
  data : Option String
  deriving DecidableEq, Repr

namespace Row

/-- The row of an entry. -/
def ofEntry (e : Entry) : Row where
  id := e.id.bytes
  type := e.type
  level := e.level.rank
  occurredAt := e.timestamp.micros
  userId := e.user.map Json.encode
  objectId := e.object.map Json.encode
  contentType := e.contentType.map ContentType.key
  data := some e.data.encode

/-! ## Reading -/

/-- A value of a column, or the blame for the column. -/
def readColumn {α : Type} (column : Column) (r : Except ReadFault α) : Except Error α :=
  r.mapError (.unreadable column)

/-- The identifier of raw bytes. -/
def readId (bytes : List UInt8) : Except ReadFault EntryId :=
  (EntryId.ofBytes bytes).mapError fun e => .input (.idBytes e)

/-- The level of a number. -/
def readLevel (n : Int) : Except ReadFault Level :=
  match Level.ofRank? n with
  | some level => .ok level
  | none => .error (.input (.levelRange n))

/-- The instant of a number of microseconds. -/
def readInstant (n : Int) : Except ReadFault Instant :=
  match Instant.ofMicros? n with
  | some t => .ok t
  | none => .error (.instantRange n)

/-- The value of a JSON text; an absent text is `null`. -/
def readValue : Option String → Except ReadFault Json
  | none => .ok .null
  | some s =>
    match Json.parse? s with
    | some v => .ok v
    | none => .error .json

/-- The payload of a JSON text; an absent text is the empty payload. -/
def readPayload : Option String → Except ReadFault Payload
  | none => .ok .empty
  | some s =>
    match Payload.parse? s with
    | some p => .ok p
    | none => .error .json

/-- The content type of a key, as it is registered. -/
def readContentType (types : ContentTypes) : Option String → Except Error (Option ContentType)
  | none => .ok none
  | some key =>
    match types.resolve key with
    | some ct => .ok (some ct)
    | none => .error (.unregistered key)

/-- The entry of a row; the first unreadable column is blamed. -/
def toEntry (types : ContentTypes) (r : Row) : Except Error Entry := do
  let id ← readColumn .id (readId r.id)
  let level ← readColumn .level (readLevel r.level)
  let timestamp ← readColumn .occurredAt (readInstant r.occurredAt)
  let user ← readColumn .userId (readValue r.userId)
  let object ← readColumn .objectId (readValue r.objectId)
  let contentType ← readContentType types r.contentType
  let data ← readColumn .data (readPayload r.data)
  let e := (Entry.ofType r.type level timestamp).withId id |>.withUser user
    |>.withObject object |>.withData data
  return { e with contentType }

end Row

end AuditTrail
