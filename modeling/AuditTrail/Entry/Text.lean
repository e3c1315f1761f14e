import AuditTrail.Entry.Basic
import AuditTrail.Instant.Text

/-!
# The JSON text of an entry

* `Entry.text`: one object with the members `id`, `type`, `level`, `timestamp`, `user_id`,
  `object_id`, `content_type` and `data`, in this order, where the absent ones of the optional three
  are left out.
* `Entry.parse?`: the entry of a text. The members may come in any order, each at most once, or
  as the items of an array in the order above. Unknown members are passed over, and `data` may be
  left out.
-/

namespace AuditTrail.Entry

open Json

/-- The name of the member that holds what the column holds. -/
def memberName (c : Column) : String := if c = .occurredAt then "timestamp" else c.name

/-- The column of a member. -/
def ofMemberName? (s : String) : Option Column := Column.all.find? fun c => memberName c = s

/-! ## Writing -/

/-- The spelling of a text. -/
def textForm (s : String) : Form := .string (piecesOf s)

/-- What stands in the member of a column, unless it is left out. -/
def memberForm? (e : Entry) : Column → Option Form
  | .id => some (textForm e.id.text)
  | .type => some (textForm e.type)
  | .level => some (textForm e.level.name)
  | .occurredAt => some (textForm (e.timestamp.text .zulu))
  | .userId => e.user.map fun v => v.raw.form
  | .objectId => e.object.map fun v => v.raw.form
  | .contentType => e.contentType.map fun ct => textForm ct.key
  | .data => some (Json.object e.data).raw.form

/-- The spelling of an entry. -/
def form (e : Entry) : Form :=
  .object (Column.all.filterMap fun c =>
    (e.memberForm? c).map fun f => (piecesOf (memberName c), f))

/-- The compact text. -/
def text (e : Entry) : String := String.ofList e.form.chars

/-! ## Reading -/

/-- How deep arrays and objects may nest inside a member. -/
def memberRoom : Nat := maxDepth - 1

/-- The known members with their spellings; a member that comes twice is refused. -/
def collectMembers (found : List (Column × Form)) :
    List (List Piece × Form) → Option (List (Column × Form))
  | [] => some found
  | (key, value) :: members => do
    match ofMemberName? (← decodeString key) with
    | none => collectMembers found members
    | some c =>
      if found.any fun f => f.1 = c then none
      else collectMembers (found ++ [(c, value)]) members

/-- The members of an object, or the items of an array in the order of the columns. -/
def fields? : Form → Option (List (Column × Form))
  | .object members => collectMembers [] members
  | .array items =>
    if items.length ≤ Column.all.length then some (Column.all.zip items) else none
  | _ => none

/-- The text that is meant. -/
def readText : Form → Option String
  | .string pieces => decodeString pieces
  | _ => none

/-- The identifier that is meant. -/
def readId (f : Form) : Option EntryId := do (EntryId.parseExact (← readText f)).toOption

/-- The level that is meant: its name, also as the one member of an object, with `null`. -/
def readLevel : Form → Option Level
  | .object [(key, .null)] => do Level.ofName? (← decodeString key)
  | f => do Level.ofName? (← readText f)

/-- The instant that is meant. -/
def readInstant (f : Form) : Option Instant := do Instant.parseLoose? (← readText f)

/-- The value that is meant; `null` is absent. -/
def readValue (f : Form) : Option Json := f.value? memberRoom

/-- The content type that is meant; `null` is absent. -/
def readContentType : Form → Option (Option ContentType)
  | .null => some none
  | f => do return some (← ContentType.parse? (← readText f))

/-- The payload that is meant. -/
def readPayload (f : Form) : Option Payload := do (← f.value? memberRoom).payload?

/-- A member that may be left out. -/
def optional {α : Type} (left : α) (read : Form → Option α) : Option Form → Option α
  | none => some left
  | some f => read f

/-- The entry of its members. -/
def ofFields? (fields : List (Column × Form)) : Option Entry := do
  let member? (c : Column) : Option Form := fields.lookup c
  let id ← readId (← member? .id)
  let type ← readText (← member? .type)
  let level ← readLevel (← member? .level)
  let timestamp ← readInstant (← member? .occurredAt)
  let user ← optional .null readValue (member? .userId)
  let object ← optional .null readValue (member? .objectId)
  let contentType ← optional none readContentType (member? .contentType)
  let data ← optional .empty readPayload (member? .data)
  let e := (ofType type level timestamp).atInstant timestamp |>.withId id |>.withUser user
    |>.withObject object |>.withData data
  return { e with contentType }

/-- The entry that a spelling means. -/
def ofForm? (f : Form) : Option Entry := do ofFields? (← fields? f)

/-- The entry of a text. -/
def parse? (s : String) : Option Entry := do ofForm? (← Form.ofChars? s.toList)

end AuditTrail.Entry
