import AuditTrail.Entry.Basic

/-!
# Filters

A filter is one predicate with a list of candidates. It matches an entry if one of its candidates
does; a list of filters matches if all of them do.

* `FilterName`: the twelve predicates and their names.
* `Filter`: a predicate with its candidates.
* `Filter.matches`, `Filter.matchesAll`: what filters select.
* `Filter.parseValues`: the candidates of a predicate, each read from a text of its own; the first
  text that cannot be read is reported. Users and objects are JSON values or, if the text is none,
  the text itself.
-/

namespace AuditTrail

/-- The name of a predicate. -/
inductive FilterName
  | id
  | type
  | user
  | object
  | contentType
  | level
  | levelAbove
  | levelBelow
  | timestamp
  | timestampBefore
  | timestampAfter
  | data
  deriving DecidableEq, Repr, Inhabited

namespace FilterName

/-- All predicates, in the order in which they are listed. -/
def all : List FilterName :=
  [.id, .type, .user, .object, .contentType, .level, .levelAbove, .levelBelow, .timestamp,
    .timestampBefore, .timestampAfter, .data]

/-- The text of a name. -/
def text : FilterName → String
  | .id => "id"
  | .type => "type"
  | .user => "user_id"
  | .object => "object_id"
  | .contentType => "content_type"
  | .level => "level"
  | .levelAbove => "level_gt"
  | .levelBelow => "level_lt"
  | .timestamp => "timestamp"
  | .timestampBefore => "timestamp_before"
  | .timestampAfter => "timestamp_after"
  | .data => "data"

/-- A hyphen may stand for an underscore. -/
def underscored (c : Char) : Char := if c = '-' then '_' else c

/-- The predicate that a text names, in any case. -/
def parse? (s : String) : Option FilterName :=
  let word := String.ofList ((Text.lowerCase (Text.trim s)).toList.map underscored)
  all.find? fun name => name.text = word

end FilterName

/-- A predicate with its candidates. -/
inductive Filter
  | id (ids : List EntryId)
  | type (types : List String)
  | user (values : List Json)
  | object (values : List Json)
  | contentType (types : List ContentType)
  | level (levels : List Level)
  | levelAbove (levels : List Level)
  | levelBelow (levels : List Level)
  | timestamp (instants : List Instant)
  | timestampBefore (instants : List Instant)
  | timestampAfter (instants : List Instant)
  | data (payloads : List Payload)
  deriving Inhabited

namespace Filter

/-- The predicate of a filter. -/
def name : Filter → FilterName
  | .id _ => .id
  | .type _ => .type
  | .user _ => .user
  | .object _ => .object
  | .contentType _ => .contentType
  | .level _ => .level
  | .levelAbove _ => .levelAbove
  | .levelBelow _ => .levelBelow
  | .timestamp _ => .timestamp
  | .timestampBefore _ => .timestampBefore
  | .timestampAfter _ => .timestampAfter
  | .data _ => .data

/-- The number of candidates. -/
def size : Filter → Nat
  | .id xs => xs.length
  | .type xs => xs.length
  | .user xs => xs.length
  | .object xs => xs.length
  | .contentType xs => xs.length
  | .level xs => xs.length
  | .levelAbove xs => xs.length
  | .levelBelow xs => xs.length
  | .timestamp xs => xs.length
  | .timestampBefore xs => xs.length
  | .timestampAfter xs => xs.length
  | .data xs => xs.length

/-- Does the candidate equal the value? The candidate `null` stands for an absent value. -/
def sameOrAbsent (candidate : Json) : Option Json → Bool
  | none => candidate.isNull
  | some v => v == candidate

/-- Does a candidate fit the entry? Instants are compared in microseconds. -/
def «matches» (f : Filter) (e : Entry) : Bool :=
  match f with
  | .id ids => ids.any fun i => i = e.id
  | .type types => types.any fun s => s = e.type
  | .user values => values.any fun v => sameOrAbsent v e.user
  | .object values => values.any fun v => sameOrAbsent v e.object
  | .contentType cts => e.contentType.any fun ct => cts.any fun c => c.key = ct.key
  | .level levels => levels.any fun l => l = e.level
  | .levelAbove levels => levels.any fun l => l < e.level
  | .levelBelow levels => levels.any fun l => e.level < l
  | .timestamp instants => instants.any fun t => t.micros = e.timestamp.micros
  | .timestampBefore instants => instants.any fun t => e.timestamp.micros < t.micros
  | .timestampAfter instants => instants.any fun t => t.micros < e.timestamp.micros
  | .data payloads => payloads.any fun p => p == e.data

/-- Do all filters match the entry? -/
def matchesAll (filters : List Filter) (e : Entry) : Bool :=
  filters.all fun f => f.matches e

end Filter

/-! ## Filters from texts -/

namespace Filter

/-- The results of reading each text, or the first fault. -/
def readEach {α : Type} (read : String → Except InputFault α) (texts : List String) :
    Except Error (List α) :=
  (texts.mapM read).mapError .invalidInput

/-- An identifier. -/
def readId (s : String) : Except InputFault EntryId :=
  (EntryId.parse s).mapError (.malformedId s)

/-- A content type by its key. -/
def readContentType (s : String) : Except InputFault ContentType :=
  match ContentType.parse? s with
  | some ct => .ok ct
  | none => .error (.malformedContentType s)

/-- A level by its name or number. -/
def readLevel (s : String) : Except InputFault Level :=
  match Level.parse? s with
  | some l => .ok l
  | none => .error (.unknownLevel s)

/-- An instant, with white space around it. -/
def readInstant (s : String) : Except InputFault Instant :=
  (Instant.parse (Text.trim s)).mapError (.malformedInstant s)

/-- A payload. -/
def readPayload (s : String) : Except InputFault Payload :=
  match Payload.parse? s with
  | some p => .ok p
  | none => .error .payloadFilter

/-- The filter of a predicate with the candidates that the texts mean. -/
def parseValues (name : FilterName) (texts : List String) : Except Error Filter :=
  match name with
  | .id => (readEach readId texts).map .id
  | .type => .ok (.type texts)
  | .user => .ok (.user (texts.map Json.loose))
  | .object => .ok (.object (texts.map Json.loose))
  | .contentType => (readEach readContentType texts).map .contentType
  | .level => (readEach readLevel texts).map .level
  | .levelAbove => (readEach readLevel texts).map .levelAbove
  | .levelBelow => (readEach readLevel texts).map .levelBelow
  | .timestamp => (readEach readInstant texts).map .timestamp
  | .timestampBefore => (readEach readInstant texts).map .timestampBefore
  | .timestampAfter => (readEach readInstant texts).map .timestampAfter
  | .data => (readEach readPayload texts).map .data

end Filter

end AuditTrail
