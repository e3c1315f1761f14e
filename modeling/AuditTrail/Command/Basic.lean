import AuditTrail.Command.Clause
import AuditTrail.Entry.Text
import AuditTrail.Registry.Basic

/-!
# Commands

* `Command`: what a person can ask a registry for.
* `Recording`: an entry as a person gives it; `Recording.toEntry` reads it.
* `Command.run`: carries out a command and gives the lines that it prints.
-/

namespace AuditTrail

open Text

/-- An entry as a person gives it, in texts. -/
structure Recording where
  type : String
  level : String
  id : Option String
  timestamp : Option String
  user : Option String
  object : Option String
  contentType : Option String
  data : Option String
  fields : List String
  deriving DecidableEq, Repr, Inhabited

/-- A part of the entries: at most `amount` behind the first `offset`. -/
structure Page where
  amount : Nat
  offset : Nat
  deriving DecidableEq, Repr, Inhabited

/-- What a person can ask a registry for. Entries are printed as text or as JSON. -/
inductive Command
  | setup
  | record (recording : Recording)
  | «show» (id : String) (json : Bool)
  | list (type : Option String) (page : Page) (json : Bool)
  | filter (clauses : List String) (page : Page) (json : Bool)
  | count (clauses : List String)
  deriving DecidableEq, Repr, Inhabited

namespace Recording

/-- The level. -/
def readLevel (s : String) : Except CommandFault Level :=
  match Level.parse? s with
  | some l => .ok l
  | none => .error (.unknownLevel s)

/-- The identifier. -/
def readId (s : String) : Except CommandFault EntryId :=
  (Filter.readId s).mapError fun e => .log (.invalidInput e)

/-- The instant. -/
def readInstant (s : String) : Except CommandFault Instant :=
  (Instant.parse s).mapError (.malformedInstant s)

/-- The content type, which has to be registered. -/
def readContentType (types : ContentTypes) (key : String) : Except CommandFault ContentType :=
  if types.contains key then
    match ContentType.parse? key with
    | some ct => .ok ct
    | none => .error (.malformedContentType key)
  else .error (.unregistered key)

/-- The payload. -/
def readPayload (s : String) : Except CommandFault Payload :=
  match Payload.parse? s with
  | some p => .ok p
  | none => .error .payload

/-- A member of the payload: a key, `=`, and a value. -/
def readField (s : String) : Except CommandFault (String × Json) :=
  match splitFirst '=' s.toList with
  | some (key, value) => .ok (String.ofList key, Json.loose (String.ofList value))
  | none => .error (.notField s)

/-- The entry with what a text gives, if there is one. -/
def given {α : Type} (read : String → Except CommandFault α) (put : Entry → α → Entry)
    (text : Option String) (e : Entry) : Except CommandFault Entry :=
  match text with
  | none => .ok e
  | some s => (read s).map (put e)

/-- The entry with more members of the payload. -/
def withFields : List String → Entry → Except CommandFault Entry
  | [], e => .ok e
  | s :: fields, e => do
    let (key, value) ← readField s
    withFields fields (e.withField key value)

/-- The entry that is meant, stamped `now` unless a time is given. -/
def toEntry (types : ContentTypes) (now : Instant) (r : Recording) : Except CommandFault Entry := do
  let level ← readLevel r.level
  let e := Entry.ofType r.type level now
  let e ← given readId Entry.withId r.id e
  let e ← given readInstant Entry.withTimestamp r.timestamp e
  let e ← given (fun s => .ok (Json.loose s)) Entry.withUser r.user e
  let e ← given (fun s => .ok (Json.loose s)) Entry.withObject r.object e
  let e ← given (readContentType types) Entry.withContentType r.contentType e
  let e ← given readPayload Entry.withData r.data e
  withFields r.fields e

end Recording

namespace Command

/-! ## Printing -/

/-- The lines of an entry as text: time, level, identifier and label, and a message if there is
one. -/
def textLines (b : Binding) : List String :=
  let e := b.entry
  let first := e.timestamp.text .zero ++ "  " ++ e.level.name ++ "  " ++ e.id.text ++ "  " ++
    b.labelText
  if b.messageText = "" then [first] else [first, "    " ++ b.messageText]

/-- The lines of an entry. -/
def entryLines (json : Bool) (b : Binding) : List String :=
  if json then [b.entry.text] else textLines b

/-- The lines of entries. -/
def printAll (json : Bool) (r : Registry) (es : List Entry) : List String :=
  (r.defineMany .empty es).flatMap (entryLines json)

/-- The error of a log as the fault of a command. -/
def ofLog {α : Type} (r : Except Error α) : Except CommandFault α := r.mapError .log

/-! ## Carrying out -/

/-- What the clock shows. -/
def now : Duty Instant := fun s =>
  (s.system.clock.read, { s with system := { s.system with clock := s.system.clock.tick } })

/-- Makes the storage ready. -/
def runSetup : Duty (Except CommandFault (List String)) := do
  let r ← Registry.onBackend Backend.setup
  let name := (← get).registry.backend.name
  return (ofLog r).mapError (.during "create schema") |>.map fun _ =>
    ["Storage ready (" ++ name ++ ")"]

/-- Logs an entry and prints its identifier. -/
def runRecord (r : Recording) : Duty (Except CommandFault (List String)) := do
  let time ← now
  match r.toEntry (← get).registry.contentTypes time with
  | .error e => return .error e
  | .ok e =>
    let logged ← Registry.log Registry.maxNesting e
    return (ofLog logged.outcome).mapError (.during "record entry") |>.map fun
      | some id => [id.text]
      | none => ["Entry rejected by filter"]

/-- Prints the entries that an operation on the log gives. -/
def printing (json : Bool) (work : Registry → Work (Except Error (List Entry))) :
    Duty (Except CommandFault (List String)) := do
  let registry := (← get).registry
  let r ← Registry.onBackend (work registry)
  return (ofLog r).map (printAll json registry)

/-- Prints the entry of an identifier. -/
def runShow (id : String) (json : Bool) : Duty (Except CommandFault (List String)) := do
  match Recording.readId id with
  | .error e => return .error e
  | .ok id =>
    printing json fun r => do
      return (← Backend.retrieve r.contentTypes id).map fun e => [e]

/-- Prints a page of all entries or of those of a type. -/
def runList (type : Option String) (page : Page) (json : Bool) :
    Duty (Except CommandFault (List String)) :=
  printing json fun r =>
    match type with
    | some t => Backend.retrieveTyped r.contentTypes t page.amount page.offset
    | none => Backend.retrieveMany r.contentTypes page.amount page.offset

/-- Prints a page of the entries that the clauses select. -/
def runFilter (clauses : List String) (page : Page) (json : Bool) :
    Duty (Except CommandFault (List String)) := do
  match Filter.ofClauses clauses with
  | .error e => return .error e
  | .ok filters =>
    printing json fun r => Backend.filter r.contentTypes filters page.amount page.offset

/-- Prints the number of entries that the clauses select. -/
def runCount (clauses : List String) : Duty (Except CommandFault (List String)) := do
  match Filter.ofClauses clauses with
  | .error e => return .error e
  | .ok filters =>
    return (ofLog (← Registry.onBackend (Backend.countFilter filters))).map fun n => [decimal n]

/-- Carries out a command: the lines that it prints, or why it fails. -/
def run : Command → Duty (Except CommandFault (List String))
  | .setup => runSetup
  | .record r => runRecord r
  | .show id json => runShow id json
  | .list type page json => runList type page json
  | .filter clauses page json => runFilter clauses page json
  | .count clauses => runCount clauses

end Command

end AuditTrail
