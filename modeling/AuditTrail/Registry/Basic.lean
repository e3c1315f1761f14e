import AuditTrail.Backend
import AuditTrail.Registry.Definition

/-!
# The registry

A registry brings a log together with hooks, definitions and content types. A hook is consulted
before an entry is stored or told about it afterwards, as far as its scope reaches.

* `Scope`: all entries, those of a type, or those of a content type.
* `Gate`: a hook that lets entries in; `Handler`: a hook that is told about stored entries, and that
  may have further entries logged. `applicable`: the hooks for an entry, in the order in which they
  run.
* `Registry.new`, `Registry.ofConfig`: registries.
* `Registry.log`: logs an entry: it passes the gates, is stored once, and is then handed to the
  handlers. `LogEvent` is one step of that.
* `Registry.define`, `Registry.defineMany`: entries bound to the definitions of their types.
-/

namespace AuditTrail

/-! ## Hooks -/

/-- The entries that a hook is for. -/
inductive Scope
  | everything
  | type (name : String)
  | contentType (key : String)
  deriving DecidableEq, Repr

namespace Scope

/-- Is the entry in the scope? -/
def covers (s : Scope) (e : Entry) : Bool :=
  match s with
  | .everything => true
  | .type name => e.type = name
  | .contentType key => e.contentType.any fun ct => ct.key = key

/-- The wider scope comes first. -/
def rank : Scope → Nat
  | .everything => 0
  | .type _ => 1
  | .contentType _ => 2

end Scope

/-- A hook that lets entries in. -/
structure Gate where
  name : String
  scope : Scope
  accepts : Entry → Bool

/-- A hook that is told about stored entries. It answers with entries that are to be logged too. -/
structure Handler where
  name : String
  scope : Scope
  followUps : Entry → List Entry

/-- The hooks whose scope covers the entry: those for everything, then those for a type, then those
for a content type, each in the order of registration. -/
def applicable {α : Type} (scope : α → Scope) (hooks : List α) (e : Entry) : List α :=
  (hooks.filter fun h => (scope h).covers e).mergeSort fun a b => (scope a).rank ≤ (scope b).rank

/-- The gates that are passed, up to and with the first that refuses, and whether all were
passed. -/
def passGates (e : Entry) : List Gate → List Gate × Bool
  | [] => ([], true)
  | g :: gates =>
    if g.accepts e then
      let (consulted, passed) := passGates e gates
      (g :: consulted, passed)
    else ([g], false)

/-! ## Registries -/

/-- A log with hooks, definitions and content types. -/
structure Registry where
  backend : Backend
  contentTypes : ContentTypes
  definitions : List (String × Definition)
  gates : List Gate
  handlers : List Handler
  deriving Inhabited

/-- A registry with what surrounds it. -/
structure Session where
  registry : Registry
  system : System
  deriving Inhabited

/-- An operation on a registry. -/
abbrev Duty (α : Type) : Type := StateM Session α

/-- A step of logging an entry. -/
inductive LogEvent
  | consulted (gate : String)
  | handled (handler : String) (entry : Entry)
  | followedUp (outcome : Except Error (Option EntryId))

/-- What became of an entry that was logged: its identifier, or none if a gate refused it. -/
structure Logged where
  outcome : Except Error (Option EntryId)
  events : List LogEvent

namespace Registry

/-- A registry around a log. -/
def around (backend : Backend) (types : ContentTypes) : Registry := ⟨backend, types, [], [], []⟩

/-- A registry with a new log in memory. -/
def new : Registry := around .openMemory .empty

/-- The notes on the registration of content types: one for each key up to the first that is
none. -/
def registrationNotes (keys : List String) : List Notice :=
  (keys.takeWhile fun key => (ContentType.parse? key).isSome).map fun _ => .contentTypeRegistered

/-- The registry that the settings describe. -/
def ofConfig (c : Config) (s : System) : Except Error Registry × System :=
  let s := s.noteAll (registrationNotes c.contentTypes)
  match ContentTypes.empty.registerKeys c.contentTypes with
  | (.error e, _) => (.error e, s)
  | (.ok (), types) =>
    let (r, s) := Backend.open? c.storage s
    (r.map fun backend => around backend types, s)

/-! ## Registration -/

/-- The registry with another log. -/
def withBackend (r : Registry) (backend : Backend) : Registry := { r with backend }

/-- The registry with one more gate. -/
def addGate (r : Registry) (g : Gate) : Registry := { r with gates := r.gates ++ [g] }

/-- The registry with one more handler. -/
def addHandler (r : Registry) (h : Handler) : Registry := { r with handlers := r.handlers ++ [h] }

/-- The registry with a definition for a type, which takes the place of an earlier one. -/
def register (r : Registry) (type : String) (d : Definition) : Registry :=
  { r with definitions := (type, d) :: r.definitions }

/-- The definition of a type. -/
def definition (r : Registry) (type : String) : Definition :=
  (r.definitions.lookup type).getD .usual

/-- An entry bound to the definition of its type. -/
def define (r : Registry) (context : Context) (e : Entry) : Binding :=
  .new (r.definition e.type) context e

/-- Entries bound to the definitions of their types. -/
def defineMany (r : Registry) (context : Context) (es : List Entry) : List Binding :=
  es.map (r.define context)

/-! ## Operations -/

/-- Registers a content type whose fresh instances are empty objects. -/
def registerKey (ct : ContentType) : Duty Unit := modify fun s =>
  { registry := { s.registry with contentTypes := s.registry.contentTypes.registerKey ct }
    system := s.system.note .contentTypeRegistered }

/-- Registers a content type whose fresh instances are `value`. -/
def registerType (ct : ContentType) (value : Json) : Duty Unit := modify fun s =>
  { registry := { s.registry with contentTypes := s.registry.contentTypes.register ct value }
    system := s.system.note .contentTypeRegistered }

/-- Registers content types by their keys, up to the first text that is no key. -/
def registerKeys (keys : List String) : Duty (Except Error Unit) := fun s =>
  let (r, types) := s.registry.contentTypes.registerKeys keys
  (r, ⟨{ s.registry with contentTypes := types }, s.system.noteAll (registrationNotes keys)⟩)

/-- Puts another log in the place of the one in use, which is closed. -/
def replaceBackend (backend : Backend) : Duty Unit := modify fun s =>
  ⟨s.registry.withBackend backend, backend.closeOthers (s.system.note .storageRegistered)⟩

/-- Runs an operation on the log of the registry. -/
def onBackend {α : Type} (work : Work α) : Duty α := fun s =>
  let (a, w) := work.run ⟨s.registry.backend, s.system⟩
  (a, ⟨s.registry.withBackend w.backend, w.system⟩)

/-- The entry with an identifier: its own or the next of the supply. -/
def assignId (e : Entry) : Duty Entry := fun s =>
  let (e, ids) := s.system.ids.assign e
  (e, { s with system := s.system.withIds ids })

/-- Logs the entries that a handler answers with. -/
def followUp (again : Entry → Duty Logged) : List Entry → Duty (List LogEvent)
  | [] => return []
  | e :: es => do
    let logged ← again e
    let more ← followUp again es
    return logged.events ++ .followedUp logged.outcome :: more

/-- Hands a stored entry to the handlers. -/
def notify (again : Entry → Duty Logged) (e : Entry) : List Handler → Duty (List LogEvent)
  | [] => return []
  | h :: handlers => do
    let further ← followUp again (h.followUps e)
    let more ← notify again e handlers
    return .handled h.name e :: further ++ more

/-- Logs an entry, where `again` logs the entries that handlers answer with. -/
def logWith (again : Entry → Duty Logged) (e : Entry) : Duty Logged := do
  let gates := applicable Gate.scope (← get).registry.gates e
  let (consulted, passed) := passGates e gates
  let events := consulted.map fun g => LogEvent.consulted g.name
  if passed then
    let e ← assignId e
    match ← onBackend (Backend.store e) with
    | .error err => return ⟨.error err, events⟩
    | .ok id =>
      let handlers := applicable Handler.scope (← get).registry.handlers e
      return ⟨.ok (some id), events ++ (← notify again e handlers)⟩
  else
    modify fun s => { s with system := s.system.note .entryRejected }
    return ⟨.ok none, events⟩

/-- Logs an entry. The entries that handlers answer with nest at most so deep, and those that would
be deeper are dropped; logging without such a bound drops none of them, and may not end. -/
def log : Nat → Entry → Duty Logged
  | 0, e => logWith (fun _ => return ⟨.ok none, []⟩) e
  | depth + 1, e => logWith (log depth) e

/-- How deep the entries that handlers answer with may nest. -/
def maxNesting : Nat := 1000

end Registry

end AuditTrail
