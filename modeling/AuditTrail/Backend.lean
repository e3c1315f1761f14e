import AuditTrail.Config.Basic
import AuditTrail.Location
import AuditTrail.Log.Memory
import AuditTrail.Log.Table
import AuditTrail.System

/-!
# Logs at work

A `Backend` is a log in use: in memory, or in a database that is apart, shared or on the disk,
behind a guard that lets one operation in at a time. An operation that breaks off inside leaves the
guard broken; later operations take it over and count that.

* `Backend.openMemory`, `openPrivate`, `openTable`, `open?`: logs, the last one by the settings.
* `Backend.store`, `storeMany`, `retrieve`, `retrieveMany`, `retrieveTyped`, `filter`,
  `countFilter`, `count`, `setup`: the operations, each measured.
* `Backend.breakOff`: an operation that breaks off inside the guard.
-/

namespace AuditTrail

/-- Where a log keeps its entries. A database that others can see is read before an operation and
written after it; the path is the one that was given for it. -/
inductive Keeping
  | memory (log : MemoryLog)
  | table (path : Option String) (location : Location) (log : TableLog)

instance : Inhabited Keeping := ⟨.memory .empty⟩

/-- A log in use. -/
structure Backend where
  keeping : Keeping
  broken : Bool
  deriving Inhabited

/-- What an operation on a log works with. -/
structure Workplace where
  backend : Backend
  system : System

/-- An operation on a log. -/
abbrev Work (α : Type) : Type := StateM Workplace α

namespace Backend

/-- The kind of storage. -/
def kind (b : Backend) : StorageKind :=
  match b.keeping with
  | .memory _ => .memory
  | .table _ _ _ => .sqlite

/-- The name of the kind of storage. -/
def name (b : Backend) : String := b.kind.name

/-! ## Steps -/

/-- Changes the system. -/
def onSystem (f : System → System) : Work Unit := modify fun w => { w with system := f w.system }

/-- Enters the guard; a broken one is taken over. -/
def enter : Work Unit := do
  let w ← get
  if w.backend.broken then
    onSystem fun s => (s.measure (.recovered w.backend.kind)).note (.guardRecovered w.backend.kind)

/-- An operation whose end is measured. -/
def timed {α : Type} (operation : Operation) (work : Work (Except Error α)) :
    Work (Except Error α) := do
  let r ← work
  let w ← get
  onSystem fun s => s.measure (.finished w.backend.kind operation (BatchReport.isOk r))
  return r

/-- The log with the database as it is now. -/
def load (s : System) (location : Location) (log : TableLog) : TableLog :=
  match location with
  | .apart => log
  | .shared name => { log with database := (s.shared.lookup name).getD .empty }
  | .file names _ => { log with database := (Location.databaseAt? s.disk names).getD .empty }

/-- The system with the database of the log. -/
def save (s : System) (location : Location) (log : TableLog) : System :=
  match location with
  | .apart => s
  | .shared name => s.share name log.database
  | .file names writable =>
    if writable then s.withDisk (s.disk.set names (.database log.database)) else s

/-- Can the log be written? -/
def isWritable : Location → Bool
  | .file _ writable => writable
  | _ => true

/-- The system in which no database in memory is open but that of this log. -/
def closeOthers (b : Backend) (s : System) : System :=
  s.keepShared (match b.keeping with
    | .table _ (.shared name) _ => some name
    | _ => none)

/-- Reads from the log. -/
def reading {α : Type} (onMemory : MemoryLog → α) (onTable : TableLog → α) : Work α := do
  let w ← get
  match w.backend.keeping with
  | .memory log => return onMemory log
  | .table _ location log => return onTable (load w.system location log)

/-- The log with an entry, after one more entry was stored in it. -/
def storeInto (w : Workplace) (e : Entry) : Except Error EntryId × Workplace :=
  match w.backend.keeping with
  | .memory log =>
    let (r, s) := Log.storeWith MemoryLog.insert ⟨log, w.system.ids⟩ e
    (r, ⟨{ w.backend with keeping := .memory s.log }, w.system.withIds s.ids⟩)
  | .table path location log =>
    let insert := if isWritable location then TableLog.insert else TableLog.insertReadOnly
    let (r, s) := Log.storeWith insert ⟨load w.system location log, w.system.ids⟩ e
    (r, ⟨{ w.backend with keeping := .table path location s.log },
      (save w.system location s.log).withIds s.ids⟩)

/-! ## Operations -/

/-- Stores an entry inside the guard. -/
def insert (e : Entry) : Work (Except Error EntryId) := fun w => storeInto w e

/-- Stores an entry. -/
def store (e : Entry) : Work (Except Error EntryId) :=
  timed .store do
    enter
    insert e

/-- Stores entries of a batch inside the guard, up to the first failure. -/
def insertMany (size : Nat) : List Entry → Work (List (Except Error EntryId))
  | [] => return []
  | e :: es => do
    match ← timed .store (insert e) with
    | .ok id => return .ok id :: (← insertMany size es)
    | .error err =>
      let w ← get
      onSystem fun s => s.note (.batchStopped w.backend.kind size)
      return [.error err]

/-- Stores entries in order, up to the first failure. -/
def storeMany (es : List Entry) : Work BatchReport := do
  enter
  return ⟨← insertMany es.length es, es.length⟩

/-- The entry of an identifier. -/
def retrieve (types : ContentTypes) (id : EntryId) : Work (Except Error Entry) :=
  timed .retrieve do
    enter
    reading (fun log => log.retrieve id) (fun log => log.retrieve types id)

/-- A page of all entries. -/
def retrieveMany (types : ContentTypes) (amount offset : Nat) : Work (Except Error (List Entry)) :=
  timed .retrieveMany do
    enter
    reading (fun log => .ok (log.retrieveMany amount offset))
      (fun log => log.select types [] amount offset)

/-- A page of the entries of one type. -/
def retrieveTyped (types : ContentTypes) (type : String) (amount offset : Nat) :
    Work (Except Error (List Entry)) :=
  timed .retrieveTyped do
    enter
    reading (fun log => .ok (log.retrieveTyped type amount offset))
      (fun log => log.select types [.type [type]] amount offset)

/-- A page of the entries that all filters match. -/
def filter (types : ContentTypes) (filters : List Filter) (amount offset : Nat) :
    Work (Except Error (List Entry)) :=
  timed .entryFilter do
    enter
    reading (fun log => .ok (log.select filters amount offset))
      (fun log => log.select types filters amount offset)

/-- The number of entries that all filters match. -/
def countFilter (filters : List Filter) : Work (Except Error Nat) :=
  timed .countFilter do
    enter
    reading (fun log => .ok (log.countFilter filters)) (fun log => log.countFilter filters)

/-- The number of entries. In memory it is known without a measured scan. -/
def count : Work (Except Error Nat) := do
  match (← get).backend.keeping with
  | .memory log =>
    enter
    return .ok log.count
  | .table _ _ _ => countFilter []

/-- Creates the table, unless it is there. -/
def setupTable (path : Option String) (location : Location) (log : TableLog) :
    Work (Except Error Unit) :=
  timed .setup do
    enter
    let w ← get
    let log := load w.system location log
    if isWritable location then
      let (r, log) := log.setup
      set (⟨{ w.backend with keeping := .table path location log },
        save w.system location log⟩ : Workplace)
      return r
    else return log.setupReadOnly

/-- Makes the log ready for entries; in memory nothing has to be done. -/
def setup : Work (Except Error Unit) := do
  match (← get).backend.keeping with
  | .memory _ => return .ok ()
  | .table path location log => setupTable path location log

/-- Stores the first of the entries and breaks off inside the guard. Without entries nothing
happens, unless the guard is broken already. -/
def breakOff (es : List Entry) : Work Bool := do
  if (← get).backend.broken then return true
  match es with
  | [] => return false
  | e :: _ =>
    let _ ← insert e
    modify fun w => { w with backend := { w.backend with broken := true } }
    return true

/-- The number of entries in memory, each look at which enters the guard. -/
def sizeInMemory? : Work (Option Nat) := do
  match (← get).backend.keeping with
  | .memory log =>
    enter
    return some log.count
  | .table _ _ _ => return none

/-! ## Opening -/

/-- A new log in memory. -/
def openMemory : Backend := ⟨.memory .empty, false⟩

/-- The table that is used unless another is named. -/
def usualTable : String := "audit_logs"

/-- A new log after its setup, or why there is none. -/
def ready (path : Option String) (location : Location) (log : TableLog) (s : System) :
    Except Error Backend × System :=
  let (r, w) := (setupTable path location log).run ⟨⟨.table path location log, false⟩, s⟩
  (r.map fun _ => w.backend, w.system)

/-- A new log in a database of its own. -/
def openPrivate (s : System) : Except Error Backend × System :=
  ready none .apart ⟨.empty, usualTable⟩ s

/-- The location of a path, on the disk with the directories that hold it. What was created before a
failure stays. -/
def openLocation (disk : Disk) (path : String) : Except Error Location × Disk :=
  match disk.createAbove path with
  | (.error e, disk) =>
    (.error (.operationFailed .createTableDirectory (.fileAt ((parent? path).getD "") e)), disk)
  | (.ok (), disk) =>
    match Location.open? disk path with
    | some (location, disk) => (.ok location, disk)
    | none => (.error (.operationFailed .openTable (.stated "no database can be opened")), disk)

/-- Is there a database at the location, or can one be made of what is there? -/
def isDatabase (disk : Disk) : Location → Bool
  | .file names _ => (Location.databaseAt? disk names).isSome
  | _ => true

/-- A log in a table of the database at a path. -/
def openTable (path table : String) (s : System) : Except Error Backend × System :=
  match Sql.checkTableName table with
  | .error e => (.error e, s)
  | .ok () =>
    match openLocation s.disk path with
    | (.error e, disk) => (.error e, s.withDisk disk)
    | (.ok location, disk) =>
      let s := s.withDisk disk
      if isDatabase disk location then ready (some path) location ⟨.empty, table⟩ s
      else
        (.error (Sql.Database.refused "the file is no database"),
          s.measure (.finished .sqlite .setup false))

/-- The log that the settings describe. -/
def open? (settings : StorageSettings) (s : System) : Except Error Backend × System :=
  let s := s.note .storageOpened
  match settings.kind with
  | .memory => (.ok openMemory, s)
  | .sqlite => openTable settings.sqlitePath settings.table s
  | .postgres => (.error (.notBuiltIn "postgres"), s)

end Backend

end AuditTrail
