import AuditTrail.Config.Kind

/-!
# Log lines and measurements

* `Verbosity`: how important a line is, from `error` to `trace`.
* `Notice`: what the program says about its own work, with the importance, the part of the
  program that speaks, the names of what it tells, and the wording.
* `Job`: the piece of work inside which a line is noted, with named values.
* `Operation`: the operations of a log that are measured.
* `Signal`: one event that is counted, and `Signal.keys` the names of the counts that it adds to.
* `tally`: the counts of a list of signals.
-/

namespace AuditTrail

/-! ## Log lines -/

/-- How important a log line is. -/
inductive Verbosity
  | error
  | warn
  | info
  | debug
  | trace
  deriving DecidableEq, Repr

namespace Verbosity

/-- The levels from the most important on. -/
def all : List Verbosity := [.error, .warn, .info, .debug, .trace]

/-- The number of a level, which grows with the number of lines that are shown. -/
def rank : Verbosity → Nat
  | .error => 1
  | .warn => 2
  | .info => 3
  | .debug => 4
  | .trace => 5

/-- The name of a level. -/
def name : Verbosity → String
  | .error => "error"
  | .warn => "warn"
  | .info => "info"
  | .debug => "debug"
  | .trace => "trace"

/-- The name of a level in capitals. -/
def capitals : Verbosity → String
  | .error => "ERROR"
  | .warn => "WARN"
  | .info => "INFO"
  | .debug => "DEBUG"
  | .trace => "TRACE"

end Verbosity

/-- A value that is told by name. -/
inductive Told
  | text (s : String)
  | number (n : Nat)
  deriving DecidableEq, Repr

/-- A piece of work inside which lines are noted: its name, the part of the program that does it,
and what it tells. -/
structure Job where
  name : String
  target : String
  told : List (String × Told)
  deriving DecidableEq, Repr

/-- The importance of every piece of work. -/
def Job.verbosity : Verbosity := .info

/-- The part of the program that keeps entries. -/
def storagePart (kind : StorageKind) : String := "auditlog::storage::persistence::" ++ kind.name

/-- What the program says about its own work. -/
inductive Notice
  | contentTypeRegistered
  | storageRegistered
  | entryRejected
  | batchStopped (kind : StorageKind) (size : Nat)
  | guardRecovered (kind : StorageKind)
  | storageOpened
  | configIgnored
  | commandFailed
  deriving DecidableEq, Repr

namespace Notice

/-- The importance of a line. -/
def verbosity : Notice → Verbosity
  | .contentTypeRegistered => .debug
  | .storageRegistered => .info
  | .entryRejected => .debug
  | .batchStopped _ _ => .warn
  | .guardRecovered _ => .warn
  | .storageOpened => .debug
  | .configIgnored => .warn
  | .commandFailed => .debug

/-- The part of the program that speaks. -/
def target : Notice → String
  | .contentTypeRegistered => "auditlog::registry::content_types"
  | .storageRegistered => "auditlog::registry"
  | .entryRejected => "auditlog::registry"
  | .batchStopped kind _ => storagePart kind
  | .guardRecovered .memory => "auditlog::storage::persistence::memory"
  | .guardRecovered _ => "auditlog::storage::sqlite::connection"
  | .storageOpened => "auditlog::storage::factory"
  | .configIgnored => "auditlog::config"
  | .commandFailed => "auditlog"

/-- The names of what the line tells. -/
def told : Notice → List String
  | .contentTypeRegistered => ["content_type", "message"]
  | .storageRegistered => ["backend", "message"]
  | .entryRejected => ["entry.type", "filter", "message"]
  | .batchStopped .memory _ => ["error", "stored", "message"]
  | .batchStopped _ _ => ["stored", "message"]
  | .guardRecovered _ => ["message"]
  | .storageOpened => ["backend", "table", "message"]
  | .configIgnored => ["path", "error", "message"]
  | .commandFailed => ["error", "message"]

/-- The piece of work inside which the line is noted, if it tells about itself. -/
def job? : Notice → Option Job
  | .batchStopped kind size =>
    some ⟨"store_many", storagePart kind,
      [("operation", .text "store_many"), ("backend", .text kind.name),
        ("batch.size", .number size)]⟩
  | _ => none

/-- The wording. -/
def message : Notice → String
  | .contentTypeRegistered => "registering content type"
  | .storageRegistered => "registering storage backend"
  | .entryRejected => "entry rejected by filter"
  | .batchStopped _ _ => "batch store stopped at first failure"
  | .guardRecovered .memory => "memory backend lock was poisoned, recovering"
  | .guardRecovered _ => "SQLite mutex was poisoned, recovering"
  | .storageOpened => "opening storage backend"
  | .configIgnored => "ignoring unreadable config file"
  | .commandFailed => "command failed"

end Notice

/-! ## Measurements -/

/-- An operation of a log that is measured. -/
inductive Operation
  | setup
  | store
  | retrieve
  | retrieveMany
  | retrieveTyped
  | entryFilter
  | countFilter
  deriving DecidableEq, Repr

/-- The name of an operation. -/
def Operation.name : Operation → String
  | .setup => "setup"
  | .store => "store"
  | .retrieve => "retrieve"
  | .retrieveMany => "retrieve_many"
  | .retrieveTyped => "retrieve_typed"
  | .entryFilter => "entry_filter"
  | .countFilter => "count_filter"

/-- An event that is counted: an operation ended, or a broken guard was taken over. -/
inductive Signal
  | finished (kind : StorageKind) (operation : Operation) (success : Bool)
  | recovered (kind : StorageKind)
  deriving DecidableEq, Repr

namespace Signal

/-- The labels of an operation that ended. -/
def labels (kind : StorageKind) (operation : Operation) (success : Bool) : String :=
  "backend=" ++ kind.name ++ " operation=" ++ operation.name ++ " status=" ++
    if success then "success" else "error"

/-- The names of the counts that a signal adds to: an ended operation is counted, and its time is
measured. -/
def keys : Signal → List String
  | .finished kind operation success =>
    let labels := labels kind operation success
    ["storage_operations_total " ++ labels, "storage_operation_duration_ms " ++ labels]
  | .recovered .memory => ["memory_backend_poison_recovery_total "]
  | .recovered _ => ["sqlite_mutex_poison_recovery_total "]

end Signal

/-- The counts with one more for a key. -/
def countKey (key : String) : List (String × Nat) → List (String × Nat)
  | [] => [(key, 1)]
  | (k, n) :: counts => if k = key then (k, n + 1) :: counts else (k, n) :: countKey key counts

/-- How often each key comes up in the signals. -/
def tally (signals : List Signal) : List (String × Nat) :=
  (signals.flatMap Signal.keys).foldl (fun counts key => countKey key counts) []

end AuditTrail
