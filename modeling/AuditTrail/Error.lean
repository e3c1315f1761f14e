import AuditTrail.EntryId
import AuditTrail.Instant.Text

/-!
# Columns and errors

* `Column`: the eight columns that hold an entry in a table, in the order in which they are listed,
  and their names.
* `Error`: everything that can go wrong, by its cause.
* `InputFault`: what is wrong with a value that was given.
* `ReadFault`: what is wrong with a stored value.
* `Activity`, `FailureCause`: an operation on the outside world, and why it failed.
* `Error.message`: the one wording of each.
-/

namespace AuditTrail

open Text

/-! ## Columns -/

/-- A column of the table of entries. -/
inductive Column
  | id
  | type
  | level
  | occurredAt
  | userId
  | objectId
  | contentType
  | data
  deriving DecidableEq, Repr, Inhabited

namespace Column

/-- The columns in the order in which they are listed. -/
def all : List Column :=
  [.id, .type, .level, .occurredAt, .userId, .objectId, .contentType, .data]

theorem mem_all (c : Column) : c ∈ all := by cases c <;> decide

/-- The name of a column. -/
def name : Column → String
  | .id => "id"
  | .type => "type"
  | .level => "level"
  | .occurredAt => "occurred_at"
  | .userId => "user_id"
  | .objectId => "object_id"
  | .contentType => "content_type"
  | .data => "data"

/-- The column of a name. -/
def ofName? (s : String) : Option Column := all.find? fun c => c.name = s

theorem ofName?_name (c : Column) : ofName? c.name = some c := by cases c <;> rfl

end Column

/-! ## Errors -/

/-- What is wrong with a value that was given. -/
inductive InputFault
  | malformedId (text : String) (fault : IdFault)
  | idBytes (fault : IdFault)
  | levelRange (n : Int)
  | unknownLevel (text : String)
  | malformedContentType (text : String)
  | malformedKey (key : String)
  | malformedInstant (text : String) (fault : InstantFault)
  | payloadFilter
  | unknownStorage (name : String)
  | unknownFormat (name : String)
  | malformedTable (name : String)
  | malformedNumber (setting text : String) (fault : NumeralFault)
  | stated (text : String)
  deriving DecidableEq, Repr

namespace InputFault

/-- The wording of a fault. -/
def message : InputFault → String
  | .malformedId s e => "invalid entry id '" ++ s ++ "': " ++ e.message
  | .idBytes e => "entry id: " ++ e.message
  | .levelRange n => "level out of range: " ++ decimalInt n
  | .unknownLevel s => "invalid level '" ++ s ++ "'"
  | .malformedContentType s => "invalid content type '" ++ s ++ "'"
  | .malformedKey s => "invalid content type key '" ++ s ++ "'"
  | .malformedInstant s e => "invalid timestamp '" ++ s ++ "': " ++ e.message
  | .payloadFilter => "data filter must be a JSON object: this text is none"
  | .unknownStorage s => "unknown storage backend '" ++ s ++ "'"
  | .unknownFormat s => "unknown log format '" ++ s ++ "'"
  | .malformedTable s => "invalid table name '" ++ s ++ "'"
  | .malformedNumber k s e => k ++ "='" ++ s ++ "': " ++ e.message
  | .stated s => s

end InputFault

/-- What is wrong with a stored value. -/
inductive ReadFault
  | input (fault : InputFault)
  | instantRange (micros : Int)
  | json
  | stated (text : String)
  deriving DecidableEq, Repr

namespace ReadFault

/-- The wording of a fault. -/
def message : ReadFault → String
  | .input e => "invalid input: " ++ e.message
  | .instantRange n => "timestamp out of range: " ++ decimalInt n
  | .json => "not the wanted kind of JSON value"
  | .stated s => s

end ReadFault

/-- An operation on the outside world. -/
inductive Activity
  | createTableDirectory
  | openTable
  | createTable
  | insertRow
  | prepareSelect
  | selectRows
  | selectRow
  | countRows
  | readConfig
  | parseConfig
  | createLogDirectory
  | openLog
  | startLogging
  | stated (name : String)
  deriving DecidableEq, Repr

namespace Activity

/-- The name of an operation. -/
def name : Activity → String
  | .createTableDirectory => "create_sqlite_dir"
  | .openTable => "open_sqlite"
  | .createTable => "create_audit_table"
  | .insertRow => "sqlite_store"
  | .prepareSelect => "prepare_select"
  | .selectRows => "select_entries"
  | .selectRow => "retrieve_entry"
  | .countRows => "count_entries"
  | .readConfig => "read_config_file"
  | .parseConfig => "parse_config_file"
  | .createLogDirectory => "create_log_dir"
  | .openLog => "open_log_file"
  | .startLogging => "logging_init"
  | .stated s => s

end Activity

/-- Why a path cannot be used. -/
inductive FileFault
  | missing
  | exists
  | notDirectory
  | isDirectory
  | nameTooLong
  | zeroByte
  | notText
  deriving DecidableEq, Repr

namespace FileFault

/-- The wording of a fault. -/
def message : FileFault → String
  | .missing => "No such file or directory (os error 2)"
  | .exists => "File exists (os error 17)"
  | .notDirectory => "Not a directory (os error 20)"
  | .isDirectory => "Is a directory (os error 21)"
  | .nameTooLong => "File name too long (os error 36)"
  | .zeroByte => "file name contained an unexpected NUL byte"
  | .notText => "stream did not contain valid UTF-8"

end FileFault

/-- Why an operation on the outside world failed. -/
inductive FailureCause
  | file (fault : FileFault)
  | fileAt (path : String) (fault : FileFault)
  | stated (text : String)
  deriving DecidableEq, Repr

namespace FailureCause

/-- The wording of a cause. -/
def message : FailureCause → String
  | .file e => e.message
  | .fileAt path e => path ++ ": " ++ e.message
  | .stated s => s

end FailureCause

/-- Everything that can go wrong. -/
inductive Error
  | notFound (id : EntryId)
  | alreadyExists (id : EntryId)
  | unregistered (key : String)
  | unreadable (column : Column) (fault : ReadFault)
  | invalidInput (fault : InputFault)
  | operationFailed (activity : Activity) (cause : FailureCause)
  | notBuiltIn (feature : String)
  deriving DecidableEq

namespace Error

/-- The wording of an error. -/
def message : Error → String
  | .notFound id => "entry not found: " ++ id.text
  | .alreadyExists id => "entry already exists: " ++ id.text
  | .unregistered key => "invalid scan type: content type '" ++ key ++ "' is not registered"
  | .unreadable c e => "failed to decode column '" ++ c.name ++ "': " ++ e.message
  | .invalidInput e => "invalid input: " ++ e.message
  | .operationFailed a e => "operation '" ++ a.name ++ "' failed: " ++ e.message
  | .notBuiltIn s => "feature not enabled: " ++ s ++ " (compile with --features " ++ s ++ ")"

/-- Is it that no entry has the identifier? -/
def isNotFound : Error → Bool
  | .notFound _ => true
  | _ => false

end Error

end AuditTrail
