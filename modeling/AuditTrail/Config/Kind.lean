import AuditTrail.Error
import AuditTrail.Text.LowerCase

/-!
# Kinds of storage and of log lines

* `StorageKind`: where entries are kept; `StorageKind.parse` takes its names in any case.
* `LogFormat`: how log lines look; `LogFormat.parse` takes its names in any case.
-/

namespace AuditTrail

/-- Where entries are kept. -/
inductive StorageKind
  | memory
  | sqlite
  | postgres
  deriving DecidableEq, Repr, Inhabited

namespace StorageKind

/-- The name of a kind of storage. -/
def name : StorageKind → String
  | .memory => "memory"
  | .sqlite => "sqlite"
  | .postgres => "postgres"

/-- The kind of storage for a word in small letters. -/
def ofWord? (word : String) : Option StorageKind :=
  if word = "memory" ∨ word = "mem" then some .memory
  else if word = "sqlite" then some .sqlite
  else if word = "postgres" ∨ word = "postgresql" ∨ word = "pg" then some .postgres
  else none

/-- The kind of storage that a text names. -/
def parse (s : String) : Except Error StorageKind :=
  let word := Text.lowerCase (Text.trim s)
  match ofWord? word with
  | some kind => .ok kind
  | none => .error (.invalidInput (.unknownStorage word))

end StorageKind

/-- How log lines look. -/
inductive LogFormat
  | pretty
  | json
  deriving DecidableEq, Repr, Inhabited

namespace LogFormat

/-- The name of a format. -/
def name : LogFormat → String
  | .pretty => "pretty"
  | .json => "json"

/-- The format for a word in small letters. -/
def ofWord? (word : String) : Option LogFormat :=
  if word = "pretty" ∨ word = "text" then some .pretty
  else if word = "json" then some .json
  else none

/-- The format that a text names. -/
def parse (s : String) : Except Error LogFormat :=
  let word := Text.lowerCase (Text.trim s)
  match ofWord? word with
  | some format => .ok format
  | none => .error (.invalidInput (.unknownFormat word))

end LogFormat

end AuditTrail
