import AuditTrail.Config.Kind
import AuditTrail.Toml.Document

/-!
# Settings

* `Config`: all settings, with their defaults.
* `ConfigLayer`: the settings that a file gives; `ConfigLayer.parse` reads them.
* `Config.merge`: the settings with those of a layer on top.
* `Config.override`: the settings with those of the environment on top.
-/

namespace AuditTrail

/-- Where entries are kept, in detail. -/
structure StorageSettings where
  kind : StorageKind
  sqlitePath : String
  postgresUrl : Option String
  table : String
  poolSize : Option Nat
  deriving DecidableEq, Repr, Inhabited

/-- What is logged, and where to. -/
structure LogSettings where
  level : String
  format : LogFormat
  file : Option String
  deriving DecidableEq, Repr, Inhabited

/-- All settings. -/
structure Config where
  storage : StorageSettings
  log : LogSettings
  pageSize : Nat
  contentTypes : List String
  deriving DecidableEq, Repr, Inhabited

/-- The settings of a file for the storage. -/
structure StorageLayer where
  kind : Option String
  sqlitePath : Option String
  postgresUrl : Option String
  table : Option String
  poolSize : Option Nat
  deriving DecidableEq, Repr, Inhabited

/-- The settings of a file for logging. -/
structure LogLayer where
  level : Option String
  format : Option String
  file : Option String
  deriving DecidableEq, Repr, Inhabited

/-- The settings that a file gives. -/
structure ConfigLayer where
  storage : Option StorageLayer
  log : Option LogLayer
  pageSize : Option Nat
  contentTypes : Option (List String)
  deriving DecidableEq, Repr, Inhabited

/-- The section that gives nothing. -/
def StorageLayer.empty : StorageLayer := ⟨none, none, none, none, none⟩

/-- The section that gives nothing. -/
def LogLayer.empty : LogLayer := ⟨none, none, none⟩

namespace Config

/-- The settings before any other are given, for a place for data. -/
def initial (dataPath : String) : Config where
  storage := ⟨.memory, dataPath, none, "audit_logs", none⟩
  log := ⟨"info", .pretty, none⟩
  pageSize := 20
  contentTypes := []

/-- The settings with another kind of storage. -/
def withKind (c : Config) (kind : StorageKind) : Config :=
  { c with storage := { c.storage with kind } }

/-- The settings with another file for the table. -/
def withSqlitePath (c : Config) (path : String) : Config :=
  { c with storage := { c.storage with sqlitePath := path } }

/-- The settings before any other are given, for a program that starts anew with each command. -/
def lasting (dataPath : String) : Config := (initial dataPath).withKind .sqlite

end Config

/-! ## Layers from files -/

namespace ConfigLayer

/-- What makes a setting of a value. -/
abbrev Taker (α : Type) := Toml.Value → Option α

/-- A text. -/
def takeText : Taker String
  | .string s => some s
  | _ => none

/-- A natural number of 64 bits. -/
def takeNumber : Taker Nat
  | .scalar (.integer n) => if 0 ≤ n ∧ n ≤ Text.maxUnsigned then some n.toNat else none
  | _ => none

/-- A list of texts. -/
def takeTexts : Taker (List String)
  | .array items => items.mapM takeText
  | _ => none

/-- The setting of a key, if the members have it. -/
def setting {α : Type} (take : Taker α) (members : Toml.Members) (key : String) :
    Option (Option α) :=
  match members.lookup key with
  | none => some none
  | some v => (take v).map some

/-- The members of a section: of a table that has no other keys, or of an array that lists the
settings in order. -/
def sectionMembers? (keys : List String) : Toml.Value → Option Toml.Members
  | .table _ members => if members.all fun m => keys.contains m.1 then some members else none
  | .array items => if keys.length ≤ items.length then some (keys.zip items) else none
  | _ => none

/-- The section of the storage. -/
def takeStorage : Taker StorageLayer := fun v => do
  let members ←
    sectionMembers? ["backend", "sqlite_path", "postgres_url", "table", "pool_max_size"] v
  return {
    kind := ← setting takeText members "backend"
    sqlitePath := ← setting takeText members "sqlite_path"
    postgresUrl := ← setting takeText members "postgres_url"
    table := ← setting takeText members "table"
    poolSize := ← setting takeNumber members "pool_max_size" }

/-- The section of logging. -/
def takeLog : Taker LogLayer := fun v => do
  let members ← sectionMembers? ["level", "format", "file"] v
  return {
    level := ← setting takeText members "level"
    format := ← setting takeText members "format"
    file := ← setting takeText members "file" }

/-- The layer of a document. -/
def ofMembers? (members : Toml.Members) : Option ConfigLayer := do
  let members ←
    sectionMembers? ["storage", "logging", "page_size", "content_types"] (.table .header members)
  return {
    storage := ← setting takeStorage members "storage"
    log := ← setting takeLog members "logging"
    pageSize := ← setting takeNumber members "page_size"
    contentTypes := ← setting takeTexts members "content_types" }

/-- The layer that a text spells. -/
def parse (s : String) : Except Error ConfigLayer :=
  match (Toml.parse? s).bind ofMembers? with
  | some layer => .ok layer
  | none => .error (.operationFailed .parseConfig (.stated "the text is no configuration"))

end ConfigLayer

/-! ## Layers on top of each other -/

namespace Config

/-- A setting read from a text, if there is one. -/
def readSetting {α : Type} (read : String → Except Error α) (old : α) :
    Option String → Except Error α
  | none => .ok old
  | some s => read s

/-- The settings with those of a file on top. -/
def merge (c : Config) (layer : ConfigLayer) : Except Error Config := do
  let storage : StorageLayer := layer.storage.getD .empty
  let log : LogLayer := layer.log.getD .empty
  let kind ← readSetting StorageKind.parse c.storage.kind storage.kind
  let format ← readSetting LogFormat.parse c.log.format log.format
  return {
    storage := {
      kind
      sqlitePath := storage.sqlitePath.getD c.storage.sqlitePath
      postgresUrl := storage.postgresUrl <|> c.storage.postgresUrl
      table := storage.table.getD c.storage.table
      poolSize := storage.poolSize <|> c.storage.poolSize }
    log := {
      level := log.level.getD c.log.level
      format
      file := log.file <|> c.log.file }
    pageSize := layer.pageSize.getD c.pageSize
    contentTypes := layer.contentTypes.getD c.contentTypes }

/-- The settings with those of a text on top. -/
def mergeText (c : Config) (s : String) : Except Error Config := do
  c.merge (← ConfigLayer.parse s)

/-! ## The environment -/

/-- The variable that gives a setting. -/
def variableName (setting : String) : String := "AUDITLOG_" ++ setting

/-- The settings that the environment can give. -/
def settingNames : List String :=
  ["STORAGE_BACKEND", "SQLITE_PATH", "POSTGRES_URL", "TABLE", "POOL_MAX_SIZE", "LOG_LEVEL",
    "LOG_FORMAT", "LOG_FILE", "PAGE_SIZE", "CONTENT_TYPES"]

/-- The value of a variable, unless it is blank. -/
def given (lookup : String → Option String) (name : String) : Option String :=
  (lookup name).filter fun s => !Text.isAllBlank s

/-- A natural number of 64 bits, with white space around it. -/
def readNumber (name s : String) : Except Error Nat :=
  (Text.readNatural Text.maxUnsigned (Text.trimChars s.toList)).mapError fun e =>
    .invalidInput (.malformedNumber name s e)

/-- The parts of a text between commas that are not blank. -/
def listed (s : String) : List String :=
  ((Text.splitAll ',' s.toList).map fun cs => String.ofList (Text.trimChars cs)).filter (· ≠ "")

/-- The settings with those of the environment on top. -/
def override (c : Config) (lookup : String → Option String) : Except Error Config := do
  let get (setting : String) : Option String := given lookup (variableName setting)
  let number (setting : String) : String → Except Error Nat := readNumber (variableName setting)
  let kind ← readSetting StorageKind.parse c.storage.kind (get "STORAGE_BACKEND")
  let poolSize ←
    readSetting (fun s => (number "POOL_MAX_SIZE" s).map some) c.storage.poolSize
      (get "POOL_MAX_SIZE")
  let format ← readSetting LogFormat.parse c.log.format (get "LOG_FORMAT")
  let pageSize ← readSetting (number "PAGE_SIZE") c.pageSize (get "PAGE_SIZE")
  return {
    storage := {
      kind
      sqlitePath := (get "SQLITE_PATH").getD c.storage.sqlitePath
      postgresUrl := get "POSTGRES_URL" <|> c.storage.postgresUrl
      table := (get "TABLE").getD c.storage.table
      poolSize }
    log := {
      level := (get "LOG_LEVEL").getD c.log.level
      format
      file := get "LOG_FILE" <|> c.log.file }
    pageSize
    contentTypes := ((get "CONTENT_TYPES").map listed).getD c.contentTypes }

end Config

end AuditTrail
