import AuditTrail.Sql.Condition

/-!
# Databases

Tables and indexes by their names, in one space of names in which capitals and small letters are
the same.

* `checkTableName`: the names that a table may have, since names stand in statements as they are.
* `Dialect.schema`: the statements that create a table and its two indexes.
* `columnList`, `orderText`: what statements on a table have in common.
* `Database.create`: runs the statements of a schema.
* `Database.insert`: one more row of a table, unless its identifier is taken.
* `Database.selected`: the rows of a table for which a clause is true, the newest first.
* `Database.dropTable`, `Database.overwrite`: changes from outside.
-/

namespace AuditTrail.Sql

/-! ## Statements -/

/-- The characters of a name. -/
def isNameChar (c : Char) : Bool := c.isAlphanum || c = '_'

/-- A name of a table: letters, digits and underscores, at most 63, and no digit first. -/
def isTableName (name : String) : Bool :=
  match name.toList with
  | [] => false
  | c :: cs => (c.isAlpha || c = '_') && cs.length < 63 && cs.all isNameChar

/-- Refuses what is no name of a table. -/
def checkTableName (name : String) : Except Error Unit :=
  if isTableName name then .ok () else .error (.invalidInput (.malformedTable name))

namespace Dialect

/-- The types of the columns that the dialects name differently: sequence, bytes, integer. -/
def types : Dialect → String × String × String
  | .sqlite => ("INTEGER PRIMARY KEY AUTOINCREMENT", "BLOB", "INTEGER")
  | .postgres => ("BIGSERIAL PRIMARY KEY", "BYTEA", "BIGINT")

/-- The definitions of the columns. -/
def columnDefinitions (d : Dialect) : List String :=
  let (sequence, bytes, integer) := d.types
  ["seq " ++ sequence, "id " ++ bytes ++ " NOT NULL UNIQUE", "type TEXT NOT NULL",
    "level " ++ integer ++ " NOT NULL", "occurred_at " ++ integer ++ " NOT NULL", "user_id TEXT",
    "object_id TEXT", "content_type TEXT", "data TEXT"]

end Dialect

/-- The index in the order of reading. -/
def orderIndex (table : String) : String := "idx_" ++ table ++ "_occurred_at"

/-- The index of types. -/
def typeIndex (table : String) : String := "idx_" ++ table ++ "_type"

/-- The statements that create a table and its indexes, unless they are there. -/
def Dialect.schema (d : Dialect) (table : String) : List String :=
  ["CREATE TABLE IF NOT EXISTS " ++ table ++ " (" ++ Text.joinWith ", " d.columnDefinitions ++ ")",
    "CREATE INDEX IF NOT EXISTS " ++ orderIndex table ++ " ON " ++ table ++
      " (occurred_at DESC, seq DESC)",
    "CREATE INDEX IF NOT EXISTS " ++ typeIndex table ++ " ON " ++ table ++ " (type)"]

/-- The names of the columns in order. -/
def columnList : String := Text.joinWith ", " (Column.all.map Column.name)

/-- The order of reading: the newest first. -/
def orderText : String := "ORDER BY occurred_at DESC, seq DESC"

/-! ## Tables -/

/-- A table: its rows in the order of their insertion. -/
structure Table where
  name : String
  rows : List StoredRow

/-- Tables, and indexes with the tables that they belong to. -/
structure Database where
  tables : List Table
  indexes : List (String × String)

instance : Inhabited Database := ⟨⟨[], []⟩⟩

/-- The same name, in capitals or small letters. -/
def sameName (a b : String) : Bool := a.toLower = b.toLower

/-- Is the name kept for the database itself? -/
def isReserved (name : String) : Bool := "sqlite_".toList.isPrefixOf name.toLower.toList

namespace Database

/-- The database without tables. -/
def empty : Database := ⟨[], []⟩

/-- Is there nothing in the database? -/
def isEmpty (db : Database) : Bool := db.tables.isEmpty && db.indexes.isEmpty

/-- Have the databases the same numbers of tables and indexes? -/
def sameSize (a b : Database) : Bool :=
  a.tables.length = b.tables.length && a.indexes.length = b.indexes.length

/-- The table of a name. -/
def table? (db : Database) (name : String) : Option Table :=
  db.tables.find? fun t => sameName t.name name

/-- Is there an index of the name? -/
def hasIndex (db : Database) (name : String) : Bool :=
  db.indexes.any fun i => sameName i.1 name

/-- The refusal of a schema. -/
def refused (text : String) : Error := .operationFailed .createTable (.stated text)

/-- The database with a table of the name. -/
def createTable (db : Database) (name : String) : Except Error Database :=
  if isReserved name then .error (refused ("object name reserved for internal use: " ++ name))
  else if (db.table? name).isSome then .ok db
  else if db.hasIndex name then .error (refused ("there is already an index named " ++ name))
  else .ok { db with tables := db.tables ++ [⟨name, []⟩] }

/-- The database with an index of the name. -/
def createIndex (db : Database) (name table : String) : Except Error Database :=
  if (db.table? name).isSome then .error (refused ("there is already a table named " ++ name))
  else if db.hasIndex name then .ok db
  else .ok { db with indexes := db.indexes ++ [(name, table)] }

/-- The database with a table for entries and its indexes. What was created before a refusal
stays. -/
def create (db : Database) (table : String) : Except Error Unit × Database :=
  match db.createTable table with
  | .error e => (.error e, db)
  | .ok db =>
    match db.createIndex (orderIndex table) table with
    | .error e => (.error e, db)
    | .ok db =>
      match db.createIndex (typeIndex table) table with
      | .error e => (.error e, db)
      | .ok db => (.ok (), db)

/-- The database with another list of rows in a table. -/
def withRows (db : Database) (name : String) (f : List StoredRow → List StoredRow) : Database :=
  { db with tables := db.tables.map fun t =>
      if sameName t.name name then { t with rows := f t.rows } else t }

/-- The failure of an operation on a table that is not there. -/
def missing (activity : Activity) (table : String) : Error :=
  .operationFailed activity (.stated ("no such table: " ++ table))

/-- The database with one more row of the table. -/
def insert (db : Database) (name : String) (id : EntryId) (row : Row) : Except Error Database :=
  match db.table? name with
  | none => .error (missing .insertRow name)
  | some t =>
    if t.rows.any fun r => r .id = .blob row.id then .error (.alreadyExists id)
    else .ok (db.withRows name (· ++ [StoredRow.ofRow row]))

/-- The rows in the order of reading: by descending time, and at the same time the last first. -/
def newestFirst (rows : List StoredRow) : List StoredRow :=
  rows.reverse.mergeSort fun a b => !(a .occurredAt).precedes (b .occurredAt)

/-- The rows of a table for which the clause is true, in the order of insertion. -/
def filtered (t : Table) (c : Clause) : List StoredRow := t.rows.filter c.holds

/-- The rows of a table for which the clause is true, the newest first. -/
def selected (t : Table) (c : Clause) : List StoredRow := newestFirst (filtered t c)

/-! ## Changes from outside -/

/-- The database without a table and its indexes. -/
def dropTable (db : Database) (name : String) : Database where
  tables := db.tables.filter fun t => !sameName t.name name
  indexes := db.indexes.filter fun i => !sameName i.2 name

/-- A value as a column keeps it: columns of integers keep a text that spells a number as the
number, and columns of texts keep an integer as its text. -/
def kept (column : Column) (value : Cell) : Cell :=
  match column, value with
  | .id, v => v
  | .level, .text s => (Cell.ofNumeral? s).getD (.text s)
  | .occurredAt, .text s => (Cell.ofNumeral? s).getD (.text s)
  | .level, v => v
  | .occurredAt, v => v
  | _, .int n => .text (Text.decimalInt n)
  | _, v => v

/-- May the column of a table hold the value? Four columns must not be empty, and no two rows have
the same identifier. -/
def mayHold (rows : List StoredRow) (column : Column) (value : Cell) : Bool :=
  match column with
  | .id => value ≠ .null && rows.all fun r => r .id ≠ value
  | .type => value ≠ .null
  | .level => value ≠ .null
  | .occurredAt => value ≠ .null
  | _ => true

/-- The database with another value in one column of the row with an identifier. A value that the
column must not hold changes nothing. -/
def overwrite (db : Database) (name : String) (id : EntryId) (column : Column) (value : Cell) :
    Database :=
  db.withRows name fun rows =>
    let others := rows.filter fun r => r .id ≠ .blob id.bytes
    if mayHold others column value then
      rows.map fun r =>
        if r .id = .blob id.bytes then r.set column (kept column value) else r
    else rows

end Database

end AuditTrail.Sql
