import AuditTrail.Sql.Query

/-!
# The log in a table

Entries as rows of a table. Filters are translated to clauses, which the database evaluates, and
rows are turned back into entries when they are read.

* `TableLog.setup`: creates the table, unless it is there.
* `TableLog.insert`: one more row; an identifier that is taken is refused.
* `TableLog.retrieve`: the entry of an identifier.
* `TableLog.prepare`: the table for a query; a statement that is too large is refused.
* `TableLog.select`: a page of the entries that all filters match. A row of the page that cannot
  be read fails the whole page.
* `TableLog.countFilter`: how many rows there are.
-/

namespace AuditTrail

open Sql

/-- A table of a database. -/
structure TableLog where
  database : Database
  table : String

namespace TableLog

instance : Inhabited TableLog := ⟨⟨.empty, ""⟩⟩

/-- Creates the table with its indexes, unless it is there. -/
def setup (log : TableLog) : Except Error Unit × TableLog :=
  let (r, db) := log.database.create log.table
  (r, { log with database := db })

/-- The setup of a log that cannot be written: it has to be there already. -/
def setupReadOnly (log : TableLog) : Except Error Unit :=
  let (r, db) := log.database.create log.table
  if db.sameSize log.database then r else .error (Database.refused "the database cannot be written")

/-- The log with one more entry, unless its identifier is taken. -/
def insert (log : TableLog) (e : Entry) : Except Error TableLog := do
  let db ← log.database.insert log.table e.id (Row.ofEntry e)
  return { log with database := db }

/-- One more entry of a log that cannot be written. -/
def insertReadOnly (_ : TableLog) (_ : Entry) : Except Error TableLog :=
  .error (.operationFailed .insertRow (.stated "the database cannot be written"))

/-- The table, or that an operation fails without it. -/
def open? (log : TableLog) (activity : Activity) : Except Error Table :=
  match log.database.table? log.table with
  | some t => .ok t
  | none => .error (Database.missing activity log.table)

/-- The failure of an operation whose statement is too large. -/
def tooLarge (activity : Activity) : Error :=
  .operationFailed activity (.stated "the statement is too large")

/-- The table for a query. A statement that is too large is refused before the table is looked
for. -/
def prepare (log : TableLog) (activity : Activity) (q : Query) : Except Error Table :=
  if q.Fits then log.open? activity else .error (tooLarge activity)

/-- The row of the cells, or that an operation fails on them. -/
def readCells (activity : Activity) (r : StoredRow) : Except Error Row :=
  match r.toRow? with
  | some row => .ok row
  | none => .error (.operationFailed activity (.stated "a cell is of the wrong kind"))

/-- The entry of an identifier, or that there is none. -/
def retrieve (types : ContentTypes) (log : TableLog) (id : EntryId) : Except Error Entry := do
  let t ← log.open? .selectRow
  match t.rows.find? fun r => r .id = .blob id.bytes with
  | none => throw (.notFound id)
  | some r => (← readCells .selectRow r).toEntry types

/-- The query for a page of the rows that the filters select. -/
def pageQuery (filters : List Filter) (amount offset : Nat) : Query :=
  .page (.ofFilters filters) amount offset

/-- The query for the number of the rows that the filters select. -/
def countQuery (filters : List Filter) : Query := .count (.ofFilters filters)

/-- A page of the entries that the filters select. All rows are read before the first of them is
turned into an entry. -/
def select (types : ContentTypes) (log : TableLog) (filters : List Filter) (amount offset : Nat) :
    Except Error (List Entry) := do
  let q := pageQuery filters amount offset
  let t ← log.prepare .prepareSelect q
  let rows ← (q.rows t).mapM (readCells .selectRows)
  rows.mapM (Row.toEntry types)

/-- The number of rows that the filters select. -/
def countFilter (log : TableLog) (filters : List Filter) : Except Error Nat := do
  let q := countQuery filters
  let t ← log.prepare .countRows q
  return (q.rows t).length

end TableLog

end AuditTrail
