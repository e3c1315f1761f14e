import AuditTrail.Json.Text
import AuditTrail.Sql.Database

/-!
# Databases as texts

A database as it is kept in a file: the JSON text of an object with a mark, the tables with their
rows, and the indexes.

* `Database.archive`: the text of a database.
* `Database.ofArchive?`: the database of a text; none if the text is no archive.
-/

namespace AuditTrail.Sql

open Text

/-! ## Writing -/

namespace Cell

/-- A real number as its sign, and the digits and power of two of its size; without them it is
infinite. -/
def realJson : Extended64 → Json
  | .finite x =>
    .array [.bool x.negative, .string (decimal x.mantissa), .string (decimalInt x.exponent)]
  | .infinite negative => .array [.bool negative]

/-- The real number that a JSON value stands for. -/
def realOf? (v : Json) : Option Extended64 := do
  match ← v.items? with
  | [negative] => return .infinite (← negative.bool?)
  | [negative, mantissa, exponent] => do
    let mantissa ← (readNatural maxUnsigned (← mantissa.string?).toList).toOption
    let exponent ← (readInteger (← exponent.string?).toList).toOption
    return .finite (← Binary64.ofParts? (← negative.bool?) mantissa exponent)
  | _ => none

/-- A cell as JSON: nothing is `null`, a text is itself, numbers and bytes are spelt in an object. -/
def toJson : Cell → Json
  | .null => .null
  | .text s => .string s
  | .int n => .object (.ofMembers [("int", .string (decimalInt n))])
  | .real x => .object (.ofMembers [("real", realJson x)])
  | .blob bytes => .object (.ofMembers [("bytes", .string (String.ofList (EntryId.hexChars bytes)))])

/-- The cell that a JSON value stands for. -/
def ofJson? (v : Json) : Option Cell :=
  if v.isNull then some .null
  else
    match v.string? with
    | some s => some (.text s)
    | none => do
      match (← v.payload?).toList with
      | [("int", n)] => return .int (← (readInteger (← n.string?).toList).toOption)
      | [("real", x)] => return .real (← realOf? x)
      | [("bytes", b)] => return .blob (← EntryId.readHex (← b.string?).toList)
      | _ => none

end Cell

namespace StoredRow

/-- The cells of a row in the order of the columns. -/
def toJson (r : StoredRow) : Json := .array (Column.all.map fun c => (r c).toJson)

/-- The row of cells in the order of the columns. -/
def ofJson? (v : Json) : Option StoredRow := do
  let cells ← (← v.items?).mapM Cell.ofJson?
  if cells.length = Column.all.length then
    return fun c => ((Column.all.zip cells).lookup c).getD .null
  else none

end StoredRow

namespace Database

/-- The mark of an archive. -/
def mark : String := "audit trail 1"

/-- A table by its name and rows. -/
def tableJson (t : Table) : Json :=
  .object (.ofMembers [("name", .string t.name), ("rows", .array (t.rows.map StoredRow.toJson))])

/-- An index by its name and the name of its table. -/
def indexJson (i : String × String) : Json := .array [.string i.1, .string i.2]

/-- The text of a database. -/
def archive (db : Database) : String :=
  (Json.object (.ofMembers [("archive", .string mark), ("tables", .array (db.tables.map tableJson)),
    ("indexes", .array (db.indexes.map indexJson))])).text

/-! ## Reading -/

/-- The table that a JSON value stands for. -/
def tableOf? (v : Json) : Option Table := do
  let members ← v.payload?
  let rows ← (← (← members.get? "rows").items?).mapM StoredRow.ofJson?
  return ⟨← (← members.get? "name").string?, rows⟩

/-- The index that a JSON value stands for. -/
def indexOf? (v : Json) : Option (String × String) := do
  match ← v.items? with
  | [name, table] => return (← name.string?, ← table.string?)
  | _ => none

/-- The database of a text. -/
def ofArchive? (s : String) : Option Database := do
  let members ← Payload.parse? s
  if (← (← members.get? "archive").string?) = mark then
    return {
      tables := ← (← (← members.get? "tables").items?).mapM tableOf?
      indexes := ← (← (← members.get? "indexes").items?).mapM indexOf? }
  else none

end Database

end AuditTrail.Sql
