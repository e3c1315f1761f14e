import AuditTrail.Filter
import AuditTrail.Sql.Cell

/-!
# Conditions

The clause that selects what a list of filters selects.

* `Test`: a comparison of one column with one value, or that the column is empty.
* `tests`: the tests of a filter, one for each candidate.
* `Clause`: the tests of all filters with numbers for their values, and the values in the order of
  their numbers.
* `Clause.text`: the clause in a dialect; `Clause.holds`: the rows for which it is true, in the
  logic with a third truth value for what is unknown.
-/

namespace AuditTrail.Sql

/-- How a column is compared. -/
inductive Comparison
  | equal
  | less
  | greater
  deriving DecidableEq, Repr

namespace Comparison

/-- The sign of a comparison. -/
def sign : Comparison → String
  | .equal => "="
  | .less => "<"
  | .greater => ">"

/-- The truth of a comparison. -/
def eval (c : Comparison) (a b : Cell) : Option Bool :=
  match c with
  | .equal => a.equals b
  | .less => a.less b
  | .greater => b.less a

end Comparison

/-- A test of one column. -/
inductive Test
  | empty (column : Column)
  | compare (column : Column) (how : Comparison) (value : Cell)
  deriving DecidableEq

namespace Test

/-- The value that a test compares with. -/
def value? : Test → Option Cell
  | .empty _ => none
  | .compare _ _ v => some v

/-- A JSON column equals a value; for `null` it is empty. -/
def ofJson (column : Column) (v : Json) : Test :=
  if v.isNull then .empty column else .compare column .equal (.text v.encode)

end Test

/-- The tests of a filter, one for each candidate. -/
def tests : Filter → List Test
  | .id ids => ids.map fun i => .compare .id .equal (.blob i.bytes)
  | .type types => types.map fun s => .compare .type .equal (.text s)
  | .user values => values.map (.ofJson .userId)
  | .object values => values.map (.ofJson .objectId)
  | .contentType cts => cts.map fun ct => .compare .contentType .equal (.text ct.key)
  | .level levels => levels.map fun l => .compare .level .equal (.int l.rank)
  | .levelAbove levels => levels.map fun l => .compare .level .greater (.int l.rank)
  | .levelBelow levels => levels.map fun l => .compare .level .less (.int l.rank)
  | .timestamp instants => instants.map fun t => .compare .occurredAt .equal (.int t.micros)
  | .timestampBefore instants => instants.map fun t => .compare .occurredAt .less (.int t.micros)
  | .timestampAfter instants => instants.map fun t => .compare .occurredAt .greater (.int t.micros)
  | .data payloads => payloads.map fun p => .compare .data .equal (.text p.encode)

/-- A test whose value stands at a number in the list of parameters. -/
inductive Term
  | empty (column : Column)
  | compare (column : Column) (how : Comparison) (parameter : Nat)
  deriving DecidableEq, Repr

/-- A clause: each condition holds if one of its terms does, and all conditions have to hold. -/
structure Clause where
  conditions : List (List Term)
  parameters : List Cell
  deriving DecidableEq

/-! ## Numbers for values -/

/-- The terms of tests whose values are numbered from `next`. -/
def termsFrom : Nat → List Test → List Term
  | _, [] => []
  | next, .empty c :: tests => .empty c :: termsFrom next tests
  | next, .compare c how _ :: tests => .compare c how next :: termsFrom (next + 1) tests

/-- The conditions of lists of tests whose values are numbered from `next`. -/
def conditionsFrom : Nat → List (List Test) → List (List Term)
  | _, [] => []
  | next, tests :: more =>
    termsFrom next tests :: conditionsFrom (next + (tests.filterMap Test.value?).length) more

namespace Clause

/-- The clause of filters. -/
def ofFilters (filters : List Filter) : Clause where
  conditions := conditionsFrom 1 (filters.map tests)
  parameters := (filters.flatMap tests).filterMap Test.value?

/-- The number of the next parameter. -/
def nextNumber (c : Clause) : Nat := c.parameters.length + 1

end Clause

/-! ## Text -/

/-- How parameters are written. -/
inductive Dialect
  | sqlite
  | postgres
  deriving DecidableEq, Repr

namespace Dialect

/-- The mark of a parameter. -/
def mark : Dialect → String
  | .sqlite => "?"
  | .postgres => "$"

/-- A parameter by its number. -/
def placeholder (d : Dialect) (n : Nat) : String := d.mark ++ Text.decimal n

end Dialect

/-- The text of a term. -/
def Term.text (d : Dialect) : Term → String
  | .empty c => c.name ++ " IS NULL"
  | .compare c how n => c.name ++ " " ++ how.sign ++ " " ++ d.placeholder n

/-- The text of a condition; without terms it is false. -/
def conditionText (d : Dialect) (terms : List Term) : String :=
  if terms = [] then "1 = 0"
  else "(" ++ Text.joinWith " OR " (terms.map (Term.text d)) ++ ")"

/-- The text of a clause, which is empty without conditions. -/
def Clause.text (d : Dialect) (c : Clause) : String :=
  if c.conditions = [] then ""
  else " WHERE " ++ Text.joinWith " AND " (c.conditions.map (conditionText d))

/-! ## Truth -/

/-- One of the two holds: true if either is, unknown if that depends on something unknown. -/
def either : Option Bool → Option Bool → Option Bool
  | some true, _ => some true
  | _, some true => some true
  | some false, some false => some false
  | _, _ => none

/-- Both hold: false if either is, unknown if that depends on something unknown. -/
def both : Option Bool → Option Bool → Option Bool
  | some false, _ => some false
  | _, some false => some false
  | some true, some true => some true
  | _, _ => none

/-- The parameter of a number; one that was not given is empty. -/
def parameter (parameters : List Cell) (n : Nat) : Cell := parameters.getD (n - 1) .null

/-- The truth of a term. -/
def Term.eval (parameters : List Cell) (row : StoredRow) : Term → Option Bool
  | .empty c => some (row c = .null)
  | .compare c how n => how.eval (row c) (parameter parameters n)

/-- The truth of a condition. -/
def evalCondition (parameters : List Cell) (row : StoredRow) (terms : List Term) : Option Bool :=
  terms.foldr (fun t r => either (t.eval parameters row) r) (some false)

namespace Clause

/-- The truth of a clause. -/
def eval (c : Clause) (row : StoredRow) : Option Bool :=
  c.conditions.foldr (fun terms r => both (evalCondition c.parameters row terms) r) (some true)

/-- Is the clause true for the row? -/
def holds (c : Clause) (row : StoredRow) : Bool := c.eval row = some true

end Clause

end AuditTrail.Sql
