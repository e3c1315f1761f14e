import AuditTrail.Log.Batch
import AuditTrail.Sql.Database

/-!
# Queries

What is asked of a table.

* `Query`: a page of the rows for which a clause is true, or how many there are.
* `Query.text`, `Query.parameters`: the statement, and what is bound to its placeholders.
* `Query.Fits`: the statement can be prepared. A database takes expressions up to a depth and
  parameters up to a number. That it takes no text of more than a billion bytes either is left out.
* `Query.rows`: the rows that the statement reads.
-/

namespace AuditTrail.Sql

/-- A page size or an offset as an integer of 64 bits: the greatest stands for all beyond. -/
def pageNumber (n : Nat) : Nat := min n Text.maxSigned

/-- The depth of two expressions that are joined: one above the deeper of the two. -/
def joint (d e : Nat) : Nat := max d e + 1

/-- The depth of expressions that are joined from left to right. -/
def joinedDepth : List Nat → Nat
  | [] => 0
  | d :: ds => ds.foldl joint d

/-- The depth of a condition. A test, or the `1 = 0` of a condition without terms, is one above its
sides. -/
def conditionDepth (terms : List Term) : Nat :=
  if terms = [] then 2 else joinedDepth (terms.map fun _ => 2)

/-- The depth of a clause. Brackets do not count. -/
def Clause.depth (c : Clause) : Nat := joinedDepth (c.conditions.map conditionDepth)

/-- The greatest depth of an expression that can be prepared. -/
def maxDepth : Nat := 1000

/-- The greatest number of a parameter that can be prepared. -/
def maxParameters : Nat := 32766

/-- What is asked of a table: a page of the rows for which a clause is true, the newest first, or
how many such rows there are. -/
inductive Query
  | page (clause : Clause) (amount offset : Nat)
  | count (clause : Clause)

namespace Query

/-- The clause that selects rows. -/
def clause : Query → Clause
  | .page c _ _ => c
  | .count c => c

/-- The statement. The size and the offset of a page are the last two parameters. -/
def text (d : Dialect) (table : String) : Query → String
  | .page c _ _ =>
    "SELECT " ++ columnList ++ " FROM " ++ table ++ c.text d ++ " " ++ orderText ++
      " LIMIT " ++ d.placeholder c.nextNumber ++ " OFFSET " ++ d.placeholder (c.nextNumber + 1)
  | .count c => "SELECT COUNT(*) FROM " ++ table ++ c.text d

/-- What is bound to the placeholders, in the order of their numbers. -/
def parameters : Query → List Cell
  | .page c amount offset => c.parameters ++ [.int (pageNumber amount), .int (pageNumber offset)]
  | .count c => c.parameters

/-- The statement can be prepared. -/
def Fits (q : Query) : Prop := q.clause.depth ≤ maxDepth ∧ q.parameters.length ≤ maxParameters

instance (q : Query) : Decidable q.Fits := inferInstanceAs (Decidable (_ ∧ _))

/-- The integer of a parameter as a number of rows. -/
def rowsOf (c : Cell) : Nat := (c.int?.getD 0).toNat

/-- The rows of a table that the statement reads. A page is cut to the two parameters behind those
of the clause. -/
def rows (t : Table) (q : Query) : List StoredRow :=
  match q with
  | .page c _ _ =>
    Log.page (rowsOf (parameter q.parameters c.nextNumber))
      (rowsOf (parameter q.parameters (c.nextNumber + 1)))
      (Database.selected t ⟨c.conditions, q.parameters⟩)
  | .count c => Database.filtered t ⟨c.conditions, q.parameters⟩

end Query

end AuditTrail.Sql
