import AuditTrail.Binary64
import AuditTrail.Row
import AuditTrail.Text.Digits

/-!
# Cells

A cell is one value of a table: nothing, a number, a text or bytes.

* `Cell.precedes`: the order of cells for sorting: nothing, numbers, texts, bytes.
* `Cell.equals`, `Cell.less`: comparison with three answers; with an empty cell the answer is
  unknown.
* `StoredRow`: a row as cells, and the typed row that is read from it.
* `Cell.ofNumeral?`: the number that a column of integers keeps for a text. Blanks around it count for
  nothing, and a point and an exponent may stand in it. A number that is a whole one is kept as an
  integer, any other as a real number.
-/

namespace AuditTrail.Sql

/-- One value of a table. -/
inductive Cell
  | null
  | int (n : Int)
  | real (x : Extended64)
  | text (s : String)
  | blob (bytes : List UInt8)
  deriving DecidableEq, Inhabited

namespace Cell

/-- The order of the kinds of cells. -/
def kind : Cell → Nat
  | .null => 0
  | .int _ => 1
  | .real _ => 1
  | .text _ => 2
  | .blob _ => 3

/-- Does the first cell sort before the second? -/
def precedes : Cell → Cell → Bool
  | .int m, .int n => m < n
  | .int m, .real y => y.compareInt m == .gt
  | .real x, .int n => x.compareInt n == .lt
  | .real x, .real y => x.compare y == .lt
  | .text s, .text t => s < t
  | .blob a, .blob b => a.map UInt8.toNat < b.map UInt8.toNat
  | a, b => a.kind < b.kind

/-- Are the cells the same value? -/
def same : Cell → Cell → Bool
  | .int m, .real y => y.compareInt m == .eq
  | .real x, .int n => x.compareInt n == .eq
  | .real x, .real y => x.compare y == .eq
  | a, b => a = b

/-- Are the cells equal? Unknown if one is empty. -/
def equals (a b : Cell) : Option Bool :=
  if a = .null ∨ b = .null then none else some (a.same b)

/-- Is the first cell less than the second? Unknown if one is empty. -/
def less (a b : Cell) : Option Bool :=
  if a = .null ∨ b = .null then none else some (a.precedes b)

/-- The text of a cell, which may be empty. -/
def ofText? : Option String → Cell
  | none => .null
  | some s => .text s

/-- The bytes of a cell. -/
def blob? : Cell → Option (List UInt8)
  | .blob bytes => some bytes
  | _ => none

/-- The integer of a cell. -/
def int? : Cell → Option Int
  | .int n => some n
  | _ => none

/-- The text of a cell that has to hold one. -/
def text? : Cell → Option String
  | .text s => some s
  | _ => none

/-- The text of a cell that may be empty. -/
def optionalText? : Cell → Option (Option String)
  | .null => some none
  | .text s => some (some s)
  | _ => none

end Cell

/-- A row as cells. -/
def StoredRow : Type := Column → Cell

namespace StoredRow

/-- The cells of a row. -/
def ofRow (r : Row) : StoredRow
  | .id => .blob r.id
  | .type => .text r.type
  | .level => .int r.level
  | .occurredAt => .int r.occurredAt
  | .userId => .ofText? r.userId
  | .objectId => .ofText? r.objectId
  | .contentType => .ofText? r.contentType
  | .data => .ofText? r.data

/-- The row of the cells; none if a cell is of the wrong kind. -/
def toRow? (r : StoredRow) : Option Row := do
  return {
    id := ← (r .id).blob?
    type := ← (r .type).text?
    level := ← (r .level).int?
    occurredAt := ← (r .occurredAt).int?
    userId := ← (r .userId).optionalText?
    objectId := ← (r .objectId).optionalText?
    contentType := ← (r .contentType).optionalText?
    data := ← (r .data).optionalText? }

/-- The row with another value in one column. -/
def set (r : StoredRow) (column : Column) (value : Cell) : StoredRow :=
  fun c => if c = column then value else r c

theorem optionalText?_ofText? (s : Option String) :
    (Cell.ofText? s).optionalText? = some s := by
  cases s <;> rfl

theorem toRow?_ofRow (r : Row) : (ofRow r).toRow? = some r := by
  simp [toRow?, ofRow, optionalText?_ofText?, Cell.blob?, Cell.text?, Cell.int?]

end StoredRow

/-! ## Numbers spelt in texts -/

open Text

/-- A decimal as it is spelt. -/
structure Numeral where
  negative : Bool
  whole : List Char
  fraction : Option (List Char)
  exponent : Option Int
  deriving DecidableEq, Repr

namespace Numeral

/-- A blank in front of a number or behind it. -/
def isBlank (c : Char) : Bool := c = ' ' || ('\t' ≤ c && c ≤ '\r')

/-- The text without blanks at its ends. -/
def trim (cs : List Char) : List Char :=
  ((cs.dropWhile isBlank).reverse.dropWhile isBlank).reverse

/-- Whether a minus sign stands in front, and the text behind the sign. -/
def splitSign : List Char → Bool × List Char
  | '+' :: cs => (false, cs)
  | '-' :: cs => (true, cs)
  | cs => (false, cs)

/-- The digits behind a point, if there is one, and what is left. -/
def splitFraction : List Char → Option (List Char) × List Char
  | '.' :: cs => (some (cs.takeWhile Char.isDigit), cs.dropWhile Char.isDigit)
  | cs => (none, cs)

/-- The exponent that is left, if there is one. -/
def readExponent? : List Char → Option (Option Int)
  | [] => some none
  | c :: cs =>
    let (negative, digits) := splitSign cs
    if (c = 'e' ∨ c = 'E') ∧ digits ≠ [] ∧ digits.all Char.isDigit then
      some (some (if negative then -(ofDigits digits : Int) else ofDigits digits))
    else none

/-- The decimal that a text spells. -/
def read? (s : String) : Option Numeral :=
  let (negative, cs) := splitSign (trim s.toList)
  let whole := cs.takeWhile Char.isDigit
  let (fraction, rest) := splitFraction (cs.dropWhile Char.isDigit)
  if whole = [] ∧ fraction.getD [] = [] then none
  else (readExponent? rest).map fun exponent => ⟨negative, whole, fraction, exponent⟩

/-- The integer of a decimal without point and exponent. -/
def toInt? (n : Numeral) : Option Int :=
  if n.fraction = none ∧ n.exponent = none then
    some (if n.negative then -(ofDigits n.whole : Int) else ofDigits n.whole)
  else none

/-- The real number of a decimal. -/
def toReal (n : Numeral) : Extended64 :=
  let fraction := n.fraction.getD []
  .ofDecimal n.negative (ofDigits (n.whole ++ fraction)) (n.exponent.getD 0 - fraction.length)

/-- The number as it is kept: an integer of 64 bits, or else a real number, which is kept as an
integer if it is one that lies well inside 64 bits. -/
def toCell (n : Numeral) : Cell :=
  let kept (x : Extended64) : Cell :=
    match x.toInt? with
    | some i => if i.natAbs ≤ maxSigned then .int i else .real x
    | none => .real x
  match n.toInt? with
  | some i => if -(maxSigned : Int) - 1 ≤ i ∧ i ≤ maxSigned then .int i else kept n.toReal
  | none => kept n.toReal

end Numeral

/-- The number that a text spells, as it is kept. -/
def Cell.ofNumeral? (s : String) : Option Cell := (Numeral.read? s).map Numeral.toCell

end AuditTrail.Sql
