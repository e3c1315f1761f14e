import AuditTrail.Binary64
import AuditTrail.Logging.Pattern
import AuditTrail.Notice
import AuditTrail.Text.Blank
import AuditTrail.Text.Digits

/-!
# What a piece of work must tell

* `Wanted`: a value that is asked for; a text is asked for by a pattern.
* `FieldTest`: the name of what is told, and the value that it must have, if any.
* `FieldTest.parse?`, `FieldTest.text`: its spelling, a name or `name=value`.
-/

namespace AuditTrail

open Text

/-- A value that is asked for. -/
inductive Wanted
  | truth (b : Bool)
  | float (x : Extended64)
  | notANumber
  | integer (n : Int)
  | pattern (spelling : String) (p : Pattern)
  deriving DecidableEq

namespace Wanted

/-- The digits behind a point, if there is one. -/
def splitFraction : List Char → Option (List Char × List Char)
  | '.' :: rest => some (rest.takeWhile Char.isDigit, rest.dropWhile Char.isDigit)
  | rest => some ([], rest)

/-- The exponent behind its letter, if there is one. -/
def readExponent : List Char → Option Int
  | [] => some 0
  | c :: rest =>
    if c ≠ 'e' ∧ c ≠ 'E' then none
    else
      let (negative, digits) :=
        match rest with
        | '+' :: ds => (false, ds)
        | '-' :: ds => (true, ds)
        | ds => (false, ds)
      if digits = [] ∨ ¬ digits.all Char.isDigit then none
      else some (if negative then -(ofDigits digits : Int) else ofDigits digits)

/-- The number behind its sign. -/
def readMagnitude (negative : Bool) (cs : List Char) : Option Wanted :=
  let small := cs.map Char.toLower
  if small = "inf".toList ∨ small = "infinity".toList then some (.float (.infinite negative))
  else if small = "nan".toList then some .notANumber
  else do
    let whole := cs.takeWhile Char.isDigit
    let (fraction, rest) ← splitFraction (cs.dropWhile Char.isDigit)
    let exponent ← readExponent rest
    if whole = [] ∧ fraction = [] then none
    else some (.float (.ofDecimal negative (ofDigits (whole ++ fraction))
      (exponent - fraction.length)))

/-- The number of a text. -/
def readFloat : List Char → Option Wanted
  | '+' :: cs => readMagnitude false cs
  | '-' :: cs => readMagnitude true cs
  | cs => readMagnitude false cs

/-- The integer of a text, of 64 bits with or without a sign. -/
def readWhole (cs : List Char) : Option Int :=
  match readNatural maxUnsigned cs with
  | .ok n => some n
  | .error _ => (readInteger cs).toOption

/-- The value of a text: a truth value, an integer, a number, or a pattern. -/
def parse? (s : String) : Option Wanted :=
  if s = "true" then some (.truth true)
  else if s = "false" then some (.truth false)
  else
    match readWhole s.toList with
    | some n => some (.integer n)
    | none => readFloat s.toList <|> (Pattern.parse? s).map (.pattern s)

/-- The text of a value. -/
def text : Wanted → String
  | .truth b => if b then "true" else "false"
  | .float x => String.ofList x.chars
  | .notANumber => "NaN"
  | .integer n => decimalInt n
  | .pattern s _ => s

/-- Is this value what is told? -/
def accepts : Wanted → Told → Bool
  | .integer n, .number m => n = m
  | .pattern _ p, .text s => p.accepts s
  | _, _ => false

/-- The kinds of values in order. -/
def rank : Wanted → Nat
  | .truth _ => 0
  | .float _ => 1
  | .notANumber => 2
  | .integer n => if 0 ≤ n then 3 else 4
  | .pattern _ _ => 5

/-- The order of values: by kind, then by size or spelling. -/
def compare (a b : Wanted) : Ordering :=
  (Ord.compare a.rank b.rank).then
    (match a, b with
    | .truth x, .truth y => Ord.compare x y
    | .float x, .float y => x.compare y
    | .integer x, .integer y => Ord.compare x y
    | .pattern x _, .pattern y _ => Ord.compare x y
    | _, _ => .eq)

end Wanted

/-- The order of what may be missing: what is missing comes first. -/
def compareOption {α : Type} (compare : α → α → Ordering) : Option α → Option α → Ordering
  | none, none => .eq
  | none, some _ => .lt
  | some _, none => .gt
  | some a, some b => compare a b

/-- The name of what is told, and the value that it must have, if any. -/
structure FieldTest where
  name : String
  wanted : Option Wanted
  deriving DecidableEq

namespace FieldTest

/-- The test of a text: a name, or a name and a value with `=` between them. A second `=` ends the
value. -/
def parse? (s : String) : Option FieldTest :=
  match splitAll '=' s.toList with
  | name :: value :: _ => do
    return ⟨String.ofList name, some (← Wanted.parse? (String.ofList value))⟩
  | _ => some ⟨s, none⟩

/-- The text of a test. -/
def text (t : FieldTest) : String :=
  match t.wanted with
  | some w => t.name ++ "=" ++ w.text
  | none => t.name

/-- Does the work tell the wanted value? -/
def passes (t : FieldTest) (told : List (String × Told)) : Bool :=
  match t.wanted, told.lookup t.name with
  | some w, some v => w.accepts v
  | none, _ => true
  | _, none => false

/-- The order of tests: those with a value come last. -/
def compare (a b : FieldTest) : Ordering :=
  ((Ord.compare a.wanted.isSome b.wanted.isSome).then (Ord.compare a.name b.name)).then
    (compareOption Wanted.compare a.wanted b.wanted)

end FieldTest

end AuditTrail
