import AuditTrail.Instant.Basic
import AuditTrail.Toml.Token

/-!
# Scalars without quotes

* `isMoment`: dates, times of a day, and both together with or without an offset.
* `isFloat`: numbers with a fraction or an exponent.
* `integer?`: integers to the bases 2, 8, 10 and 16, of any size.
* `readScalar`: a scalar in front of a text. Only integers and truth values keep their meaning, since
  no setting takes another.
-/

namespace AuditTrail.Toml

open Text

/-- A scalar without quotes. -/
inductive Scalar
  | integer (n : Int)
  | boolean (b : Bool)
  | other (spelling : List Char)
  deriving DecidableEq, Repr

/-! ## Dates and times -/

/-- Two digits for a number between two bounds, and the text behind them. -/
def pair? (least most : Nat) : List Char → Option (Nat × List Char)
  | a :: b :: rest => do
    let n := 10 * (← digit? a) + (← digit? b)
    if least ≤ n ∧ n ≤ most then some (n, rest) else none
  | _ => none

/-- The text behind the character. -/
def after? (c : Char) : List Char → Option (List Char)
  | [] => none
  | d :: rest => if d = c then some rest else none

/-- The text behind a date of the calendar. -/
def afterDate? (cs : List Char) : Option (List Char) := do
  let (century, rest) ← pair? 0 99 cs
  let (year, rest) ← pair? 0 99 rest
  let (month, rest) ← pair? 1 12 (← after? '-' rest)
  let (day, rest) ← pair? 1 31 (← after? '-' rest)
  if Date.IsValid ⟨100 * century + year, month, day⟩ then some rest else none

/-- The text behind the seconds of a time and their fraction, which may both be left out. -/
def afterSeconds? : List Char → Option (List Char)
  | ':' :: rest => do
    match ← pair? 0 60 rest with
    | (_, '.' :: rest) =>
      if (rest.takeWhile Char.isDigit).isEmpty then none else some (rest.dropWhile Char.isDigit)
    | (_, rest) => some rest
  | rest => some rest

/-- The text behind a time of the day. -/
def afterTime? (cs : List Char) : Option (List Char) := do
  let (_, rest) ← pair? 0 23 cs
  let (_, rest) ← pair? 0 59 (← after? ':' rest)
  afterSeconds? rest

/-- Is this nothing, or an offset of less than a day? -/
def isOffset : List Char → Bool
  | [] => true
  | c :: rest =>
    if c = 'Z' ∨ c = 'z' then rest.isEmpty
    else if c = '+' ∨ c = '-' then
      (do
        let (_, rest) ← pair? 0 23 rest
        let (_, rest) ← pair? 0 59 (← after? ':' rest)
        return rest.isEmpty : Option Bool) == some true
    else false

/-- Is this a date, a time of the day, or both with one letter or blank between them? -/
def isMoment (cs : List Char) : Bool :=
  match afterDate? cs with
  | some [] => true
  | some (c :: rest) => (c = 'T' || c = 't' || c = ' ') && (afterTime? rest).any isOffset
  | none => afterTime? cs = some []

/-! ## Numbers -/

/-- Does each underscore stand between two digits? `before` is the character in front. -/
def underscoresFit (isDigit : Char → Bool) (before : Char) : List Char → Bool
  | [] => true
  | c :: cs =>
    (c != '_' || (isDigit before && cs.head?.any isDigit)) && underscoresFit isDigit c cs

/-- Is this a digit or an underscore? -/
def isNumeral (c : Char) : Bool := c.isDigit || c = '_'

/-- The text behind digits, of which there is at least one. -/
def afterNumeral? (cs : List Char) : Option (List Char) :=
  if (cs.takeWhile isNumeral).any Char.isDigit then some (cs.dropWhile isNumeral) else none

/-- The text behind a fraction, if there is one. -/
def afterFraction? : List Char → Option (List Char)
  | '.' :: rest => afterNumeral? rest
  | rest => some rest

/-- The text behind an exponent, if there is one. -/
def afterExponent? : List Char → Option (List Char)
  | [] => some []
  | c :: rest =>
    if c = 'e' ∨ c = 'E' then
      match rest with
      | '+' :: rest => afterNumeral? rest
      | '-' :: rest => afterNumeral? rest
      | rest => afterNumeral? rest
    else some (c :: rest)

/-- Is the first of several digits a zero? -/
def hasLeadingZero (cs : List Char) : Bool :=
  cs.head? = some '0' && 1 < ((cs.takeWhile isNumeral).filter Char.isDigit).length

/-- Is this, behind a sign, a number that may have a fraction and an exponent? -/
def isFloat (cs : List Char) : Bool :=
  !hasLeadingZero cs &&
    ((afterNumeral? cs).bind fun rest => (afterFraction? rest).bind afterExponent?) == some []

/-- The number that digits to a base spell. -/
def ofBase? (base : Nat) : List Char → Option Nat
  | [] => none
  | cs => cs.foldlM (fun n c => do
      let d ← hexDigit? c
      if d < base then some (base * n + d) else none) 0

/-- The integer that the digits spell, or the digits alone if they spell none. -/
def integerOr (base : Nat) (sign : Int) (cs : List Char) : Scalar :=
  match ofBase? base (cs.filter (· ≠ '_')) with
  | some n => .integer (sign * n)
  | none => .other cs

/-- An integer to a base that is not ten, behind the mark of the base. -/
def ofRadix? (base : Nat) (cs : List Char) : Option Scalar :=
  if cs.all (fun c => c = '_' || (hexDigit? c).any (· < base)) &&
      underscoresFit (fun c => (hexDigit? c).isSome) '_' cs then
    some (integerOr base 1 cs)
  else none

/-- The decimal number behind a sign. An underscore may stand right behind a sign. -/
def ofDecimal? (isSigned : Bool) (sign : Int) (cs : List Char) : Option Scalar :=
  let before := if isSigned then '0' else '_'
  let rest := cs.dropWhile Char.isDigit
  if rest.any fun c => c = '.' || c = 'e' || c = 'E' then
    if isFloat cs && underscoresFit Char.isDigit before cs then some (.other cs) else none
  else if cs = [] ∨ (cs.head? = some '0' ∧ cs.length ≠ 1) then none
  else if rest.head?.all (· = '_') && underscoresFit (fun c => (hexDigit? c).isSome) before cs then
    some (integerOr 10 sign cs)
  else none

/-- The scalar behind a sign. -/
def ofSigned? (sign : Int) (cs : List Char) : Option Scalar :=
  if cs = "inf".toList ∨ cs = "nan".toList then some (.other cs) else ofDecimal? true sign cs

/-- The scalar that the characters spell. -/
def scalarOf? (cs : List Char) : Option Scalar :=
  if cs = "true".toList then some (.boolean true)
  else if cs = "false".toList then some (.boolean false)
  else if cs = "inf".toList ∨ cs = "nan".toList then some (.other cs)
  else if isMoment cs then some (.other cs)
  else
    match cs with
    | '0' :: 'x' :: rest => ofRadix? 16 rest
    | '0' :: 'o' :: rest => ofRadix? 8 rest
    | '0' :: 'b' :: rest => ofRadix? 2 rest
    | '+' :: rest => ofSigned? 1 rest
    | '-' :: rest => ofSigned? (-1) rest
    | cs => ofDecimal? false 1 cs

/-! ## In front of a text -/

/-- A character of a scalar without quotes. -/
def isScalarChar (c : Char) : Bool := isWordChar c || c = '+' || c = '.' || c = ':'

/-- The characters of a scalar and the text behind it: a date and a time may have one blank between
them. -/
def scalarWord (cs : List Char) : List Char × List Char :=
  let word := cs.takeWhile isScalarChar
  match afterDate? word, cs.dropWhile isScalarChar with
  | some [], ' ' :: c :: rest =>
    if c.isDigit then
      (word ++ ' ' :: (c :: rest).takeWhile isScalarChar, (c :: rest).dropWhile isScalarChar)
    else (word, ' ' :: c :: rest)
  | _, rest => (word, rest)

/-- A scalar and the text behind it. -/
def readScalar (cs : List Char) : Option (Scalar × List Char) := do
  let (word, rest) := scalarWord cs
  return (← scalarOf? word, rest)

end AuditTrail.Toml
