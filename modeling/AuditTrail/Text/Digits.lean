import AuditTrail.Text.Blank

/-!
# Digits and numerals

* `digit?`, `hexDigit?`: the value of one digit; `hexDigitOf` writes one.
* `decimal`, `decimalInt`: a number in decimal digits; `paddedChars` with a least width.
* `readNatural`: a decimal numeral up to a bound; `readInteger`: a signed one of 64 bits. The fault
  furthest to the left is reported, and `NumeralFault.message` words it.
-/

namespace AuditTrail.Text

-- Powers of whole numbers are meant as the core library has them.
attribute [local instance (high)] instPowNat

/-- The value of a decimal digit. -/
def digit? (c : Char) : Option Nat :=
  if c.isDigit then some (c.toNat - '0'.toNat) else none

/-- The value of a hexadecimal digit, in either case. -/
def hexDigit? (c : Char) : Option Nat :=
  if c.isDigit then some (c.toNat - '0'.toNat)
  else if 'a' ≤ c ∧ c ≤ 'f' then some (c.toNat - 'a'.toNat + 10)
  else if 'A' ≤ c ∧ c ≤ 'F' then some (c.toNat - 'A'.toNat + 10)
  else none

/-- The lower case hexadecimal digit of a number below sixteen. -/
def hexDigitOf (n : Nat) : Char := Nat.digitChar n

/-- The number that decimal digits stand for. -/
def ofDigits (cs : List Char) : Nat := Nat.ofDigitChars 10 cs 0

/-- A natural number in decimal digits. -/
def decimalChars (n : Nat) : List Char := Nat.toDigits 10 n

/-- A natural number in decimal digits, with zeros in front up to the width. -/
def paddedChars (width n : Nat) : List Char :=
  List.replicate (width - (decimalChars n).length) '0' ++ decimalChars n

/-- A natural number in decimal digits. -/
def decimal (n : Nat) : String := String.ofList (decimalChars n)

/-- An integer in decimal digits, with a sign if it is negative. -/
def decimalIntChars (n : Int) : List Char :=
  if n < 0 then '-' :: decimalChars n.natAbs else decimalChars n.natAbs

/-- An integer in decimal digits, with a sign if it is negative. -/
def decimalInt (n : Int) : String := String.ofList (decimalIntChars n)

/-- Why a text is no numeral. -/
inductive NumeralFault
  | empty
  | invalidDigit
  | tooLarge
  | tooSmall
  deriving DecidableEq, Repr

/-- The wording of a fault. -/
def NumeralFault.message : NumeralFault → String
  | .empty => "cannot parse integer from empty string"
  | .invalidDigit => "invalid digit found in string"
  | .tooLarge => "number too large to fit in target type"
  | .tooSmall => "number too small to fit in target type"

/-- The number that the digits continue, as long as it stays at most `bound`. -/
def readDigits (bound : Nat) : Nat → List Char → Except NumeralFault Nat
  | n, [] => .ok n
  | n, c :: cs =>
    match digit? c with
    | none => .error .invalidDigit
    | some d => if 10 * n + d ≤ bound then readDigits bound (10 * n + d) cs else .error .tooLarge

/-- A natural number of at most `bound`, with or without a plus sign. -/
def readNatural (bound : Nat) : List Char → Except NumeralFault Nat
  | [] => .error .empty
  | ['+'] => .error .invalidDigit
  | '+' :: cs => readDigits bound 0 cs
  | cs => readDigits bound 0 cs

/-- The largest number of 64 bits. -/
def maxUnsigned : Nat := 2 ^ (64 : Nat) - 1

/-- The largest signed number of 64 bits. -/
def maxSigned : Nat := 2 ^ (63 : Nat) - 1

/-- A signed integer of 64 bits. -/
def readInteger : List Char → Except NumeralFault Int
  | ['-'] => .error .invalidDigit
  | '-' :: cs =>
    match readDigits (maxSigned + 1) 0 cs with
    | .ok n => .ok (-(n : Int))
    | .error .tooLarge => .error .tooSmall
    | .error e => .error e
  | cs => (readNatural maxSigned cs).map Int.ofNat

end AuditTrail.Text
