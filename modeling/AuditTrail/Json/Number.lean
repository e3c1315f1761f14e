import AuditTrail.Binary64
import AuditTrail.Text.Digits

/-!
# Numbers in JSON

* `NumberForm`: a number as it is spelt: a sign, digits, a fraction, an exponent.
* `NumberForm.chars`: its characters; an exponent always has a sign.
* `NumberForm.value?`: the number that is meant. Digits alone are an integer as long as 64 bits
  hold it. Everything else is a binary number: the digits that 64 bits hold are kept, rounded, and
  then multiplied or divided by one power of ten, with one more rounding.
* `NumberForm.ofInt`, `NumberForm.ofBinary`: how a number is spelt: with the fewest digits that
  read back, in positional form while the first digit stands for `10 ^ -5` to `10 ^ 15`.
-/

namespace AuditTrail

open Text

-- Powers of whole numbers are meant as the core library has them.
attribute [local instance (high)] instPowNat

/-- A number as it is spelt; the digits are characters. -/
structure NumberForm where
  negative : Bool
  whole : List Char
  fraction : Option (List Char)
  exponent : Option (Bool × List Char)
  deriving DecidableEq, Repr

/-- An integer or a binary number. -/
inductive Number
  | int (n : Int)
  | float (x : Binary64)
  deriving DecidableEq

namespace NumberForm

/-- The characters of a number; an exponent always has a sign. -/
def chars (f : NumberForm) : List Char :=
  (if f.negative then ['-'] else []) ++ f.whole ++
    (match f.fraction with
      | some ds => '.' :: ds
      | none => []) ++
    match f.exponent with
    | some (negative, ds) => 'e' :: (if negative then '-' else '+') :: ds
    | none => []

/-! ## Reading -/

/-- The digits taken on as long as 64 bits hold the number, and the digits that are left. -/
def takeSignificant : Nat → List Char → Nat × List Char
  | n, [] => (n, [])
  | n, c :: cs =>
    let next := 10 * n + (c.toNat - '0'.toNat)
    if next ≤ maxUnsigned then takeSignificant next cs else (n, c :: cs)

/-- The power of ten as a binary number. -/
def powTen? (k : Nat) : Option Binary64 := Binary64.ofNat? (10 ^ k)

/-- The greatest exponent of a power of ten. -/
def maxPower : Nat := 308

/-- The number divided by the greatest power so many times; zero stays zero. -/
def divideRepeatedly : Nat → Binary64 → Option Binary64
  | 0, x => some x
  | steps + 1, x =>
    if x.isZero then some x
    else do divideRepeatedly steps (← x.div? (← powTen? maxPower))

/-- The number divided by `10 ^ k`, in steps of the greatest power. -/
def scaleDown (x : Binary64) (k : Nat) : Option Binary64 := do
  let steps := (k - 1) / maxPower
  let y ← divideRepeatedly steps x
  y.div? (← powTen? (k - steps * maxPower))

/-- The number times `10 ^ exponent`; none if that is too large. -/
def scale? (x : Binary64) (exponent : Int) : Option Binary64 :=
  if exponent < 0 then scaleDown x exponent.natAbs
  else if exponent.toNat ≤ maxPower then do x.mul? (← powTen? exponent.toNat)
  else if x.isZero then some x
  else none

/-- The greatest exponent that is still computed with. -/
def maxExponent : Nat := 2 ^ (31 : Nat) - 1

/-- The binary number of a spelling; none if it is too large. -/
def toBinary? (f : NumberForm) : Option Binary64 := do
  let (n, dropped) := takeSignificant 0 f.whole
  let fraction := f.fraction.getD []
  let (n, left) := takeSignificant n fraction
  let start : Int := (dropped.length : Int) - (fraction.length - left.length : Nat)
  let x ← Binary64.ofNat? n
  let y ←
    match f.exponent with
    | none => scale? x start
    | some (negative, ds) =>
      let e := ofDigits ds
      if maxExponent < e then
        if n ≠ 0 ∧ ¬ negative then none else some (Binary64.zero false)
      else scale? x (start + if negative then -(e : Int) else e)
  return y.withSign f.negative

/-- The number that is meant; none if it is too large. -/
def value? (f : NumberForm) : Option Number :=
  let n := ofDigits f.whole
  if f.fraction = none ∧ f.exponent = none ∧ ¬ f.negative ∧ n ≤ maxUnsigned then some (.int n)
  else if f.fraction = none ∧ f.exponent = none ∧ f.negative ∧ n ≠ 0 ∧ n ≤ maxSigned + 1 then
    some (.int (-n))
  else f.toBinary?.map .float

/-! ## Writing -/

/-- The spelling of an integer. -/
def ofInt (n : Int) : NumberForm := ⟨n < 0, decimalChars n.natAbs, none, none⟩

/-- The spelling of a decimal number: positional while the first digit stands for `10 ^ -5` to
`10 ^ 15`, with an exponent otherwise. -/
def ofDecimal (negative : Bool) (d : Binary64.Decimal) : NumberForm :=
  let digits := decimalChars d.digits
  let lead : Int := digits.length + d.exponent - 1
  if lead < -5 ∨ 15 < lead then
    ⟨negative, digits.take 1, if digits.length = 1 then none else some (digits.drop 1),
      some (lead < 0, decimalChars lead.natAbs)⟩
  else if 0 ≤ d.exponent then
    ⟨negative, digits ++ List.replicate d.exponent.toNat '0', some ['0'], none⟩
  else if 0 ≤ lead then
    ⟨negative, digits.take (lead.toNat + 1), some (digits.drop (lead.toNat + 1)), none⟩
  else ⟨negative, ['0'], some (List.replicate (lead.natAbs - 1) '0' ++ digits), none⟩

/-- The spelling of a binary number. -/
def ofBinary (x : Binary64) : NumberForm := ofDecimal x.negative x.shortest

end NumberForm

end AuditTrail
