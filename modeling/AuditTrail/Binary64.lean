/-!
# Binary floating point numbers

Finite numbers of 53 significant bits, exactly as integers: a sign, a mantissa and a power of two.
Zero has a sign too.

* `Binary64.ofRatio?`: the number nearest to a quotient of naturals, to the even one of two
  neighbours at the same distance; none if it would be infinite.
* `Binary64.mul?`, `Binary64.div?`: the rounded product and quotient.
* `Binary64.same`: equality as numbers, for which the two zeros are one.
* `Binary64.shortest`: a decimal reads back to a number when it lies in the interval of the reals
  that round to the number (`Binary64.interval`); this is the one of the fewest digits in there, of
  several the nearest. Everything is compared in whole units of a quarter of the last bit.
* `Extended64`: a binary number or one of the two infinities. `Extended64.ofDecimal` is the one
  nearest to a decimal of any size, `Extended64.compare` their order, in which the two zeros are
  one, `Extended64.toInt?` the integer that a number is, and `Extended64.chars` the fewest digits
  that read back, in positional form.
-/

namespace AuditTrail

-- Powers of whole numbers are meant as the core library has them.
attribute [local instance (high)] instPowNat

/-- A finite number `± mantissa * 2 ^ exponent` with the least exponent that leaves the mantissa
below `2 ^ 53`. -/
structure Binary64 where
  negative : Bool
  mantissa : Nat
  exponent : Int
  mantissa_lt : mantissa < 2 ^ (53 : Nat)
  le_exponent : -1074 ≤ exponent
  exponent_le : exponent ≤ 971
  normal : 2 ^ (52 : Nat) ≤ mantissa ∨ exponent = -1074
  deriving DecidableEq

namespace Binary64

/-- Zero with a sign. -/
def zero (negative : Bool) : Binary64 :=
  ⟨negative, 0, -1074, by decide, by decide, by decide, .inr rfl⟩

instance : Inhabited Binary64 := ⟨zero false⟩

/-- The number of these parts, if they are the parts of one. -/
def ofParts? (negative : Bool) (mantissa : Nat) (exponent : Int) : Option Binary64 :=
  if h : mantissa < 2 ^ (53 : Nat) ∧ -1074 ≤ exponent ∧ exponent ≤ 971 ∧
      (2 ^ (52 : Nat) ≤ mantissa ∨ exponent = -1074) then
    some ⟨negative, mantissa, exponent, h.1, h.2.1, h.2.2.1, h.2.2.2⟩
  else none

/-- Is it one of the two zeros? -/
def isZero (x : Binary64) : Bool := x.mantissa = 0

/-- The number with the given sign. -/
def withSign (x : Binary64) (negative : Bool) : Binary64 := { x with negative }

/-- Equal as numbers. -/
def same (x y : Binary64) : Bool := x = y || (x.isZero && y.isZero)

/-! ## Rounding -/

/-- The natural number nearest to `n / d`; of two the even one. -/
def roundDiv (n d : Nat) : Nat :=
  let q := n / d
  let r := n % d
  if 2 * r < d ∨ (2 * r = d ∧ q % 2 = 0) then q else q + 1

/-- The quotient `n / d` in units of `2 ^ exponent`, as a quotient of naturals. -/
def inUnits (n d : Nat) (exponent : Int) : Nat × Nat :=
  (n * 2 ^ (-exponent).toNat, d * 2 ^ exponent.toNat)

/-- The number nearest to `n / d`; none if it is beyond the largest one. -/
def ofRatio? (negative : Bool) (n d : Nat) : Option Binary64 :=
  if n = 0 then some (zero negative)
  else
    let guess : Int := max (-1074) ((n.log2 : Int) - d.log2 - 53)
    let (n₀, d₀) := inUnits n d guess
    let exponent := if n₀ / d₀ < 2 ^ (53 : Nat) then guess else guess + 1
    let (n₁, d₁) := inUnits n d exponent
    let mantissa := roundDiv n₁ d₁
    if mantissa = 2 ^ (53 : Nat) then ofParts? negative (2 ^ (52 : Nat)) (exponent + 1)
    else ofParts? negative mantissa exponent

/-- The magnitude as a quotient of naturals. -/
def ratio (x : Binary64) : Nat × Nat :=
  (x.mantissa * 2 ^ x.exponent.toNat, 2 ^ (-x.exponent).toNat)

/-- The number nearest to a natural number. -/
def ofNat? (n : Nat) : Option Binary64 := ofRatio? false n 1

/-- The rounded product. -/
def mul? (x y : Binary64) : Option Binary64 :=
  ofRatio? (x.negative != y.negative) (x.ratio.1 * y.ratio.1) (x.ratio.2 * y.ratio.2)

/-- The rounded quotient; `y` is not zero. -/
def div? (x y : Binary64) : Option Binary64 :=
  ofRatio? (x.negative != y.negative) (x.ratio.1 * y.ratio.2) (x.ratio.2 * y.ratio.1)

theorem same_refl (x : Binary64) : x.same x = true := by simp [same]

end Binary64

/-! ## The fewest digits that read back -/

namespace Binary64

/-- A decimal `digits * 10 ^ exponent`. -/
structure Decimal where
  digits : Nat
  exponent : Int
  deriving DecidableEq, Repr

/-- A point and the interval around it, as quotients by one natural number. -/
structure Interval where
  lower : Nat
  point : Nat
  upper : Nat
  unit : Nat
  closed : Bool

/-- The reals that round to the magnitude of `x`. Below a power of two the gap is narrower; the
ends belong to the interval when the mantissa is even. -/
def interval (x : Binary64) : Interval :=
  let scale := 2 ^ x.exponent.toNat
  let below := if x.mantissa = 2 ^ (52 : Nat) ∧ x.exponent ≠ -1074 then 1 else 2
  ⟨(4 * x.mantissa - below) * scale, 4 * x.mantissa * scale, (4 * x.mantissa + 2) * scale,
    4 * 2 ^ (-x.exponent).toNat, x.mantissa % 2 = 0⟩

/-- Does `c * 10 ^ exponent` lie in the interval? -/
def Interval.holds (i : Interval) (c : Nat) (exponent : Int) : Bool :=
  let value := c * 10 ^ exponent.toNat * i.unit
  let scale := 10 ^ (-exponent).toNat
  if i.closed then i.lower * scale ≤ value && value ≤ i.upper * scale
  else i.lower * scale < value && value < i.upper * scale

/-- The better of the two neighbours of the point on the grid of `10 ^ exponent`, if one of them
lies in the interval: the nearer one, of two at the same distance the even one. -/
def Interval.onGrid (i : Interval) (exponent : Int) : Option Nat :=
  let scale := 10 ^ (-exponent).toNat
  let step := 10 ^ exponent.toNat * i.unit
  let low := i.point * scale / step
  let twice := 2 * (i.point * scale)
  let middle := (2 * low + 1) * step
  match i.holds low exponent, i.holds (low + 1) exponent with
  | true, true =>
    if twice < middle ∨ (twice = middle ∧ low % 2 = 0) then some low else some (low + 1)
  | true, false => some low
  | false, true => some (low + 1)
  | false, false => none

/-- The exponent of the first digit of `n / d`: the greatest `k` with `10 ^ k ≤ n / d`. -/
def leadingExponent (n d : Nat) : Int :=
  if d ≤ n then ((Nat.toDigits 10 (n / d)).length : Int) - 1
  else
    -- enough zeros are put behind `n` for a whole part
    let zeros := (Nat.toDigits 10 d).length + 1
    ((Nat.toDigits 10 (n * 10 ^ zeros / d)).length : Int) - 1 - zeros

/-- The decimal without the zeros at its end; `fuel` bounds their number. -/
def Decimal.strip : Nat → Decimal → Decimal
  | 0, d => d
  | fuel + 1, d =>
    if d.digits ≠ 0 ∧ d.digits % 10 = 0 then strip fuel ⟨d.digits / 10, d.exponent + 1⟩ else d

/-- The first grid with a hit, from the coarsest grid on; seventeen digits always suffice. -/
def Interval.search (i : Interval) (leading : Int) : List Nat → Decimal
  | [] => ⟨0, 0⟩
  | count :: more =>
    let exponent := leading + 1 - count
    match i.onGrid exponent with
    | some c => Decimal.strip 20 ⟨c, exponent⟩
    | none => i.search leading more

/-- The decimal of the fewest digits that reads back to the magnitude of `x`. -/
def shortest (x : Binary64) : Decimal :=
  if x.mantissa = 0 then ⟨0, 0⟩
  else
    let i := x.interval
    i.search (leadingExponent i.point i.unit) ((List.range 17).map (· + 1))

end Binary64

/-! ## Numbers and infinities -/

/-- A number or one of the two infinities. -/
inductive Extended64
  | finite (x : Binary64)
  | infinite (negative : Bool)
  deriving DecidableEq

namespace Extended64

instance : Inhabited Extended64 := ⟨.finite (.zero false)⟩

/-- Powers of ten above this one are beyond every number, and below its inverse round to zero. -/
def maxPower : Int := 400

/-- The number nearest to `± digits * 10 ^ exponent`. -/
def ofDecimal (negative : Bool) (digits : Nat) (exponent : Int) : Extended64 :=
  let lead : Int := (Nat.toDigits 10 digits).length + exponent
  if digits = 0 ∨ lead < -maxPower then .finite (.zero negative)
  else if maxPower < lead then .infinite negative
  else
    match Binary64.ofRatio? negative (digits * 10 ^ exponent.toNat) (10 ^ (-exponent).toNat) with
    | some x => .finite x
    | none => .infinite negative

/-- The number as a quotient of an integer by a natural number. -/
def ratio (x : Binary64) : Int × Nat :=
  (if x.negative then -(x.ratio.1 : Int) else x.ratio.1, x.ratio.2)

/-- The order of the numbers, between the infinities. -/
def compare : Extended64 → Extended64 → Ordering
  | .finite x, .finite y => Ord.compare ((ratio x).1 * (ratio y).2) ((ratio y).1 * (ratio x).2)
  | .infinite a, .infinite b => if a = b then .eq else if a then .lt else .gt
  | .infinite a, .finite _ => if a then .lt else .gt
  | .finite _, .infinite b => if b then .gt else .lt

/-- The order of a number and an integer. -/
def compareInt : Extended64 → Int → Ordering
  | .finite x, n => Ord.compare (ratio x).1 (n * (ratio x).2)
  | .infinite negative, _ => if negative then .lt else .gt

/-- The integer that the number is. -/
def toInt? : Extended64 → Option Int
  | .finite x => if (ratio x).1 % (ratio x).2 = 0 then some ((ratio x).1 / (ratio x).2) else none
  | .infinite _ => none

/-- The digits of a decimal with the point in its place. -/
def plainChars (d : Binary64.Decimal) : List Char :=
  let digits := Nat.toDigits 10 d.digits
  if 0 ≤ d.exponent then digits ++ List.replicate d.exponent.toNat '0'
  else
    let behind := d.exponent.natAbs
    let digits := List.replicate (behind + 1 - digits.length) '0' ++ digits
    digits.take (digits.length - behind) ++ '.' :: digits.drop (digits.length - behind)

/-- The fewest digits that read back, in positional form. -/
def chars : Extended64 → List Char
  | .finite x => (if x.negative then ['-'] else []) ++ plainChars x.shortest
  | .infinite negative => (if negative then ['-'] else []) ++ ['i', 'n', 'f']

end Extended64

end AuditTrail
