import AuditTrail.Instant.Basic
import AuditTrail.Text.Digits

/-!
# The text of an instant

* `Instant.text` writes an instant as RFC 3339 in universal time: a date, `T`, a time of day and the
  offset, which is `Z` in an entry and `+00:00` elsewhere. The second of a leap second is `60`, and
  the fraction has the fewest of 0, 3, 6 and 9 digits that lose nothing. Years beyond four digits
  have a sign.
* `Instant.parse`: an RFC 3339 text with any offset. `InstantFault` says what is wrong with one;
  of several faults the one further left is reported, except that a text of fewer than nineteen
  bytes is too short whatever it holds.
* `Instant.parseLoose?`: the wider form of entries in JSON, with blanks between the parts, years of
  any length behind a sign, single digits, and `UTC` as an offset.
-/

namespace AuditTrail.Instant

/-! ## Writing -/

open Text

/-- How universal time is named at the end of a text. -/
inductive Offset
  | zulu
  | zero
  deriving DecidableEq, Repr

/-- The name of universal time. -/
def Offset.chars : Offset → List Char
  | .zulu => ['Z']
  | .zero => ['+', '0', '0', ':', '0', '0']

/-- A year: four digits, or a sign and at least four digits. -/
def yearChars (year : Int) : List Char :=
  if 0 ≤ year ∧ year ≤ 9999 then paddedChars 4 year.toNat
  else (if year < 0 then '-' else '+') :: paddedChars 4 year.natAbs

/-- A fraction of a second, from nanoseconds. -/
def fractionChars (nano : Nat) : List Char :=
  if nano = 0 then []
  else if nano % 1000000 = 0 then '.' :: paddedChars 3 (nano / 1000000)
  else if nano % 1000 = 0 then '.' :: paddedChars 6 (nano / 1000)
  else '.' :: paddedChars 9 nano

/-- A date in the order year, month, day. -/
def dateChars (d : Date) : List Char :=
  yearChars d.year ++ '-' :: paddedChars 2 d.month ++ '-' :: paddedChars 2 d.day

/-- The characters of the RFC 3339 text. -/
def chars (offset : Offset) (t : Instant) : List Char :=
  let clock := (t.second % 86400).toNat
  let second := clock % 60 + t.nano / 1000000000
  dateChars (Date.ofDayNumber (t.second / 86400)) ++ 'T' :: paddedChars 2 (clock / 3600) ++
    ':' :: paddedChars 2 (clock / 60 % 60) ++ ':' :: paddedChars 2 second ++
    fractionChars (t.nano % 1000000000) ++ offset.chars

/-- The RFC 3339 text in universal time. -/
def text (offset : Offset) (t : Instant) : String := String.ofList (t.chars offset)

end AuditTrail.Instant

namespace AuditTrail

/-! ## Reading -/

/-- Why a text is no instant. -/
inductive InstantFault
  | tooShort
  | invalid
  | outOfRange
  | trailing
  deriving DecidableEq, Repr

/-- The wording of a fault. -/
def InstantFault.message : InstantFault → String
  | .tooShort => "premature end of input"
  | .invalid => "input contains invalid characters"
  | .outOfRange => "input is out of range"
  | .trailing => "trailing input"

namespace Instant

open Text

-- Powers of whole numbers are meant as the core library has them.
attribute [local instance (high)] instPowNat

/-- The number of exactly `n` digits in front. -/
def takeNumber (n : Nat) (cs : List Char) : Except InstantFault (Nat × List Char) :=
  if (cs.take n).length = n ∧ (cs.take n).all Char.isDigit then
    .ok (ofDigits (cs.take n), cs.drop n)
  else .error .invalid

/-- The text behind one of the characters. -/
def takeOneOf (allowed : List Char) : List Char → Except InstantFault (List Char)
  | [] => .error .tooShort
  | c :: cs => if allowed.contains c then .ok cs else .error .invalid

/-- The nanoseconds of the digits behind a point; digits after the ninth are dropped. -/
def nanosOf (digits : List Char) : Nat :=
  let kept := digits.take 9
  ofDigits kept * 10 ^ (9 - kept.length)

/-- The nanoseconds of a fraction, if there is one. -/
def takeFraction : List Char → Except InstantFault (Nat × List Char)
  | '.' :: cs =>
    let digits := cs.takeWhile Char.isDigit
    if digits ≠ [] then .ok (nanosOf digits, cs.dropWhile Char.isDigit)
    else if cs = [] then .error .tooShort
    else .error .invalid
  | cs => .ok (0, cs)

/-- Two digits of an offset: too short counts bytes. -/
def takePair (cs : List Char) : Except InstantFault (Nat × List Char) :=
  if byteLength cs < 2 then .error .tooShort else takeNumber 2 cs

/-- The sign of an offset: plus, hyphen or minus. -/
def takeSign : List Char → Except InstantFault (Int × List Char)
  | [] => .error .tooShort
  | c :: cs =>
    if c = '+' then .ok (1, cs)
    else if c = '-' ∨ c = Char.ofNat 0x2212 then .ok (-1, cs)
    else .error .invalid

/-- An offset in seconds, where `colon` passes over what stands between hours and minutes. -/
def takeOffset (colon : List Char → Except InstantFault (List Char)) (cs : List Char) :
    Except InstantFault (Int × List Char) := do
  match cs with
  | 'Z' :: rest => return (0, rest)
  | 'z' :: rest => return (0, rest)
  | _ =>
    let (sign, cs) ← takeSign cs
    let (hours, cs) ← takePair cs
    let cs ← colon cs
    let (minutes, cs) ← takePair cs
    if 60 ≤ minutes then throw .outOfRange
    return (sign * (hours * 3600 + minutes * 60 : Nat), cs)

/-- The instant of the parts; a second of 60 is a leap second. -/
def assemble (date : Date) (hour minute second nano : Nat) (offset : Int) :
    Except InstantFault Instant :=
  let leap := if second = 60 then 1 else 0
  match ofLocal? date hour minute (second - leap) (nano + leap * 1000000000) offset with
  | some t => if offset.natAbs < 86400 then .ok t else .error .outOfRange
  | none => .error .outOfRange

/-- The instant that an RFC 3339 text names. -/
def parseChars (cs : List Char) : Except InstantFault Instant := do
  if byteLength cs < 19 then throw .tooShort
  let (year, cs) ← takeNumber 4 cs
  let cs ← takeOneOf ['-'] cs
  let (month, cs) ← takeNumber 2 cs
  let cs ← takeOneOf ['-'] cs
  let (day, cs) ← takeNumber 2 cs
  let date : Date := ⟨year, month, day⟩
  if ¬ date.IsValid then throw .outOfRange
  let cs ← takeOneOf ['T', 't', ' '] cs
  let (hour, cs) ← takeNumber 2 cs
  let cs ← takeOneOf [':'] cs
  let (minute, cs) ← takeNumber 2 cs
  let cs ← takeOneOf [':'] cs
  let (second, cs) ← takeNumber 2 cs
  let (nano, cs) ← takeFraction cs
  if 23 < hour ∨ 59 < minute ∨ 60 < second then throw .outOfRange
  let (offset, cs) ← takeOffset (takeOneOf [':']) cs
  if cs ≠ [] then throw .trailing
  assemble date hour minute second nano offset

/-- The instant that an RFC 3339 text names. -/
def parse (s : String) : Except InstantFault Instant := parseChars s.toList

/-! ## The loose form -/

/-- The number of one to `most` digits in front, blanks before it passed over. -/
def takeLoose (most : Nat) (cs : List Char) : Except InstantFault (Nat × List Char) :=
  let cs := trimStart cs
  let digits := (cs.take most).takeWhile Char.isDigit
  if digits = [] then .error .invalid else .ok (ofDigits digits, cs.drop digits.length)

/-- A year: one to four digits, or a sign and any number of digits. -/
def takeYear (cs : List Char) : Except InstantFault (Int × List Char) :=
  match trimStart cs with
  | '-' :: rest =>
    if rest.head?.any Char.isDigit then
      (takeLoose rest.length rest).map fun (n, more) => (-(n : Int), more)
    else .error .invalid
  | '+' :: rest =>
    if rest.head?.any Char.isDigit then
      (takeLoose rest.length rest).map fun (n, more) => ((n : Int), more)
    else .error .invalid
  | rest => (takeLoose 4 rest).map fun (n, more) => ((n : Int), more)

/-- An offset of the loose form: also `UTC` in any case. -/
def takeLooseOffset (cs : List Char) : Except InstantFault (Int × List Char) :=
  if (cs.take 3).map Char.toLower = ['u', 't', 'c'] then .ok (0, cs.drop 3)
  else takeOffset (fun cs => .ok (cs.dropWhile fun c => c = ':' || isBlank c)) cs

/-- The instant that a text in the loose form names. -/
def parseLooseChars (cs : List Char) : Except InstantFault Instant := do
  let (year, cs) ← takeYear cs
  let cs ← takeOneOf ['-'] (trimStart cs)
  let (month, cs) ← takeLoose 2 cs
  let cs ← takeOneOf ['-'] (trimStart cs)
  let (day, cs) ← takeLoose 2 cs
  let cs ← takeOneOf ['T', 't', ' '] cs
  let (hour, cs) ← takeLoose 2 cs
  let cs ← takeOneOf [':'] (trimStart cs)
  let (minute, cs) ← takeLoose 2 cs
  let cs ← takeOneOf [':'] (trimStart cs)
  let (second, cs) ← takeLoose 2 cs
  let (nano, cs) ← takeFraction cs
  let (offset, cs) ← takeLooseOffset (trimStart cs)
  if trimStart cs ≠ [] then throw .trailing
  let date : Date := ⟨year, month, day⟩
  if ¬ date.IsValid ∨ year < -262143 ∨ 262142 < year then throw .outOfRange
  if 23 < hour ∨ 59 < minute ∨ 60 < second then throw .outOfRange
  assemble date hour minute second nano offset

/-- The instant that a text in the loose form names. -/
def parseLoose? (s : String) : Option Instant :=
  match parseLooseChars s.toList with
  | .ok t => some t
  | .error _ => none

end Instant

end AuditTrail
