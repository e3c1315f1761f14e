import AuditTrail.Text.Digits

/-!
# Identifiers of entries

An identifier is sixteen bytes. Its text groups them as 4, 2, 2, 2 and 6 bytes of hexadecimal
digits, with hyphens between the groups.

* `EntryId.nil`: the identifier of an entry that has none yet.
* `EntryId.ofBytes`: an identifier from raw bytes.
* `EntryId.text`: the hyphenated text in lower case.
* `EntryId.parse`: the identifier that a text names: the hyphenated text, bare, in braces or
  behind `urn:uuid:`, or the digits alone.
* `IdFault`: why a text or a list of bytes is no identifier.
-/

namespace AuditTrail

open Text

/-- The sixteen bytes that name an entry. -/
structure EntryId where
  bytes : List UInt8
  length_eq : bytes.length = 16
  deriving DecidableEq

/-- Why there is no identifier. Positions and lengths count bytes. -/
inductive IdFault
  | byteCount (found : Nat)
  | length (found : Nat)
  | character (c : Char) (index : Nat)
  | groupCount (found : Nat)
  | groupLength (group expected found : Nat)
  deriving DecidableEq, Repr

namespace IdFault

/-- The wording of a fault. -/
def message : IdFault → String
  | .byteCount n => "invalid length: expected 16 bytes, found " ++ decimal n
  | .length n => "invalid length: found " ++ decimal n
  | .character c i =>
    "invalid character: found " ++ String.ofList ['\x60', c, '\x60'] ++ " at " ++ decimal i
  | .groupCount n => "invalid group count: expected 5, found " ++ decimal n
  | .groupLength g e n =>
    "invalid group length in group " ++ decimal g ++ ": expected " ++ decimal e ++ ", found " ++
      decimal n

end IdFault

namespace EntryId

/-- The identifier of an entry that has none yet: all bytes are zero. -/
def nil : EntryId := ⟨List.replicate 16 0, rfl⟩

instance : Inhabited EntryId := ⟨nil⟩

/-- Does the entry still lack an identifier? -/
def isNil (id : EntryId) : Bool := id = nil

/-- Identifiers compare byte by byte. -/
instance : Ord EntryId := ⟨fun a b => compare (a.bytes.map UInt8.toNat) (b.bytes.map UInt8.toNat)⟩

/-- Sixteen bytes are an identifier; any other number is refused. -/
def ofBytes (bs : List UInt8) : Except IdFault EntryId :=
  if h : bs.length = 16 then .ok ⟨bs, h⟩ else .error (.byteCount bs.length)

/-! ## Text -/

/-- The two digits of a byte. -/
def hexPair (b : UInt8) : List Char := [hexDigitOf (b.toNat / 16), hexDigitOf (b.toNat % 16)]

/-- The digits of bytes, without hyphens. -/
def hexChars (bs : List UInt8) : List Char := bs.flatMap hexPair

/-- The bytes of one group after the other, with hyphens between the groups. -/
def hyphenated : List Nat → List UInt8 → List Char
  | [], bs => hexChars bs
  | n :: ns, bs => hexChars (bs.take n) ++ '-' :: hyphenated ns (bs.drop n)

/-- The characters of the hyphenated text. -/
def chars (id : EntryId) : List Char := hyphenated [4, 2, 2, 2] id.bytes

/-- The hyphenated text in lower case. -/
def text (id : EntryId) : String := String.ofList id.chars

/-! ## Reading -/

/-- The bytes that pairs of digits stand for. -/
def readHex : List Char → Option (List UInt8)
  | [] => some []
  | [_] => none
  | a :: b :: cs => do
    let high ← hexDigit? a
    let low ← hexDigit? b
    let rest ← readHex cs
    some (UInt8.ofNat (16 * high + low) :: rest)

/-- The bytes of hyphenated groups, each group of the given number of bytes but the last. -/
def readGroups : List Nat → List Char → Option (List UInt8)
  | [], cs => readHex cs
  | n :: ns, cs =>
    match cs.drop (2 * n) with
    | '-' :: rest => do
      let bytes ← readHex (cs.take (2 * n))
      let more ← readGroups ns rest
      some (bytes ++ more)
    | _ => none

/-- What stands between braces. -/
def insideBraces (cs : List Char) : Option (List Char) :=
  match cs with
  | '\x7b' :: rest => if rest.getLast? = some '\x7d' then some rest.dropLast else none
  | _ => none

/-- What stands behind the mark of a resource name. -/
def afterMark (cs : List Char) : Option (List Char) :=
  let mark := "urn:uuid:".toList
  if cs.take mark.length = mark then some (cs.drop mark.length) else none

/-- The part of the text that has to be the hyphenated form, by the length of the text. -/
def body? (cs : List Char) : Option (List Char) :=
  match byteLength cs with
  | 36 => some cs
  | 38 => insideBraces cs
  | 45 => afterMark cs
  | _ => none

/-- The bytes that the text names. -/
def readBytes (cs : List Char) : Option (List UInt8) :=
  if byteLength cs = 32 then readHex cs
  else do readGroups [4, 2, 2, 2] (← body? cs)

/-- The form of text that a fault is looked for in. -/
inductive Shape
  | any
  | hyphened
  | braced
  | marked
  deriving DecidableEq, Repr

/-- The first character that is neither a digit nor a hyphen; else the indices of the hyphens. -/
def scan : Nat → List Char → Except (Char × Nat) (List Nat)
  | _, [] => .ok []
  | i, c :: cs =>
    if c = '-' then (scan (i + c.utf8Size) cs).map (i :: ·)
    else if (hexDigit? c).isSome then scan (i + c.utf8Size) cs
    else .error (c, i)

/-- The first group of the wrong length, from the indices of four hyphens. -/
def groupFault (length : Nat) : Nat → List (Nat × Nat × Nat) → List Nat → IdFault
  | g, (place, start, expected) :: more, h :: hs =>
    if h = place then groupFault length (g + 1) more hs
    else .groupLength g expected (h - start)
  | _, _, _ => .groupLength 4 12 (length - 24)

/-- Where each hyphen belongs, where its group starts, and how long the group is. -/
def groupPlaces : List (Nat × Nat × Nat) := [(8, 0, 8), (13, 9, 4), (18, 14, 4), (23, 19, 4)]

/-- The fault of a text of the given form that names no identifier. -/
def faultIn (shape : Shape) (cs : List Char) : IdFault :=
  let length := byteLength cs
  if length = 0 ∨ 45 < length then .length length
  else
    let (form, offset, part) :=
      if shape ≠ .any then (shape, 0, cs)
      else
        match insideBraces cs, afterMark cs with
        | some inner, _ => (.braced, 1, inner)
        | none, some rest => (.marked, 9, rest)
        | none, none => (.any, 0, cs)
    match scan 0 part with
    | .error (c, i) => .character c (i + offset)
    | .ok hyphens =>
      if form = .any ∧ hyphens = [] then .length length
      else if hyphens.length ≠ 4 then .groupCount (hyphens.length + 1)
      else groupFault length 0 groupPlaces hyphens

/-- The fault of a text that names no identifier: in a hyphenated body if there is one. -/
def fault (cs : List Char) : IdFault :=
  match body? cs with
  | some inner => faultIn .hyphened inner
  | none => faultIn .any cs

/-- The identifier that exactly this text names. -/
def parseExact (s : String) : Except IdFault EntryId :=
  match readBytes s.toList with
  | some bs => if h : bs.length = 16 then .ok ⟨bs, h⟩ else .error (fault s.toList)
  | none => .error (fault s.toList)

/-- The identifier that the text names, white space around it left out. -/
def parse (s : String) : Except IdFault EntryId := parseExact (trim s)

end EntryId

end AuditTrail
