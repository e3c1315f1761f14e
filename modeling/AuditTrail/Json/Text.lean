import AuditTrail.Json.Basic
import AuditTrail.Json.Form

/-!
# JSON values and their texts

* `Json.text`: the compact text of a value, with its keys in ascending order.
* `Json.parse?`: the value of a text. A text has none if a number is too large, if an escape is
  half of a pair, or if arrays and objects nest more than 127 deep.
* `Payload.parse?`: the object of a text.
* `Json.loose`: the value of a text, or else the text itself as a string.
-/

namespace AuditTrail

namespace Json

open Text

/-! ## Strings -/

/-- How a character is spelt: a control character without a short escape by its number. -/
def pieceOf (c : Char) : Piece :=
  if c.toNat < 0x20 ∧ shortEscape? c = none then .unit c.toNat else .char c

/-- How a string is spelt. -/
def piecesOf (s : String) : List Piece := s.toList.map pieceOf

/-- The characters that are meant; the two halves of a pair stand side by side. -/
def decodePieces : List Piece → Option (List Char)
  | [] => some []
  | .char c :: pieces => do return c :: (← decodePieces pieces)
  | [.unit n] => if 0xD800 ≤ n ∧ n < 0xE000 then none else some [Char.ofNat n]
  | .unit n :: .unit m :: pieces =>
    if 0xD800 ≤ n ∧ n < 0xDC00 then
      if 0xDC00 ≤ m ∧ m < 0xE000 then do
        return Char.ofNat (0x10000 + (n - 0xD800) * 0x400 + (m - 0xDC00)) ::
          (← decodePieces pieces)
      else none
    else if 0xDC00 ≤ n ∧ n < 0xE000 then none
    else do return Char.ofNat n :: (← decodePieces (.unit m :: pieces))
  | .unit n :: .char c :: pieces =>
    if 0xD800 ≤ n ∧ n < 0xE000 then none
    else do return Char.ofNat n :: c :: (← decodePieces pieces)

/-- The string that is meant. -/
def decodeString (pieces : List Piece) : Option String := do
  return String.ofList (← decodePieces pieces)

/-! ## Writing -/

namespace Raw

mutual

/-- How a value is spelt. -/
def form : Raw → Form
  | .null => .null
  | .bool b => .bool b
  | .number n => .number n.form
  | .string s => .string (piecesOf s)
  | .array items => .array (formItems items)
  | .object members => .object (formMembers members)

/-- How the items are spelt. -/
def formItems : List Raw → List Form
  | [] => []
  | item :: items => form item :: formItems items

/-- How the members are spelt. -/
def formMembers : List (String × Raw) → List (List Piece × Form)
  | [] => []
  | (key, value) :: members => (piecesOf key, form value) :: formMembers members

end

end Raw

/-- The characters of the compact text. -/
def chars (v : Json) : List Char := v.raw.form.chars

/-- The compact text. -/
def text (v : Json) : String := String.ofList v.chars

/-! ## Reading -/

/-- How deep arrays and objects may nest. -/
def maxDepth : Nat := 127

namespace Form

mutual

/-- The value that is meant, with room for so many levels of arrays and objects. -/
def value? : Nat → Form → Option Json
  | _, .null => some .null
  | _, .bool b => some (.bool b)
  | _, .number n => do number? (← n.value?)
  | _, .string pieces => do return .string (← decodeString pieces)
  | room + 1, .array items => do return .array (← items? room items)
  | room + 1, .object members => do return .object (.ofMembers (← members? room members))
  | 0, .array _ => none
  | 0, .object _ => none

/-- The values of the items. -/
def items? : Nat → List Form → Option (List Json)
  | _, [] => some []
  | room, item :: items => do return (← value? room item) :: (← items? room items)

/-- The keys and values of the members, in order of writing. -/
def members? : Nat → List (List Piece × Form) → Option (List (String × Json))
  | _, [] => some []
  | room, (key, value) :: members => do
    return (← decodeString key, ← value? room value) :: (← members? room members)

end

end Form

/-- The value of a text. -/
def parseChars? (cs : List Char) : Option Json := do (← Form.ofChars? cs).value? maxDepth

/-- The value of a text. -/
def parse? (s : String) : Option Json := parseChars? s.toList

/-- The value of a text, or else the text itself. -/
def loose (s : String) : Json := (parse? s).getD (.string s)

end Json

namespace Payload

/-- The compact text. -/
def text (p : Payload) : String := (Json.object p).text

/-- The object of a text. -/
def parse? (s : String) : Option Payload := do (← Json.parse? s).payload?

end Payload

end AuditTrail
