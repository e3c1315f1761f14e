import AuditTrail.Json.Number

/-!
# JSON texts as written

A form is a JSON text taken apart, with numbers and strings as they are spelt. What a form means,
and whether it means anything, is decided later.

* `Piece`: a character of a string, or a `\u` escape.
* `Form.chars`: the compact text of a form.
* `Form.ofChars?`: the form of a text with blanks anywhere between the tokens.
-/

namespace AuditTrail.Json

open Text

/-- A part of a string as it is spelt: a character, or a 16-bit unit in four digits. -/
inductive Piece
  | char (c : Char)
  | unit (n : Nat)
  deriving DecidableEq, Repr

/-- A JSON text taken apart. -/
inductive Form
  | null
  | bool (b : Bool)
  | number (n : NumberForm)
  | string (pieces : List Piece)
  | array (items : List Form)
  | object (members : List (List Piece × Form))
  deriving Inhabited

/-! ## Writing -/

/-- The character behind the backslash of a short escape. -/
def shortEscape? (c : Char) : Option Char :=
  if c = '"' then some '"'
  else if c = '\\' then some '\\'
  else if c = '\x08' then some 'b'
  else if c = '\x0c' then some 'f'
  else if c = '\n' then some 'n'
  else if c = '\r' then some 'r'
  else if c = '\t' then some 't'
  else none

/-- Four hexadecimal digits. -/
def fourHex (n : Nat) : List Char :=
  [hexDigitOf (n / 4096 % 16), hexDigitOf (n / 256 % 16), hexDigitOf (n / 16 % 16),
    hexDigitOf (n % 16)]

/-- The characters of a piece. -/
def Piece.chars : Piece → List Char
  | .unit n => '\\' :: 'u' :: fourHex n
  | .char c =>
    match shortEscape? c with
    | some e => ['\\', e]
    | none => [c]

/-- The characters of a string with its quotes. -/
def quoted (pieces : List Piece) : List Char := '"' :: pieces.flatMap Piece.chars ++ ['"']

namespace Form

mutual

/-- The compact text. -/
def chars : Form → List Char
  | .null => ['n', 'u', 'l', 'l']
  | .bool true => ['t', 'r', 'u', 'e']
  | .bool false => ['f', 'a', 'l', 's', 'e']
  | .number n => n.chars
  | .string pieces => quoted pieces
  | .array [] => ['[', ']']
  | .array (item :: items) => '[' :: chars item ++ moreItems items
  | .object [] => ['\x7b', '\x7d']
  | .object ((key, value) :: members) =>
    '\x7b' :: quoted key ++ ':' :: chars value ++ moreMembers members

/-- The items behind the first, and the end of the array. -/
def moreItems : List Form → List Char
  | [] => [']']
  | item :: items => ',' :: chars item ++ moreItems items

/-- The members behind the first, and the end of the object. -/
def moreMembers : List (List Piece × Form) → List Char
  | [] => ['\x7d']
  | (key, value) :: members => ',' :: quoted key ++ ':' :: chars value ++ moreMembers members

end

end Form

/-! ## Reading -/

/-- The four characters that may stand between tokens. -/
def isSpace (c : Char) : Bool := c = ' ' || c = '\t' || c = '\n' || c = '\r'

/-- The text from the next token on. -/
def skipSpace (cs : List Char) : List Char := cs.dropWhile isSpace

/-- The character of a short escape. -/
def unescape? (c : Char) : Option Char :=
  match c with
  | '"' => some '"'
  | '\\' => some '\\'
  | '/' => some '/'
  | 'b' => some '\x08'
  | 'f' => some '\x0c'
  | 'n' => some '\n'
  | 'r' => some '\r'
  | 't' => some '\t'
  | _ => none

/-- The number of four hexadecimal digits. -/
def hexUnit? (a b c d : Char) : Option Nat := do
  return 4096 * (← hexDigit? a) + 256 * (← hexDigit? b) + 16 * (← hexDigit? c) + (← hexDigit? d)

/-- The pieces of a string up to its closing quote. -/
def readPieces : List Char → Option (List Piece × List Char)
  | [] => none
  | '"' :: cs => some ([], cs)
  | '\\' :: 'u' :: a :: b :: c :: d :: cs => do
    let n ← hexUnit? a b c d
    let (pieces, rest) ← readPieces cs
    return (.unit n :: pieces, rest)
  | '\\' :: e :: cs => do
    let c ← unescape? e
    let (pieces, rest) ← readPieces cs
    return (.char c :: pieces, rest)
  | c :: cs =>
    if c.toNat < 0x20 ∨ c = '\\' then none
    else do
      let (pieces, rest) ← readPieces cs
      return (.char c :: pieces, rest)

/-- A fraction: a point and at least one digit. -/
def readFraction : List Char → Option (Option (List Char) × List Char)
  | '.' :: cs =>
    let digits := cs.takeWhile Char.isDigit
    if digits = [] then none else some (some digits, cs.dropWhile Char.isDigit)
  | cs => some (none, cs)

/-- A sign, which may be left out. -/
def readSign : List Char → Bool × List Char
  | '-' :: cs => (true, cs)
  | '+' :: cs => (false, cs)
  | cs => (false, cs)

/-- An exponent: a letter, perhaps a sign, and at least one digit. -/
def readExponent : List Char → Option (Option (Bool × List Char) × List Char)
  | c :: cs =>
    if c = 'e' ∨ c = 'E' then
      let (negative, cs) := readSign cs
      let digits := cs.takeWhile Char.isDigit
      if digits = [] then none else some (some (negative, digits), cs.dropWhile Char.isDigit)
    else some (none, c :: cs)
  | [] => some (none, [])

/-- A number without its sign: no zero stands before another digit. -/
def readUnsigned (negative : Bool) (cs : List Char) : Option (NumberForm × List Char) := do
  let whole := cs.takeWhile Char.isDigit
  if whole = [] ∨ (whole.head? = some '0' ∧ whole.length ≠ 1) then none
  let (fraction, cs) ← readFraction (cs.dropWhile Char.isDigit)
  let (exponent, cs) ← readExponent cs
  return (⟨negative, whole, fraction, exponent⟩, cs)

/-- A number. -/
def readNumber : List Char → Option (NumberForm × List Char)
  | '-' :: cs => readUnsigned true cs
  | cs => readUnsigned false cs

namespace Form

mutual

/-- The form in front, and the text behind it. Each step uses up one unit of fuel. -/
def read : Nat → List Char → Option (Form × List Char)
  | 0, _ => none
  | fuel + 1, cs =>
    match skipSpace cs with
    | 'n' :: 'u' :: 'l' :: 'l' :: rest => some (.null, rest)
    | 't' :: 'r' :: 'u' :: 'e' :: rest => some (.bool true, rest)
    | 'f' :: 'a' :: 'l' :: 's' :: 'e' :: rest => some (.bool false, rest)
    | '"' :: rest => do
      let (pieces, rest) ← readPieces rest
      return (.string pieces, rest)
    | '[' :: rest =>
      match skipSpace rest with
      | ']' :: rest => some (.array [], rest)
      | rest => do
        let (items, rest) ← readItems fuel rest
        return (.array items, rest)
    | '\x7b' :: rest =>
      match skipSpace rest with
      | '\x7d' :: rest => some (.object [], rest)
      | rest => do
        let (members, rest) ← readMembers fuel rest
        return (.object members, rest)
    | rest => do
      let (n, rest) ← readNumber rest
      return (.number n, rest)

/-- The items of an array up to its end. -/
def readItems : Nat → List Char → Option (List Form × List Char)
  | 0, _ => none
  | fuel + 1, cs => do
    let (item, rest) ← read fuel cs
    match skipSpace rest with
    | ']' :: rest => return ([item], rest)
    | ',' :: rest =>
      let (items, rest) ← readItems fuel rest
      return (item :: items, rest)
    | _ => none

/-- The members of an object up to its end. -/
def readMembers : Nat → List Char → Option (List (List Piece × Form) × List Char)
  | 0, _ => none
  | fuel + 1, cs => do
    match skipSpace cs with
    | '"' :: rest =>
      let (key, rest) ← readPieces rest
      match skipSpace rest with
      | ':' :: rest =>
        let (value, rest) ← read fuel rest
        match skipSpace rest with
        | '\x7d' :: rest => return ([(key, value)], rest)
        | ',' :: rest =>
          let (members, rest) ← readMembers fuel rest
          return ((key, value) :: members, rest)
        | _ => none
      | _ => none
    | _ => none

end

/-- The form of a whole text. Two units of fuel for each character are enough. -/
def ofChars? (cs : List Char) : Option Form :=
  match read (2 * cs.length + 2) cs with
  | some (form, rest) => if skipSpace rest = [] then some form else none
  | none => none

end Form

end AuditTrail.Json
