import AuditTrail.Text.Digits

/-!
# The parts of a TOML text

* `skipBlanks`, `skipLines`: blanks, comments and ends of lines.
* `readString`: the four kinds of strings.
* `readKey`: a key of one part, and of several parts with dots between them.

Each reader gives what it read and the text behind it.
-/

namespace AuditTrail.Toml

open Text

/-- A blank inside a line. -/
def isBlank (c : Char) : Bool := c = ' ' || c = '\t'

/-- A character that a comment or a string may hold as it is: no control character but the tab. -/
def isPlain (c : Char) : Bool := c = '\t' || (0x20 ≤ c.toNat && c.toNat ≠ 0x7F)

/-- The text behind the blanks. -/
def skipBlanks (cs : List Char) : List Char := cs.dropWhile isBlank

/-- The text behind a comment, if there is one. -/
def skipComment : List Char → List Char
  | '#' :: cs => cs.dropWhile isPlain
  | cs => cs

/-- The text behind the end of a line. -/
def newline? : List Char → Option (List Char)
  | '\n' :: cs => some cs
  | '\r' :: '\n' :: cs => some cs
  | _ => none

/-- The text behind blanks, comments and ends of lines. -/
def skipLines : Nat → List Char → List Char
  | 0, cs => cs
  | fuel + 1, cs =>
    let rest := skipComment (skipBlanks cs)
    match newline? rest with
    | some rest => skipLines fuel rest
    | none => rest

/-- The text behind the rest of a line, on which nothing but a comment may stand. -/
def endLine? (cs : List Char) : Option (List Char) :=
  match skipComment (skipBlanks cs) with
  | [] => some []
  | rest => newline? rest

/-! ## Strings -/

/-- The character of a hexadecimal number of so many digits, and the text behind it. -/
def readCodePoint (digits : Nat) (cs : List Char) : Option (Char × List Char) := do
  let number ← (cs.take digits).foldlM (fun n c => do return 16 * n + (← hexDigit? c)) 0
  if (cs.take digits).length = digits ∧ number.isValidChar then
    return (Char.ofNat number, cs.drop digits)
  else none

/-- The character of an escape, behind its backslash. -/
def readEscape : List Char → Option (Char × List Char)
  | 'b' :: cs => some ('\x08', cs)
  | 't' :: cs => some ('\t', cs)
  | 'n' :: cs => some ('\n', cs)
  | 'f' :: cs => some ('\x0c', cs)
  | 'r' :: cs => some ('\r', cs)
  | 'e' :: cs => some ('\x1b', cs)
  | '"' :: cs => some ('"', cs)
  | '\\' :: cs => some ('\\', cs)
  | 'x' :: cs => readCodePoint 2 cs
  | 'u' :: cs => readCodePoint 4 cs
  | 'U' :: cs => readCodePoint 8 cs
  | _ => none

/-- A string on one line with escapes, behind its opening quote. -/
def readBasic : Nat → List Char → Option (List Char × List Char)
  | 0, _ => none
  | fuel + 1, cs =>
    match cs with
    | [] => none
    | '"' :: rest => some ([], rest)
    | '\\' :: rest => do
      let (c, rest) ← readEscape rest
      let (more, rest) ← readBasic fuel rest
      return (c :: more, rest)
    | c :: rest =>
      if isPlain c then do
        let (more, rest) ← readBasic fuel rest
        return (c :: more, rest)
      else none

/-- A string on one line without escapes, behind its opening quote. -/
def readLiteral : List Char → Option (List Char × List Char)
  | [] => none
  | c :: rest =>
    if c = '\'' then some ([], rest)
    else if isPlain c then do
      let (more, rest) ← readLiteral rest
      return (c :: more, rest)
    else none

/-- The closing quotes of a string on several lines: three, with up to two before them that belong
to the string. -/
def closing? (quote : Char) (cs : List Char) : Option (List Char × List Char) :=
  let quotes := (cs.takeWhile (· = quote)).length
  if quotes < 3 then none
  else
    let own := min (quotes - 3) 2
    some (List.replicate own quote, cs.drop (own + 3))

/-- The text behind blanks and ends of lines. -/
def skipBlankLines : List Char → List Char
  | '\r' :: '\n' :: cs => skipBlankLines cs
  | c :: cs => if isBlank c ∨ c = '\n' then skipBlankLines cs else c :: cs
  | [] => []

/-- The text behind a backslash at the end of a line, and behind all blanks and ends of lines after
it. -/
def lineEnd? (cs : List Char) : Option (List Char) := (newline? (skipBlanks cs)).map skipBlankLines

/-- A string on several lines, behind its opening quotes. Its ends of lines stay as they are. -/
def readLong (quote : Char) : Nat → List Char → Option (List Char × List Char)
  | 0, _ => none
  | fuel + 1, cs =>
    match closing? quote cs with
    | some found => some found
    | none =>
      match cs with
      | [] => none
      | '\r' :: '\n' :: rest => do
        let (more, rest) ← readLong quote fuel rest
        return ('\r' :: '\n' :: more, rest)
      | c :: rest =>
        if c = '\\' ∧ quote = '"' then
          match lineEnd? rest with
          | some rest => readLong quote fuel rest
          | none => do
            let (c, rest) ← readEscape rest
            let (more, rest) ← readLong quote fuel rest
            return (c :: more, rest)
        else if isPlain c ∨ c = '\n' then do
          let (more, rest) ← readLong quote fuel rest
          return (c :: more, rest)
        else none

/-- The text behind an end of line right after opening quotes. -/
def skipFirstLine (cs : List Char) : List Char := (newline? cs).getD cs

/-- A string of any of the four kinds. -/
def readString : List Char → Option (String × List Char)
  | '"' :: '"' :: '"' :: cs => do
    let (s, rest) ← readLong '"' (cs.length + 1) (skipFirstLine cs)
    return (String.ofList s, rest)
  | '\'' :: '\'' :: '\'' :: cs => do
    let (s, rest) ← readLong '\'' (cs.length + 1) (skipFirstLine cs)
    return (String.ofList s, rest)
  | '"' :: cs => do
    let (s, rest) ← readBasic (cs.length + 1) cs
    return (String.ofList s, rest)
  | '\'' :: cs => do
    let (s, rest) ← readLiteral cs
    return (String.ofList s, rest)
  | _ => none

/-! ## Keys -/

/-- A character of a bare key. -/
def isWordChar (c : Char) : Bool := c.isAlphanum || c = '_' || c = '-'

/-- A key of one part: bare or a string on one line. -/
def readPart : List Char → Option (String × List Char)
  | '"' :: '"' :: '"' :: _ => none
  | '\'' :: '\'' :: '\'' :: _ => none
  | '"' :: cs => readString ('"' :: cs)
  | '\'' :: cs => readString ('\'' :: cs)
  | cs =>
    let word := cs.takeWhile isWordChar
    if word = [] then none else some (String.ofList word, cs.dropWhile isWordChar)

/-- A key: parts with dots between them. -/
def readKey : Nat → List Char → Option (List String × List Char)
  | 0, _ => none
  | fuel + 1, cs => do
    let (part, rest) ← readPart (skipBlanks cs)
    match skipBlanks rest with
    | '.' :: rest =>
      let (parts, rest) ← readKey fuel rest
      return (part :: parts, rest)
    | rest => return ([part], rest)

end AuditTrail.Toml
