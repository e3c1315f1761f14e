import AuditTrail.Disk
import AuditTrail.Text.Blank
import AuditTrail.Text.Word

/-!
# The environment

* `Environment`: variables and their values.
* `Environment.assignments`: the variables that a text assigns, line by line, up to the first line
  that is none. A value may be quoted, which carries it over ends of lines, may name other
  variables behind a `$`, and may be followed by a comment.
* `Environment.withFile`: the environment with the variables of a file that are not yet set.
-/

namespace AuditTrail

open Text

/-- Variables and their values. -/
abbrev Environment := List (String × String)

namespace Environment

/-! ## Lines -/

/-- Where in a line, or in a quotation that goes on over its end, a reader is. -/
inductive Place
  | plain
  | blank
  | escape
  | quote
  | quoteEscape
  | tick
  | tickEscape
  deriving DecidableEq, Repr

/-- Outside quotations, behind something other than a backslash. -/
def Place.outside (blank : Bool) (c : Char) : Place :=
  if blank then .blank
  else if c = '\\' then .escape
  else if c = '"' then .quote
  else if c = '\'' then .tick
  else .plain

/-- The place behind the next character. -/
def Place.next (c : Char) : Place → Place
  | .plain => .outside (isBlank c && c ≠ '\n' && c ≠ '\r') c
  | .blank => .outside false c
  | .escape => .plain
  | .quote => if c = '\\' then .quoteEscape else if c = '"' then .plain else .quote
  | .quoteEscape => .quote
  | .tick => if c = '\\' then .tickEscape else if c = '\'' then .plain else .tick
  | .tickEscape => .tick

/-- The part of a line in front of a comment, and the place where it ends: none in a comment. -/
def walkLine : Place → List Char → List Char × Option Place
  | place, [] => ([], some place)
  | place, c :: cs =>
    if place = .blank ∧ c = '#' then ([], none)
    else
      let (kept, last) := walkLine (place.next c) cs
      (c :: kept, last)

/-- The first line with its end, and the text behind it. -/
def takeLine : List Char → List Char × List Char
  | [] => ([], [])
  | '\n' :: cs => (['\n'], cs)
  | c :: cs =>
    let (line, rest) := takeLine cs
    (c :: line, rest)

/-- The line without its end. -/
def dropEnd (cs : List Char) : List Char :=
  match cs.reverse with
  | '\n' :: '\r' :: rest => rest.reverse
  | '\n' :: rest => rest.reverse
  | _ => cs

/-- The next line, with all lines that its quotations run over, and the text behind it. Not the
end of a line, but a quotation or a blank that is still open at the end of the text is a fault. -/
def takeLogicalLine : Nat → Place → List Char → List Char → Option (List Char × List Char)
  | 0, _, _, _ => none
  | fuel + 1, place, taken, cs =>
    match takeLine cs with
    | ([], _) => none
    | (line, rest) =>
      if (trimStart (taken ++ line)).head? = some '#' then some ([], rest)
      else
        match walkLine place line with
        | (kept, none) => some (taken ++ kept, rest)
        | (_, some .plain) => some (dropEnd (taken ++ line), rest)
        | (_, some place) => takeLogicalLine fuel place (taken ++ line) rest

/-! ## Values -/

/-- What a reader of a value is in. -/
inductive Mode
  | bare
  | quoted
  | ticked
  deriving DecidableEq, Repr

/-- The value of a name: of a variable that is set, or else of one that the text assigned. -/
def valueOf (set assigned : Environment) (name : String) : List Char :=
  ((set.lookup name <|> assigned.lookup name).getD "").toList

/-- Only blanks, and perhaps a comment behind them. -/
def isEnd : List Char → Bool
  | [] => true
  | '#' :: _ => true
  | c :: cs => (c = ' ' || c = '\t') && isEnd cs

/-- The character behind a backslash. -/
def unescape? (c : Char) : Option Char :=
  if c = 'n' then some '\n' else if "\\'\"$ ".toList.contains c then some c else none

mutual

/-- The value that the characters spell. -/
def readValue (resolve : String → List Char) : Nat → Mode → List Char → Option (List Char)
  | 0, _, _ => none
  | _ + 1, mode, [] => if mode = .bare then some [] else none
  | fuel + 1, mode, c :: cs =>
    if mode = .ticked then
      if c = '\'' then readValue resolve fuel .bare cs
      else (readValue resolve fuel mode cs).map (c :: ·)
    else if c = '$' then readName resolve fuel mode cs
    else if c = '\\' then
      match cs with
      | [] => if mode = .bare then some [] else none
      | e :: cs => do
        let e ← unescape? e
        return e :: (← readValue resolve fuel mode cs)
    else if mode = .quoted then
      if c = '"' then readValue resolve fuel .bare cs
      else (readValue resolve fuel mode cs).map (c :: ·)
    else if c = '\'' then readValue resolve fuel .ticked cs
    else if c = '"' then readValue resolve fuel .quoted cs
    else if c = ' ' ∨ c = '\t' then if isEnd cs then some [] else none
    else (readValue resolve fuel mode cs).map (c :: ·)

/-- The value that goes on with the name of a variable: letters and digits of any script,
or anything in braces. The character that ends a bare name belongs to the value as it is. -/
def readName (resolve : String → List Char) : Nat → Mode → List Char → Option (List Char)
  | 0, _, _ => none
  | fuel + 1, mode, cs =>
    match cs with
    | '\x7b' :: rest =>
      match splitFirst '\x7d' rest with
      | some (name, rest) =>
        (readValue resolve fuel mode rest).map (resolve (String.ofList name) ++ ·)
      | none => none
    | cs =>
      let value := resolve (String.ofList (cs.takeWhile isLetterOrDigit))
      match cs.dropWhile isLetterOrDigit with
      | [] => if mode = .bare then some value else none
      | '$' :: rest => (readName resolve fuel mode rest).map (value ++ ·)
      | c :: rest => (readValue resolve fuel mode rest).map fun more => value ++ c :: more

end

/-! ## Assignments -/

/-- The name of a variable, and the text behind it. -/
def readKey (cs : List Char) : Option (List Char × List Char) :=
  let isPart (c : Char) : Bool := c.isAlphanum || c = '_' || c = '.'
  match cs with
  | [] => none
  | c :: _ => if c.isAlpha ∨ c = '_' then some (cs.takeWhile isPart, cs.dropWhile isPart) else none

/-- The text behind an equals sign. -/
def afterEquals : List Char → Option (List Char)
  | '=' :: cs => some cs
  | _ => none

/-- The name in front of an equals sign, perhaps behind `export`, and the text behind it. -/
def readTarget (cs : List Char) : Option (List Char × List Char) := do
  let (key, rest) ← readKey cs
  let rest := trimStart rest
  match afterEquals rest with
  | some rest => return (key, rest)
  | none =>
    if key = "export".toList then
      let (key, rest) ← readKey rest
      return (key, ← afterEquals (trimStart rest))
    else none

/-- What a line assigns: nothing if it is blank or a comment. White space at its ends counts for
nothing. -/
def readLine (resolve : String → List Char) (line : List Char) :
    Option (Option (String × String)) :=
  let cs := trimChars line
  if cs = [] ∨ cs.head? = some '#' then some none
  else do
    let (key, rest) ← readTarget cs
    let rest := trimStart rest
    if rest = [] ∨ rest.head? = some '#' then return some (String.ofList key, "")
    let value ← readValue resolve (2 * rest.length + 2) .bare rest
    return some (String.ofList key, String.ofList value)

/-- The environment with the variables that a text assigns, as far as they are not yet set. The
first line that is no assignment ends the reading. -/
def withText : Nat → Environment → Environment → List Char → Environment
  | 0, set, _, _ => set
  | fuel + 1, set, assigned, cs =>
    match takeLogicalLine (cs.length + 1) .plain [] cs with
    | none => set
    | some (line, rest) =>
      match readLine (valueOf set assigned) line with
      | none => set
      | some none => withText fuel set assigned rest
      | some (some (key, value)) =>
        let set' := if (set.lookup key).isSome then set else (key, value) :: set
        withText fuel set' ((key, value) :: assigned) rest

/-- The name of the file that sets variables. -/
def fileName : String := ".env"

/-- The text of the file in the innermost of the directories that has one. -/
def fileText? (d : Disk) : Nat → List String → Option String
  | 0, _ => none
  | fuel + 1, names =>
    match d.lookup (names ++ [fileName]) with
    | some (.text s) => some s
    | some (.database _) => some ""
    | _ => if names = [] then none else fileText? d fuel names.dropLast

/-- The environment with the variables of the file that are not yet set; a mark of the byte order
may come first. -/
def withFile (set : Environment) (d : Disk) : Environment :=
  match fileText? d (d.here.length + 1) d.here with
  | none => set
  | some s =>
    let cs := s.toList
    let cs := if cs.head? = some (Char.ofNat 0xFEFF) then cs.drop 1 else cs
    withText (cs.length + 1) set [] cs

end Environment

end AuditTrail
