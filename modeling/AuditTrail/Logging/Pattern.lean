import AuditTrail.Text.CharSet
import AuditTrail.Text.Word

/-!
# Patterns of texts

* `Pattern`: regular expressions. Of several ways to match, the first in reading order is
  preferred; a repetition prefers more rounds, a lazy one fewer.
* `Pattern.rests`: what is left of a text behind the matches, the preferred one first.
* `Pattern.accepts`: does the preferred match take the whole text?
* `Pattern.parse?`: the pattern of a text: characters, `.`, sets in brackets, groups that may have
  names, `|`, `*`, `+`, `?`, and the anchors `^` and `$`.
-/

namespace AuditTrail

open Text

/-- A regular expression. -/
inductive Pattern
  | empty
  | char (set : CharSet)
  | start
  | finish
  | group (name : String) (p : Pattern)
  | seq (a b : Pattern)
  | alt (a b : Pattern)
  | star (greedy : Bool) (p : Pattern)
  | plus (greedy : Bool) (p : Pattern)
  deriving DecidableEq, Repr

namespace Pattern

/-! ## Matching -/

/-- What is left behind any number of rounds; a round that takes nothing does not count. -/
def roundRests (step : List Char → List (List Char)) (greedy : Bool) :
    Nat → List Char → List (List Char)
  | 0, cs => [cs]
  | fuel + 1, cs =>
    let more := ((step cs).filter fun rest => rest.length < cs.length).flatMap
      (roundRests step greedy fuel)
    (if greedy then more ++ [cs] else cs :: more).eraseDups

/-- What is left of a text of `size` characters behind the matches, the preferred one first. -/
def rests (size : Nat) : Pattern → List Char → List (List Char)
  | empty, cs => [cs]
  | char _, [] => []
  | char set, c :: cs => if set.holds c then [cs] else []
  | start, cs => if cs.length = size then [cs] else []
  | finish, cs => if cs = [] then [cs] else []
  | group _ p, cs => rests size p cs
  | seq a b, cs => ((rests size a cs).flatMap (rests size b)).eraseDups
  | alt a b, cs => (rests size a cs ++ rests size b cs).eraseDups
  | star greedy p, cs => roundRests (rests size p) greedy cs.length cs
  | plus greedy p, cs =>
    ((rests size p cs).flatMap fun rest => roundRests (rests size p) greedy rest.length rest).eraseDups

/-- Does the preferred match take the whole text? -/
def accepts (p : Pattern) (s : String) : Bool :=
  (p.rests s.length s.toList).head? = some []

/-! ## Reading -/

/-- Any character that does not end a line. -/
def inLine : Pattern := char (.complement (.single '\n'))

/-- What is spelt behind a backslash: the start or the end of the text, or a character. -/
def readEscape : List Char → Option (Pattern × List Char)
  | 'A' :: cs => some (start, cs)
  | 'z' :: cs => some (finish, cs)
  | cs => (readEscaped cs).map fun (c, rest) => (char (.single c), rest)

/-- The pattern with the repetitions behind it. -/
def readRounds (p : Pattern) : List Char → Pattern × List Char
  | '*' :: '?' :: rest => readRounds (star false p) rest
  | '+' :: '?' :: rest => readRounds (plus false p) rest
  | '?' :: '?' :: rest => readRounds (alt empty p) rest
  | '*' :: rest => readRounds (star true p) rest
  | '+' :: rest => readRounds (plus true p) rest
  | '?' :: rest => readRounds (alt p empty) rest
  | rest => (p, rest)

/-- A name of a group: a letter or an underscore, and then also digits, points and brackets. -/
def isGroupName (cs : List Char) : Bool :=
  match cs with
  | [] => false
  | c :: cs => (c = '_' || isLetterOrDigit c && !c.isDigit) &&
      cs.all fun c => "_.[]".toList.contains c || isLetterOrDigit c

/-- The name of a group in front of `>`. -/
def readGroupName (cs : List Char) : Option (String × List Char) :=
  match splitFirst '>' cs with
  | some (name, rest) => if isGroupName name then some (String.ofList name, rest) else none
  | none => none

/-- The name of a group behind its opening parenthesis, which may be empty. -/
def readGroupMark : List Char → Option (String × List Char)
  | '?' :: ':' :: rest => some ("", rest)
  | '?' :: '<' :: rest => readGroupName rest
  | '?' :: 'P' :: '<' :: rest => readGroupName rest
  | '?' :: _ => none
  | rest => some ("", rest)

mutual

/-- Alternatives, up to a closing parenthesis or the end. -/
def readAlternatives : Nat → List Char → Option (Pattern × List Char)
  | 0, _ => none
  | fuel + 1, cs => do
    let (p, rest) ← readSequence fuel cs
    match rest with
    | '|' :: rest =>
      let (q, rest) ← readAlternatives fuel rest
      return (alt p q, rest)
    | rest => return (p, rest)

/-- Patterns one behind the other. -/
def readSequence : Nat → List Char → Option (Pattern × List Char)
  | 0, _ => none
  | fuel + 1, cs =>
    match cs with
    | [] => some (empty, [])
    | '|' :: rest => some (empty, '|' :: rest)
    | ')' :: rest => some (empty, ')' :: rest)
    | cs => do
      let (p, rest) ← readAtom fuel cs
      let (p, rest) := readRounds p rest
      let (q, rest) ← readSequence fuel rest
      return (seq p q, rest)

/-- One pattern without repetitions. -/
def readAtom : Nat → List Char → Option (Pattern × List Char)
  | 0, _ => none
  | fuel + 1, cs =>
    match cs with
    | [] => none
    | '(' :: rest => do
      let (name, rest) ← readGroupMark rest
      let (p, rest) ← readAlternatives fuel rest
      match rest with
      | ')' :: rest => return (group name p, rest)
      | _ => none
    | '[' :: rest => do
      let (set, rest) ← CharSet.read rest
      return (char set, rest)
    | '\\' :: rest => readEscape rest
    | '.' :: rest => some (inLine, rest)
    | '^' :: rest => some (start, rest)
    | '$' :: rest => some (finish, rest)
    | c :: rest =>
      if ['*', '+', '?', '\x7b'].contains c then none else some (char (.single c), rest)

end

/-- The names of the groups. -/
def names : Pattern → List String
  | group name p => if name = "" then p.names else name :: p.names
  | seq a b => a.names ++ b.names
  | alt a b => a.names ++ b.names
  | star _ p => p.names
  | plus _ p => p.names
  | _ => []

/-- The pattern of a text; no two groups have the same name. -/
def parse? (s : String) : Option Pattern :=
  match readAlternatives (4 * s.length + 4) s.toList with
  | some (p, []) => if p.names.Nodup then some p else none
  | _ => none

end Pattern

end AuditTrail
