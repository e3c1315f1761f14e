import AuditTrail.Text.Digits

/-!
# Sets of characters

* `CharSet`: ranges of characters, and what is made of sets; `CharSet.holds` is membership.
* `CharSet.named?`: the sets that have names, such as `alpha`.
* `readEscaped`: the character that is spelt behind a backslash.
* `CharSet.read`: the set that is spelt behind an opening bracket: characters, ranges, named sets
  and sets in brackets, with `&&`, `--` and `~~` between sets.
-/

namespace AuditTrail.Text

/-- A set of characters. -/
inductive CharSet
  | empty
  | range (first last : Char)
  | either (s t : CharSet)
  | both (s t : CharSet)
  | without (s t : CharSet)
  | oneOf (s t : CharSet)
  | complement (s : CharSet)
  deriving DecidableEq, Repr

/-! ## Characters behind a backslash -/

/-- The character with a number of `width` hexadecimal digits. -/
def readCode (width : Nat) (cs : List Char) : Option (Char × List Char) := do
  let digits ← (cs.take width).mapM hexDigit?
  let n := digits.foldl (fun n d => 16 * n + d) 0
  if digits.length = width ∧ n.isValidChar then some (Char.ofNat n, cs.drop width) else none

/-- A control character by its letter, or a mark that stands for itself. -/
def escaped? (c : Char) : Option Char :=
  match c with
  | 'n' => some '\n'
  | 't' => some '\t'
  | 'r' => some '\r'
  | 'a' => some '\x07'
  | 'f' => some '\x0c'
  | 'v' => some '\x0b'
  | c => if c.toNat < 0x80 ∧ ¬ c.isAlphanum ∧ c ≠ '<' ∧ c ≠ '>' then some c else none

/-- The character that is spelt behind a backslash, and the text behind it. -/
def readEscaped : List Char → Option (Char × List Char)
  | [] => none
  | 'x' :: cs => readCode 2 cs
  | 'u' :: cs => readCode 4 cs
  | 'U' :: cs => readCode 8 cs
  | c :: cs => (escaped? c).map fun c => (c, cs)

namespace CharSet

/-- Is the character in the set? -/
def holds : CharSet → Char → Bool
  | empty, _ => false
  | range a b, c => a ≤ c && c ≤ b
  | either s t, c => s.holds c || t.holds c
  | both s t, c => s.holds c && t.holds c
  | without s t, c => s.holds c && !t.holds c
  | oneOf s t, c => s.holds c != t.holds c
  | complement s, c => !s.holds c

/-- The set of one character. -/
def single (c : Char) : CharSet := range c c

/-- The characters of some ranges. -/
def ofRanges (ranges : List (Char × Char)) : CharSet :=
  ranges.foldr (fun (a, b) s => either (range a b) s) empty

/-- The sets that have names. -/
def named? (name : String) : Option CharSet :=
  let digits := ('0', '9')
  let capitals := ('A', 'Z')
  let small := ('a', 'z')
  match name with
  | "alnum" => some (ofRanges [digits, capitals, small])
  | "alpha" => some (ofRanges [capitals, small])
  | "ascii" => some (ofRanges [('\x00', '\x7f')])
  | "blank" => some (ofRanges [('\t', '\t'), (' ', ' ')])
  | "cntrl" => some (ofRanges [('\x00', '\x1f'), ('\x7f', '\x7f')])
  | "digit" => some (ofRanges [digits])
  | "graph" => some (ofRanges [('!', '~')])
  | "lower" => some (ofRanges [small])
  | "print" => some (ofRanges [(' ', '~')])
  | "punct" => some (ofRanges [('!', '/'), (':', '@'), ('[', '\x60'), ('\x7b', '~')])
  | "space" => some (ofRanges [('\t', '\r'), (' ', ' ')])
  | "upper" => some (ofRanges [capitals])
  | "word" => some (ofRanges [digits, capitals, ('_', '_'), small])
  | "xdigit" => some (ofRanges [digits, ('A', 'F'), ('a', 'f')])
  | _ => none

/-! ## Reading -/

/-- One character of a set. -/
def readMember : List Char → Option (Char × List Char)
  | [] => none
  | '\\' :: cs => readEscaped cs
  | c :: cs => some (c, cs)

/-- One character, or a range of which it is the first. -/
def readRange (cs : List Char) : Option (CharSet × List Char) := do
  let (a, rest) ← readMember cs
  match rest with
  | '-' :: c :: more =>
    if c = ']' ∨ c = '-' then return (single a, rest)
    let (b, rest) ← readMember (c :: more)
    if a ≤ b then return (range a b, rest) else none
  | _ => return (single a, rest)

/-- A named set behind its opening bracket, as in `[:alpha:]` and `[:^alpha:]`. -/
def readNamed : List Char → Option (CharSet × List Char)
  | ':' :: cs =>
    let (negated, cs) :=
      match cs with
      | '^' :: rest => (true, rest)
      | cs => (false, cs)
    match cs.dropWhile (· ≠ ':') with
    | ':' :: ']' :: rest =>
      (named? (String.ofList (cs.takeWhile (· ≠ ':')))).map fun s =>
        (if negated then complement s else s, rest)
    | _ => none
  | _ => none

/-- The marks that stand for themselves right behind an opening bracket. -/
def takeLeading (cs : List Char) : CharSet × List Char :=
  match cs with
  | '-' :: _ => (single '-', cs.dropWhile (· = '-'))
  | ']' :: rest => (single ']', rest)
  | _ => (empty, cs)

mutual

/-- The set behind its opening bracket. -/
def readBracketed : Nat → List Char → Option (CharSet × List Char)
  | 0, _ => none
  | fuel + 1, cs =>
    match cs with
    | '^' :: rest =>
      let (s, rest) := takeLeading rest
      (readMembers fuel id s rest).map fun (s, rest) => (complement s, rest)
    | cs =>
      let (s, rest) := takeLeading cs
      readMembers fuel id s rest

/-- The members up to the closing bracket, after those of `s`; `join` puts them together with the
sets in front of a mark. -/
def readMembers : Nat → (CharSet → CharSet) → CharSet → List Char → Option (CharSet × List Char)
  | 0, _, _, _ => none
  | fuel + 1, join, s, cs =>
    match cs with
    | [] => none
    | ']' :: rest => some (join s, rest)
    | '&' :: '&' :: rest => readMembers fuel (both (join s)) empty rest
    | '-' :: '-' :: rest => readMembers fuel (without (join s)) empty rest
    | '~' :: '~' :: rest => readMembers fuel (oneOf (join s)) empty rest
    | '[' :: rest =>
      match readNamed rest with
      | some (t, rest) => readMembers fuel join (either s t) rest
      | none => do
        let (t, rest) ← readBracketed fuel rest
        readMembers fuel join (either s t) rest
    | cs => do
      let (t, rest) ← readRange cs
      readMembers fuel join (either s t) rest

end

/-- The set behind its opening bracket, and the text behind it. -/
def read (cs : List Char) : Option (CharSet × List Char) := readBracketed (2 * cs.length + 2) cs

end CharSet

end AuditTrail.Text
