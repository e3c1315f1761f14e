import AuditTrail.Toml.Scalar

/-!
# TOML documents

`Toml.parse?` reads a text as a table. Values are strings, scalars without quotes, arrays and
tables; arrays of tables, which no setting takes, are refused like any fault. Arrays and tables in
braces may stand in each other to a depth of `maxDepth`.

A table says how it came to be, since that decides what may be added to it: a header opens a table
once, dotted keys extend only tables that no header opened, and a table in braces is closed.
-/

namespace AuditTrail.Toml

/-- How a table came to be. -/
inductive Origin
  | header
  | implied
  | dotted
  | closed
  deriving DecidableEq, Repr

/-- A value of a TOML document. -/
inductive Value
  | string (s : String)
  | scalar (s : Scalar)
  | array (items : List Value)
  | table (origin : Origin) (members : List (String × Value))
  deriving Inhabited

/-- The members of a table. -/
abbrev Members := List (String × Value)

/-! ## Building tables -/

/-- The members with another value for a key, in its place or at the end. -/
def setMember (key : String) (value : Value) : Members → Members
  | [] => [(key, value)]
  | (k, v) :: members =>
    if k = key then (k, value) :: members else (k, v) :: setMember key value members

/-- The members with a value at a dotted key, which must not be taken. -/
def assign (value : Value) : List String → Members → Option Members
  | [], _ => none
  | [key], members =>
    if (members.lookup key).isSome then none else some (members ++ [(key, value)])
  | key :: keys, members =>
    match members.lookup key with
    | none => do return members ++ [(key, .table .dotted (← assign value keys []))]
    | some (.table origin inner) => do
      if origin = .dotted ∨ origin = .implied then
        return setMember key (.table origin (← assign value keys inner)) members
      else none
    | some _ => none

/-- The members with the table of a header opened. -/
def openTable : List String → Members → Option Members
  | [], _ => none
  | [key], members =>
    match members.lookup key with
    | none => some (members ++ [(key, .table .header [])])
    | some (.table .implied inner) => some (setMember key (.table .header inner) members)
    | some _ => none
  | key :: keys, members =>
    match members.lookup key with
    | none => do return members ++ [(key, .table .implied (← openTable keys []))]
    | some (.table .closed _) => none
    | some (.table origin inner) => do
      return setMember key (.table origin (← openTable keys inner)) members
    | some _ => none

/-- The members with a value at a dotted key inside the table of a header. -/
def assignIn (value : Value) (keys : List String) : List String → Members → Option Members
  | [], members => assign value keys members
  | part :: path, members =>
    match members.lookup part with
    | some (.table origin inner) => do
      return setMember part (.table origin (← assignIn value keys path inner)) members
    | _ => none

/-! ## Reading -/

/-- How deep arrays and tables in braces may stand in each other. -/
def maxDepth : Nat := 80

mutual

/-- A value and the text behind it, in which arrays and tables may go `depth` deep. Each step uses
up one unit of fuel. -/
def readValue (depth : Nat) : Nat → List Char → Option (Value × List Char)
  | 0, _ => none
  | fuel + 1, cs =>
    match cs, depth with
    | '[' :: rest, depth + 1 => do
      let (items, rest) ← readItems depth fuel (skipLines rest.length rest)
      return (.array items, rest)
    | '\x7b' :: rest, depth + 1 => do
      let (members, rest) ← readMembers depth fuel [] (skipLines rest.length rest)
      return (.table .closed members, rest)
    | cs, _ =>
      if cs.head? = some '"' ∨ cs.head? = some '\'' then do
        let (s, rest) ← readString cs
        return (.string s, rest)
      else do
        let (s, rest) ← readScalar cs
        return (.scalar s, rest)

/-- The items of an array up to its end; a comma may stand behind the last. -/
def readItems (depth : Nat) : Nat → List Char → Option (List Value × List Char)
  | 0, _ => none
  | fuel + 1, cs =>
    match cs with
    | ']' :: rest => some ([], rest)
    | cs => do
      let (item, rest) ← readValue depth fuel cs
      match skipLines rest.length rest with
      | ',' :: rest =>
        let (items, rest) ← readItems depth fuel (skipLines rest.length rest)
        return (item :: items, rest)
      | ']' :: rest => return ([item], rest)
      | _ => none

/-- The members of a table in braces up to its end; a comma may stand behind the last, and lines may
end anywhere but inside a key. -/
def readMembers (depth : Nat) : Nat → Members → List Char → Option (Members × List Char)
  | 0, _, _ => none
  | fuel + 1, members, cs =>
    match cs with
    | '\x7d' :: rest => some (members, rest)
    | cs => do
      let (keys, rest) ← readKey cs.length cs
      match skipLines rest.length rest with
      | '=' :: rest =>
        let (value, rest) ← readValue depth fuel (skipLines rest.length rest)
        let members ← assign value keys members
        match skipLines rest.length rest with
        | ',' :: rest => readMembers depth fuel members (skipLines rest.length rest)
        | '\x7d' :: rest => return (members, rest)
        | _ => none
      | _ => none

end

/-- The members of a document, where `path` is the table of the last header. -/
def readLines : Nat → List String → Members → List Char → Option Members
  | 0, _, _, _ => none
  | fuel + 1, path, members, cs =>
    match skipLines cs.length cs with
    | [] => some members
    | '[' :: rest => do
      let (keys, rest) ← readKey rest.length rest
      match rest with
      | ']' :: rest => readLines fuel keys (← openTable keys members) (← endLine? rest)
      | _ => none
    | rest => do
      let (keys, rest) ← readKey rest.length rest
      match rest with
      | '=' :: rest =>
        let (value, rest) ← readValue maxDepth (2 * rest.length + 2) (skipBlanks rest)
        readLines fuel path (← assignIn value keys path members) (← endLine? rest)
      | _ => none

/-- The members of the table that a text spells; a mark of the byte order may come first. -/
def parse? (s : String) : Option Members :=
  let cs := s.toList
  let cs := if cs.head? = some (Char.ofNat 0xFEFF) then cs.drop 1 else cs
  readLines (cs.length + 1) [] [] cs

end AuditTrail.Toml
