import AuditTrail.Command.Basic

/-!
# The arguments of the program

* `OptionShape`: an option by its long and short name, whether it has a value, how often it may
  come, and whether anything behind it is read.
* `readArguments`: the options and operands of arguments. Options of a single letter may stand
  together, and a value stands behind an equals sign, right behind a letter, or as the next
  argument.
* `Invocation`: what the arguments of the program ask for; `Invocation.parse?` reads them.
* `Invocation.asksVersion`: do the arguments ask for nothing but the version?
-/

namespace AuditTrail

open Text

/-- An option: its names, whether it has a value, whether it may come more than once, and whether it
ends the reading. -/
structure OptionShape where
  long : String
  short : Option Char
  hasValue : Bool
  repeats : Bool
  isLast : Bool
  deriving DecidableEq, Repr

namespace OptionShape

/-- An option without a value. -/
def flag (long : String) (short : Option Char) : OptionShape := ⟨long, short, false, false, false⟩

/-- An option with a value. -/
def single (long : String) (short : Option Char) : OptionShape := ⟨long, short, true, false, false⟩

/-- An option with a value that may come more than once. -/
def many (long : String) (short : Option Char) : OptionShape := ⟨long, short, true, true, false⟩

/-- An option without a value behind which nothing is read. -/
def last (long : String) (short : Option Char) : OptionShape := ⟨long, short, false, false, true⟩

end OptionShape

/-- The options that were given, with their values, and the operands between them. -/
structure Given where
  options : List (String × String)
  operands : List String
  deriving DecidableEq, Repr, Inhabited

namespace Given

/-- Nothing was given. -/
def none : Given := ⟨[], []⟩

/-- The values of an option. -/
def values (g : Given) (long : String) : List String :=
  (g.options.filter fun o => o.1 = long).map Prod.snd

/-- The value of an option. -/
def value? (g : Given) (long : String) : Option String := g.options.lookup long

/-- Was the option given? -/
def has (g : Given) (long : String) : Bool := (g.value? long).isSome

end Given

/-- Is the argument one that starts an option? -/
def startsOption (arg : String) : Bool :=
  match arg.toList with
  | '-' :: _ :: _ => true
  | _ => false

/-- The next argument as a value, which must not look like an option. -/
def nextValue : List String → Option (String × List String)
  | [] => none
  | arg :: args => if startsOption arg then none else some (arg, args)

/-- An option by its long name, perhaps with a value behind an equals sign. -/
def readLong (shapes : List OptionShape) (cs : List Char) (args : List String) :
    Option (List (String × String) × List String) := do
  let (name, inline) :=
    match splitFirst '=' cs with
    | some (name, value) => (String.ofList name, some (String.ofList value))
    | none => (String.ofList cs, none)
  let shape ← shapes.find? fun s => s.long = name
  match shape.hasValue, inline with
  | true, some value => return ([(shape.long, value)], args)
  | true, none =>
    let (value, args) ← nextValue args
    return ([(shape.long, value)], args)
  | false, some _ => none
  | false, none => return ([(shape.long, "")], if shape.isLast then [] else args)

/-- Options by their letters; the first that has a value takes the rest. -/
def readShort (shapes : List OptionShape) :
    List Char → List String → Option (List (String × String) × List String)
  | [], args => some ([], args)
  | c :: cs, args => do
    let shape ← shapes.find? fun s => s.short = some c
    if shape.hasValue then
      match cs with
      | [] =>
        let (value, args) ← nextValue args
        return ([(shape.long, value)], args)
      | '=' :: value => return ([(shape.long, String.ofList value)], args)
      | value => return ([(shape.long, String.ofList value)], args)
    else if shape.isLast then return ([(shape.long, "")], [])
    else
      let (more, args) ← readShort shapes cs args
      return ((shape.long, "") :: more, args)

/-- The options in front, and the arguments from the first operand on. -/
def readOptions (shapes : List OptionShape) :
    Nat → List String → Option (List (String × String) × List String)
  | 0, _ => none
  | _ + 1, [] => some ([], [])
  | fuel + 1, arg :: args =>
    match arg.toList with
    | ['-', '-'] => some ([], arg :: args)
    | '-' :: '-' :: cs => do
      let (found, args) ← readLong shapes cs args
      let (more, args) ← readOptions shapes fuel args
      return (found ++ more, args)
    | '-' :: c :: cs => do
      let (found, args) ← readShort shapes (c :: cs) args
      let (more, args) ← readOptions shapes fuel args
      return (found ++ more, args)
    | _ => some ([], arg :: args)

/-- All options and operands; behind `--` there are only operands. -/
def readArguments (shapes : List OptionShape) : Nat → List String → Option Given
  | 0, _ => none
  | fuel + 1, args => do
    match ← readOptions shapes (args.length + 1) args with
    | (found, []) => return ⟨found, []⟩
    | (found, "--" :: operands) => return ⟨found, operands⟩
    | (found, operand :: args) =>
      let more ← readArguments shapes fuel args
      return ⟨found ++ more.options, operand :: more.operands⟩

/-- No option came more often than it may. -/
def wellGiven (shapes : List OptionShape) (options : List (String × String)) : Bool :=
  shapes.all fun s => s.repeats || (options.filter fun o => o.1 = s.long).length ≤ 1

/-! ## The program -/

/-- What is asked of the program; a page size may be left to the settings. -/
inductive Request
  | setup
  | record (recording : Recording)
  | «show» (id : String)
  | list (type : Option String) (limit : Option Nat) (offset : Nat)
  | filter (clauses : List String) (limit : Option Nat) (offset : Nat)
  | count (clauses : List String)
  deriving DecidableEq, Repr, Inhabited

namespace Request

/-- The command of a request, by the page size of the settings and the form of output. -/
def command (pageSize : Nat) (json : Bool) : Request → Command
  | .setup => .setup
  | .record r => .record r
  | .show id => .show id json
  | .list type limit offset => .list type ⟨limit.getD pageSize, offset⟩ json
  | .filter clauses limit offset => .filter clauses ⟨limit.getD pageSize, offset⟩ json
  | .count clauses => .count clauses

/-- The options of a request by its name. -/
def shapes? (name : String) : Option (List OptionShape) :=
  match name with
  | "setup" => some []
  | "record" => some [.single "type" (some 't'), .single "level" (some 'l'), .single "id" none,
      .single "timestamp" none, .single "user" (some 'u'), .single "object" (some 'o'),
      .single "content-type" none, .single "data" (some 'd'), .many "field" (some 'f')]
  | "show" => some []
  | "list" => some [.single "type" (some 't'), .single "limit" (some 'n'), .single "offset" none]
  | "filter" => some [.many "where" (some 'w'), .single "limit" (some 'n'), .single "offset" none]
  | "count" => some [.many "where" (some 'w')]
  | _ => none

/-- A natural number of 64 bits. -/
def readNumber (s : String) : Option Nat := (readNatural maxUnsigned s.toList).toOption

/-- A number that may be left out. -/
def readOptional : Option String → Option (Option Nat)
  | none => some none
  | some s => (readNumber s).map some

/-- The recording that was given. -/
def readRecording (g : Given) : Option Recording := do
  return {
    type := ← g.value? "type"
    level := (g.value? "level").getD "info"
    id := g.value? "id"
    timestamp := g.value? "timestamp"
    user := g.value? "user"
    object := g.value? "object"
    contentType := g.value? "content-type"
    data := g.value? "data"
    fields := g.values "field" }

/-- The request of a name with what was given for it. -/
def ofGiven? (name : String) (g : Given) : Option Request := do
  let limit ← readOptional (g.value? "limit")
  let offset ← readOptional (g.value? "offset")
  let offset := offset.getD 0
  match name, g.operands with
  | "setup", [] => return .setup
  | "record", [] => return .record (← readRecording g)
  | "show", [id] => return .show id
  | "list", [] => return .list (g.value? "type") limit offset
  | "filter", [] => if g.has "where" then return .filter (g.values "where") limit offset else none
  | "count", [] => return .count (g.values "where")
  | _, _ => none

end Request

/-- What the arguments of the program ask for. -/
structure Invocation where
  verbose : Bool
  json : Bool
  config : Option String
  request : Request
  deriving DecidableEq, Repr, Inhabited

namespace Invocation

/-- The options that may stand in front of the name of the request and behind it. -/
def common : List OptionShape :=
  [.flag "verbose" (some 'v'), .single "config" (some 'c'), .flag "json" none]

/-- The option that asks for the version. -/
def version : OptionShape := .last "version" (some 'V')

/-- Is there the option that asks for the version in front of the name of the request, behind
options that can be read? -/
def asksVersion (args : List String) : Bool :=
  match readOptions (version :: common) (args.length + 1) args with
  | some (found, _) => wellGiven common found && found.any fun o => o.1 = version.long
  | none => false

/-- What the arguments ask for; of an option given in front of the name and behind it the value
behind it counts. -/
def parse? (args : List String) : Option Invocation := do
  let (before, rest) ← readOptions common (args.length + 1) args
  match rest with
  | [] => none
  | name :: args =>
    let shapes := common ++ (← Request.shapes? name)
    let g ← readArguments shapes (args.length + 1) args
    if wellGiven common before ∧ wellGiven shapes g.options then
      let first : Given := ⟨before, []⟩
      return {
        verbose := first.has "verbose" || g.has "verbose"
        json := first.has "json" || g.has "json"
        config := g.value? "config" <|> first.value? "config"
        request := ← Request.ofGiven? name g }
    else none

end Invocation

end AuditTrail
