import AuditTrail.Logging.FieldTest
import AuditTrail.Text.Word

/-!
# Which log lines are shown

* `Directive`: the lines of one part of the program, or of one job, up to a level.
* `Directive.parse?`: the directive of a text such as `info`, `part=debug` or
  `part[job\x7bname=value\x7d]=warn`.
* `Directive.text`: its spelling.
* `Directive.compare`: the order of directives, the more specific ones first.
* `Directive.covers`, `Directive.coversJob`: is it about a line, about a job?
* `LogFilter`: directives. Of those about lines by themselves the most specific one decides; those
  about a piece of work show more lines inside it.
* `LogFilter.parse?`: the filter of a text, directives between commas.
* `LogFilter.passes`: is a line shown?
-/

namespace AuditTrail

open Text

/-- The lines of the parts whose names start with `target`, inside a job of the name `job` that
passes the test, up to a level; without a level none. -/
structure Directive where
  target : Option String
  job : Option String
  test : Option FieldTest
  level : Option Verbosity
  deriving DecidableEq

namespace Directive

/-! ## Levels -/

/-- The number of a level; nothing is shown at 0. -/
def rankOf (level : Option Verbosity) : Nat :=
  match level with
  | some v => v.rank
  | none => 0

/-- The name of a level. -/
def nameOf (level : Option Verbosity) : String :=
  match level with
  | some v => v.name
  | none => "off"

/-- The level that a word or a digit means; `off` shows nothing. -/
def readLevel (cs : List Char) : Option (Option Verbosity) :=
  match readNatural maxUnsigned cs with
  | .ok n => ([none] ++ Verbosity.all.map some).find? fun v => rankOf v = n
  | .error _ =>
    ([none] ++ Verbosity.all.map some).find? fun v => (nameOf v).toList = cs.map Char.toLower

/-! ## Reading -/

/-- May a directive start with the character? -/
def mayStart (c : Char) : Bool := c = '-' || c = ':' || c = '_' || isLetterOrDigit c

/-- The number of bytes in front of the first of the marks, the mark, and the text behind it. -/
def findMark (marks : List Char) : List Char → Option (Nat × Char × List Char)
  | [] => none
  | c :: cs =>
    if marks.contains c then some (0, c, cs)
    else (findMark marks cs).map fun (n, mark, rest) => (n + c.utf8Size, mark, rest)

/-- The level behind `=`; nothing means every line. -/
def levelAfter? (cs : List Char) : Option (Option Verbosity) :=
  if cs = [] then some (some .trace) else readLevel cs

/-- The directive whose brackets end before `place`, where `rest` is left. -/
def afterBrackets? (whole : List Char) (place : Nat) (rest : List Char) (d : Directive) :
    Option Directive :=
  match rest with
  | [] => some d
  | '=' :: _ => do return { d with level := ← levelAfter? (← dropBytes? (place + 1) whole) }
  | _ => none

/-- The directive behind an opening bracket, which ends at `place`. -/
def inBrackets? (whole : List Char) (place : Nat) (rest : List Char) (target : Option String) :
    Option Directive := do
  let (n, mark, rest) ← findMark [']', '\x7b'] rest
  let name := String.ofList (← slice? place (place + n) whole)
  let place := place + n + 1
  if mark = ']' then afterBrackets? whole place rest ⟨target, some name, none, some .trace⟩
  else
    let (n, _, rest) ← findMark ['\x7d'] rest
    let test ← slice? place (place + n) whole
    let place := place + n + 1
    match rest with
    | ']' :: rest =>
      if test = [] then none
      else
        afterBrackets? whole (place + 1) rest
          ⟨target, if name = "" then none else some name,
            some (← FieldTest.parse? (String.ofList test)), some .trace⟩
    | _ => none

/-- The directive of a text. The marks are looked for in the text without the white space at its
ends, and the pieces between them cut out of the text itself at the same places. -/
def parse? (s : String) : Option Directive :=
  let whole := s.toList
  match trimChars whole with
  | [] => none
  | '[' :: rest => inBrackets? whole 1 rest none
  | first :: rest =>
    if mayStart first then
      match findMark ['=', '['] (first :: rest) with
      | none =>
        match readLevel whole with
        | some level => some ⟨none, none, none, level⟩
        | none => some ⟨some s, none, none, some .trace⟩
      | some (n, mark, rest) => do
        let target := some (String.ofList (← slice? 0 n whole))
        if mark = '=' then
          return ⟨target, none, none, ← levelAfter? (← dropBytes? (n + 1) whole)⟩
        else inBrackets? whole (n + 1) rest target
    else none

/-! ## Writing -/

/-- The work and what it must tell, in brackets. -/
def bracketText (d : Directive) : String :=
  match d.job, d.test with
  | none, none => ""
  | job, test =>
    let inBraces :=
      match test with
      | some t => "\x7b" ++ t.text ++ "\x7d"
      | none => ""
    "[" ++ job.getD "" ++ inBraces ++ "]"

/-- The text of a directive. -/
def text (d : Directive) : String :=
  let about := d.target.getD "" ++ d.bracketText
  if d.target.isSome ∨ d.job.isSome ∨ d.test.isSome then about ++ "=" ++ nameOf d.level
  else nameOf d.level

/-! ## Order -/

/-- The order of directives: the longer name of a part comes first, then what is about work, then
what has a test. -/
def compare (a b : Directive) : Ordering :=
  let byWidth := compareOption Ord.compare (b.target.map String.utf8ByteSize)
    (a.target.map String.utf8ByteSize)
  let byJob := Ord.compare b.job.isSome a.job.isSome
  let byTest := Ord.compare b.test.isSome a.test.isSome
  let byNames := (compareOption Ord.compare b.target a.target).then
    (compareOption Ord.compare b.job a.job)
  (((byWidth.then byJob).then byTest).then byNames).then
    (compareOption FieldTest.compare b.test a.test)

/-- The directives with one more, which replaces one about the same. -/
def insert (d : Directive) : List Directive → List Directive
  | [] => [d]
  | e :: rest =>
    match d.compare e with
    | .eq => d :: rest
    | .lt => d :: e :: rest
    | .gt => e :: insert d rest

/-- The directives in order, where of two about the same the later counts. -/
def sort (ds : List Directive) : List Directive := ds.foldl (fun found d => insert d found) []

/-! ## Meaning -/

/-- Does the name of a part start with the target? -/
def isAbout (d : Directive) (part : String) : Bool :=
  match d.target with
  | some start => start.toList.isPrefixOf part.toList
  | none => true

/-- Does it ask for a value? -/
def asksForValue (d : Directive) : Bool := d.test.any fun t => t.wanted.isSome

/-- Is it about lines by themselves? -/
def isGeneral (d : Directive) : Bool := d.job.isNone && !d.asksForValue

/-- Is it about lines inside a piece of work? -/
def isInside (d : Directive) : Bool := d.job.isSome || d.test.isSome

/-- Is it about the line? -/
def covers (d : Directive) (n : Notice) : Bool :=
  d.isAbout n.target && d.test.all fun t => n.told.contains t.name

/-- Is it about the piece of work? -/
def coversJob (d : Directive) (a : Job) : Bool :=
  d.isAbout a.target && d.job.all (· = a.name) &&
    d.test.all fun t => (a.told.lookup t.name).isSome

/-- The level for lines inside the piece of work: 0 if it is not about the work as it is. -/
def rankInside (d : Directive) (a : Job) : Nat :=
  if d.coversJob a && d.test.all (fun t => t.passes a.told) then rankOf d.level else 0

end Directive

/-! ## Directives together -/

/-- Directives in the order in which they were given. -/
structure LogFilter where
  directives : List Directive
  deriving DecidableEq

namespace LogFilter

/-- The filter of a text; empty parts count for nothing. -/
def parse? (s : String) : Option LogFilter := do
  let parts := (splitAll ',' s.toList).filter (· ≠ [])
  return ⟨← parts.mapM fun cs => Directive.parse? (String.ofList cs)⟩

/-- The filter that shows `info` and what is more important. -/
def usual : LogFilter := ⟨[⟨none, none, none, some .info⟩]⟩

/-- The directives about lines by themselves, the most specific one first. -/
def general (f : LogFilter) : List Directive :=
  Directive.sort (f.directives.filter Directive.isGeneral)

/-- The directives about lines inside a piece of work, the most specific one first. -/
def inside (f : LogFilter) : List Directive :=
  Directive.sort (f.directives.filter Directive.isInside)

/-- The text of a filter: a directive that is about both stands in it twice. -/
def text (f : LogFilter) : String := joinWith "," ((f.general ++ f.inside).map Directive.text)

/-- The greatest level of any directive. One that asks for a value has to look at everything. -/
def broadest (f : LogFilter) : Nat :=
  if f.inside.any Directive.asksForValue then Verbosity.trace.rank
  else (f.directives.map fun d => Directive.rankOf d.level).foldl max 0

/-- The level for lines by themselves. -/
def rankFor (f : LogFilter) (n : Notice) : Nat :=
  match f.general.find? fun d => d.covers n with
  | some d => Directive.rankOf d.level
  | none => 0

/-- The level for lines inside a piece of work, as long as the work itself is shown. -/
def rankInside (f : LogFilter) (a : Job) : Nat :=
  if Job.verbosity.rank ≤ f.broadest then
    (f.inside.map fun d => d.rankInside a).foldl max 0
  else 0

/-- Is the line shown? -/
def passes (f : LogFilter) (n : Notice) : Bool :=
  n.verbosity.rank ≤ f.broadest &&
    (n.verbosity.rank ≤ f.rankFor n || n.job?.any fun a => n.verbosity.rank ≤ f.rankInside a)

end LogFilter

end AuditTrail
