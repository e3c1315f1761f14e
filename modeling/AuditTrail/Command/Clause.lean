import AuditTrail.Filter

/-!
# Clauses

A clause is a filter as a person writes it: a name, `=`, and candidates between commas. A payload
is taken whole. Users and objects are one JSON value, or a JSON array of candidates, if the text is
JSON, and else texts between commas.

* `CommandFault`: why a command fails, and `CommandFault.message`, the one wording of each.
* `Filter.ofClause`: the filter of a clause.
* `Filter.ofClauses`: the filters of all clauses, or the fault of the first that has one.
-/

namespace AuditTrail

/-- Why a command fails. -/
inductive CommandFault
  | log (e : Error)
  | notClause (clause : String)
  | unknownFilter (name : String) (known : List String)
  | unknownLevel (text : String)
  | malformedInstant (text : String) (fault : InstantFault)
  | unregistered (key : String)
  | malformedContentType (key : String)
  | payload
  | notField (field : String)
  | during (step : String) (fault : CommandFault)
  deriving DecidableEq

namespace CommandFault

/-- The wording of a fault. -/
def message : CommandFault → String
  | .log e => e.message
  | .notClause s => "expected name=value in --where '" ++ s ++ "'"
  | .unknownFilter s known =>
    "unknown filter '" ++ s ++ "' (expected one of: " ++ Text.joinWith ", " known ++ ")"
  | .unknownLevel s => "invalid level '" ++ s ++ "'"
  | .malformedInstant s e => "invalid timestamp '" ++ s ++ "': " ++ e.message
  | .unregistered s => "content type '" ++ s ++ "' is not registered (add it to content_types)"
  | .malformedContentType s => "invalid content type '" ++ s ++ "'"
  | .payload => "--data must be a JSON object: this text is none"
  | .notField s => "expected key=value in --field '" ++ s ++ "'"
  | .during step e => step ++ ": " ++ e.message

end CommandFault

/-! ## Filters of clauses -/

namespace Filter

open Text

/-- The candidates in a JSON value: its items if it is an array, and else itself. -/
def candidates (v : Json) : List Json := v.items?.getD [v]

/-- The texts between commas, without white space around them. -/
def commaSeparated (cs : List Char) : List String :=
  (splitAll ',' cs).map fun piece => String.ofList (trimChars piece)

/-- Reads candidates, and names the clause if that fails. -/
def parseClause (clause : String) (name : FilterName) (texts : List String) :
    Except CommandFault Filter :=
  (parseValues name texts).mapError fun e =>
    .during ("--where '" ++ clause ++ "'") (.log e)

/-- The filter of a name and the text behind the `=`. -/
def ofNamed (clause : String) (name : FilterName) (raw : List Char) : Except CommandFault Filter :=
  match name, Json.parseChars? raw with
  | .data, _ => parseClause clause .data [String.ofList raw]
  | .user, some v => .ok (.user (candidates v))
  | .object, some v => .ok (.object (candidates v))
  | name, _ => parseClause clause name (commaSeparated raw)

/-- The filter of a clause. -/
def ofClause (clause : String) : Except CommandFault Filter :=
  match splitFirst '=' clause.toList with
  | none => .error (.notClause clause)
  | some (name, raw) =>
    match FilterName.parse? (String.ofList name) with
    | none => .error (.unknownFilter (String.ofList name) (FilterName.all.map FilterName.text))
    | some name => ofNamed clause name raw

/-- The filters of clauses. -/
def ofClauses (clauses : List String) : Except CommandFault (List Filter) := clauses.mapM ofClause

end Filter

end AuditTrail
