import AuditTrail.CommandLine.Program

/-!
# What a run looks at

The files and variables that a run of the program depends on, so that nothing else has to be read
before it.

* `Program.variableFiles`: the files that may set variables, from the innermost directory on.
* `Program.variableNames`: the variables, with those that the text of such a file names.
* `Program.settingsFiles`, `Program.workFiles`: the files of settings, and the files that the
  settings name.
* `stations`: the names that a path passes on its way.
-/

namespace AuditTrail

open Text

/-- The path of names from the topmost directory. -/
def pathOf (names : List String) : String := "/" ++ joinWith "/" names

/-- The names that the parts of a path lead to, one after the other. -/
def stations : List String → List String → List (List String)
  | _, [] => []
  | spot, piece :: pieces =>
    let next :=
      if isIdlePiece piece then spot else if piece = ".." then spot.dropLast else spot ++ [piece]
    next :: stations next pieces

/-- The names that a path passes on its way. -/
def Disk.stations (d : Disk) (path : String) : List (List String) :=
  AuditTrail.stations (d.start path) (pathPieces path)

namespace Program

/-- The files that may set variables for a run in a directory. -/
def variableFiles : Nat → List String → List (List String)
  | 0, _ => []
  | fuel + 1, here =>
    (here ++ [Environment.fileName]) ::
      if here = [] then [] else variableFiles fuel here.dropLast

/-- The characters of a variable's name. -/
def isNameChar (c : Char) : Bool := c.isAlphanum || c = '_' || c = '.'

/-- The longest pieces of a text that can be names of variables. -/
def namesIn (cs : List Char) : List String :=
  let pieces := cs.foldr (fun c (pieces : List (List Char)) =>
    match isNameChar c, pieces with
    | true, piece :: more => (c :: piece) :: more
    | true, [] => [[c]]
    | false, pieces => [] :: pieces) [[]]
  (pieces.filter (· ≠ [])).map String.ofList

/-- The variables that a run depends on, where `texts` may set some of them. -/
def variableNames (texts : List String) : List String :=
  ["HOME", "XDG_CONFIG_HOME", "XDG_DATA_HOME", configVariable, filterVariable] ++
    Config.settingNames.map Config.variableName ++ texts.flatMap fun s => namesIn s.toList

/-- The files of settings that a run may read. -/
def settingsFiles (environment : Environment) (i : Invocation) : List String :=
  (i.config <|> environment.lookup configVariable).toList ++
    (Places.ofEnvironment fun name => environment.lookup name).configFiles

/-- The file of a database. -/
def databaseFile? (path : String) : Option String :=
  match Sql.Address.ofPath? path with
  | some (.file path _) => some path
  | _ => none

/-- The files that a run with these settings may read and write. -/
def workFiles (c : Config) : List String :=
  c.log.file.toList ++ c.storage.sqlitePath :: (databaseFile? c.storage.sqlitePath).toList

end Program

end AuditTrail
