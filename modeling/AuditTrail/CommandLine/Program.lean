import AuditTrail.CommandLine.Arguments
import AuditTrail.CommandLine.Environment
import AuditTrail.Config.Files
import AuditTrail.Logging.Setup

/-!
# The program

`Program.run` carries out one run of the program: it reads the environment, the arguments and the
settings, starts logging, opens the log and carries out the command. An `Outcome` is what the run
shows of itself: an exit code, lines, and a complaint if it fails.
-/

namespace AuditTrail

/-- What a run of the program shows of itself. Its remarks are the log lines for which there is no
file. -/
structure Outcome where
  code : Nat
  lines : List String
  remarks : List String
  complaint : Option String
  deriving DecidableEq, Repr, Inhabited

namespace Program

/-- A run that failed. -/
def failed (complaint : String) : Outcome := ⟨1, [], [], some complaint⟩

/-- A run that was asked for nothing that there is. -/
def misused : Outcome := ⟨2, [], [], none⟩

/-- A run that was asked for the version: the name of the program and its version. -/
def introduced : Outcome := ⟨0, ["auditlog 0.3.0"], [], none⟩

/-- The variable that names a file of settings. -/
def configVariable : String := "AUDITLOG_CONFIG_PATH"

/-- The variable that holds a filter of log lines. -/
def filterVariable : String := "RUST_LOG"

/-- The settings: those of a named file or of a usual file, and those of the environment on top. -/
def loadConfig (environment : Environment) (path : Option String) (s : System) :
    Except Error Config × System :=
  let lookup (name : String) : Option String := environment.lookup name
  let places := Places.ofEnvironment lookup
  let base := Config.lasting places.tableFile
  match path.filter fun p => !Text.isAllBlank p with
  | some path => ((base.mergeFile s.disk path).bind fun c => c.override lookup, s)
  | none =>
    let (c, s) := base.mergeUsualFile places s
    (c.override lookup, s)

/-- Opens the log of the settings and carries out a command. -/
def perform (c : Config) (command : Command) (s : System) :
    Except CommandFault (List String) × System :=
  match Registry.ofConfig c s with
  | (.error e, s) => (.error (.log e), s)
  | (.ok registry, s) =>
    let (r, session) := (Command.run command).run ⟨registry, s⟩
    (r, session.system)

/-- What a command shows of itself. -/
def shown : Except CommandFault (List String) → Outcome
  | .ok lines => ⟨0, lines, [], none⟩
  | .error e => failed ("Error: " ++ e.message)

/-- A run with its settings. Log lines for which there is no file are its remarks. -/
def runConfigured (environment : Environment) (i : Invocation) (c : Config) (s : System) :
    Outcome × System :=
  let logging := Logging.ofSettings c.log i.verbose (environment.lookup filterVariable)
  match logging.start false s.disk with
  | (.error e, disk) => (failed ("Failed to initialize logging: " ++ e.message), s.withDisk disk)
  | (.ok journal, disk) =>
    let (r, s') := perform c (i.request.command c.pageSize i.json)
      { s.withDisk disk with journal := some journal }
    let s' :=
      match r with
      | .ok _ => s'
      | .error _ => s'.note .commandFailed
    let lines := journal.lines s'.clock.read (s'.notices.drop s.notices.length)
    ({ shown r with remarks := if journal.file.isNone then lines else [] }, s')

/-- The system behind a run: nothing is open any more. -/
def ended (s : System) : System := { s.keepShared none with journal := none }

/-- A run of the program. -/
def run (environment : Environment) (args : List String) (s : System) : Outcome × System :=
  let environment := environment.withFile s.disk
  match Invocation.parse? args with
  | none => (if Invocation.asksVersion args then introduced else misused, s)
  | some i =>
    match loadConfig environment (i.config <|> environment.lookup configVariable) s with
    | (.error e, s) => (failed ("Failed to load configuration: " ++ e.message), s)
    | (.ok c, s) =>
      let (outcome, s) := runConfigured environment i c s
      (outcome, ended s)

end Program

end AuditTrail
