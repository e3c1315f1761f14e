import AuditTrail.Config.Basic
import AuditTrail.Disk
import AuditTrail.Instant.Text
import AuditTrail.Json.Text
import AuditTrail.Logging.Filter

/-!
# Logging

* `Logging`: which lines are shown, how they look, and the file that they go to.
* `Logging.ofSettings`: logging as the settings, a request for more lines and a filter from the
  environment want it.
* `Logging.start`: opens the file. Logging starts only once.
* `Journal`: logging at work; `Journal.write` adds the line of a notice to its file.
-/

namespace AuditTrail

/-- Which lines are shown, how they look, and the file that they go to. -/
structure Logging where
  filter : LogFilter
  format : LogFormat
  file : Option String
  deriving DecidableEq

/-- Logging at work: the file that is open has the names. -/
structure Journal where
  filter : LogFilter
  format : LogFormat
  file : Option (List String)
  deriving DecidableEq

namespace Logging

/-- Logging by the settings. A filter from the environment counts first, then a request for more
lines, then the level of the settings; a text that is no filter is passed over. -/
def ofSettings (settings : LogSettings) (verbose : Bool) (fromEnvironment : Option String) :
    Logging where
  filter :=
    let level := if verbose then "debug" else settings.level
    ((fromEnvironment.bind LogFilter.parse?) <|> LogFilter.parse? level).getD .usual
  format := settings.format
  file := settings.file

/-- Opens a file for more lines, behind the directories that hold it. What was created before a
failure stays. -/
def openFile (path : String) (disk : Disk) : Except Error (List String) × Disk :=
  match disk.createAbove path with
  | (.error e, disk) => (.error (.operationFailed .createLogDirectory (.file e)), disk)
  | (.ok (), disk) =>
    match disk.openText path with
    | .error e => (.error (.operationFailed .openLog (.fileAt path e)), disk)
    | .ok (names, disk) => (.ok names, disk)

/-- Opens the file, if there is to be one. -/
def openAny (l : Logging) (disk : Disk) : Except Error (Option (List String)) × Disk :=
  match l.file with
  | none => (.ok none, disk)
  | some path =>
    let (names, disk) := openFile path disk
    (names.map some, disk)

/-- Starts logging, unless it was started before. The file is opened first. -/
def start (l : Logging) (started : Bool) (disk : Disk) : Except Error Journal × Disk :=
  match l.openAny disk with
  | (.error e, disk) => (.error e, disk)
  | (.ok file, disk) =>
    if started then
      (.error (.operationFailed .startLogging (.stated "logging was started before")), disk)
    else (.ok ⟨l.filter, l.format, file⟩, disk)

end Logging

namespace Journal

/-- One line of a log. -/
def line (format : LogFormat) (time : Instant) (n : Notice) : String :=
  let stamp := time.text .zulu
  match format with
  | .pretty => stamp ++ " " ++ n.verbosity.capitals ++ " " ++ n.target ++ ": " ++ n.message
  | .json =>
    let fields := Payload.ofMembers [("message", .string n.message)]
    (Json.object (Payload.ofMembers [("timestamp", .string stamp),
      ("level", .string n.verbosity.capitals), ("target", .string n.target),
      ("fields", .object fields)])).text

/-- The lines of notices that are shown. -/
def lines (j : Journal) (time : Instant) (notices : List Notice) : List String :=
  (notices.filter j.filter.passes).map (line j.format time)

/-- The disk with the line of a notice in the file, if there is one and the notice is shown. -/
def write (j : Journal) (time : Instant) (n : Notice) (disk : Disk) : Disk :=
  match j.file with
  | some names => disk.addText names (String.join ((j.lines time [n]).map (· ++ "\n")))
  | none => disk

end Journal

end AuditTrail
