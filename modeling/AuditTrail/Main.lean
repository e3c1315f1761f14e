import AuditTrail.CommandLine.Surroundings
import AuditTrail.Sql.Archive
import Std.Time.DateTime.Timestamp

/-!
# The command line

Reads the files and variables that a run depends on, carries the run out, prints what it shows, and
writes the files that it changed. Nothing is decided here.
-/

namespace AuditTrail.Main

/-- What really stands at the names: none if there is nothing. -/
def nodeAt? (names : List String) : IO (Option Node) := do
  try
    let path ← IO.FS.realPath (pathOf names)
    if ← path.isDir then return some .directory
    if !(← path.pathExists) then return none
    let content := (String.fromUTF8? (← IO.FS.readBinFile path)).getD "\ufffd"
    match Sql.Database.ofArchive? content with
    | some db => return some (.database db)
    | none => return some (.text content)
  catch _ => return none

/-- The disk with what really stands on the way along the names. -/
def discover (disk : Disk) : List String → List String → IO Disk
  | _, [] => return disk
  | behind, name :: names => do
    let here := behind ++ [name]
    match ← nodeAt? here with
    | none => return disk
    | some node => discover (disk.set here node) here names

/-- The disk with what really stands on the ways along paths. -/
def discoverAll (disk : Disk) (paths : List String) : IO Disk :=
  (paths.flatMap disk.stations).foldlM (fun disk names => discover disk [] names) disk

/-- What a file holds; nothing for a directory. -/
def content? : Node → Option String
  | .directory => none
  | .text s => some s
  | .database db => some db.archive

/-- Creates the directories of the disk that were not there before, and writes the files that hold
something else than before. -/
def writeChanges (before after : Disk) : IO Unit := do
  for (names, node) in after.nodes.reverse do
    match content? node with
    | none =>
      if (before.lookup names).isNone then IO.FS.createDirAll (pathOf names)
    | some s =>
      if (before.lookup names).bind content? ≠ some s then IO.FS.writeFile (pathOf names) s

/-- The variables that are set, of those with the given names. -/
def readVariables (names : List String) : IO Environment :=
  names.filterMapM fun name => do return (← IO.getEnv name).map fun value => (name, value)

/-- The directory that relative paths start from, with what may set variables. -/
def discoverHere : IO Disk := do
  let here := pathNames [] (← IO.currentDir).toString
  (Program.variableFiles (here.length + 1) here).foldlM (fun disk names => discover disk [] names)
    ⟨[], here⟩

/-- The texts of the files that may set variables. -/
def variableTexts (disk : Disk) : List String :=
  disk.nodes.filterMap fun (names, node) =>
    if names.getLast? = some Environment.fileName then content? node else none

/-- The disk with all files that a run may read. -/
def discoverFor (environment : Environment) (i : Invocation) (s : System) : IO Disk := do
  let environment := environment.withFile s.disk
  let disk ← discoverAll s.disk (Program.settingsFiles environment i)
  let path := i.config <|> environment.lookup Program.configVariable
  match Program.loadConfig environment path (s.withDisk disk) with
  | (.ok c, _) => discoverAll disk (Program.workFiles c)
  | (.error _, _) => return disk

/-- The number in bytes. -/
def numberOf (bytes : List UInt8) : Nat := bytes.foldl (fun n b => 256 * n + b.toNat) 0

/-- Prints what a run shows of itself. -/
def present (o : Outcome) : IO Unit := do
  for line in o.lines do IO.println line
  for line in o.remarks ++ o.complaint.toList do IO.eprintln line
  if o.code = 2 then
    IO.eprintln "usage: auditlog [-v] [-c FILE] [--json] setup|record|show|list|filter|count ..."

end AuditTrail.Main

open AuditTrail AuditTrail.Main in
/-- Carries out one run. -/
def main (args : List String) : IO UInt32 := do
  let disk ← discoverHere
  let environment ← readVariables (Program.variableNames (variableTexts disk))
  let micros := (← Std.Time.Timestamp.now).toNanosecondsSinceUnixEpoch.val / 1000
  let start := numberOf (← IO.getRandomBytes 5).toList
  let s := System.start disk (.timeOrdered (micros / 1000).toNat start) (.startingAt micros)
  let disk ←
    match Invocation.parse? args with
    | some i => discoverFor environment i s
    | none => pure disk
  let (o, s) := Program.run environment args (s.withDisk disk)
  present o
  writeChanges disk s.disk
  return o.code.toUInt32
