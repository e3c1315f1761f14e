import AuditTrail.Error
import AuditTrail.Sql.Database
import AuditTrail.Text.Blank

/-!
# Files

* `Disk`: directories, texts and databases by the names that lead to them, and the directory that
  relative paths start from.
* `Disk.locate`: the names that a path leads to, one part after the other. Each part is looked up
  in a directory, so a path fails at the first part that does not follow a directory.
* `Disk.find`, `Disk.readText`: what stands there.
* `Disk.makeDirectory`, `Disk.createDirectories`: one directory, and all directories on a path.
* `Disk.openText`: a text file that more lines can be added to.
* `parent?`: the path of the directory that holds a path.
-/

namespace AuditTrail

open Text

/-! ## Paths -/

/-- The text of a path in parts. -/
def pathPieces (path : String) : List String := (splitAll '/' path.toList).map String.ofList

/-- Does a part lead nowhere else? -/
def isIdlePiece (piece : String) : Bool := piece = "" || piece = "."

/-- The names on a path, with `..` leading back from the name before. -/
def pathNames (start : List String) (path : String) : List String :=
  (pathPieces path).foldl (fun names piece =>
    if isIdlePiece piece then names else if piece = ".." then names.dropLast else names ++ [piece])
    start

/-- The parts without idle ones at the end; the first part stays. -/
def trimPieces (pieces : List String) : List String :=
  match pieces with
  | [] => []
  | first :: rest => first :: (rest.reverse.dropWhile isIdlePiece).reverse

/-- The path of the directory that holds the path, unless it is the starting point. -/
def parent? (path : String) : Option String :=
  match trimPieces (trimPieces (pathPieces path)).dropLast with
  | [] => none
  | [""] => some "/"
  | pieces => some (joinWith "/" pieces)

/-- The path and the directories that hold it, the innermost first. -/
def ancestors : Nat → String → List String
  | 0, path => [path]
  | fuel + 1, path =>
    match parent? path with
    | some above => path :: ancestors fuel above
    | none => [path]

/-- The parts in front of the last one, and the last one; slashes at the end are passed over. -/
def splitLastPiece (path : String) : Option (List String × String) :=
  match (pathPieces path).reverse.dropWhile (· = "") with
  | [] => none
  | last :: front => some (front.reverse, last)

/-- Does the path end as one of a directory? -/
def endsInSlash (path : String) : Bool := path.toList.getLast? = some '/'

/-- The greatest number of bytes of a path. -/
def maxPath : Nat := 4095

/-- The greatest number of bytes of a name. -/
def maxName : Nat := 255

/-- Refuses the texts that cannot be paths at all. -/
def checkPath (path : String) : Except FileFault Unit :=
  if path.toList.contains (Char.ofNat 0) then .error .zeroByte
  else if path = "" then .error .missing
  else if maxPath < path.utf8ByteSize then .error .nameTooLong
  else .ok ()

/-! ## Directories and files -/

/-- A file or a directory. -/
inductive Node
  | directory
  | text (content : String)
  | database (db : Sql.Database)
  deriving Inhabited

/-- Files and directories by the names that lead to them; the topmost directory is always there. -/
structure Disk where
  nodes : List (List String × Node)
  here : List String

instance : Inhabited Disk := ⟨⟨[], []⟩⟩

namespace Disk

/-- The disk without files. -/
def empty : Disk := ⟨[], []⟩

/-- What stands at the names. -/
def lookup (d : Disk) (names : List String) : Option Node :=
  if names = [] then some .directory else d.nodes.lookup names

/-- The disk with something else at the names. -/
def set (d : Disk) (names : List String) (node : Node) : Disk :=
  { d with nodes := (names, node) :: d.nodes.filter fun n => n.1 ≠ names }

/-- The names that a path starts from. -/
def start (d : Disk) (path : String) : List String :=
  if path.toList.head? = some '/' then [] else d.here

/-- The names that a part of a path leads to from a directory. -/
def step (d : Disk) (spot : List String) (piece : String) : Except FileFault (List String) :=
  match d.lookup spot with
  | none => .error .missing
  | some .directory =>
    if isIdlePiece piece then .ok spot
    else if piece = ".." then .ok spot.dropLast
    else if maxName < piece.utf8ByteSize then .error .nameTooLong
    else .ok (spot ++ [piece])
  | some _ => .error .notDirectory

/-- The names that the parts of a path lead to. -/
def walk (d : Disk) : List String → List String → Except FileFault (List String)
  | spot, [] => .ok spot
  | spot, piece :: pieces =>
    match d.step spot piece with
    | .ok spot => walk d spot pieces
    | .error e => .error e

/-- The names that a path leads to, whether something stands there or not. -/
def locate (d : Disk) (path : String) : Except FileFault (List String) := do
  checkPath path
  d.walk (d.start path) (pathPieces path)

/-- What a path leads to. -/
def find (d : Disk) (path : String) : Except FileFault Node := do
  match d.lookup (← d.locate path) with
  | some node => return node
  | none => throw .missing

/-- Does the path lead to something? -/
def exists? (d : Disk) (path : String) : Bool :=
  match d.find path with
  | .ok _ => true
  | .error _ => false

/-- Does the path lead to a directory? -/
def isDirectory (d : Disk) (path : String) : Bool :=
  match d.find path with
  | .ok .directory => true
  | _ => false

/-- The text of a file. -/
def readText (d : Disk) (path : String) : Except FileFault String := do
  match ← d.find path with
  | .directory => throw .isDirectory
  | .text s => return s
  | .database _ => throw .notText

/-! ## Changes -/

/-- The disk with a new directory at the path. -/
def makeDirectory (d : Disk) (path : String) : Except FileFault Disk := do
  checkPath path
  match splitLastPiece path with
  | none => throw .exists
  | some (front, last) =>
    let names ← d.step (← d.walk (d.start path) front) last
    if last = "." ∨ last = ".." ∨ (d.lookup names).isSome then throw .exists
    return d.set names .directory

/-- The disk with the first of the directories, behind those that hold it. What was created before
a failure stays. -/
def makeAll (d : Disk) : List String → Except FileFault Unit × Disk
  | [] => (.ok (), d)
  | path :: above =>
    let settled (d : Disk) (e : FileFault) : Except FileFault Unit × Disk :=
      if d.isDirectory path then (.ok (), d) else (.error e, d)
    match d.makeDirectory path with
    | .ok d => (.ok (), d)
    | .error .missing =>
      match makeAll d above with
      | (.error e, d) => (.error e, d)
      | (.ok (), d) =>
        match d.makeDirectory path with
        | .ok d => (.ok (), d)
        | .error e => settled d e
    | .error e => settled d e

/-- The disk with all directories on the path. -/
def createDirectories (d : Disk) (path : String) : Except FileFault Unit × Disk :=
  d.makeAll (ancestors path.length path)

/-- The disk with all directories that hold the path. -/
def createAbove (d : Disk) (path : String) : Except FileFault Unit × Disk :=
  match parent? path with
  | some parent => d.createDirectories parent
  | none => (.ok (), d)

/-- The names of a text file that more can be added to, which is created if it is not there. -/
def openText (d : Disk) (path : String) : Except FileFault (List String × Disk) := do
  checkPath path
  match splitLastPiece path with
  | none => throw .isDirectory
  | some (front, last) =>
    let spot ← d.walk (d.start path) front
    if endsInSlash path ∨ last = "." ∨ last = ".." then
      let _ ← d.step spot "."
      throw .isDirectory
    let names ← d.step spot last
    match d.lookup names with
    | none => return (names, d.set names (.text ""))
    | some .directory => throw .isDirectory
    | some _ => return (names, d)

/-- The disk with more text in a file. A database does not notice what stands behind it. -/
def addText (d : Disk) (names : List String) (more : String) : Disk :=
  match d.lookup names with
  | some (.text old) => if more = "" then d else d.set names (.text (old ++ more))
  | _ => d

/-- The disk with a text file and the directories that hold it. -/
def writeText (d : Disk) (path content : String) : Disk :=
  let d := (d.createAbove path).2
  match d.locate path with
  | .ok names => d.set names (.text content)
  | .error _ => d

end Disk

end AuditTrail
