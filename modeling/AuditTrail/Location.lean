import AuditTrail.Disk
import AuditTrail.Text.Digits

/-!
# Where a database is

* `Sql.Address`: how a path names a database that nobody else sees, one in memory that is shared by
  its name, or one in a file.
* `Sql.Address.ofPath?`: the address of a path. The empty path and `:memory:` are apart; a path
  behind `file:` is an address with percent signs and options,
  `file://host/path?name=value&...#rest`; every other path is that of a file.
* `Location`: apart from everything, in memory under a name, or in a file on the disk.
* `Location.databaseNames?`: the names that the path of a database leads to. Here `..` takes away
  the name before it, whether there is such a directory or not.
* `Location.open?`: the location of a path, on the disk with the file, which may be new.
-/

namespace AuditTrail.Sql

open Text

/-- What may be done with a file. -/
inductive Access
  | reading
  | writing
  | creating
  deriving DecidableEq, Repr

/-- How a database is named. -/
inductive Address
  | apart
  | shared (name : String)
  | file (path : String) (access : Access)
  deriving DecidableEq, Repr

namespace Address

/-! ## Percent signs -/

/-- The bytes of a text without the percent signs: two digits behind one stand for a byte. The zero
byte ends the text. -/
def unescape : List Char → List UInt8
  | '%' :: a :: b :: cs =>
    match hexDigit? a, hexDigit? b with
    | some x, some y =>
      if 16 * x + y = 0 then [] else UInt8.ofNat (16 * x + y) :: unescape cs
    | _, _ => '%'.toUInt8 :: unescape (a :: b :: cs)
  | c :: cs => (String.singleton c).toUTF8.toList ++ unescape cs
  | [] => []

/-- The text of a part of an address; bytes that are no text stand for the characters of their
numbers. -/
def decode (cs : List Char) : String :=
  let bytes := unescape cs
  (String.fromUTF8? ⟨bytes.toArray⟩).getD (String.ofList (bytes.map fun b => Char.ofNat b.toNat))

/-! ## Options -/

/-- What the options ask for. -/
structure Options where
  access : Access
  inMemory : Bool
  isShared : Bool
  system : Option String
  deriving DecidableEq, Repr

/-- The options when none is given. -/
def Options.usual : Options := ⟨.creating, false, false, none⟩

/-- The options with another access, which must not be wider than before. -/
def Options.withAccess (o : Options) (access : Access) : Option Options :=
  let fits : Bool :=
    match o.access, access with
    | .creating, _ => true
    | .writing, .creating => false
    | .writing, _ => true
    | .reading, a => a = .reading
  if fits || o.inMemory then some { o with access, inMemory := false } else none

/-- The options with one more, whose value may be one that there is not. -/
def Options.add (o : Options) (name value : String) : Option Options :=
  match name, value with
  | "vfs", v => some { o with system := some v }
  | "cache", "shared" => some { o with isShared := true }
  | "cache", "private" => some { o with isShared := false }
  | "cache", _ => none
  | "mode", "ro" => o.withAccess .reading
  | "mode", "rw" => o.withAccess .writing
  | "mode", "rwc" => o.withAccess .creating
  | "mode", "memory" => some { o with inMemory := true }
  | "mode", _ => none
  | _, _ => some o

/-- The name and the value of an option. -/
def splitOption (cs : List Char) : String × String :=
  match splitFirst '=' cs with
  | some (name, value) => (decode name, decode value)
  | none => (decode cs, "")

/-- The options of a text; those without a name count for nothing. -/
def readOptions (cs : List Char) : Option Options :=
  (((splitAll '&' cs).map splitOption).filter fun o => o.1 ≠ "").foldlM
    (fun options (name, value) => options.add name value) .usual

/-! ## Addresses -/

/-- The ways to keep files that there are. -/
def systems : List String := ["unix", "unix-none", "unix-dotfile", "unix-excl", "memdb"]

/-- The text behind the host, which must be this one. -/
def skipHost : List Char → Option (List Char)
  | '/' :: '/' :: cs =>
    let host := cs.takeWhile (· ≠ '/')
    if host = [] ∨ host = "localhost".toList then some (cs.dropWhile (· ≠ '/')) else none
  | cs => some cs

/-- The address of a path with options. -/
def ofOptions? (path : String) (o : Options) : Option Address :=
  if o.system.any fun s => !systems.contains s then none
  else if o.system = some "memdb" then
    some (if path.toList.head? = some '/' then .shared ("memdb:" ++ path) else .apart)
  else if o.inMemory || path = ":memory:" then
    some (if o.isShared && path ≠ "" then .shared path else .apart)
  else if path = "" then some .apart
  else some (.file path o.access)

/-- The address behind `file:`. -/
def ofLocator? (cs : List Char) : Option Address := do
  let cs := (← skipHost cs).takeWhile (· ≠ '#')
  match splitFirst '?' cs with
  | some (path, options) => ofOptions? (decode path) (← readOptions options)
  | none => ofOptions? (decode cs) .usual

/-- The address of a path; none if it can be none. -/
def ofPath? (path : String) : Option Address :=
  if path.toList.contains (Char.ofNat 0) then none
  else
    match path.toList with
    | 'f' :: 'i' :: 'l' :: 'e' :: ':' :: cs => ofLocator? cs
    | _ => if path = "" ∨ path = ":memory:" then some .apart else some (.file path .creating)

end Address

end AuditTrail.Sql

namespace AuditTrail

/-! ## Locations -/

-- Sums start from the zero of the core library.
attribute [local instance (high)] Zero.ofOfNat0

/-- Where a database is. -/
inductive Location
  | apart
  | shared (name : String)
  | file (names : List String) (writable : Bool)
  deriving DecidableEq, Repr

namespace Location

/-- The greatest number of bytes of the path of a database, from the topmost directory on. -/
def maxPath : Nat := 511

/-- May the names lead somewhere, whether something stands there or not? -/
def isPassable (d : Disk) (names : List String) : Bool :=
  ((names.map fun name => name.utf8ByteSize + 1).sum ≤ maxPath) &&
    match d.walk [] names with
    | .ok _ => true
    | .error e => e = .missing

/-- The names that the parts of a path lead to. -/
def follow? (d : Disk) : List String → List String → Option (List String)
  | names, [] => some names
  | names, piece :: pieces =>
    if isIdlePiece piece then follow? d names pieces
    else if piece = ".." then follow? d names.dropLast pieces
    else if isPassable d (names ++ [piece]) then follow? d (names ++ [piece]) pieces
    else none

/-- The names that the path of a database leads to. -/
def databaseNames? (d : Disk) (path : String) : Option (List String) :=
  follow? d (d.start path) (pathPieces path)

/-- The location of the file at the names. -/
def openFile? (d : Disk) (names : List String) (access : Sql.Access) : Option (Location × Disk) :=
  let found := some (file names (access ≠ .reading), d)
  match d.lookup names with
  | some .directory => none
  | some _ => found
  | none =>
    match access, d.lookup names.dropLast with
    | .creating, some .directory => some (file names true, d.set names (.text ""))
    | _, _ => none

/-- The location of a path. -/
def open? (d : Disk) (path : String) : Option (Location × Disk) := do
  match ← Sql.Address.ofPath? path with
  | .apart => return (apart, d)
  | .shared name => return (shared name, d)
  | .file path access => openFile? d (← databaseNames? d path) access

/-- The database at the names; an empty file is an empty database. -/
def databaseAt? (d : Disk) (names : List String) : Option Sql.Database :=
  match d.lookup names with
  | some (.database db) => some db
  | some (.text "") => some .empty
  | _ => none

end Location

end AuditTrail
