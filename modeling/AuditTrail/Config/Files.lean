import AuditTrail.Config.Basic
import AuditTrail.System

/-!
# Settings from files

* `Places`: the directories of a person, from the environment.
* `Config.mergeFile`: the settings with those of a file on top.
* `Config.mergeUsualFile`: the settings with those of the first usable file in the usual places.
-/

namespace AuditTrail

/-- The directories of a person: home, settings and data. -/
structure Places where
  home : String
  config : String
  data : String
  deriving DecidableEq, Repr, Inhabited

namespace Places

/-- The path of a name in a directory. -/
def inside (directory name : String) : String :=
  if endsInSlash directory then directory ++ name else directory ++ "/" ++ name

/-- The directory that a variable names, if it is an absolute path, or else one at home. -/
def named (lookup : String → Option String) (variableName usual : String) : String :=
  match lookup variableName with
  | some path => if path.toList.head? = some '/' then path else usual
  | none => usual

/-- The directories of the environment. -/
def ofEnvironment (lookup : String → Option String) : Places :=
  let home := (lookup "HOME").getD "/"
  { home
    config := named lookup "XDG_CONFIG_HOME" (inside home ".config")
    data := named lookup "XDG_DATA_HOME" (inside home ".local/share") }

/-- The usual file of settings in a directory. -/
def configFile (directory : String) : String := inside directory "auditlog/config.toml"

/-- The usual files of settings in the order in which they are tried. -/
def configFiles (p : Places) : List String :=
  [configFile p.config, configFile (inside p.home ".config")]

/-- The usual file of the table. -/
def tableFile (p : Places) : String := inside p.data "auditlog/audit.db"

end Places

namespace Config

/-- The settings with those of a file on top. -/
def mergeFile (c : Config) (disk : Disk) (path : String) : Except Error Config := do
  let s ← (disk.readText path).mapError fun e => .operationFailed .readConfig (.fileAt path e)
  c.mergeText s

/-- The settings with those of the first file that can be used; the files before it are noted. -/
def mergeFirst (c : Config) : List String → System → Config × System
  | [], s => (c, s)
  | path :: paths, s =>
    if s.disk.exists? path then
      match c.mergeFile s.disk path with
      | .ok c => (c, s)
      | .error _ => mergeFirst c paths (s.note .configIgnored)
    else mergeFirst c paths s

/-- The settings with those of the usual file. -/
def mergeUsualFile (c : Config) (places : Places) (s : System) : Config × System :=
  c.mergeFirst places.configFiles s

end Config

end AuditTrail
