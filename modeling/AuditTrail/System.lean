import AuditTrail.IdSupply
import AuditTrail.Logging.Setup
import AuditTrail.Notice

/-!
# What surrounds a log

`System` holds everything that operations share and change besides the log itself: files, databases
in memory that are shared by name, the supply of identifiers, the clock, what was measured and noted
so far, and the journal that notes go to.
-/

namespace AuditTrail

/-- A clock: what it shows at each reading, and how often it was read. -/
structure Clock where
  shown : Nat → Instant
  readings : Nat

namespace Clock

/-- What the clock shows now. -/
def read (c : Clock) : Instant := c.shown c.readings

/-- The clock after a reading. -/
def tick (c : Clock) : Clock := { c with readings := c.readings + 1 }

/-- The clock that starts at a number of microseconds and moves by one with each reading. -/
def startingAt (micros : Int) : Clock := ⟨fun n => (Instant.ofMicros? (micros + n)).getD .epoch, 0⟩

instance : Inhabited Clock := ⟨startingAt 0⟩

end Clock

/-- Everything that operations share and change besides the log itself. -/
structure System where
  disk : Disk
  shared : List (String × Sql.Database)
  ids : IdSupply
  clock : Clock
  signals : List Signal
  notices : List Notice
  journal : Option Journal
  deriving Inhabited

namespace System

/-- A system in which nothing was measured or noted so far. -/
def start (disk : Disk) (ids : IdSupply) (clock : Clock) : System :=
  ⟨disk, [], ids, clock, [], [], none⟩

/-- The system after a measurement. -/
def measure (s : System) (signal : Signal) : System := { s with signals := s.signals ++ [signal] }

/-- The system after a note, which the journal writes down at once. -/
def note (s : System) (notice : Notice) : System :=
  { s with
    notices := s.notices ++ [notice]
    disk :=
      match s.journal with
      | some j => j.write s.clock.read notice s.disk
      | none => s.disk }

/-- The system after notes. -/
def noteAll (s : System) (notices : List Notice) : System := notices.foldl note s

/-- The system with other files. -/
def withDisk (s : System) (disk : Disk) : System := { s with disk }

/-- The system with another supply of identifiers. -/
def withIds (s : System) (ids : IdSupply) : System := { s with ids }

/-- The system with another database under a name. -/
def share (s : System) (name : String) (db : Sql.Database) : System :=
  { s with shared := (name, db) :: s.shared.filter fun d => d.1 ≠ name }

/-- The system with no other database in memory than that of the name. -/
def keepShared (s : System) (name : Option String) : System :=
  { s with shared := s.shared.filter fun d => some d.1 = name }

end System

end AuditTrail
