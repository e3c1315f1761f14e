import AuditTrail.Filter
import AuditTrail.Log.Batch

/-!
# The log in memory

Entries by their identifiers, and an index of the identifiers in the order of reading: the newest
first, and of entries at the same instant the one stored last first.

* `MemoryLog.insert`: one more entry; an identifier that is taken is refused.
* `MemoryLog.retrieve`: the entry of an identifier.
* `MemoryLog.scan`: a page of the entries that a predicate selects; `retrieveMany` takes all,
  `retrieveTyped` those of a type, `select` those that filters match.
* `MemoryLog.countFilter`, `MemoryLog.count`: how many entries there are.
-/

namespace AuditTrail

/-- The place of an entry in the order of reading. -/
structure OrderKey where
  instant : Instant
  sequence : Nat
  deriving DecidableEq

namespace OrderKey

/-- Is the first key read before the second? -/
def newer (a b : OrderKey) : Bool :=
  !(a.instant.le b.instant) || (a.instant = b.instant && b.sequence < a.sequence)

end OrderKey

/-- Entries in memory with the index of their order. -/
structure MemoryLog where
  entries : List (EntryId × Entry)
  index : List (OrderKey × EntryId)
  next : Nat

namespace MemoryLog

/-- The log without entries. -/
def empty : MemoryLog := ⟨[], [], 0⟩

instance : Inhabited MemoryLog := ⟨empty⟩

/-- The entry of an identifier. -/
def find? (log : MemoryLog) (id : EntryId) : Option Entry := log.entries.lookup id

/-- The index with one more key, in front of all that are read later. -/
def place (key : OrderKey) (id : EntryId) : List (OrderKey × EntryId) → List (OrderKey × EntryId)
  | [] => [(key, id)]
  | (k, i) :: rest =>
    if key.newer k then (key, id) :: (k, i) :: rest else (k, i) :: place key id rest

/-- The log with one more entry, unless its identifier is taken. -/
def insert (log : MemoryLog) (e : Entry) : Except Error MemoryLog :=
  if (log.find? e.id).isSome then .error (.alreadyExists e.id)
  else
    .ok {
      entries := (e.id, e) :: log.entries
      index := place ⟨e.timestamp, log.next⟩ e.id log.index
      next := log.next + 1 }

/-- The entries in the order of reading. -/
def ordered (log : MemoryLog) : List Entry := log.index.filterMap fun (_, id) => log.find? id

/-- The entry of an identifier, or that there is none. -/
def retrieve (log : MemoryLog) (id : EntryId) : Except Error Entry :=
  match log.find? id with
  | some e => .ok e
  | none => .error (.notFound id)

/-- A page of the entries that satisfy the predicate. -/
def scan (log : MemoryLog) (p : Entry → Bool) (amount offset : Nat) : List Entry :=
  Log.page amount offset (log.ordered.filter p)

/-- A page of all entries. -/
def retrieveMany (log : MemoryLog) (amount offset : Nat) : List Entry :=
  log.scan (fun _ => true) amount offset

/-- A page of the entries of one type. -/
def retrieveTyped (log : MemoryLog) (type : String) (amount offset : Nat) : List Entry :=
  log.scan (fun e => e.type = type) amount offset

/-- A page of the entries that all filters match. -/
def select (log : MemoryLog) (filters : List Filter) (amount offset : Nat) : List Entry :=
  log.scan (Filter.matchesAll filters) amount offset

/-- The number of entries that all filters match. -/
def countFilter (log : MemoryLog) (filters : List Filter) : Nat :=
  (log.ordered.filter (Filter.matchesAll filters)).length

/-- The number of entries. -/
def count (log : MemoryLog) : Nat := log.entries.length

end MemoryLog

end AuditTrail
