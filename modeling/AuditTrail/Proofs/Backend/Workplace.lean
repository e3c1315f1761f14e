import AuditTrail.Proofs.Backend.Keeping
import AuditTrail.Proofs.Disk

/-!
# Workplaces

* `Workplace.state`: the log as the next operation sees it, with the supply of identifiers.
* `Workplace.Sound`: nobody broke off inside the guard, and the file of the log is a database.
* `Workplace.put`: another state in the place of the present one; `Workplace.state_put`: it is
  there.
* `Workplace.state_of_keeps`: what happens around the databases does not change the state.
-/

namespace AuditTrail

namespace Workplace

/-- The log as the next operation sees it. -/
def current (w : Workplace) : Keeping :=
  match w.backend.keeping with
  | .memory log => .memory log
  | .table path location log => .table path location (Backend.load w.system location log)

theorem current_of_memory {w : Workplace} {log : MemoryLog} (h : w.backend.keeping = .memory log) :
    w.current = .memory log := by
  rw [current, h]

theorem current_of_table {w : Workplace} {path : Option String} {location : Location}
    {log : TableLog} (h : w.backend.keeping = .table path location log) :
    w.current = .table path location (Backend.load w.system location log) := by
  rw [current, h]

/-- The log as the next operation sees it, with the supply of identifiers. -/
def state (w : Workplace) : Log.Store Keeping := ⟨w.current, w.system.ids⟩

/-- The workplace with another state of the log. -/
def put (w : Workplace) (s : Log.Store Keeping) : Workplace :=
  match s.log with
  | .memory log => ⟨{ w.backend with keeping := .memory log }, w.system.withIds s.ids⟩
  | .table path location log =>
    ⟨{ w.backend with keeping := .table path location log },
      (Backend.save w.system location log).withIds s.ids⟩

/-- Nobody broke off inside the guard, and the file of the log is a database. -/
structure Sound (w : Workplace) : Prop where
  whole : w.backend.broken = false
  file : ∀ path names writable log, w.backend.keeping = .table path (.file names writable) log →
    ∃ db, w.system.disk.lookup names = some (.database db)

/-- Nobody broke off inside the guard, and the log can be saved: its file may still be made a
database, unless the log cannot be written. -/
structure Placed (w : Workplace) : Prop where
  whole : w.backend.broken = false
  file : ∀ path names writable log, w.backend.keeping = .table path (.file names writable) log →
    names ≠ [] ∧ (writable = false → ∃ db, w.system.disk.lookup names = some (.database db))

end Workplace

namespace Backend

variable {w : Workplace} {types : ContentTypes}

/-! ## Loading and saving -/

theorem load_of_lookup {s : System} {names : List String} {writable : Bool} {log : TableLog}
    {db : Sql.Database} (h : s.disk.lookup names = some (.database db)) :
    load s (.file names writable) log = { log with database := db } := by
  simp [load, Location.databaseAt?, h]

theorem load_load (s : System) (location : Location) (log : TableLog) :
    load s location (load s location log) = load s location log := by
  cases location <;> rfl

theorem save_of_not_writable {s : System} {location : Location} {log : TableLog}
    (h : isWritable location = false) : save s location log = s := by
  cases location with
  | apart => cases h
  | shared name => cases h
  | file names writable =>
    obtain rfl : writable = false := h
    rfl

/-- What is saved is loaded again. -/
theorem load_save {s : System} {location : Location} {log log' : TableLog}
    (hsame : isWritable location = false → log' = load s location log)
    (hfile : ∀ names writable, location = .file names writable → names ≠ []) :
    load (save s location log') location log' = log' := by
  cases hw : isWritable location with
  | false => rw [save_of_not_writable hw, hsame hw, load_load]
  | true =>
    cases location with
    | apart => rfl
    | shared name => simp [load, save, System.share]
    | file names writable =>
      obtain rfl : writable = true := hw
      refine load_of_lookup ?_
      simp [save, System.withDisk, Disk.lookup_set, hfile names true rfl]

/-- Saving changes files and shared databases, and nothing else. -/
theorem exists_save (s : System) (location : Location) (log : TableLog) :
    ∃ disk shared, save s location log = { s with disk, shared } := by
  cases location with
  | apart => exact ⟨_, _, rfl⟩
  | shared name => exact ⟨_, _, rfl⟩
  | file names writable =>
    cases writable with
    | false => exact ⟨_, _, rfl⟩
    | true => exact ⟨_, _, rfl⟩

theorem ids_save (s : System) (location : Location) (log : TableLog) :
    (save s location log).ids = s.ids := by
  obtain ⟨disk, shared, h⟩ := exists_save s location log
  rw [h]

end Backend

namespace Workplace

variable {w : Workplace}

theorem Sound.placed (hw : w.Sound) : w.Placed where
  whole := hw.whole
  file path names writable log hk := by
    obtain ⟨db, hdb⟩ := hw.file path names writable log hk
    exact ⟨Disk.ne_nil_of_lookup hdb nofun, fun _ => ⟨db, hdb⟩⟩

/-- The log may be put in the place of the present one: it is kept at the same place, and a log that
cannot be written is as it was. -/
inductive Fits (w : Workplace) : Keeping → Prop
  | memory {log : MemoryLog} (h : w.backend.keeping = .memory log) (log' : MemoryLog) :
      Fits w (.memory log')
  | table {path : Option String} {location : Location} {log log' : TableLog}
      (h : w.backend.keeping = .table path location log)
      (hsame : Backend.isWritable location = false → log' = Backend.load w.system location log) :
      Fits w (.table path location log')

theorem fits_current (w : Workplace) : w.Fits w.current := by
  unfold current
  cases hk : w.backend.keeping with
  | memory log => exact .memory hk log
  | table path location log => exact .table hk fun _ => rfl

/-- What was put in place is there. -/
theorem state_put (hw : w.Placed) {k : Keeping} (hk : w.Fits k) (ids : IdSupply) :
    (w.put ⟨k, ids⟩).state = ⟨k, ids⟩ := by
  cases hk with
  | memory h log' => rfl
  | table h hsame =>
    have := Backend.load_save hsame fun names writable hl => (hw.file _ names writable _ (hl ▸ h)).1
    simpa [state, current, put, System.withIds, Backend.load] using this

theorem sound_put (hw : w.Placed) {k : Keeping} (hk : w.Fits k) (ids : IdSupply) :
    (w.put ⟨k, ids⟩).Sound := by
  cases hk with
  | memory h log' => exact ⟨hw.whole, nofun⟩
  | @table path location log log' h hsame =>
    refine ⟨hw.whole, ?_⟩
    rintro path' names writable log'' hk
    obtain ⟨rfl, rfl, rfl⟩ : path = path' ∧ location = .file names writable ∧ log' = log'' := by
      simpa [put] using hk
    obtain ⟨hne, hread⟩ := hw.file _ _ _ _ h
    cases writable with
    | false => exact hread rfl
    | true =>
      refine ⟨log'.database, ?_⟩
      simp [put, Backend.save, System.withDisk, System.withIds, Disk.lookup_set, hne]

/-- Files and directories may be added around the databases. -/
theorem state_of_keeps {b : Backend} {s s' : System} (hw : Sound ⟨b, s⟩)
    (hdisk : s.disk.Keeps s'.disk) (hshared : s'.shared = s.shared) (hids : s'.ids = s.ids) :
    state ⟨b, s'⟩ = state ⟨b, s⟩ ∧ Sound ⟨b, s'⟩ := by
  obtain ⟨keeping, broken⟩ := b
  constructor
  · cases keeping with
    | memory log => simp [state, current, hids]
    | table path location log =>
      cases location with
      | apart => simp [state, current, hids, Backend.load]
      | shared name => simp [state, current, hids, Backend.load, hshared]
      | file names writable =>
        obtain ⟨db, hdb⟩ := hw.file path names writable log rfl
        have hload : Backend.load s (.file names writable) log = _ := Backend.load_of_lookup hdb
        simp [state, current, hids, hload, Backend.load_of_lookup (hdisk names db hdb)]
  · refine ⟨hw.whole, fun path names writable log hk => ?_⟩
    obtain ⟨db, hdb⟩ := hw.file path names writable log hk
    exact ⟨db, hdisk names db hdb⟩

/-- The workplace after the end of an operation was measured. -/
def measured (w : Workplace) (operation : Operation) (success : Bool) : Workplace :=
  ⟨w.backend, w.system.measure (.finished w.backend.kind operation success)⟩

/-- The workplace after a batch was broken off. -/
def stopped (w : Workplace) (size : Nat) : Workplace :=
  ⟨w.backend, w.system.note (.batchStopped w.backend.kind size)⟩

@[simp] theorem state_measured (w : Workplace) (operation : Operation) (success : Bool) :
    (w.measured operation success).state = w.state := rfl

theorem Sound.measured (hw : w.Sound) (operation : Operation) (success : Bool) :
    (w.measured operation success).Sound := ⟨hw.whole, hw.file⟩

theorem keeps_note (s : System) (n : Notice) : s.disk.Keeps (s.note n).disk := by
  unfold System.note
  cases s.journal with
  | none => exact .refl _
  | some j =>
    simp only [Journal.write]
    split
    · exact Disk.keeps_addText _ _ _
    · exact .refl _

theorem stopped_spec (hw : w.Sound) (size : Nat) :
    (w.stopped size).state = w.state ∧ (w.stopped size).Sound :=
  state_of_keeps hw (keeps_note _ _) rfl rfl

end Workplace

end AuditTrail
