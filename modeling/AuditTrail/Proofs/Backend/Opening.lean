import AuditTrail.Proofs.Backend.Operations

/-!
# Opening a log

* `Disk.Retains`: every database is still there, with every table as it was.
* `Backend.ready_spec`, `Backend.openTable_spec`: opening a log changes no table of any database, and
  what is opened is sound.
* `Backend.sound_openMemory`, `Backend.sound_openPrivate`: so it is for the other logs.
-/

namespace AuditTrail

namespace Disk

/-- Every database of the first disk is on the second, with every table as it was. -/
def Retains (d d' : Disk) : Prop :=
  ∀ names db, d.lookup names = some (.database db) →
    ∃ db', d'.lookup names = some (.database db') ∧ db.Retains db'

theorem Keeps.retains {d d' : Disk} (h : d.Keeps d') : d.Retains d' :=
  fun names db hdb => ⟨db, h names db hdb, .refl db⟩

theorem Retains.trans {d d' d'' : Disk} (h : d.Retains d') (h' : d'.Retains d'') :
    d.Retains d'' := by
  intro names db hdb
  obtain ⟨db', hdb', hsame⟩ := h names db hdb
  obtain ⟨db'', hdb'', hsame'⟩ := h' names db' hdb'
  exact ⟨db'', hdb'', hsame.trans hsame'⟩

end Disk

namespace Backend

variable {location : Location} {s : System}

/-- A setup that only reads finds the table, so there is a database. -/
theorem setupReadOnly_empty (table : String) :
    TableLog.setupReadOnly ⟨.empty, table⟩ ≠ .ok () := by
  intro h
  unfold TableLog.setupReadOnly at h
  simp only at h
  split at h
  · next hsize =>
    obtain ⟨t, ht⟩ := Option.isSome_iff_exists.1 (Sql.Database.isSome_table?_create h)
    have hnil : (Sql.Database.empty.create table).2.tables = [] :=
      List.length_eq_zero_iff.1 (of_decide_eq_true (Bool.and_eq_true_iff.1 hsize).1)
    simp [Sql.Database.table?, hnil] at ht
  · cases h

theorem retains_save {log log' : TableLog}
    (h : (load s location log).database.Retains log'.database) :
    s.disk.Retains (save s location log').disk := by
  cases location with
  | apart => exact (Disk.Keeps.refl _).retains
  | shared name => exact (Disk.Keeps.refl _).retains
  | file names writable =>
    cases writable with
    | false => exact (Disk.Keeps.refl _).retains
    | true =>
      intro other db hdb
      simp only [save, if_true, System.withDisk, Disk.lookup_set]
      split
      · next hother =>
        obtain ⟨rfl, -⟩ := hother
        rw [load_of_lookup hdb] at h
        exact ⟨log'.database, rfl, h⟩
      · exact ⟨db, hdb, .refl db⟩

/-- The file of the location can be made a database. -/
def IsOpen (s : System) (location : Location) : Prop :=
  ∀ names writable, location = .file names writable →
    s.disk.lookup names = some (.text "") ∨ ∃ db, s.disk.lookup names = some (.database db)

/-- Making a log ready changes no table, and afterwards the log is sound. -/
theorem ready_spec (path : Option String) (log : TableLog) (hopen : IsOpen s location) :
    s.disk.Retains (ready path location log s).2.disk ∧
      ∀ b, (ready path location log s).1 = .ok b →
        Workplace.Sound ⟨b, (ready path location log s).2⟩ ∧
          ∃ log', b.keeping = .table path location log' ∧ log'.table = log.table := by
  have hrun := @setupTable_run ⟨⟨.table path location log, false⟩, s⟩ path location log rfl rfl
  have hcurrent : Workplace.current ⟨⟨.table path location log, false⟩, s⟩ =
      .table path location (load s location log) := rfl
  have htable : (load s location log).table = log.table := by cases location <;> rfl
  simp only [ready, hrun, hcurrent, Keeping.setup]
  cases hl : isWritable location with
  | true =>
    simp only [if_true]
    refine ⟨retains_save (Sql.Database.retains_create _ _), fun b hb => ?_⟩
    obtain ⟨_, -, rfl⟩ := map_eq_ok.1 hb
    refine ⟨?_, _, rfl, htable⟩
    have hplaced : Workplace.Placed ⟨⟨.table path location log, false⟩, s⟩ := by
      refine ⟨rfl, ?_⟩
      rintro _ names writable _ ⟨⟩
      refine ⟨?_, fun hw => by simp [isWritable, hw] at hl⟩
      rcases hopen names writable rfl with h | ⟨db, h⟩
      · exact Disk.ne_nil_of_lookup h (by simp)
      · exact Disk.ne_nil_of_lookup h (by simp)
    exact (Workplace.sound_put hplaced (.table rfl (by simp [hl])) s.ids).measured .setup _
  | false =>
    simp only [Bool.false_eq_true, if_false]
    refine ⟨(Disk.Keeps.refl _).retains, fun b hb => ?_⟩
    obtain ⟨_, hr, rfl⟩ := map_eq_ok.1 hb
    refine ⟨⟨rfl, ?_⟩, _, rfl, rfl⟩
    rintro _ names writable _ ⟨⟩
    rcases hopen names writable rfl with h | h
    · have hempty : load s (.file names writable) log = ⟨.empty, log.table⟩ := by
        simp [load, Location.databaseAt?, h]
      rw [hempty] at hr
      exact absurd hr (setupReadOnly_empty log.table)
    · exact h

theorem openLocation_spec (disk : Disk) (path : String) :
    disk.Keeps (openLocation disk path).2 ∧
      ∀ names writable, (openLocation disk path).1 = .ok (.file names writable) →
        ∃ node, (openLocation disk path).2.lookup names = some node ∧ node ≠ .directory := by
  have hkeeps := disk.keeps_createAbove path
  unfold openLocation
  cases habove : disk.createAbove path with
  | mk r disk₁ =>
    rw [habove] at hkeeps
    cases r with
    | error e => exact ⟨hkeeps, nofun⟩
    | ok u =>
      cases hopen : Location.open? disk₁ path with
      | none => simpa [hopen] using hkeeps
      | some found =>
        obtain ⟨location, disk₂⟩ := found
        simp only [hopen]
        refine ⟨hkeeps.trans (Location.keeps_open? hopen), ?_⟩
        rintro names writable ⟨⟩
        exact Location.lookup_of_open? hopen

theorem isOpen_of_isDatabase {disk : Disk} (h : isDatabase disk location = true)
    (hfound : ∀ names writable, location = .file names writable →
      ∃ node, disk.lookup names = some node ∧ node ≠ .directory) :
    IsOpen (s.withDisk disk) location := by
  rintro names writable rfl
  obtain ⟨node, hnode, -⟩ := hfound names writable rfl
  simp only [isDatabase, Location.databaseAt?, hnode] at h
  simp only [System.withDisk, hnode]
  cases node with
  | directory => cases h
  | database db => exact .inr ⟨db, rfl⟩
  | text content =>
    refine .inl ?_
    split at h <;> simp_all

/-- Opening a log in a table changes no table of any database, and what is opened is sound. -/
theorem openTable_spec (path table : String) (s : System) :
    s.disk.Retains (openTable path table s).2.disk ∧
      ∀ b, (openTable path table s).1 = .ok b →
        Workplace.Sound ⟨b, (openTable path table s).2⟩ ∧
          ∃ location log, b.keeping = .table (some path) location log ∧ log.table = table := by
  unfold openTable
  cases Sql.checkTableName table with
  | error e => exact ⟨(Disk.Keeps.refl _).retains, nofun⟩
  | ok u =>
    obtain ⟨hkeeps, hfound⟩ := openLocation_spec s.disk path
    cases hloc : openLocation s.disk path with
    | mk r disk =>
      rw [hloc] at hkeeps hfound
      cases r with
      | error e => exact ⟨hkeeps.retains, nofun⟩
      | ok location =>
        simp only
        split
        · next hdb =>
          have hopen : IsOpen (s.withDisk disk) location := by
            refine isOpen_of_isDatabase hdb ?_
            rintro names writable rfl
            exact hfound names writable rfl
          obtain ⟨hsame, hready⟩ := ready_spec (some path) ⟨.empty, table⟩ hopen
          refine ⟨hkeeps.retains.trans hsame, fun b hb => ?_⟩
          obtain ⟨hsound, log', hk, htable⟩ := hready b hb
          exact ⟨hsound, location, log', hk, htable⟩
        · exact ⟨hkeeps.retains, nofun⟩

theorem sound_openMemory (s : System) : Workplace.Sound ⟨openMemory, s⟩ := ⟨rfl, nofun⟩

theorem sound_openPrivate {b : Backend} (h : (openPrivate s).1 = .ok b) :
    Workplace.Sound ⟨b, (openPrivate s).2⟩ := by
  have hopen : IsOpen s .apart := by rintro names writable ⟨⟩
  exact ((ready_spec none ⟨.empty, usualTable⟩ hopen).2 b h).1

end Backend

end AuditTrail
