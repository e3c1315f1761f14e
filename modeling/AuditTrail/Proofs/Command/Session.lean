import AuditTrail.Command.Basic
import AuditTrail.Proofs.Backend.Contents
import AuditTrail.Proofs.Registry.Logging

/-!
# Sessions

* `Registry.log_run`: without gates and handlers, to log an entry is to give it an identifier and to
  store it.
* `Session.Keeps`: the log of the session is made of the entries of a list, and nothing else takes
  part in logging. `Session.Keeps.logged` is the step.
* `Session.open?`: the session that settings open.
-/

namespace AuditTrail

/-! ## Logging -/

/-- Without gates and handlers, to log an entry is to give it an identifier and to store it. -/
theorem Registry.log_run {s : Session} (hgates : s.registry.gates = [])
    (hhandlers : s.registry.handlers = []) (depth : Nat) (e : Entry) :
    (log depth e).run s = (⟨(s.storing e).map some, []⟩, s.stored e) := by
  have hpass : passGates e (inTurn Gate.scope s.registry.gates e) = ([], true) := by
    rw [hgates]
    rfl
  have hrun : ∀ again, (logWith again e).run s = (⟨(s.storing e).map some, []⟩, s.stored e) := by
    intro again
    rw [logWith_passed hpass, hhandlers]
    cases s.storing e <;> rfl
  cases depth with
  | zero => exact hrun _
  | succ depth => exact hrun _

/-! ## The clock -/

namespace Backend

variable {w : Workplace}

theorem clock_save (s : System) (location : Location) (log : TableLog) :
    (save s location log).clock = s.clock := by
  obtain ⟨disk, shared, h⟩ := exists_save s location log
  rw [h]

theorem clock_put (w : Workplace) (s : Log.Store Keeping) :
    (w.put s).system.clock = w.system.clock := by
  obtain ⟨log, ids⟩ := s
  cases log with
  | memory log => rfl
  | table path location log => exact clock_save _ _ _

theorem clock_store (hw : w.backend.broken = false) (e : Entry) :
    ((store e).after w).system.clock = w.system.clock := by
  have hrun : (insert e).run w = _ := storeInto_eq w e
  have hafter : ((insert e).after w).system.clock = w.system.clock := by
    rw [Work.after, hrun]
    exact clock_put w _
  rw [Work.after, store_run hw]
  exact hafter

theorem clock_ready (path : Option String) (location : Location) (log : TableLog) (s : System) :
    (ready path location log s).2.clock = s.clock := by
  have hrun := @setupTable_run ⟨⟨.table path location log, false⟩, s⟩ path location log rfl rfl
  simp only [ready, hrun]
  cases isWritable location with
  | true => exact clock_put _ _
  | false => rfl

theorem clock_openTable (path table : String) (s : System) :
    (openTable path table s).2.clock = s.clock := by
  unfold openTable
  cases Sql.checkTableName table with
  | error e => rfl
  | ok u =>
    cases openLocation s.disk path with
    | mk r disk =>
      cases r with
      | error e => rfl
      | ok location =>
        simp only
        split
        · exact clock_ready _ _ _ _
        · rfl

end Backend

theorem System.clock_noteAll (s : System) (notices : List Notice) :
    (s.noteAll notices).clock = s.clock := by
  induction notices generalizing s with
  | nil => rfl
  | cons n notices ih => exact ih (s.note n)

/-! ## Logs of sessions -/

namespace Session

/-- The log of the session is a table that is made of the entries, nothing else takes part in
logging, and the clock shows what it is set to. -/
structure Keeps (types : ContentTypes) (shown : Nat → Instant) (s : Session) (es : List Entry) :
    Prop where
  contentTypes : s.registry.contentTypes = types
  gates : s.registry.gates = []
  handlers : s.registry.handlers = []
  clock : s.system.clock.shown = shown
  sound : s.workplace.Sound
  table : s.workplace.current.IsTable
  log : s.workplace.current.Represents es

variable {types : ContentTypes} {shown : Nat → Instant} {s : Session} {es : List Entry}

theorem Keeps.withIds (h : s.Keeps types shown es) (ids : IdSupply) :
    (s.withIds ids).Keeps types shown es :=
  ⟨h.contentTypes, h.gates, h.handlers, h.clock, ⟨h.sound.whole, h.sound.file⟩, h.table, h.log⟩

/-- What is stored comes behind the other entries, under the identifier that is answered. -/
theorem Keeps.store (h : s.Keeps types shown es) (e : Entry) :
    match (Backend.store e).answer s.workplace with
    | .ok id => (s.withWorkplace ((Backend.store e).after s.workplace)).Keeps types shown
        (es ++ [e.withId id])
    | .error _ => (s.withWorkplace ((Backend.store e).after s.workplace)).Keeps types shown es := by
  obtain ⟨hr, hstate, hsound⟩ := Backend.store_spec h.sound e
  have hstep := Keeping.represents_storeWith (s := s.workplace.state) h.log e
  have hgrows := Keeping.extends_storeWith s.workplace.state e
  have hclock := Backend.clock_store h.sound.whole e
  rw [← hr, ← hstate] at hstep
  rw [← hstate] at hgrows
  have hkeeps : ∀ es', ((Backend.store e).after s.workplace).current.Represents es' →
      (s.withWorkplace ((Backend.store e).after s.workplace)).Keeps types shown es' :=
    fun es' hlog => ⟨h.contentTypes, h.gates, h.handlers,
      (congrArg Clock.shown hclock).trans h.clock, hsound,
      h.table.of_extends hgrows, hlog⟩
  cases hanswer : (Backend.store e).answer s.workplace with
  | error err =>
    rw [hanswer] at hstep
    exact hkeeps _ hstep
  | ok id =>
    rw [hanswer] at hstep
    exact hkeeps _ hstep

/-- An entry that is logged is stored, or the log is as it was. -/
theorem Keeps.logged (h : s.Keeps types shown es) (depth : Nat) (e : Entry) :
    (∃ id, ((Registry.log depth e).answer s).outcome = .ok (some id) ∧
        ((Registry.log depth e).after s).Keeps types shown (es ++ [e.withId id])) ∨
      ∃ err, ((Registry.log depth e).answer s).outcome = .error err ∧
        ((Registry.log depth e).after s).Keeps types shown es := by
  have hgiven := (s.given_spec e).1
  have hstore : match s.storing e with
      | .ok id => (s.stored e).Keeps types shown (es ++ [(s.given e).withId id])
      | .error _ => (s.stored e).Keeps types shown es :=
    (h.withIds (s.system.ids.assign e).2).store (s.given e)
  rw [Duty.answer, Duty.after, Registry.log_run h.gates h.handlers]
  cases hstoring : s.storing e with
  | error err =>
    rw [hstoring] at hstore
    exact .inr ⟨err, rfl, hstore⟩
  | ok id =>
    rw [hstoring, hgiven] at hstore
    exact .inl ⟨id, rfl, hstore⟩

/-- An entry is stored under its own identifier, or the next one, if the log can be written and no
other entry has it. -/
theorem Keeps.logged_of_fresh (h : s.Keeps types shown es)
    (hwritable : s.workplace.current.isWritable = true) (depth : Nat) {e : Entry}
    (hfresh : ∀ x ∈ es, x.id ≠ (s.system.ids.assign e).1.id) :
    ((Registry.log depth e).answer s).outcome = .ok (some (s.system.ids.assign e).1.id) := by
  have hgiven := h.withIds (s.system.ids.assign e).2
  have hanswer := (Backend.store_spec hgiven.sound (s.system.ids.assign e).1).1.trans
    (Keeping.storeWith_of_fresh hgiven.log hwritable (IdSupply.isNil_assign _ _) hfresh)
  rw [Duty.answer, Registry.log_run h.gates h.handlers]
  exact congrArg (Except.map some) hanswer

/-! ## Opening -/

/-- The session that settings open. -/
def open? (c : Config) (s : System) : Option Session :=
  match Registry.ofConfig c s with
  | (.ok registry, system) => some ⟨registry, system⟩
  | (.error _, _) => none

/-- What is opened is a registry around a log that was opened. -/
theorem open?_eq_some {c : Config} {system : System} (h : open? c system = some s) :
    ∃ backend types, s.registry = .around backend types ∧
      Backend.open? c.storage (system.noteAll (Registry.registrationNotes c.contentTypes)) =
        (.ok backend, s.system) := by
  unfold open? Registry.ofConfig at h
  cases hkeys : ContentTypes.empty.registerKeys c.contentTypes with
  | mk r types =>
    cases hlog : Backend.open? c.storage
        (system.noteAll (Registry.registrationNotes c.contentTypes)) with
    | mk r' system' =>
      rw [hkeys] at h
      simp only [hlog] at h
      cases r with
      | error err => simp at h
      | ok u =>
        cases r' with
        | error err => simp [Except.map] at h
        | ok backend =>
          obtain rfl := Option.some.inj h
          exact ⟨backend, types, rfl, rfl⟩

/-- A session in an empty table, as settings open it. -/
theorem keeps_of_open? {c : Config} {system : System} (hopen : open? c system = some s)
    (hkind : c.storage.kind = .sqlite) (hempty : s.workplace.current.isEmpty = true) :
    s.Keeps s.registry.contentTypes system.clock.shown [] := by
  obtain ⟨registry, system'⟩ := s
  obtain ⟨backend, types, rfl, hlog⟩ := open?_eq_some hopen
  simp only [Backend.open?, hkind] at hlog
  obtain ⟨-, hopened⟩ := Backend.openTable_spec c.storage.sqlitePath c.storage.table
    ((system.noteAll (Registry.registrationNotes c.contentTypes)).note .storageOpened)
  have hclock := Backend.clock_openTable c.storage.sqlitePath c.storage.table
    ((system.noteAll (Registry.registrationNotes c.contentTypes)).note .storageOpened)
  rw [hlog] at hopened hclock
  obtain ⟨hsound, location, log, hk, -⟩ := hopened backend rfl
  have hclock : system'.clock = system.clock :=
    hclock.trans (system.clock_noteAll (Registry.registrationNotes c.contentTypes))
  have hcurrent := Workplace.current_of_table (w := ⟨backend, system'⟩) hk
  exact ⟨rfl, rfl, rfl, congrArg Clock.shown hclock, hsound,
    hcurrent ▸ trivial, Keeping.represents_nil hempty⟩

end Session

end AuditTrail
