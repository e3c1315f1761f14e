import AuditTrail.Proofs.Backend.Workplace

/-!
# Operations as steps on what is kept

* `Backend.store_spec`, `Backend.storeMany_spec`, `Backend.setup_spec`: storing and setting up are
  steps on the state of a workplace.
* `Backend.Reads`: an operation that only looks at the log; `Backend.reads_retrieve` and the others
  say what it answers.
-/

namespace AuditTrail

/-- What an operation answers. -/
def Work.answer {α : Type} (work : Work α) (w : Workplace) : α := (work.run w).1

/-- The workplace after an operation. -/
def Work.after {α : Type} (work : Work α) (w : Workplace) : Workplace := (work.run w).2

namespace Backend

variable {w : Workplace} {types : ContentTypes}

/-! ## Storing -/

/-- One entry is stored by a step on the state. -/
theorem storeInto_eq (w : Workplace) (e : Entry) :
    storeInto w e = ((Log.storeWith Keeping.insert w.state e).1,
      w.put (Log.storeWith Keeping.insert w.state e).2) := by
  unfold storeInto Workplace.state Workplace.current
  cases hk : w.backend.keeping with
  | memory log =>
    simp only [Log.storeWith, Keeping.insert]
    cases log.insert (w.system.ids.assign e).1 with
    | error err => rfl
    | ok log' => rfl
  | table path location log =>
    simp only [Log.storeWith, Keeping.insert]
    cases isWritable location with
    | true =>
      simp only [if_true]
      cases (load w.system location log).insert (w.system.ids.assign e).1 with
      | error err => rfl
      | ok log' => rfl
    | false => rfl

theorem fits_storeWith (w : Workplace) (e : Entry) :
    w.Fits (Log.storeWith Keeping.insert w.state e).2.log := by
  simp only [Log.storeWith, Workplace.state]
  cases hins : w.current.insert (w.system.ids.assign e).1 with
  | error err => exact w.fits_current
  | ok k =>
    cases hk : w.backend.keeping with
    | memory log =>
      rw [Workplace.current_of_memory hk] at hins
      obtain ⟨log', -, rfl⟩ := map_eq_ok.1 hins
      exact .memory hk log'
    | table path location log =>
      rw [Workplace.current_of_table hk] at hins
      obtain ⟨log', hlog, rfl⟩ := map_eq_ok.1 hins
      refine .table hk fun hl => ?_
      simp [hl, TableLog.insertReadOnly] at hlog

theorem after_timed {α : Type} (operation : Operation) (work : Work (Except Error α))
    (w : Workplace) :
    (timed operation work).after w =
      (work.after w).measured operation (BatchReport.isOk (work.answer w)) := rfl

theorem run_timed {α : Type} {operation : Operation} {work : Work (Except Error α)}
    {r : Except Error α} {w' : Workplace} (h : work.run w = (r, w')) :
    (timed operation work).run w = (r, w'.measured operation (BatchReport.isOk r)) :=
  congrArg (fun p : _ × Workplace => (p.1, p.2.measured operation (BatchReport.isOk p.1))) h

theorem enter_of_whole (h : w.backend.broken = false) : enter.run w = ((), w) := by
  change (if w.backend.broken then _ else _ : Work Unit) w = _
  rw [h]
  rfl

theorem insert_spec (hw : w.Sound) (e : Entry) :
    (insert e).answer w = (Log.storeWith Keeping.insert w.state e).1 ∧
      ((insert e).after w).state = (Log.storeWith Keeping.insert w.state e).2 ∧
      ((insert e).after w).Sound := by
  have hrun : (insert e).run w = _ := storeInto_eq w e
  have hfits := fits_storeWith w e
  rw [Work.answer, Work.after, hrun]
  exact ⟨rfl, w.state_put hw.placed hfits _, w.sound_put hw.placed hfits _⟩

theorem store_run (hw : w.backend.broken = false) (e : Entry) :
    (store e).run w = (timed .store (insert e)).run w := by
  have hrun : (do enter; insert e : Work _).run w = (insert e).run w := by
    rw [StateT.run_bind, enter_of_whole hw]
    rfl
  exact congrArg (fun p : _ × Workplace => (p.1, p.2.measured .store (BatchReport.isOk p.1))) hrun

/-- Storing is a step on the state. -/
theorem store_spec (hw : w.Sound) (e : Entry) :
    (store e).answer w = (Log.storeWith Keeping.insert w.state e).1 ∧
      ((store e).after w).state = (Log.storeWith Keeping.insert w.state e).2 ∧
      ((store e).after w).Sound := by
  obtain ⟨hr, hs, hsound⟩ := insert_spec hw e
  rw [Work.answer, Work.after, store_run hw.whole]
  exact ⟨hr, hs, hsound.measured _ _⟩

theorem insertMany_cons (size : Nat) (e : Entry) (es : List Entry) (w : Workplace) :
    (insertMany size (e :: es)).run w =
      match (timed .store (insert e)).run w with
      | (.ok id, w) => (.ok id :: (insertMany size es).answer w, (insertMany size es).after w)
      | (.error err, w) => ([.error err], w.stopped size) := by
  rw [insertMany, StateT.run_bind]
  cases (timed .store (insert e)).run w with
  | mk r w => cases r <;> rfl

/-- Storing a batch is a row of steps on the state. -/
theorem insertMany_spec (hw : w.Sound) (size : Nat) (es : List Entry) :
    (insertMany size es).answer w = (Log.storeManyWith Keeping.insert w.state es).1 ∧
      ((insertMany size es).after w).state = (Log.storeManyWith Keeping.insert w.state es).2 ∧
      ((insertMany size es).after w).Sound := by
  induction es generalizing w with
  | nil => exact ⟨rfl, rfl, hw⟩
  | cons e es ih =>
    obtain ⟨hr, hs, hsound⟩ := insert_spec hw e
    have hsound₁ := hsound.measured .store (BatchReport.isOk ((insert e).answer w))
    have hrun : (timed .store (insert e)).run w = ((insert e).answer w,
        ((insert e).after w).measured .store (BatchReport.isOk ((insert e).answer w))) := rfl
    rw [Work.answer, Work.after, insertMany_cons, hrun, Log.storeManyWith]
    cases hstep : Log.storeWith Keeping.insert w.state e with
    | mk r s =>
      rw [hstep] at hr hs
      simp only at hr hs
      rw [hr]
      cases r with
      | error err =>
        obtain ⟨hstate, hstopped⟩ := Workplace.stopped_spec hsound₁ size
        rw [hr] at hstate hstopped
        exact ⟨rfl, hstate.trans hs, hstopped⟩
      | ok id =>
        obtain ⟨hr', hs', hsound'⟩ := ih hsound₁
        rw [hr] at hr' hs' hsound'
        rw [Workplace.state_measured, hs] at hr' hs'
        exact ⟨congrArg (Except.ok id :: ·) hr', hs', hsound'⟩

theorem storeMany_run (hw : w.backend.broken = false) (es : List Entry) :
    (storeMany es).run w =
      (⟨(insertMany es.length es).answer w, es.length⟩, (insertMany es.length es).after w) := by
  rw [storeMany, StateT.run_bind, enter_of_whole hw]
  rfl

theorem storeMany_spec (hw : w.Sound) (es : List Entry) :
    (storeMany es).answer w =
        ⟨(Log.storeManyWith Keeping.insert w.state es).1, es.length⟩ ∧
      ((storeMany es).after w).state = (Log.storeManyWith Keeping.insert w.state es).2 ∧
      ((storeMany es).after w).Sound := by
  obtain ⟨hr, hs, hsound⟩ := insertMany_spec hw es.length es
  rw [Work.answer, Work.after, storeMany_run hw.whole]
  exact ⟨by rw [hr], hs, hsound⟩

/-! ## Reading -/

/-- The operation answers from the log and leaves everything as it is, but for what is measured. -/
structure Reads {α : Type} (work : Work α) (w : Workplace) (answer : α) : Prop where
  answer : work.answer w = answer
  after : ∃ signals, work.after w = ⟨w.backend, { w.system with signals }⟩

theorem Reads.timed {operation : Operation} {α : Type} {work : Work (Except Error α)}
    {answer : Except Error α} (h : Reads work w answer) :
    Reads (timed operation work) w answer := by
  obtain ⟨signals, hafter⟩ := h.after
  refine ⟨h.answer, signals ++ [.finished w.backend.kind operation (BatchReport.isOk answer)], ?_⟩
  rw [after_timed, hafter, h.answer]
  rfl

theorem Reads.map {α β : Type} {work : Work α} {answer : α} (h : Reads work w answer)
    (f : α → β) : Reads (f <$> work) w (f answer) :=
  ⟨congrArg f h.answer, h.after⟩

theorem Reads.state {α : Type} {work : Work α} {answer : α} (h : Reads work w answer)
    (hw : w.Sound) : (work.after w).state = w.state ∧ (work.after w).Sound := by
  obtain ⟨signals, hafter⟩ := h.after
  rw [hafter]
  exact ⟨rfl, hw.whole, hw.file⟩

theorem reading_run {α : Type} (f : MemoryLog → α) (g : TableLog → α) (w : Workplace) :
    (∃ log, w.current = .memory log ∧ (reading f g).run w = (f log, w)) ∨
      ∃ path location log, w.current = .table path location log ∧
        (reading f g).run w = (g log, w) := by
  rw [Workplace.current, reading, StateT.run_bind]
  cases hk : w.backend.keeping with
  | memory log =>
    refine .inl ⟨log, rfl, ?_⟩
    simp only [StateT.run_get, pure_bind, hk]
    rfl
  | table path location log =>
    refine .inr ⟨path, location, _, rfl, ?_⟩
    simp only [StateT.run_get, pure_bind, hk]
    rfl

theorem reads_entered {α : Type} {f : MemoryLog → α} {g : TableLog → α} {answer : Keeping → α}
    (hw : w.backend.broken = false) (hmemory : ∀ log, f log = answer (.memory log))
    (htable : ∀ path location log, g log = answer (.table path location log)) :
    Reads (do enter; reading f g) w (answer w.current) := by
  have hrun : (do enter; reading f g : Work α).run w = (answer w.current, w) := by
    rw [StateT.run_bind, enter_of_whole hw]
    change (reading f g).run w = _
    obtain ⟨log, hcurrent, hrun⟩ | ⟨path, location, log, hcurrent, hrun⟩ := reading_run f g w
    · rw [hrun, hcurrent, hmemory]
    · rw [hrun, hcurrent, htable path location]
  refine ⟨?_, w.system.signals, ?_⟩
  · rw [Work.answer, hrun]
  · rw [Work.after, hrun]

theorem reads_retrieve (hw : w.backend.broken = false) (types : ContentTypes) (id : EntryId) :
    Reads (retrieve types id) w (w.current.retrieve types id) :=
  .timed (reads_entered hw (fun _ => rfl) fun _ _ _ => rfl)

theorem reads_retrieveMany (hw : w.backend.broken = false) (types : ContentTypes)
    (amount offset : Nat) :
    Reads (retrieveMany types amount offset) w (w.current.select types [] amount offset) :=
  .timed (reads_entered hw
    (fun log => congrArg Except.ok (log.retrieveMany_eq_select amount offset)) fun _ _ _ => rfl)

theorem reads_retrieveTyped (hw : w.backend.broken = false) (types : ContentTypes) (type : String)
    (amount offset : Nat) :
    Reads (retrieveTyped types type amount offset) w
      (w.current.select types [.type [type]] amount offset) :=
  .timed (reads_entered hw
    (fun log => congrArg Except.ok (log.retrieveTyped_eq_select type amount offset))
    fun _ _ _ => rfl)

theorem reads_filter (hw : w.backend.broken = false) (types : ContentTypes) (filters : List Filter)
    (amount offset : Nat) :
    Reads (filter types filters amount offset) w
      (w.current.select types filters amount offset) :=
  .timed (reads_entered hw (fun _ => rfl) fun _ _ _ => rfl)

theorem reads_countFilter (hw : w.backend.broken = false) (filters : List Filter) :
    Reads (countFilter filters) w (w.current.countFilter filters) :=
  .timed (reads_entered hw (fun _ => rfl) fun _ _ _ => rfl)

theorem reads_count (hw : w.backend.broken = false) : Reads count w w.current.count := by
  cases hk : w.backend.keeping with
  | memory log =>
    have hrun : count.run w = (.ok log.count, w) := by
      rw [count, StateT.run_bind]
      simp only [StateT.run_get, pure_bind, hk]
      rw [StateT.run_bind, enter_of_whole hw]
      rfl
    have hcurrent := Workplace.current_of_memory hk
    refine ⟨?_, w.system.signals, ?_⟩
    · rw [Work.answer, hrun, hcurrent]
      rfl
    · rw [Work.after, hrun]
  | table path location log =>
    have hrun : count.run w = (countFilter []).run w := by
      rw [count, StateT.run_bind]
      simp only [StateT.run_get, pure_bind, hk]
    have hcount : w.current.count = w.current.countFilter [] := by
      rw [Workplace.current_of_table hk]
      rfl
    have := reads_countFilter hw []
    rw [← hcount] at this
    exact ⟨by rw [Work.answer, hrun]; exact this.answer, by rw [Work.after, hrun]; exact this.after⟩

/-! ## Setting up -/

/-- The setup of a table reads and writes the log, or only reads it. -/
theorem setupTable_run {path : Option String} {location : Location} {log : TableLog}
    (hw : w.backend.broken = false) (hk : w.backend.keeping = .table path location log) :
    (setupTable path location log).run w =
      (w.current.setup.1,
        (if isWritable location then w.put ⟨w.current.setup.2, w.system.ids⟩ else w).measured .setup
          (BatchReport.isOk w.current.setup.1)) := by
  have hcurrent := Workplace.current_of_table hk
  rw [setupTable]
  refine run_timed ?_
  rw [StateT.run_bind, enter_of_whole hw, hcurrent, Keeping.setup]
  cases hl : isWritable location with
  | false => rfl
  | true =>
    have hids : (save w.system location (load w.system location log).setup.2).withIds
        w.system.ids = save w.system location (load w.system location log).setup.2 := by
      rw [System.withIds, ← ids_save w.system location (load w.system location log).setup.2]
    simp only [if_true, Workplace.put]
    rw [hids]
    rfl

theorem fits_setup (w : Workplace) : w.Fits w.current.setup.2 := by
  unfold Workplace.current
  cases hk : w.backend.keeping with
  | memory log => exact .memory hk log
  | table path location log =>
    simp only [Keeping.setup]
    split
    · next hl => exact .table hk (by simp [hl])
    · exact .table hk fun _ => rfl

/-- In memory nothing is to be set up. -/
theorem setup_run (hw : w.backend.broken = false) :
    setup.run w = (w.current.setup.1,
      match w.current with
      | .memory _ => w
      | .table _ location _ =>
        (if isWritable location then w.put ⟨w.current.setup.2, w.system.ids⟩ else w).measured .setup
          (BatchReport.isOk w.current.setup.1)) := by
  rw [setup, StateT.run_bind]
  cases hk : w.backend.keeping with
  | memory log =>
    have hcurrent := Workplace.current_of_memory hk
    rw [hcurrent]
    simp only [StateT.run_get, pure_bind, hk]
    rfl
  | table path location log =>
    have hcurrent := Workplace.current_of_table hk
    have hrun : (setupTable path location log).run w = _ := setupTable_run hw hk
    rw [hcurrent] at hrun ⊢
    simp only [StateT.run_get, pure_bind, hk]
    exact hrun

/-- The setup is a step on the state, which takes no identifier. -/
theorem setup_spec (hw : w.Sound) :
    setup.answer w = w.current.setup.1 ∧
      (setup.after w).state = ⟨w.current.setup.2, w.system.ids⟩ ∧ (setup.after w).Sound := by
  have hfits := fits_setup w
  rw [Work.answer, Work.after, setup_run hw.whole]
  refine ⟨rfl, ?_⟩
  cases hcurrent : w.current with
  | memory log =>
    rw [Workplace.state, hcurrent]
    exact ⟨rfl, hw⟩
  | table path location log =>
    rw [hcurrent] at hfits
    cases hl : isWritable location with
    | true =>
      simp only [hl, if_true, Workplace.state_measured]
      exact ⟨w.state_put hw.placed hfits _, (w.sound_put hw.placed hfits _).measured _ _⟩
    | false =>
      have hstate : w.state = ⟨(Keeping.table path location log).setup.2, w.system.ids⟩ := by
        rw [Workplace.state, hcurrent]
        simp [Keeping.setup, hl]
      simp only [hl, Bool.false_eq_true, if_false, Workplace.state_measured]
      exact ⟨hstate, hw.measured _ _⟩

end Backend

end AuditTrail
