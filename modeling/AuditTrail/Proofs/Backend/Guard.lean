import AuditTrail.Proofs.Backend.Operations

/-!
# Storing behind a broken guard

* `Workplace.Settled`: the file of the log is a database. Somebody may have broken off inside the
  guard.
* `Backend.store_settled`: storing is a step on the state all the same; `Backend.stores_store`: it
  is measured once.
* `Workplace.Settled.answer_retrieve` and the others: what is read does not depend on the guard
  either.
* `System.stores`: how often an entry was stored, or tried to be, as was measured.
-/

namespace AuditTrail

/-- How often an entry was stored, or tried to be. -/
def System.stores (s : System) : Nat :=
  s.signals.countP fun
    | .finished _ .store _ => true
    | _ => false

namespace Workplace

variable {w : Workplace}

/-- The workplace with a guard that is whole. -/
def mended (w : Workplace) : Workplace := ⟨{ w.backend with broken := false }, w.system⟩

/-- The file of the log is a database, whether or not the guard is whole. -/
def Settled (w : Workplace) : Prop := w.mended.Sound

theorem Sound.settled (hw : w.Sound) : w.Settled := ⟨rfl, hw.file⟩

/-- Files and directories may be added around the databases. -/
theorem settled_of_keeps {b : Backend} {s s' : System} (hw : Settled ⟨b, s⟩)
    (hdisk : s.disk.Keeps s'.disk) : Settled ⟨b, s'⟩ := by
  refine ⟨rfl, fun path names writable log hk => ?_⟩
  obtain ⟨db, hdb⟩ := hw.file path names writable log hk
  exact ⟨db, hdisk names db hdb⟩

/-- A note changes neither the log nor the supply of identifiers. -/
theorem state_note {b : Backend} {s : System} (hw : Settled ⟨b, s⟩) (n : Notice) :
    state ⟨b, s.note n⟩ = state ⟨b, s⟩ ∧ Settled ⟨b, s.note n⟩ :=
  ⟨(state_of_keeps hw (keeps_note s n) rfl rfl).1, settled_of_keeps hw (keeps_note s n)⟩

end Workplace

namespace Backend

variable {w : Workplace}

/-! ## Storing -/

theorem after_enter (w : Workplace) :
    enter.after w = ⟨w.backend,
      if w.backend.broken then
        (w.system.measure (.recovered w.backend.kind)).note (.guardRecovered w.backend.kind)
      else w.system⟩ := by
  obtain ⟨⟨keeping, broken⟩, system⟩ := w
  cases broken <;> rfl

/-- Taking over a broken guard is noted and measured, and leaves the log as it is. -/
theorem enter_settled (hw : w.Settled) :
    (enter.after w).state = w.state ∧ (enter.after w).Settled ∧
      (enter.after w).system.stores = w.system.stores := by
  rw [after_enter]
  split
  · have hmeasured : Workplace.Settled
        ⟨w.backend, w.system.measure (.recovered w.backend.kind)⟩ := ⟨rfl, hw.file⟩
    have hnoted := Workplace.state_note hmeasured (.guardRecovered w.backend.kind)
    refine ⟨hnoted.1, hnoted.2, ?_⟩
    simp [System.stores, System.note, System.measure]
  · exact ⟨rfl, hw, rfl⟩

/-- The guard makes no difference to what is stored. -/
theorem storeInto_mended (w : Workplace) (e : Entry) :
    storeInto w.mended e = ((storeInto w e).1, (storeInto w e).2.mended) := by
  unfold storeInto Workplace.mended
  cases w.backend.keeping <;> rfl

theorem insert_settled (hw : w.Settled) (e : Entry) :
    (insert e).answer w = (Log.storeWith Keeping.insert w.state e).1 ∧
      ((insert e).after w).state = (Log.storeWith Keeping.insert w.state e).2 ∧
      ((insert e).after w).Settled := by
  obtain ⟨hr, hstate, hsound⟩ := insert_spec hw e
  have hmended : (insert e).run w.mended = _ := storeInto_mended w e
  rw [Work.answer, hmended] at hr
  rw [Work.after, hmended] at hstate hsound
  exact ⟨hr, hstate, hsound⟩

/-- Storing is a step on the state, whether or not the guard is whole. -/
theorem store_settled (hw : w.Settled) (e : Entry) :
    (store e).answer w = (Log.storeWith Keeping.insert w.state e).1 ∧
      ((store e).after w).state = (Log.storeWith Keeping.insert w.state e).2 ∧
      ((store e).after w).Settled := by
  obtain ⟨hentered, hsettled, -⟩ := enter_settled hw
  obtain ⟨hr, hstate, hafter⟩ := insert_settled hsettled e
  rw [hentered] at hr hstate
  exact ⟨hr, hstate, hafter.whole, hafter.file⟩

/-! ## Reading -/

theorem answer_timed {α : Type} (operation : Operation) (work : Work (Except Error α))
    (w : Workplace) : (timed operation work).answer w = work.answer w := rfl

end Backend

namespace Workplace.Settled

variable {w : Workplace}

/-- What is read is read from the log, whether or not the guard is whole. -/
theorem answer_entered {α : Type} {f : MemoryLog → α} {g : TableLog → α} {answer : Keeping → α}
    (hw : w.Settled) (hmemory : ∀ log, f log = answer (.memory log))
    (htable : ∀ path location log, g log = answer (.table path location log)) :
    (do Backend.enter; Backend.reading f g : Work α).answer w = answer w.current := by
  have hentered : (Backend.enter.after w).current = w.current :=
    congrArg Log.Store.log (Backend.enter_settled hw).1
  change (Backend.reading f g).answer (Backend.enter.after w) = _
  rw [← hentered, Work.answer]
  obtain ⟨log, hcurrent, hrun⟩ | ⟨path, location, log, hcurrent, hrun⟩ :=
    Backend.reading_run f g (Backend.enter.after w)
  · rw [hrun, hcurrent, hmemory]
  · rw [hrun, hcurrent, htable path location]

theorem answer_retrieve (hw : w.Settled) (types : ContentTypes) (id : EntryId) :
    (Backend.retrieve types id).answer w = w.current.retrieve types id :=
  (Backend.answer_timed _ _ _).trans (hw.answer_entered (fun _ => rfl) fun _ _ _ => rfl)

theorem answer_retrieveMany (hw : w.Settled) (types : ContentTypes) (amount offset : Nat) :
    (Backend.retrieveMany types amount offset).answer w =
      w.current.select types [] amount offset :=
  (Backend.answer_timed _ _ _).trans (hw.answer_entered
    (fun log => congrArg Except.ok (log.retrieveMany_eq_select amount offset)) fun _ _ _ => rfl)

theorem answer_retrieveTyped (hw : w.Settled) (types : ContentTypes) (type : String)
    (amount offset : Nat) :
    (Backend.retrieveTyped types type amount offset).answer w =
      w.current.select types [.type [type]] amount offset :=
  (Backend.answer_timed _ _ _).trans (hw.answer_entered
    (fun log => congrArg Except.ok (log.retrieveTyped_eq_select type amount offset))
    fun _ _ _ => rfl)

theorem answer_filter (hw : w.Settled) (types : ContentTypes) (filters : List Filter)
    (amount offset : Nat) :
    (Backend.filter types filters amount offset).answer w =
      w.current.select types filters amount offset :=
  (Backend.answer_timed _ _ _).trans (hw.answer_entered (fun _ => rfl) fun _ _ _ => rfl)

theorem answer_countFilter (hw : w.Settled) (filters : List Filter) :
    (Backend.countFilter filters).answer w = w.current.countFilter filters :=
  (Backend.answer_timed _ _ _).trans (hw.answer_entered (fun _ => rfl) fun _ _ _ => rfl)

end Workplace.Settled

namespace Backend

variable {w : Workplace}

/-! ## Measuring -/

theorem signals_save (s : System) (location : Location) (log : TableLog) :
    (save s location log).signals = s.signals := by
  obtain ⟨disk, shared, h⟩ := exists_save s location log
  rw [h]

theorem signals_insert (w : Workplace) (e : Entry) :
    ((insert e).after w).system.signals = w.system.signals := by
  have hrun : (insert e).run w = storeInto w e := rfl
  rw [Work.after, hrun, storeInto]
  cases w.backend.keeping with
  | memory log => rfl
  | table path location log => exact signals_save _ _ _

/-- Storing is measured once. -/
theorem stores_store (hw : w.Settled) (e : Entry) :
    ((store e).after w).system.stores = w.system.stores + 1 := by
  obtain ⟨-, -, hentered⟩ := enter_settled hw
  have hinsert : ((insert e).after (enter.after w)).system.stores =
      (enter.after w).system.stores := by
    unfold System.stores
    rw [signals_insert]
  have hmeasured : ((store e).after w).system.stores =
      ((insert e).after (enter.after w)).system.stores + 1 :=
    List.countP_append
  rw [hmeasured, hinsert, hentered]

end Backend

end AuditTrail
