import AuditTrail.Proofs.Backend.AppendOnly

/-!
# A batch is stored entry by entry

* `BatchReport.stopping`: the results of a batch that stores so many entries and then may fail, with
  what the report of such a batch says.
* `Backend.storeEach`: entries that are stored by one call each, up to the first failure;
  `Backend.storeEach_spec`: this is the same row of steps on the state as a batch.
* `Log.Course`: how far a batch comes: the identifiers, and the error that stops it.
  `Log.exists_course`: every batch has one.
* `Workplace.Reachable.storeMany_sequential`: a batch answers and leaves what single calls do, and
  its report accounts for every entry.
-/

namespace AuditTrail.BatchReport

/-! ## What a report says -/

/-- The results of a batch: identifiers, and behind them at most one error. -/
def stopping (ids : List EntryId) (stop : Option Error) : List (Except Error EntryId) :=
  ids.map .ok ++ stop.toList.map .error

variable (ids : List EntryId) (stop : Option Error) (n : Nat)

@[simp] theorem length_stopping :
    (stopping ids stop).length = ids.length + stop.toList.length := by
  simp [stopping]

theorem stopping_cons (id : EntryId) :
    stopping (id :: ids) stop = .ok id :: stopping ids stop := rfl

theorem storedIds_stopping : storedIds ⟨stopping ids stop, n⟩ = ids := by
  have hids : ∀ ids : List EntryId,
      (ids.map (Except.ok : EntryId → Except Error EntryId)).filterMap Except.toOption = ids := by
    intro ids
    induction ids with
    | nil => rfl
    | cons id ids ih => simpa [Except.toOption] using ih
  rw [storedIds, stopping, List.filterMap_append, hids]
  cases stop <;> simp [Except.toOption]

theorem failureFrom_stopping (i : Nat) :
    failureFrom i (stopping ids stop) = stop.map fun err => (i + ids.length, err) := by
  induction ids generalizing i with
  | nil => cases stop <;> rfl
  | cons id ids ih =>
    rw [stopping_cons, failureFrom, ih, List.length_cons]
    congr 2
    funext err
    congr 1
    omega

/-- The failure stands behind the entries that were stored. -/
theorem failure?_stopping :
    failure? ⟨stopping ids stop, n⟩ = stop.map fun err => (ids.length, err) := by
  rw [failure?, failureFrom_stopping]
  simp

theorem unattempted_stopping :
    unattempted ⟨stopping ids stop, n⟩ = n - (ids.length + stop.toList.length) := by
  rw [unattempted, length_stopping]

/-- The result of a batch is the list of its identifiers, or the error that stopped it. -/
theorem toResult_stopping :
    toResult ⟨stopping ids stop, n⟩ = stop.elim (.ok ids) .error := by
  rw [toResult]
  induction ids with
  | nil => cases stop <;> rfl
  | cons id ids ih =>
    simp only [stopping_cons, List.mapM_cons, ih]
    cases stop <;> rfl

theorem all_isOk_stopping : (stopping ids stop).all isOk = stop.isNone := by
  induction ids with
  | nil => cases stop <;> rfl
  | cons id ids ih => exact ih

theorem isComplete_stopping :
    isComplete ⟨stopping ids stop, n⟩ = true ↔ stop = none ∧ ids.length = n := by
  rw [isComplete, length_stopping, all_isOk_stopping, Bool.and_eq_true, Option.isNone_iff_eq_none,
    and_comm, decide_eq_true_iff]
  refine and_congr_right fun hstop => ?_
  rw [hstop, Option.toList_none, List.length_nil, Nat.add_zero]

end AuditTrail.BatchReport

namespace AuditTrail

/-! ## Calls for one entry each -/

namespace Backend

variable {w : Workplace}

/-- Stores entries by one call each, and stops right after the first that fails. -/
def storeEach : List Entry → Work (List (Except Error EntryId))
  | [] => return []
  | e :: es => do
    match ← store e with
    | .ok id => return .ok id :: (← storeEach es)
    | .error err => return [.error err]

theorem storeEach_cons (e : Entry) (es : List Entry) (w : Workplace) :
    (storeEach (e :: es)).run w =
      match (store e).run w with
      | (.ok id, w) => (.ok id :: (storeEach es).answer w, (storeEach es).after w)
      | (.error err, w) => ([.error err], w) := by
  rw [storeEach, StateT.run_bind]
  cases (store e).run w with
  | mk r w => cases r <;> rfl

/-- Single calls are a row of steps on the state. -/
theorem storeEach_spec (hw : w.Sound) (es : List Entry) :
    (storeEach es).answer w = (Log.storeManyWith Keeping.insert w.state es).1 ∧
      ((storeEach es).after w).state = (Log.storeManyWith Keeping.insert w.state es).2 := by
  induction es generalizing w with
  | nil => exact ⟨rfl, rfl⟩
  | cons e es ih =>
    obtain ⟨hr, hs, hsound⟩ := store_spec hw e
    rw [Work.answer] at hr
    rw [Work.after] at hs hsound
    rw [Work.answer, Work.after, storeEach_cons, Log.storeManyWith]
    cases hrun : (store e).run w with
    | mk r w' =>
      cases hstep : Log.storeWith Keeping.insert w.state e with
      | mk r' s =>
        rw [hrun, hstep] at hr hs
        rw [hrun] at hsound
        obtain rfl : r = r' := hr
        cases r with
        | error err => exact ⟨rfl, hs⟩
        | ok id =>
          obtain ⟨hr', hs'⟩ := ih hsound
          obtain rfl : w'.state = s := hs
          exact ⟨congrArg (Except.ok id :: ·) hr', hs'⟩

end Backend

namespace Log

variable {σ : Type} {insert : σ → Entry → Except Error σ} {s : Store σ}

/-- How far a batch comes: it stores entries from the first on, each under its own identifier if it
has one, and if an error stops it, what follows is never looked at. -/
structure Course (insert : σ → Entry → Except Error σ) (s : Store σ) (es : List Entry)
    (ids : List EntryId) (stop : Option Error) : Prop where
  results : (storeManyWith insert s es).1 = BatchReport.stopping ids stop
  attempted : ids.length + stop.toList.length ≤ es.length
  complete : stop = none → ids.length = es.length
  own : List.Forall₂ (fun id e => e.id.isNil = false → id = e.id) ids (es.take ids.length)
  unseen : stop.isSome = true → ∀ rest,
    storeManyWith insert s (es.take (ids.length + 1) ++ rest) = storeManyWith insert s es

theorem id_of_storeWith {e : Entry} {id : EntryId} (h : (storeWith insert s e).1 = .ok id) :
    id = (s.ids.assign e).1.id := by
  simp only [storeWith] at h
  cases hins : insert s.log (s.ids.assign e).1 with
  | error err => simp [hins] at h
  | ok log => simpa [hins, eq_comm] using h

theorem exists_course (insert : σ → Entry → Except Error σ) (s : Store σ) (es : List Entry) :
    ∃ ids stop, Course insert s es ids stop := by
  induction es generalizing s with
  | nil => exact ⟨[], none, rfl, Nat.le_refl 0, fun _ => rfl, .nil, nofun⟩
  | cons e es ih =>
    cases hstep : storeWith insert s e with
    | mk r s' =>
      cases r with
      | error err =>
        refine ⟨[], some err, ?_, ?_, nofun, .nil, fun _ rest => ?_⟩
        · simp only [storeManyWith, hstep]
          rfl
        · simp
        · simp only [List.length_nil, Nat.zero_add, List.take_succ_cons, List.take_zero,
            List.singleton_append, storeManyWith, hstep]
      | ok id =>
        obtain ⟨ids, stop, h⟩ := ih s'
        have hid : e.id.isNil = false → id = e.id := fun he => by
          rw [id_of_storeWith (congrArg Prod.fst hstep), s.ids.assign_of_assigned he]
        refine ⟨id :: ids, stop, ?_, ?_, fun hstop => ?_, .cons hid h.own, fun hstop rest => ?_⟩
        · simp only [storeManyWith, hstep, h.results]
          rfl
        · have := h.attempted
          simp only [List.length_cons]
          omega
        · rw [List.length_cons, List.length_cons, h.complete hstop]
        · rw [List.length_cons, List.take_succ_cons, List.cons_append]
          simp only [storeManyWith, hstep, h.unseen hstop rest]

end Log

open Backend

/-- A batch answers and leaves what single calls do that stop at the first failure, and entries
behind the failure make no difference. The report accounts for every entry: those that were stored,
in order, each under its own identifier if it had one, the one that failed, and those that were not
attempted. -/
theorem Workplace.Reachable.storeMany_sequential {types : ContentTypes} {w : Workplace}
    (hw : w.Reachable types) (es : List Entry) :
    ((storeMany es).answer w).results = (storeEach es).answer w ∧
    ((storeMany es).after w).state = ((storeEach es).after w).state ∧
    ∀ r, (storeMany es).answer w = r →
      r.submitted = es.length ∧
      r.storedIds.length + (if r.failure?.isSome then 1 else 0) + r.unattempted = es.length ∧
      List.Forall₂ (fun id e => e.id.isNil = false → id = e.id) r.storedIds
        (es.take r.storedIds.length) ∧
      (∀ i err, r.failure? = some (i, err) →
        i = r.storedIds.length ∧ r.toResult = .error err ∧
        ∀ rest, ((storeMany (es.take (i + 1) ++ rest)).answer w).results = r.results ∧
          ((storeMany (es.take (i + 1) ++ rest)).after w).state =
            ((storeMany es).after w).state) ∧
      (r.isComplete = true ↔ r.failure? = none) ∧
      (r.unattempted = 0 ∧ r.results.all BatchReport.isOk = true ↔ r.failure? = none) ∧
      ((∃ ids, r.toResult = .ok ids) ↔ r.failure? = none) ∧
      (r.failure? = none → r.toResult = .ok r.storedIds) := by
  have hmany := storeMany_spec hw.sound
  obtain ⟨hanswer, hstate, -⟩ := hmany es
  obtain ⟨heach, heach'⟩ := storeEach_spec hw.sound es
  obtain ⟨ids, stop, hcourse⟩ := Log.exists_course Keeping.insert w.state es
  refine ⟨by rw [hanswer, heach], by rw [hstate, heach'], ?_⟩
  rintro r rfl
  rw [hanswer, hcourse.results]
  simp only [BatchReport.storedIds_stopping, BatchReport.failure?_stopping,
    BatchReport.unattempted_stopping, BatchReport.toResult_stopping,
    BatchReport.isComplete_stopping, BatchReport.all_isOk_stopping, Option.isSome_map,
    Option.map_eq_none_iff, Option.map_eq_some_iff, Prod.mk.injEq]
  have hattempted := hcourse.attempted
  refine ⟨trivial, ?_, hcourse.own, ?_, ?_⟩
  · cases stop with
    | none => simp [hcourse.complete rfl]
    | some err =>
      simp only [Option.toList_some, List.length_singleton, Option.isSome_some, if_true] at *
      omega
  · rintro i err ⟨_, rfl, rfl, rfl⟩
    refine ⟨rfl, rfl, fun rest => ?_⟩
    obtain ⟨hrest, hrest', -⟩ := hmany (es.take (ids.length + 1) ++ rest)
    rw [hrest, hrest', hstate, hcourse.unseen rfl rest, hcourse.results]
    exact ⟨rfl, rfl⟩
  · cases stop with
    | none => simp [hcourse.complete rfl]
    | some err => simp

namespace Workplace

/-- An entry that stands in a batch three times is stored once, and the third is not attempted. -/
theorem Reachable.storeMany_sequential_repeated :
    opened.Reachable .empty ∧
      ((storeMany [note, note, note]).answer opened).results =
        (storeEach [note, note, note]).answer opened ∧
      ((storeMany [note, note, note]).answer opened).failure? =
        some (1, .alreadyExists note.id) ∧
      ((storeMany [note, note, note]).answer opened).unattempted = 1 := by
  have hfailure : ((storeMany [note, note, note]).answer opened).failure? =
      some (1, .alreadyExists note.id) := by decide +kernel
  obtain ⟨hsame, -, hreport⟩ :=
    (reachable_opened .empty).storeMany_sequential [note, note, note]
  obtain ⟨-, hcount, -, hstopped, -⟩ := hreport _ rfl
  have hstored := (hstopped _ _ hfailure).1
  refine ⟨reachable_opened .empty, hsame, hfailure, ?_⟩
  rw [hfailure, ← hstored] at hcount
  simp only [Option.isSome_some, if_true, List.length_cons, List.length_nil] at hcount
  omega

end Workplace

end AuditTrail
