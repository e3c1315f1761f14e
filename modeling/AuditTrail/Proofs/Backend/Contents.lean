import AuditTrail.Proofs.Backend.Batch
import AuditTrail.Proofs.Log.Contents

/-!
# What a log is made of

* `Keeping.Represents`: the log is made of the entries of a list, in the order in which they were
  stored, wherever it is kept. `Keeping.represents_insert`, `Keeping.represents_storeManyWith`: what
  is stored comes behind the others.
* `Call.entries`, `storedBy`: the entries that a call, or a run, stored, as its answers tell.
* `Call.represents`, `runAll_represents`: after a call, or a run, the log is made of what it was
  made of and the entries that were stored since.
* `Keeping.newestFirst`: the order of reading. `Keeping.Represents.select` and the others say what a
  log answers.
-/

namespace AuditTrail

namespace Keeping

variable {types : ContentTypes} {k k' : Keeping} {es : List Entry} {e : Entry}

/-- Is there a log, and nothing in it? -/
def isEmpty : Keeping → Bool
  | .memory log => log.entries.isEmpty && log.index.isEmpty && log.next = 0
  | .table _ _ log => (log.database.table? log.table).any fun t => t.rows.isEmpty

/-- The log is made of the entries, which were stored in this order. -/
def Represents : Keeping → List Entry → Prop
  | .memory log, es => log.Represents es
  | .table _ _ log, es => log.Represents es

theorem represents_nil (h : k.isEmpty = true) : k.Represents [] := by
  cases k with
  | memory log =>
    obtain ⟨entries, index, next⟩ := log
    simp only [isEmpty, Bool.and_eq_true, List.isEmpty_iff, decide_eq_true_eq] at h
    obtain ⟨⟨rfl, rfl⟩, rfl⟩ := h
    exact MemoryLog.represents_empty
  | table path location log =>
    obtain ⟨t, ht, hrows⟩ := (Option.any_eq_true _ _).1 h
    exact ⟨⟨t, ht, List.isEmpty_iff.1 hrows⟩, List.nodup_nil⟩

theorem represents_insert (h : k.Represents es) (hins : k.insert e = .ok k') :
    k'.Represents (es ++ [e]) := by
  obtain ⟨log, log', rfl, rfl, hlog⟩ | ⟨path, location, log, log', rfl, rfl, -, hlog⟩ :=
    insert_eq_ok hins
  · exact MemoryLog.Represents.insert h hlog
  · exact TableLog.Represents.insert h hlog

/-- An entry is stored if the log can be written and no other has its identifier. -/
theorem exists_insert (h : k.Represents es) (hwritable : k.isWritable = true)
    (hfresh : ∀ x ∈ es, x.id ≠ e.id) : ∃ k', k.insert e = .ok k' := by
  cases k with
  | memory log =>
    have hfree := (MemoryLog.Represents.find?_eq_none_iff h).2 hfresh
    exact ⟨_, map_eq_ok.2 ⟨_, MemoryLog.insert_eq_ok_iff.2 ⟨hfree, rfl⟩, rfl⟩⟩
  | table path location log =>
    obtain ⟨t, ht, hrows⟩ := TableLog.Represents.rows h
    have hfree : ∀ r ∈ t.rows, r .id ≠ .blob e.id.bytes := by
      intro r hr hid
      rw [hrows] at hr
      obtain ⟨x, hx, rfl⟩ := List.mem_map.1 hr
      exact hfresh x hx (TableLog.cellsOf_id_iff.1 hid)
    have hinsert := TableLog.insert_eq_ok_iff.2
      ⟨_, Sql.Database.insert_eq_ok_iff.2 ⟨t, ht, hfree, rfl⟩, rfl⟩
    rw [insert, if_pos (show Backend.isWritable location = true from hwritable)]
    exact ⟨_, map_eq_ok.2 ⟨_, hinsert, rfl⟩⟩

theorem represents_of_retains (h : k.Represents es) (hsame : k.Retains k') : k'.Represents es := by
  cases k <;> cases k'
  case memory.memory log log' =>
    obtain rfl : log = log' := hsame
    exact h
  case table.table => exact TableLog.Represents.of_retains h hsame
  all_goals exact hsame.elim

theorem Represents.nodup (h : k.Represents es) : (es.map Entry.id).Nodup := by
  cases k with
  | memory log => exact MemoryLog.Represents.nodup h
  | table path location log => exact TableLog.Represents.nodup h

/-! ## Storing -/

/-- An entry that is stored comes behind the others, under the identifier that is answered. -/
theorem represents_storeWith {s : Log.Store Keeping} (h : s.log.Represents es) (e : Entry) :
    match (Log.storeWith insert s e).1 with
    | .ok id => (Log.storeWith insert s e).2.log.Represents (es ++ [e.withId id])
    | .error _ => (Log.storeWith insert s e).2.log.Represents es := by
  have hassign := assign_eq_withId s.ids e
  simp only [Log.storeWith]
  cases hins : s.log.insert (s.ids.assign e).1 with
  | error err => exact h
  | ok k =>
    rw [hassign] at hins
    exact represents_insert h hins

/-- An entry of its own identifier is stored under it, if the log can be written and no other has
it. -/
theorem storeWith_of_fresh {s : Log.Store Keeping} (h : s.log.Represents es)
    (hwritable : s.log.isWritable = true) (hid : e.id.isNil = false)
    (hfresh : ∀ x ∈ es, x.id ≠ e.id) : (Log.storeWith insert s e).1 = .ok e.id := by
  obtain ⟨k, hk⟩ := exists_insert h hwritable hfresh
  rw [Log.storeWith, IdSupply.assign_of_assigned s.ids hid]
  simp only [hk]

/-- The entries of a batch with the identifiers under which they were stored. -/
def numbered (xs : List Entry) (ids : List EntryId) : List Entry :=
  List.zipWith Entry.withId xs ids

theorem represents_storeManyWith {s : Log.Store Keeping} (h : s.log.Represents es)
    (xs : List Entry) :
    (Log.storeManyWith insert s xs).2.log.Represents (es ++ numbered xs
      (BatchReport.storedIds ⟨(Log.storeManyWith insert s xs).1, xs.length⟩)) := by
  induction xs generalizing s es with
  | nil => simpa [Log.storeManyWith, numbered] using h
  | cons x xs ih =>
    have hstep := represents_storeWith h x
    rw [Log.storeManyWith]
    cases hs : Log.storeWith insert s x with
    | mk r s' =>
      rw [hs] at hstep
      cases r with
      | error err => exact (List.append_nil es).symm ▸ hstep
      | ok id =>
        have := ih hstep
        rw [List.append_assoc] at this
        exact this

/-! ## Reading -/

/-- The entries in the order of reading. A log in memory compares instants, a table
microseconds; of entries that are level the one that was stored last comes first. -/
def newestFirst : Keeping → List Entry → List Entry
  | .memory _, es => MemoryLog.newestFirst es
  | .table _ _ _, es => TableLog.latestFirst es

theorem filter_newestFirst (k : Keeping) (p : Entry → Bool) (es : List Entry) :
    (k.newestFirst es).filter p = k.newestFirst (es.filter p) := by
  cases k with
  | memory log =>
    rw [newestFirst, newestFirst, MemoryLog.newestFirst, Log.filter_newest, List.filter_reverse]
    rfl
  | table path location log =>
    rw [newestFirst, newestFirst, TableLog.latestFirst, Log.filter_latest, List.filter_reverse]
    rfl

theorem perm_newestFirst (k : Keeping) (es : List Entry) : (k.newestFirst es).Perm es := by
  cases k with
  | memory log => exact (List.mergeSort_perm _ _).trans (List.reverse_perm es)
  | table path location log => exact (List.mergeSort_perm _ _).trans (List.reverse_perm es)

/-- What stands on a page is one of the entries. -/
theorem mem_of_mem_page (k : Keeping) {p : Entry → Bool} {amount offset : Nat}
    (h : e ∈ Log.page amount offset (k.newestFirst (es.filter p))) : e ∈ es := by
  have hmem : e ∈ k.newestFirst (es.filter p) := List.mem_of_mem_drop (List.mem_of_mem_take h)
  exact (List.mem_filter.1 ((perm_newestFirst k _).mem_iff.1 hmem)).1

/-- Entries at the same instants, in the same order of storing, are read in the same order. -/
theorem map_newestFirst (k : Keeping) {f : Entry → Entry}
    (hmicros : ∀ e ∈ es, (f e).micros = e.micros)
    (hinstant : ∀ log, k = .memory log → ∀ e ∈ es, (f e).timestamp = e.timestamp) :
    (k.newestFirst es).map f = k.newestFirst (es.map f) := by
  cases k with
  | memory log =>
    rw [newestFirst, newestFirst, MemoryLog.newestFirst, MemoryLog.newestFirst, ← List.map_reverse]
    exact Log.map_newest fun e he => hinstant log rfl e (List.mem_reverse.1 he)
  | table path location log =>
    rw [newestFirst, newestFirst, TableLog.latestFirst, TableLog.latestFirst, ← List.map_reverse]
    exact Log.map_latest fun e he => hmicros e (List.mem_reverse.1 he)

namespace Represents

/-- A page is read back entry by entry from the entries that the filters match. -/
theorem select (h : k.Represents es) (hsize : es.length ≤ Text.maxSigned) {filters : List Filter}
    {amount offset : Nat} (hprepares : k.Prepares (TableLog.pageQuery filters amount offset)) :
    k.select types filters amount offset =
      (Log.page amount offset (k.newestFirst (es.filter (Filter.matchesAll filters)))).mapM
        fun e => k.readBack types e := by
  cases k with
  | memory log =>
    simp only [readBack, mapM_ok]
    exact congrArg Except.ok (MemoryLog.Represents.select h filters amount offset)
  | table path location log => exact TableLog.Represents.select h hsize hprepares

/-- What is retrieved is what is read back for the entry. -/
theorem retrieve (h : k.Represents es) (he : e ∈ es) :
    k.retrieve types e.id = k.readBack types e := by
  cases k with
  | memory log =>
    exact MemoryLog.retrieve_eq_ok_iff.2 (MemoryLog.Represents.find?_eq_some_iff h |>.2 ⟨he, rfl⟩)
  | table path location log => exact TableLog.Represents.retrieve h he

/-- A page is read if every entry is read back. -/
theorem exists_select (h : k.Represents es) (hall : ∀ e ∈ es, ∃ e', k.readBack types e = .ok e')
    {filters : List Filter} {amount offset : Nat}
    (hprepares : k.Prepares (TableLog.pageQuery filters amount offset)) :
    ∃ xs, k.select types filters amount offset = .ok xs := by
  cases k with
  | memory log => exact ⟨_, rfl⟩
  | table path location log =>
    rw [Keeping.select, TableLog.Represents.select_cut h hprepares]
    choose! read hread using hall
    exact ⟨_, mapM_eq_map fun e he => hread e (mem_of_mem_page (.table path location log) he)⟩

/-- Whatever is read is read back for one of the entries. -/
theorem exists_of_mem_select (h : k.Represents es) {filters : List Filter} {amount offset : Nat}
    {xs : List Entry} (hread : k.select types filters amount offset = .ok xs) {x : Entry}
    (hx : x ∈ xs) : ∃ e ∈ es, k.readBack types e = .ok x := by
  have hprepares := prepares_of_select hread
  cases k with
  | memory log =>
    obtain rfl := Except.ok.inj hread
    have hselect := MemoryLog.Represents.select h filters amount offset
    exact ⟨x, mem_of_mem_page (.memory log) (hselect ▸ hx), rfl⟩
  | table path location log =>
    rw [Keeping.select, TableLog.Represents.select_cut h hprepares] at hread
    obtain ⟨f, hitem, rfl⟩ := exists_map_of_mapM hread
    obtain ⟨e, he, rfl⟩ := List.mem_map.1 hx
    exact ⟨e, mem_of_mem_page (.table path location log) he, hitem e he⟩

theorem countFilter (h : k.Represents es) {filters : List Filter}
    (hprepares : k.Prepares (TableLog.countQuery filters)) :
    k.countFilter filters = .ok (es.filter (Filter.matchesAll filters)).length := by
  cases k with
  | memory log => exact congrArg Except.ok (MemoryLog.Represents.countFilter h filters)
  | table path location log => exact TableLog.Represents.countFilter h hprepares

theorem count (h : k.Represents es) : k.count = .ok es.length := by
  cases k with
  | memory log => exact congrArg Except.ok (MemoryLog.Represents.count h)
  | table path location log =>
    have hall : es.filter (Filter.matchesAll []) = es := List.filter_eq_self.2 fun _ _ => rfl
    have hfits : (TableLog.countQuery []).Fits := TableLog.fits_countQuery (by decide)
    exact (TableLog.Represents.countFilter h hfits).trans (by rw [hall])

end Represents

end Keeping

/-! ## Runs -/

/-- The entries that a call stored, as its answer tells. -/
def Call.entries : Call → Reply → List Entry
  | .store e, .id (.ok id) => [e.withId id]
  | .storeMany es, .report r => Keeping.numbered es r.storedIds
  | _, _ => []

/-- The entries that a run stored, as its answers tell. -/
def storedBy (cs : List Call) (rs : List Reply) : List Entry :=
  (List.zipWith Call.entries cs rs).flatten

variable {types : ContentTypes} {w : Workplace} {es : List Entry}

theorem Call.entries_of_not_store {c : Call} (hc : c.isStore = false) (r : Reply) :
    c.entries r = [] := by
  cases c with
  | store e => cases hc
  | storeMany es => cases hc
  | _ => rfl

/-- After a call the log is made of what it was made of and the entries that were stored. -/
theorem Call.represents (hw : w.Sound) (h : w.current.Represents es) (c : Call) :
    ((c.work types).after w).current.Represents
      (es ++ c.entries ((c.work types).answer w)) := by
  rcases (@Call.current_cases types w hw c).2 with
    ⟨e, rfl, hr, hcurrent⟩ | ⟨xs, rfl, hr, hcurrent⟩ | ⟨hc, hretains⟩
  · have hstep := Keeping.represents_storeWith (s := w.state) h e
    rw [hr, hcurrent]
    cases hs : (Log.storeWith Keeping.insert w.state e).1 with
    | error err =>
      rw [hs] at hstep
      exact (List.append_nil es).symm ▸ hstep
    | ok id =>
      rw [hs] at hstep
      exact hstep
  · rw [hr, hcurrent]
    exact Keeping.represents_storeManyWith (s := w.state) h xs
  · rw [Call.entries_of_not_store hc, List.append_nil]
    exact Keeping.represents_of_retains h hretains

/-- After a run the log is made of what it was made of and the entries that were stored. -/
theorem runAll_represents (hw : w.Sound) (h : w.current.Represents es) (cs : List Call) :
    ((runAll types cs).after w).current.Represents
      (es ++ storedBy cs ((runAll types cs).answer w)) := by
  induction cs generalizing w es with
  | nil => exact (List.append_nil es).symm ▸ h
  | cons c cs ih =>
    have hstep := ih (Call.spec hw c).1 (@Call.represents types _ _ hw h c)
    rw [answer_runAll_cons, after_runAll_cons, storedBy, List.zipWith_cons_cons, List.flatten_cons,
      ← List.append_assoc]
    exact hstep

/-- From a log without entries a run leads to a log that is made of what the run stored. -/
theorem Workplace.Reachable.represents (hw : w.Reachable types) (hempty : w.current.isEmpty = true)
    (cs : List Call) :
    ((runAll types cs).after w).Sound ∧
      ((runAll types cs).after w).current.Represents
        (storedBy cs ((runAll types cs).answer w)) := by
  have hmade := @runAll_represents types w [] hw.sound (Keeping.represents_nil hempty) cs
  exact ⟨(runAll_spec hw.sound cs).1, by rwa [List.nil_append] at hmade⟩

end AuditTrail
