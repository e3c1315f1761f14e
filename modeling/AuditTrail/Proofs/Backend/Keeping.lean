import AuditTrail.Backend
import AuditTrail.Proofs.Log.Memory
import AuditTrail.Proofs.Log.Table

/-!
# Logs, wherever they are kept

* `Keeping.insert`, `Keeping.retrieve`, `Keeping.select`, `Keeping.countFilter`, `Keeping.count`,
  `Keeping.setup`: the operations on a log in memory or in a table.
* `Keeping.Prepares`: the log can be asked. `Keeping.prepares_of_comparisons`: with fewer than a
  thousand comparisons every log can.
* `Keeping.Extends`: everything that could be retrieved still can; `Keeping.Retains`: and nothing
  else, as after a setup.
* `Keeping.Adds`: one log is another with one more entry and nothing else; `Keeping.adds_insert`:
  that is what an insertion does.
* `Keeping.insert_of_holds`: an identifier that is taken is refused.
* `Keeping.adds_storeWith`, `Keeping.log_storeWith_of_error`: what a store does to the log, if it
  succeeds and if it fails.
-/

namespace AuditTrail

theorem map_eq_ok {ε α β : Type} {r : Except ε α} {f : α → β} {b : β} :
    r.map f = .ok b ↔ ∃ a, r = .ok a ∧ f a = b := by
  cases r <;> simp [Except.map]

namespace Keeping

/-- Can the log be written? -/
def isWritable : Keeping → Bool
  | .memory _ => true
  | .table _ location _ => Backend.isWritable location

/-- The log with one more entry, wherever it is kept. -/
def insert : Keeping → Entry → Except Error Keeping
  | .memory log, e => (log.insert e).map .memory
  | .table path location log, e =>
    (if Backend.isWritable location then log.insert e else log.insertReadOnly e).map
      (.table path location)

/-- The entry of an identifier, wherever the log is kept. -/
def retrieve (types : ContentTypes) (id : EntryId) : Keeping → Except Error Entry
  | .memory log => log.retrieve id
  | .table _ _ log => log.retrieve types id

/-- A page of the entries that all filters match, wherever the log is kept. -/
def select (types : ContentTypes) (filters : List Filter) (amount offset : Nat) :
    Keeping → Except Error (List Entry)
  | .memory log => .ok (log.select filters amount offset)
  | .table _ _ log => log.select types filters amount offset

/-- The number of entries that all filters match, wherever the log is kept. -/
def countFilter (filters : List Filter) : Keeping → Except Error Nat
  | .memory log => .ok (log.countFilter filters)
  | .table _ _ log => log.countFilter filters

/-- The number of entries, wherever the log is kept. -/
def count : Keeping → Except Error Nat
  | .memory log => .ok log.count
  | .table _ _ log => log.countFilter []

/-- The log can be asked: in memory always, in a table if the statement can be prepared. -/
def Prepares : Keeping → Sql.Query → Prop
  | .memory _, _ => True
  | .table _ _ _, q => q.Fits

instance : (k : Keeping) → (q : Sql.Query) → Decidable (k.Prepares q)
  | .memory _, _ => .isTrue trivial
  | .table _ _ _, q => inferInstanceAs (Decidable q.Fits)

/-- The log is a table. -/
def IsTable : Keeping → Prop
  | .memory _ => False
  | .table _ _ _ => True

instance : (k : Keeping) → Decidable k.IsTable
  | .memory _ => .isFalse id
  | .table _ _ _ => .isTrue trivial

/-- The setup, wherever the log is kept. -/
def setup : Keeping → Except Error Unit × Keeping
  | .memory log => (.ok (), .memory log)
  | .table path location log =>
    if Backend.isWritable location then (log.setup.1, .table path location log.setup.2)
    else (log.setupReadOnly, .table path location log)

/-! ## Asking -/

section Asking

variable {k : Keeping} {types : ContentTypes} {filters : List Filter} {amount offset : Nat}

theorem IsTable.prepares_iff (h : k.IsTable) (q : Sql.Query) : k.Prepares q ↔ q.Fits := by
  cases k with
  | memory log => exact h.elim
  | table path location log => exact Iff.rfl

/-- Every log can be asked with fewer than a thousand comparisons. -/
theorem prepares_of_comparisons (k : Keeping) {q : Sql.Query} (hq : q.clause = .ofFilters filters)
    (h : Filter.comparisons filters < 1000) : k.Prepares q := by
  cases k with
  | memory log => trivial
  | table path location log => exact Sql.Query.fits_of_comparisons hq h

theorem prepares_pageQuery_iff (amount offset amount' offset' : Nat) :
    k.Prepares (TableLog.pageQuery filters amount offset) ↔
      k.Prepares (TableLog.pageQuery filters amount' offset') := by
  cases k with
  | memory log => exact Iff.rfl
  | table path location log => exact TableLog.fits_pageQuery_iff amount offset amount' offset'

theorem select_of_not_prepares (h : ¬ k.Prepares (TableLog.pageQuery filters amount offset)) :
    k.select types filters amount offset = .error (TableLog.tooLarge .prepareSelect) := by
  cases k with
  | memory log => exact absurd trivial h
  | table path location log => exact TableLog.select_of_not_fits h

theorem countFilter_of_not_prepares (h : ¬ k.Prepares (TableLog.countQuery filters)) :
    k.countFilter filters = .error (TableLog.tooLarge .countRows) := by
  cases k with
  | memory log => exact absurd trivial h
  | table path location log => exact TableLog.countFilter_of_not_fits h

theorem prepares_of_select {xs : List Entry} (h : k.select types filters amount offset = .ok xs) :
    k.Prepares (TableLog.pageQuery filters amount offset) := by
  by_contra hnot
  rw [select_of_not_prepares hnot] at h
  cases h

end Asking

/-! ## Growth -/

/-- An entry with the identifier is in the log. -/
def Holds (id : EntryId) : Keeping → Prop
  | .memory log => (log.find? id).isSome = true
  | .table _ _ log => log.Holds id

/-- The second log has what the first has, and is kept in the same way. -/
def Extends : Keeping → Keeping → Prop
  | .memory log, .memory log' => log.Extends log'
  | .table _ _ log, .table _ _ log' => log.Extends log'
  | _, _ => False

variable {types : ContentTypes} {k k' : Keeping} {e : Entry} {id : EntryId}

namespace Extends

theorem refl (k : Keeping) : k.Extends k := by
  cases k with
  | memory log => exact MemoryLog.Extends.refl log
  | table path location log => exact TableLog.Extends.refl log

theorem trans {k'' : Keeping} (h : k.Extends k') (h' : k'.Extends k'') : k.Extends k'' := by
  cases k <;> cases k' <;> cases k'' <;>
    first
    | exact h.elim
    | exact h'.elim
    | exact MemoryLog.Extends.trans h h'
    | exact TableLog.Extends.trans h h'

theorem holds (h : k.Extends k') (hid : k.Holds id) : k'.Holds id := by
  cases k <;> cases k'
  case memory.memory log log' =>
    obtain ⟨e, he⟩ := Option.isSome_iff_exists.1 hid
    exact Option.isSome_iff_exists.2 ⟨e, h id e he⟩
  case table.table => exact TableLog.Extends.holds h hid
  all_goals exact h.elim

/-- What was retrieved once is retrieved from every log that extends the first. -/
theorem retrieve (h : k.Extends k') (hid : k.retrieve types id = .ok e) :
    k'.retrieve types id = .ok e := by
  cases k <;> cases k'
  case memory.memory log log' =>
    simp only [Keeping.retrieve, MemoryLog.retrieve_eq_ok_iff] at hid ⊢
    exact h id e hid
  case table.table => exact TableLog.Extends.retrieve h hid
  all_goals exact h.elim

end Extends

/-- The second log has exactly what the first has, and is kept in the same way. -/
def Retains : Keeping → Keeping → Prop
  | .memory log, .memory log' => log = log'
  | .table _ _ log, .table _ _ log' => log.Retains log'
  | _, _ => False

theorem Retains.refl (k : Keeping) : k.Retains k := by
  cases k with
  | memory log => exact rfl
  | table path location log => exact ⟨rfl, .refl _⟩

theorem Retains.extends (h : k.Retains k') : k.Extends k' := by
  cases k <;> cases k'
  case memory.memory log log' =>
    obtain rfl : log = log' := h
    exact MemoryLog.Extends.refl log
  case table.table => exact TableLog.Retains.extends h
  all_goals exact h.elim

/-- What is read back for an entry that is in the log: in memory the entry, from a table what its
row says. -/
def readBack (types : ContentTypes) (e : Entry) : Keeping → Except Error Entry
  | .memory _ => .ok e
  | .table _ _ _ => (Row.ofEntry e).toEntry types

theorem IsTable.of_extends (hk : k.IsTable) (h : k.Extends k') : k'.IsTable := by
  cases k <;> cases k' <;> first | exact hk | exact h.elim

theorem IsTable.readBack (h : k.IsTable) (e : Entry) :
    k.readBack types e = (Row.ofEntry e).toEntry types := by
  cases k with
  | memory log => exact h.elim
  | table path location log => rfl

/-- The second log is the first with one more entry and nothing else. -/
structure Adds (types : ContentTypes) (e : Entry) (k k' : Keeping) : Prop where
  grows : k.Extends k'
  holds : ∀ id, k'.Holds id ↔ id = e.id ∨ k.Holds id
  fresh : ¬ k.Holds e.id
  unknown : k.retrieve types e.id = .error (.notFound e.id)
  known : k'.retrieve types e.id = k'.readBack types e
  others : ∀ id, id ≠ e.id → k'.retrieve types id = k.retrieve types id
  count : ∃ n, k.count = .ok n ∧ k'.count = .ok (n + 1)

/-- An insertion is one into the log in memory, or into the table of a log that can be written. -/
theorem insert_eq_ok (h : k.insert e = .ok k') :
    (∃ log log', k = .memory log ∧ k' = .memory log' ∧ log.insert e = .ok log') ∨
      ∃ path location log log', k = .table path location log ∧ k' = .table path location log' ∧
        Backend.isWritable location = true ∧ log.insert e = .ok log' := by
  cases k with
  | memory log =>
    obtain ⟨log', hlog, rfl⟩ := map_eq_ok.1 h
    exact .inl ⟨log, log', rfl, rfl, hlog⟩
  | table path location log =>
    obtain ⟨log', hlog, rfl⟩ := map_eq_ok.1 h
    split at hlog
    · next hl => exact .inr ⟨path, location, log, log', rfl, rfl, hl, hlog⟩
    · cases hlog

/-- An insertion adds one entry. -/
theorem adds_insert (types : ContentTypes) (h : k.insert e = .ok k') : Adds types e k k' := by
  obtain ⟨log, log', rfl, rfl, hlog⟩ | ⟨path, location, log, log', rfl, rfl, -, hlog⟩ :=
    insert_eq_ok h
  · have hfree := (MemoryLog.insert_eq_ok_iff.1 hlog).1
    refine ⟨MemoryLog.extends_insert hlog, ?_, ?_, ?_, ?_, ?_, ?_⟩
    · intro id
      simp only [Holds, MemoryLog.find?_insert hlog]
      split <;> simp [*]
    · simp [Holds, hfree]
    · simp [retrieve, MemoryLog.retrieve, hfree]
    · simp [retrieve, MemoryLog.retrieve, MemoryLog.find?_insert hlog, readBack]
    · intro id hid
      simp [retrieve, MemoryLog.retrieve, MemoryLog.find?_insert hlog, hid]
    · exact ⟨log.count, rfl, congrArg Except.ok (MemoryLog.count_insert hlog)⟩
  · exact ⟨TableLog.extends_insert hlog, fun id => TableLog.holds_insert hlog,
      TableLog.not_holds_of_insert hlog, (TableLog.retrieve_insert hlog).1,
      (TableLog.retrieve_insert hlog).2, fun id => TableLog.retrieve_insert_of_ne hlog,
      TableLog.countFilter_insert hlog⟩

theorem retains_setup (k : Keeping) : k.Retains k.setup.2 := by
  cases k with
  | memory log => exact .refl _
  | table path location log =>
    simp only [setup]
    split
    · exact ⟨rfl, Sql.Database.retains_create _ _⟩
    · exact .refl _

/-! ## Storing -/

/-- The entry that is stored is the given one, under its own identifier or the next one. -/
theorem assign_eq_withId (ids : IdSupply) (x : Entry) :
    (ids.assign x).1 = x.withId (ids.assign x).1.id := by
  unfold IdSupply.assign
  split <;> rfl

/-- A store that succeeds adds the entry under the identifier that it answers. -/
theorem adds_storeWith (types : ContentTypes) {s : Log.Store Keeping} {x : Entry}
    (h : (Log.storeWith insert s x).1 = .ok id) :
    (s.ids.assign x).1 = x.withId id ∧
      s.log.insert (x.withId id) = .ok (Log.storeWith insert s x).2.log ∧
      Adds types (x.withId id) s.log (Log.storeWith insert s x).2.log := by
  have hassign := assign_eq_withId s.ids x
  simp only [Log.storeWith] at h ⊢
  cases hins : s.log.insert (s.ids.assign x).1 with
  | error err => simp [hins] at h
  | ok k =>
    obtain rfl : (s.ids.assign x).1.id = id := by simpa [hins] using h
    rw [hassign] at hins
    exact ⟨hassign, hins, adds_insert types hins⟩

/-- A store that fails leaves the log as it is. -/
theorem log_storeWith_of_error {s : Log.Store Keeping} {x : Entry} {err : Error}
    (h : (Log.storeWith insert s x).1 = .error err) :
    (Log.storeWith insert s x).2.log = s.log := by
  simp only [Log.storeWith] at h ⊢
  cases hins : s.log.insert (s.ids.assign x).1 with
  | error err => rfl
  | ok k => simp [hins] at h

theorem extends_storeWith (s : Log.Store Keeping) (e : Entry) :
    s.log.Extends (Log.storeWith insert s e).2.log := by
  cases hr : (Log.storeWith insert s e).1 with
  | error err =>
    rw [log_storeWith_of_error hr]
    exact .refl _
  | ok id => exact (adds_storeWith .empty hr).2.2.grows

theorem extends_storeManyWith (s : Log.Store Keeping) (es : List Entry) :
    s.log.Extends (Log.storeManyWith insert s es).2.log := by
  induction es generalizing s with
  | nil => exact .refl _
  | cons e es ih =>
    have hstep := extends_storeWith s e
    rw [Log.storeManyWith]
    cases hs : Log.storeWith insert s e with
    | mk r s' =>
      rw [hs] at hstep
      cases r with
      | error err => exact hstep
      | ok id => exact hstep.trans (ih s')

end Keeping

end AuditTrail
