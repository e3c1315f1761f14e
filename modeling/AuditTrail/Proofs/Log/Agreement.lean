import AuditTrail.Proofs.Log.Contents

/-!
# The log in memory and the log in a table agree

* `Log.Agree`: the log in memory is made of the entries of a list, and the rows of the table are
  those of the entries, in the same order.
* `Log.agree_insert`: both take an entry, or both refuse it for the same reason.
* `Log.Agree.countFilter`, `Log.Agree.retrieve`, `Log.Agree.select`: both count the same, and the
  table answers with what the rows of the entries say that are answered in memory.
* `Entry.exists_readBack_iff`: which entries the table gives back.
-/

namespace AuditTrail

open Sql

variable {types : ContentTypes}

/-! ## The two logs -/

namespace Log

variable {log log' : MemoryLog} {table table' : TableLog} {es : List Entry} {e : Entry}
  {id : EntryId}

/-- Both logs are made of the entries, which were stored in this order. -/
structure Agree (log : MemoryLog) (table : TableLog) (es : List Entry) : Prop where
  memory : log.Represents es
  rows : ∃ t, table.database.table? table.table = some t ∧ t.rows = es.map cellsOf

theorem agree_empty {t : Table} (ht : table.database.table? table.table = some t)
    (hrows : t.rows = []) : Agree .empty table [] :=
  ⟨MemoryLog.represents_empty, t, ht, hrows⟩

namespace Agree

theorem holds_iff (h : Agree log table es) :
    table.Holds id ↔ (log.find? id).isSome = true := by
  obtain ⟨t, ht, hrows⟩ := h.rows
  simp only [TableLog.Holds, ht, Option.some.injEq, exists_eq_left', hrows, List.mem_map,
    exists_exists_and_eq_and, TableLog.cellsOf_id_iff, Option.isSome_iff_exists,
    h.memory.find?_eq_some_iff]

/-- An insertion succeeds in both logs, or is refused in both for the same reason. -/
theorem insert (h : Agree log table es) (e : Entry) :
    (∃ log' table', log.insert e = .ok log' ∧ table.insert e = .ok table' ∧
        Agree log' table' (es ++ [e])) ∨
      log.insert e = .error (.alreadyExists e.id) ∧
        table.insert e = .error (.alreadyExists e.id) := by
  by_cases htaken : (log.find? e.id).isSome = true
  · exact .inr ⟨MemoryLog.insert_eq_alreadyExists_iff.2 htaken,
      TableLog.insert_eq_alreadyExists_iff.2 (h.holds_iff.2 htaken)⟩
  · obtain ⟨t, ht, hrows⟩ := h.rows
    have hfree : ∀ r ∈ t.rows, r .id ≠ .blob e.id.bytes := fun r hr hid =>
      htaken (h.holds_iff.1 ⟨t, ht, r, hr, hid⟩)
    have hlog := MemoryLog.insert_eq_ok_iff.2 ⟨Option.not_isSome_iff_eq_none.1 htaken, rfl⟩
    have hdb : table.database.insert table.table e.id (Row.ofEntry e) = .ok _ :=
      Database.insert_eq_ok_iff.2 ⟨t, ht, hfree, rfl⟩
    have htable := TableLog.insert_eq_ok_iff.2 ⟨_, hdb, rfl⟩
    obtain ⟨-, t₀, t', ht₀, -, ht', hrows'⟩ := TableLog.rows_of_insert htable
    obtain rfl : t = t₀ := Option.some.inj (ht.symm.trans ht₀)
    refine .inl ⟨_, _, hlog, htable, h.memory.insert hlog, t', ht', ?_⟩
    rw [hrows', hrows, List.map_append, List.map_singleton]

/-! ### Reading -/

theorem represents (h : Agree log table es) : table.Represents es := ⟨h.rows, h.memory.nodup⟩

/-- Both count the same, if the table can be asked. -/
theorem countFilter (h : Agree log table es) {filters : List Filter}
    (hfits : (TableLog.countQuery filters).Fits) :
    table.countFilter filters = .ok (log.countFilter filters) := by
  rw [h.represents.countFilter hfits, h.memory.countFilter]

theorem count (h : Agree log table es) : table.countFilter [] = .ok log.count := by
  obtain ⟨t, ht, hrows⟩ := h.rows
  rw [TableLog.countFilter_nil ht, hrows, List.length_map, h.memory.count]

/-- The table answers with what the row of the entry says that is answered in memory. -/
theorem retrieve (h : Agree log table es) (types : ContentTypes) (id : EntryId) :
    table.retrieve types id = log.retrieve id >>= fun e => (Row.ofEntry e).toEntry types := by
  obtain ⟨t, ht, hrows⟩ := h.rows
  have hentry : (es.find? fun e => cellsOf e .id = .blob id.bytes) = log.find? id := by
    cases hlog : log.find? id with
    | none =>
      have hfree := h.memory.find?_eq_none_iff.1 hlog
      simpa [TableLog.cellsOf_id_iff] using hfree
    | some e =>
      obtain ⟨he, hid⟩ := h.memory.find?_eq_some_iff.1 hlog
      have hsome : (es.find? fun e => cellsOf e .id = .blob id.bytes).isSome = true :=
        List.find?_isSome.2 ⟨e, he, decide_eq_true (TableLog.cellsOf_id_iff.2 hid)⟩
      obtain ⟨x, hx⟩ := Option.isSome_iff_exists.1 hsome
      have hxid : x.id = id := TableLog.cellsOf_id_iff.1 (by simpa using List.find?_some hx)
      have hxlog := h.memory.find?_eq_some_iff.2 ⟨List.mem_of_find?_eq_some hx, hxid⟩
      rw [hx, ← hlog, hxlog]
  have hfind : (t.rows.find? fun r => r .id = .blob id.bytes) = (log.find? id).map cellsOf := by
    rw [hrows, List.find?_map, ← hentry]
    rfl
  rw [TableLog.retrieve_eq ht, hfind, MemoryLog.retrieve]
  cases log.find? id with
  | none => rfl
  | some e => exact TableLog.answer_cellsOf

/-- Entries at whole microseconds are in the same order in both logs. -/
theorem latestFirst_eq (hwhole : ∀ e ∈ es, e.timestamp.IsWhole) :
    TableLog.latestFirst es = MemoryLog.newestFirst es := by
  have hmap := List.map_mergeSort (l := es.reverse) (f := id)
    (r := fun a b : Entry => decide (b.micros ≤ a.micros))
    (s := fun a b : Entry => b.timestamp.le a.timestamp) fun a ha b hb => by
      rw [Bool.eq_iff_iff, decide_eq_true_iff]
      exact Instant.micros_le_iff (hwhole b (List.mem_reverse.1 hb))
        (hwhole a (List.mem_reverse.1 ha))
  rwa [List.map_id, List.map_id] at hmap

/-- The table answers with what the rows of the entries say that are answered in memory, if it can
be asked. -/
theorem select (h : Agree log table es) (hplain : ∀ e ∈ es, e.IsPlain types)
    (hsize : es.length ≤ Text.maxSigned) {filters : List Filter} {amount offset : Nat}
    (hfits : (TableLog.pageQuery filters amount offset).Fits) :
    table.select types filters amount offset =
      (log.select filters amount offset).mapM fun e => (Row.ofEntry e).toEntry types := by
  have hwhole : ∀ e ∈ es.filter (Filter.matchesAll filters), e.timestamp.IsWhole :=
    fun e he => (hplain e (List.mem_of_mem_filter he)).whole
  rw [h.represents.select hsize hfits, h.memory.select, latestFirst_eq hwhole]

end Agree

end Log

end AuditTrail
