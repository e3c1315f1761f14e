import AuditTrail.Log.Table
import AuditTrail.Proofs.Sql.Clause
import AuditTrail.Proofs.Sql.Database
import AuditTrail.Proofs.Sql.Query

/-!
# The log in a table only grows

* `TableLog.Holds`: a row of the table has the identifier.
* `TableLog.Extends`: the table is still there, with the same rows in front. What could be
  retrieved can be retrieved. `TableLog.Retains`: it is there as it was.
* `TableLog.insert_eq_alreadyExists_iff`, `TableLog.holds_insert`, `TableLog.retrieve_insert`,
  `TableLog.retrieve_insert_of_ne`, `TableLog.countFilter_insert`: what one more entry changes.
* `TableLog.pageCells`, `TableLog.readPage`: the cells of a page, and their entries. `TableLog.select_of_fits`,
  `TableLog.countFilter_of_fits`: what is answered to statements that can be prepared;
  `TableLog.select_of_not_fits`, `TableLog.countFilter_of_not_fits`: and to the others.
-/

namespace AuditTrail.TableLog

open Sql

variable {types : ContentTypes} {log log' : TableLog} {id : EntryId} {e : Entry} {t : Table}

/-- A row of the table has the identifier. -/
def Holds (log : TableLog) (id : EntryId) : Prop :=
  ∃ t, log.database.table? log.table = some t ∧ ∃ r ∈ t.rows, r .id = .blob id.bytes

/-- The same table, with more rows behind those that were there. -/
structure Extends (log log' : TableLog) : Prop where
  table : log'.table = log.table
  database : log.database.Extends log'.database

namespace Extends

theorem refl (log : TableLog) : log.Extends log := ⟨rfl, .refl _⟩

theorem trans {log'' : TableLog} (h : log.Extends log') (h' : log'.Extends log'') :
    log.Extends log'' :=
  ⟨h'.table.trans h.table, h.database.trans h'.database⟩

theorem holds (h : log.Extends log') (hid : log.Holds id) : log'.Holds id := by
  obtain ⟨t, ht, r, hr, hrid⟩ := hid
  obtain ⟨t', ht', hrows⟩ := h.database _ t ht
  exact ⟨t', h.table ▸ ht', r, hrows.subset hr, hrid⟩

end Extends

/-- The same table, as it was. -/
structure Retains (log log' : TableLog) : Prop where
  table : log'.table = log.table
  database : log.database.Retains log'.database

theorem Retains.extends (h : log.Retains log') : log.Extends log' := ⟨h.table, h.database.extends⟩

/-! ## Retrieving -/

/-- What is retrieved for the first row with the identifier. -/
def answer (types : ContentTypes) (id : EntryId) : Option StoredRow → Except Error Entry
  | none => .error (.notFound id)
  | some r => readCells .selectRow r >>= Row.toEntry types

theorem readCells_ofRow (activity : Activity) (r : Row) :
    readCells activity (.ofRow r) = .ok r := by
  rw [readCells, StoredRow.toRow?_ofRow]

theorem mapM_readCells (rows : List Row) :
    (rows.map .ofRow).mapM (readCells .selectRows) = .ok rows :=
  mapM_map fun r _ => readCells_ofRow .selectRows r

theorem answer_cellsOf :
    answer types id (some (cellsOf e)) = (Row.ofEntry e).toEntry types := by
  rw [answer, cellsOf, readCells_ofRow]
  rfl

theorem retrieve_eq (ht : log.database.table? log.table = some t) :
    log.retrieve types id = answer types id (t.rows.find? fun r => r .id = .blob id.bytes) := by
  unfold retrieve open?
  simp only [ht, bind, Except.bind]
  cases t.rows.find? fun r => r .id = .blob id.bytes <;> rfl

/-- What is retrieved was read from the first row with the identifier. -/
theorem find?_of_retrieve (h : log.retrieve types id = .ok e) :
    ∃ t r, log.database.table? log.table = some t ∧
      (t.rows.find? fun r => r .id = .blob id.bytes) = some r ∧
        answer types id (some r) = .ok e := by
  cases ht : log.database.table? log.table with
  | none => simp [retrieve, open?, ht, bind, Except.bind] at h
  | some t =>
    rw [retrieve_eq ht] at h
    cases hr : t.rows.find? fun r => r .id = .blob id.bytes with
    | none => simp [hr, answer] at h
    | some r => exact ⟨t, r, rfl, hr, by rwa [hr] at h⟩

/-- What was retrieved once is retrieved from every log that extends the first. -/
theorem Extends.retrieve (h : log.Extends log') (hid : log.retrieve types id = .ok e) :
    log'.retrieve types id = .ok e := by
  obtain ⟨t, r, ht, hr, hanswer⟩ := find?_of_retrieve hid
  obtain ⟨t', ht', hrows⟩ := h.database _ t ht
  rw [retrieve_eq (h.table ▸ ht'), hrows.find?_eq_some hr, hanswer]

theorem find?_eq_none_iff :
    (t.rows.find? fun r => r .id = .blob id.bytes) = none ↔
      ∀ r ∈ t.rows, r .id ≠ .blob id.bytes := by
  simp

/-! ## Inserting -/

theorem insert_eq_ok_iff :
    log.insert e = .ok log' ↔
      ∃ db, log.database.insert log.table e.id (Row.ofEntry e) = .ok db ∧
        log' = { log with database := db } := by
  unfold insert
  cases log.database.insert log.table e.id (Row.ofEntry e) with
  | error err => simp [bind, Except.bind]
  | ok db => simp [bind, Except.bind, pure, Except.pure, eq_comm]

/-- An entry is refused as known exactly if the table holds its identifier. -/
theorem insert_eq_alreadyExists_iff :
    log.insert e = .error (.alreadyExists e.id) ↔ log.Holds e.id := by
  have h : log.insert e = .error (.alreadyExists e.id) ↔
      log.database.insert log.table e.id (Row.ofEntry e) = .error (.alreadyExists e.id) := by
    unfold insert
    cases log.database.insert log.table e.id (Row.ofEntry e) <;>
      simp [bind, Except.bind, pure, Except.pure]
  exact h.trans Database.insert_eq_alreadyExists_iff

/-- The table before and after one more entry. -/
theorem rows_of_insert (h : log.insert e = .ok log') :
    log'.table = log.table ∧ ∃ t t', log.database.table? log.table = some t ∧
      (∀ r ∈ t.rows, r .id ≠ .blob e.id.bytes) ∧
      log'.database.table? log'.table = some t' ∧ t'.rows = t.rows ++ [cellsOf e] := by
  obtain ⟨db, hdb, rfl⟩ := insert_eq_ok_iff.1 h
  obtain ⟨t, ht, hfree, -⟩ := Database.insert_eq_ok_iff.1 hdb
  exact ⟨rfl, t, _, ht, hfree, Database.table?_of_insert ht hdb, rfl⟩

theorem extends_insert (h : log.insert e = .ok log') : log.Extends log' := by
  obtain ⟨db, hdb, rfl⟩ := insert_eq_ok_iff.1 h
  exact ⟨rfl, Database.extends_insert hdb⟩

theorem cellsOf_id_iff : cellsOf e .id = .blob id.bytes ↔ e.id = id := by
  have : e.id.bytes = id.bytes ↔ e.id = id := by
    obtain ⟨⟨a, _⟩, _⟩ := e
    obtain ⟨b, _⟩ := id
    simp
  simpa [cellsOf, StoredRow.ofRow, Row.ofEntry] using this

theorem not_holds_of_insert (h : log.insert e = .ok log') : ¬ log.Holds e.id := by
  rw [← insert_eq_alreadyExists_iff, h]
  exact nofun

theorem holds_insert (h : log.insert e = .ok log') :
    log'.Holds id ↔ id = e.id ∨ log.Holds id := by
  obtain ⟨-, t, t', ht, -, ht', hrows⟩ := rows_of_insert h
  simp only [Holds, ht, ht', Option.some.injEq, exists_eq_left', hrows, List.mem_append,
    List.mem_singleton]
  constructor
  · rintro ⟨r, hr | rfl, hid⟩
    · exact .inr ⟨r, hr, hid⟩
    · exact .inl (cellsOf_id_iff.1 hid).symm
  · rintro (rfl | ⟨r, hr, hid⟩)
    · exact ⟨_, .inr rfl, cellsOf_id_iff.2 rfl⟩
    · exact ⟨r, .inl hr, hid⟩

/-- Before an entry is added there is none with its identifier, afterwards there is what its row
says. -/
theorem retrieve_insert (h : log.insert e = .ok log') :
    log.retrieve types e.id = .error (.notFound e.id) ∧
      log'.retrieve types e.id = (Row.ofEntry e).toEntry types := by
  obtain ⟨-, t, t', ht, hfree, ht', hrows⟩ := rows_of_insert h
  have hnone := find?_eq_none_iff.2 hfree
  rw [retrieve_eq ht, retrieve_eq ht', hrows, List.find?_append, hnone, Option.none_or,
    List.find?_singleton, if_pos (by simpa using cellsOf_id_iff.2 rfl)]
  exact ⟨rfl, answer_cellsOf⟩

theorem retrieve_insert_of_ne (h : log.insert e = .ok log') (hid : id ≠ e.id) :
    log'.retrieve types id = log.retrieve types id := by
  obtain ⟨-, t, t', ht, -, ht', hrows⟩ := rows_of_insert h
  have hnew : cellsOf e .id ≠ .blob id.bytes := fun h => hid (cellsOf_id_iff.1 h).symm
  rw [retrieve_eq ht, retrieve_eq ht', hrows, List.find?_append, List.find?_singleton,
    if_neg (by simpa using hnew), Option.or_none]

/-! ## Pages and counts -/

theorem fits_pageQuery {filters : List Filter} (h : Filter.comparisons filters < 1000)
    (amount offset : Nat) : (pageQuery filters amount offset).Fits :=
  Query.fits_of_comparisons rfl h

theorem fits_countQuery {filters : List Filter} (h : Filter.comparisons filters < 1000) :
    (countQuery filters).Fits :=
  Query.fits_of_comparisons rfl h

/-- All pages of filters can be prepared, or none. -/
theorem fits_pageQuery_iff {filters : List Filter} (amount offset amount' offset' : Nat) :
    (pageQuery filters amount offset).Fits ↔ (pageQuery filters amount' offset').Fits := by
  simp [Query.Fits, pageQuery, Query.parameters, Query.clause]

/-- The cells of a page of the rows that the filters select. -/
def pageCells (t : Table) (filters : List Filter) (amount offset : Nat) : List StoredRow :=
  (pageQuery filters amount offset).rows t

/-- The entries of the cells of a page. -/
def readPage (types : ContentTypes) (cells : List StoredRow) : Except Error (List Entry) := do
  (← cells.mapM (readCells .selectRows)).mapM (Row.toEntry types)

section Queries

variable {filters : List Filter} {amount offset : Nat}

/-- A page is read from its own cells only. -/
theorem select_of_fits (ht : log.database.table? log.table = some t)
    (h : (pageQuery filters amount offset).Fits) :
    log.select types filters amount offset =
      readPage types (pageCells t filters amount offset) := by
  have hprepare : log.prepare .prepareSelect (pageQuery filters amount offset) = .ok t := by
    rw [prepare, if_pos h, open?, ht]
  rw [select, hprepare]
  rfl

theorem select_of_not_fits (h : ¬ (pageQuery filters amount offset).Fits) :
    log.select types filters amount offset = .error (tooLarge .prepareSelect) := by
  rw [select, prepare, if_neg h]
  rfl

theorem countFilter_of_fits (ht : log.database.table? log.table = some t)
    (h : (countQuery filters).Fits) :
    log.countFilter filters = .ok (Database.filtered t (.ofFilters filters)).length := by
  have hprepare : log.prepare .countRows (countQuery filters) = .ok t := by
    rw [prepare, if_pos h, open?, ht]
  rw [countFilter, hprepare]
  rfl

theorem countFilter_of_not_fits (h : ¬ (countQuery filters).Fits) :
    log.countFilter filters = .error (tooLarge .countRows) := by
  rw [countFilter, prepare, if_neg h]
  rfl

end Queries

theorem filtered_nil (t : Table) : Database.filtered t (.ofFilters []) = t.rows := by
  refine List.filter_eq_self.2 fun r _ => ?_
  rw [Clause.holds, decide_eq_true_eq, Clause.eval_ofFilters]
  simp

/-- The numbers of a page are cut to those that the table takes. -/
theorem pageCells_eq (t : Table) (filters : List Filter) (amount offset : Nat) :
    pageCells t filters amount offset =
      Log.page (pageNumber amount) (pageNumber offset) (Database.selected t (.ofFilters filters)) :=
  Query.rows_page t filters amount offset

theorem countFilter_nil (ht : log.database.table? log.table = some t) :
    log.countFilter [] = .ok t.rows.length := by
  rw [countFilter_of_fits ht (fits_countQuery (by decide)), filtered_nil]

/-- One more entry is one more row. -/
theorem countFilter_insert (h : log.insert e = .ok log') :
    ∃ n, log.countFilter [] = .ok n ∧ log'.countFilter [] = .ok (n + 1) := by
  obtain ⟨-, t, t', ht, -, ht', hrows⟩ := rows_of_insert h
  refine ⟨t.rows.length, countFilter_nil ht, ?_⟩
  rw [countFilter_nil ht', hrows, List.length_append, List.length_singleton]

end AuditTrail.TableLog
