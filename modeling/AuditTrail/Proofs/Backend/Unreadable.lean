import AuditTrail.Proofs.Backend.Guard
import AuditTrail.Proofs.Row.Blame

/-!
# Rows that cannot be read

* `StoredRow.toRow?_eq_some_iff`: what cells are the cells of a row.
* `TableLog.readPage_map_ofRow`, `TableLog.readPage_eq_wrongKind`: all cells have to be of the right
  kind before a row is read.
* `Backend.answer_filter_of_fits`: behind a guard, broken or not, a page is read from its own cells
  only, if its statement can be prepared.
* `Row.Blames`, `Workplace.AnswersFrom`: which rows and pages can be read, and what is blamed if one
  cannot. `Workplace.first_unreadable`: so it is for all of them.
-/

namespace AuditTrail

open Sql

/-! ## Cells -/

theorem Sql.Cell.blob?_eq_some_iff {c : Cell} {bytes : List UInt8} :
    c.blob? = some bytes ↔ c = .blob bytes := by
  cases c <;> simp [Cell.blob?]

theorem Sql.Cell.int?_eq_some_iff {c : Cell} {n : Int} : c.int? = some n ↔ c = .int n := by
  cases c <;> simp [Cell.int?]

theorem Sql.Cell.text?_eq_some_iff {c : Cell} {s : String} : c.text? = some s ↔ c = .text s := by
  cases c <;> simp [Cell.text?]

theorem Sql.Cell.optionalText?_eq_some_iff {c : Cell} {o : Option String} :
    c.optionalText? = some o ↔ c = .ofText? o := by
  cases c <;> cases o <;> simp [Cell.optionalText?, Cell.ofText?]

/-- The cells of a row have the kinds of their columns. -/
theorem Sql.StoredRow.toRow?_eq_some_iff {cells : StoredRow} {r : Row} :
    cells.toRow? = some r ↔ cells = .ofRow r := by
  constructor
  · intro h
    simp only [toRow?, Option.bind_eq_bind, Option.bind_eq_some_iff, Option.pure_def,
      Option.some.injEq, Cell.blob?_eq_some_iff, Cell.int?_eq_some_iff, Cell.text?_eq_some_iff,
      Cell.optionalText?_eq_some_iff] at h
    obtain ⟨id, hid, type, htype, level, hlevel, t, ht, user, huser, object, hobject,
      contentType, hcontentType, data, hdata, rfl⟩ := h
    funext c
    cases c <;> assumption
  · rintro rfl
    exact toRow?_ofRow r

/-! ## Pages -/

namespace TableLog

variable {types : ContentTypes} {log : TableLog} {t : Table} {rows : List Row}
  {cells : List StoredRow}

/-- A page fails on a cell of the wrong kind. -/
def wrongKind : Error := .operationFailed .selectRows (.stated "a cell is of the wrong kind")

theorem readPage_map_ofRow : readPage types (rows.map .ofRow) = rows.mapM (Row.toEntry types) := by
  rw [readPage, mapM_readCells]
  rfl

theorem eq_wrongKind_of_readCells {r : StoredRow} {err : Error}
    (h : readCells .selectRows r = .error err) : err = wrongKind := by
  rw [readCells] at h
  split at h
  · cases h
  · exact (Except.error.inj h).symm

/-- A cell of the wrong kind fails the page before a row is turned into an entry. -/
theorem readPage_eq_wrongKind (h : ∃ r ∈ cells, r.toRow? = none) :
    readPage types cells = .error wrongKind := by
  cases hread : cells.mapM (readCells .selectRows) with
  | ok rows =>
    obtain ⟨r, hr, hnone⟩ := h
    obtain ⟨row, hrow⟩ := exists_mapM_eq_ok_iff.1 ⟨rows, hread⟩ r hr
    rw [readCells, hnone] at hrow
    cases hrow
  | error err =>
    obtain ⟨front, r, back, -, -, hr⟩ := mapM_eq_error_iff.1 hread
    rw [readPage, hread, eq_wrongKind_of_readCells hr]
    rfl

/-- A page has a cell of the wrong kind, or is a list of rows. -/
theorem wrongKind_or_rows (cells : List StoredRow) :
    (∃ r ∈ cells, r.toRow? = none) ∨ ∃ rows : List Row, cells = rows.map .ofRow := by
  by_cases h : ∃ r ∈ cells, r.toRow? = none
  · exact .inl h
  · have hrows : cells ∈ Set.range (List.map StoredRow.ofRow) := by
      simp only [not_exists, not_and, ← ne_eq, Option.ne_none_iff_exists',
        StoredRow.toRow?_eq_some_iff] at h
      simpa only [Set.range_list_map, Set.mem_ofPred_eq, Set.mem_range, eq_comm] using h
    obtain ⟨rows, rfl⟩ := hrows
    exact .inr ⟨rows, rfl⟩

end TableLog

/-! ## Behind the guard -/

namespace Workplace

variable {w : Workplace} {t : Table}

/-- The next operation finds the table of the log. -/
def HasTable (w : Workplace) (t : Table) : Prop :=
  ∃ path location log, w.current = .table path location log ∧
    log.database.table? log.table = some t

/-- An empty file has no tables, so a file with a table is a database. -/
theorem HasTable.settled (h : w.HasTable t) : w.Settled := by
  obtain ⟨path, location, log, hcurrent, ht⟩ := h
  refine ⟨rfl, fun path' names writable log' hk => ?_⟩
  have hk : w.backend.keeping = .table path' (.file names writable) log' := hk
  obtain ⟨rfl, rfl, rfl⟩ := Keeping.table.inj ((current_of_table hk).symm.trans hcurrent)
  change ∃ db, w.system.disk.lookup names = some (.database db)
  simp only [Backend.load, Location.databaseAt?] at ht
  split at ht
  · next db hdb => exact ⟨db, hdb⟩
  · cases ht
  · cases ht

end Workplace

namespace Backend

variable {w : Workplace} {t : Table} {types : ContentTypes} {filters : List Filter}
  {amount offset : Nat}

/-- A page is read from its own cells, whether or not the guard is whole. -/
theorem answer_filter_of_fits (h : w.HasTable t)
    (hfits : (TableLog.pageQuery filters amount offset).Fits) :
    (filter types filters amount offset).answer w =
      TableLog.readPage types (TableLog.pageCells t filters amount offset) := by
  have hanswer := h.settled.answer_filter types filters amount offset
  obtain ⟨path, location, log, hcurrent, ht⟩ := h
  rw [hanswer, hcurrent, Keeping.select, TableLog.select_of_fits ht hfits]

theorem answer_filter_of_not_fits (h : w.HasTable t)
    (hfits : ¬ (TableLog.pageQuery filters amount offset).Fits) :
    (filter types filters amount offset).answer w = .error (TableLog.tooLarge .prepareSelect) := by
  have hanswer := h.settled.answer_filter types filters amount offset
  obtain ⟨path, location, log, hcurrent, -⟩ := h
  rw [hanswer, hcurrent, Keeping.select, TableLog.select_of_not_fits hfits]

end Backend

/-! ## What is blamed -/

/-- A row is read exactly if all of its columns hold what they have to, and otherwise the first one
that does not is blamed. -/
structure Row.Blames (types : ContentTypes) (r : Row) : Prop where
  readable : (∃ e, r.toEntry types = .ok e) ↔ ∀ c, r.Readable types c
  first : ∀ err, r.toEntry types = .error err ↔
    ∃ front c back, Column.all = front ++ c :: back ∧ (∀ d ∈ front, r.Readable types d) ∧
      ¬ r.Readable types c ∧ err = r.blame c

namespace Workplace

/-- A statement that cannot be prepared fails, and so does a page with a cell of the wrong kind, each
as an operation. Any other page is read exactly if all of its rows are, and otherwise fails as the
first row that is not. What stands outside the page makes no difference. -/
structure AnswersFrom (w : Workplace) (t : Table) (types : ContentTypes) (filters : List Filter)
    (amount offset : Nat) : Prop where
  prepared : Filter.comparisons filters < 1000 → (TableLog.pageQuery filters amount offset).Fits
  refused : ¬ (TableLog.pageQuery filters amount offset).Fits →
    (Backend.filter types filters amount offset).answer w = .error (TableLog.tooLarge .prepareSelect)
  wrong_kind : (TableLog.pageQuery filters amount offset).Fits →
    (¬ ∃ rows : List Row, TableLog.pageCells t filters amount offset = rows.map .ofRow) →
      (Backend.filter types filters amount offset).answer w = .error TableLog.wrongKind
  readable : (TableLog.pageQuery filters amount offset).Fits →
    ∀ rows : List Row, TableLog.pageCells t filters amount offset = rows.map .ofRow →
      ((∃ es, (Backend.filter types filters amount offset).answer w = .ok es) ↔
        ∀ r ∈ rows, ∀ c, r.Readable types c)
  first : (TableLog.pageQuery filters amount offset).Fits →
    ∀ rows : List Row, TableLog.pageCells t filters amount offset = rows.map .ofRow →
      ∀ err, (Backend.filter types filters amount offset).answer w = .error err ↔
        ∃ front r back, rows = front ++ r :: back ∧ (∀ q ∈ front, ∀ c, q.Readable types c) ∧
          r.toEntry types = .error err
  retrieveMany : (Backend.retrieveMany types amount offset).answer w =
    (Backend.filter types [] amount offset).answer w
  retrieveTyped : ∀ type, (Backend.retrieveTyped types type amount offset).answer w =
    (Backend.filter types [.type [type]] amount offset).answer w
  elsewhere : ∀ w' t', HasTable w' t' →
    TableLog.pageCells t' filters amount offset = TableLog.pageCells t filters amount offset →
        (Backend.filter types filters amount offset).answer w' =
          (Backend.filter types filters amount offset).answer w

/-- Which rows and pages can be read, and what is blamed if one cannot. -/
theorem first_unreadable :
    (∀ types r, Row.Blames types r) ∧
      ∀ w t types filters amount offset, HasTable w t →
        AnswersFrom w t types filters amount offset := by
  refine ⟨fun types r => ⟨Row.exists_toEntry_iff_readable, fun err => Row.toEntry_eq_error_iff⟩,
    fun w t types filters amount offset hw => ?_⟩
  have hsettled := hw.settled
  refine ⟨fun hfew => TableLog.fits_pageQuery hfew amount offset,
    Backend.answer_filter_of_not_fits hw, fun hfits hwrong => ?_, fun hfits rows hpage => ?_,
    fun hfits rows hpage err => ?_, ?_, fun type => ?_, fun w' t' hw' hpage => ?_⟩
  · rw [Backend.answer_filter_of_fits hw hfits]
    exact TableLog.readPage_eq_wrongKind ((TableLog.wrongKind_or_rows _).resolve_right hwrong)
  · rw [Backend.answer_filter_of_fits hw hfits, hpage, TableLog.readPage_map_ofRow,
      exists_mapM_eq_ok_iff]
    simp only [Row.exists_toEntry_iff_readable]
  · rw [Backend.answer_filter_of_fits hw hfits, hpage, TableLog.readPage_map_ofRow,
      mapM_eq_error_iff]
    simp only [Row.exists_toEntry_iff_readable]
  · rw [hsettled.answer_retrieveMany, hsettled.answer_filter]
  · rw [hsettled.answer_retrieveTyped, hsettled.answer_filter]
  · by_cases hfits : (TableLog.pageQuery filters amount offset).Fits
    · rw [Backend.answer_filter_of_fits hw' hfits, Backend.answer_filter_of_fits hw hfits, hpage]
    · rw [Backend.answer_filter_of_not_fits hw' hfits, Backend.answer_filter_of_not_fits hw hfits]

end Workplace

/-! ## Damage -/

namespace Row

/-- A row that can be read. -/
def plain : Row := ⟨List.replicate 16 1, "t", 1, 1000000, none, none, none, none⟩

/-- A later row whose level is none. -/
def overloud : Row := { plain with id := List.replicate 16 2, level := 9, occurredAt := 2000000 }

/-- A row whose user nests one level too deep. -/
def deep : Row :=
  { plain with userId := some (String.ofList (List.replicate 128 '[' ++ List.replicate 128 ']')) }

end Row

namespace Workplace

open Row

/-- A log in a database of its own with the rows in its table. -/
def holding (rows : List StoredRow) : Workplace where
  backend :=
    ⟨.table none .apart ⟨⟨[⟨Backend.usualTable, rows⟩], []⟩, Backend.usualTable⟩, false⟩
  system := default

theorem hasTable_holding (rows : List StoredRow) :
    (holding rows).HasTable ⟨Backend.usualTable, rows⟩ :=
  ⟨none, .apart, _, rfl, by simp [Backend.load, Database.table?, sameName]⟩

/-- The later row comes first. -/
theorem pageCells_overloud {cells : StoredRow} (h : cells .occurredAt = .int 1000000)
    (amount offset : Nat) :
    TableLog.pageCells ⟨Backend.usualTable, [cells, .ofRow overloud]⟩ [] amount offset =
      Log.page (pageNumber amount) (pageNumber offset) [.ofRow overloud, cells] := by
  have hall : Database.filtered ⟨Backend.usualTable, [cells, .ofRow overloud]⟩ (.ofFilters []) =
      [cells, .ofRow overloud] := rfl
  have hsorted : Database.newestFirst [cells, .ofRow overloud] = [.ofRow overloud, cells] := by
    refine List.mergeSort_of_pairwise ?_
    simp [h, overloud, StoredRow.ofRow, Cell.precedes]
  rw [TableLog.pageCells_eq, Database.selected, hall, hsorted]

/-- The unreadable row fails the page on which it stands, and no other page. -/
theorem first_unreadable_overloud :
    (holding [.ofRow plain, .ofRow overloud]).HasTable
        ⟨Backend.usualTable, [.ofRow plain, .ofRow overloud]⟩ ∧
      (Backend.filter .empty [] 2 0).answer (holding [.ofRow plain, .ofRow overloud]) =
        .error (.unreadable .level (.input (.levelRange 9))) ∧
      ∃ es, (Backend.filter .empty [] 1 1).answer (holding [.ofRow plain, .ofRow overloud]) =
        .ok es := by
  obtain ⟨hread, hpages⟩ := first_unreadable
  have htable := hasTable_holding [.ofRow plain, .ofRow overloud]
  have hplain : ∀ c, plain.Readable .empty c := (hread .empty plain).readable.1 ⟨_, rfl⟩
  refine ⟨htable, ?_, ?_⟩
  · have hpage := hpages _ _ .empty [] 2 0 htable
    exact (hpage.first (hpage.prepared (by decide)) [overloud, plain] (pageCells_overloud rfl 2 0)
      _).2 ⟨[], overloud, [plain], rfl, nofun, rfl⟩
  · have hpage := hpages _ _ .empty [] 1 1 htable
    exact (hpage.readable (hpage.prepared (by decide)) [plain] (pageCells_overloud rfl 1 1)).2
      (List.forall_mem_singleton.2 hplain)

/-- A text may be JSON and yet nest too deep to be read. A cell of the wrong kind hides that a row in
front of it cannot be read, and a statement may be too large where there is no row at all. -/
theorem exists_otherwise_unreadable :
    (∃ s, deep.userId = some s ∧ ∃ f : Json.Form, Json.Spaced f.SpeltBy s.toList) ∧
      (∀ c, c ≠ .userId → deep.Readable .empty c) ∧
      deep.toEntry .empty = .error (.unreadable .userId .json) ∧
      (∃ cells, TableLog.pageCells ⟨Backend.usualTable, [cells, .ofRow overloud]⟩ [] 2 0 =
          [.ofRow overloud, cells] ∧
        overloud.toEntry .empty = .error (.unreadable .level (.input (.levelRange 9))) ∧
        (Backend.filter .empty [] 2 0).answer (holding [cells, .ofRow overloud]) =
          .error TableLog.wrongKind) ∧
      (Backend.filter .empty Filter.thousandTypes 2 0).answer (holding []) =
        .error (TableLog.tooLarge .prepareSelect) := by
  have hothers : ∀ c, c ≠ .userId → deep.Readable .empty c := by
    have hplain : ∀ c, plain.Readable .empty c := Row.exists_toEntry_iff_readable.1 ⟨_, rfl⟩
    intro c hc
    have hsame : deep.Readable .empty c = plain.Readable .empty c := by
      cases c <;> first | rfl | exact absurd rfl hc
    exact hsame ▸ hplain c
  have hform : (Json.Form.ofChars? (List.replicate 128 '[' ++ List.replicate 128 ']')).isSome =
      true := by decide +kernel
  have hdeep : ¬ deep.Readable .empty .userId := by
    have hnone : ¬ (Json.parseChars? (List.replicate 128 '[' ++
        List.replicate 128 ']')).isSome = true := by decide +kernel
    intro h
    have hsome := Json.parse?_isSome_iff.2 (h _ rfl)
    rw [Json.parse?, String.toList_ofList] at hsome
    exact hnone hsome
  refine ⟨⟨_, rfl, ?_⟩, hothers, ?_, ⟨(StoredRow.ofRow plain).set .level (.text "loud"),
    pageCells_overloud rfl 2 0, rfl, ?_⟩, ?_⟩
  · obtain ⟨f, hf⟩ := Option.isSome_iff_exists.1 hform
    rw [String.toList_ofList]
    exact ⟨f, Json.Form.ofChars?_eq_some_iff.1 hf⟩
  · exact Row.toEntry_eq_error_iff.2 ⟨[.id, .type, .level, .occurredAt], .userId, _, rfl,
      fun d hd => hothers d (by rintro rfl; simp at hd), hdeep, rfl⟩
  · rw [Backend.answer_filter_of_fits (hasTable_holding _) (TableLog.fits_pageQuery (by decide) 2 0),
      pageCells_overloud rfl]
    exact TableLog.readPage_eq_wrongKind ⟨_, List.mem_cons_of_mem _ List.mem_cons_self, rfl⟩
  · exact Backend.answer_filter_of_not_fits (hasTable_holding _) (Query.not_fits_thousandTypes rfl)

end Workplace

end AuditTrail
