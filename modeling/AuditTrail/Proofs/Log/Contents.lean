import AuditTrail.Proofs.Log.Memory
import AuditTrail.Proofs.Log.Table

/-!
# What a table is made of

* `TableLog.Represents`: the rows of a table are those of the entries of a list, in the order in
  which they were stored. `Represents.insert` is the step.
* `TableLog.latestFirst`: the order of reading, by descending microseconds.
* `TableLog.Represents.retrieve`, `TableLog.Represents.countFilter`, `TableLog.Represents.select`: a
  table answers from the rows of the entries.
-/

namespace AuditTrail

open Sql

/-- The microseconds of an entry. -/
def Entry.micros (e : Entry) : Int := e.timestamp.micros

/-! ## The rows -/

namespace TableLog

variable {types : ContentTypes} {log log' : TableLog} {es : List Entry} {e : Entry}

/-- The rows of the table are those of the entries, which were stored in this order. -/
structure Represents (log : TableLog) (es : List Entry) : Prop where
  rows : ∃ t, log.database.table? log.table = some t ∧ t.rows = es.map cellsOf
  nodup : (es.map Entry.id).Nodup

/-- The entries in the order of reading: by descending microseconds, and at the same microsecond the
last first. -/
def latestFirst (es : List Entry) : List Entry := Log.latest Entry.micros es.reverse

theorem filtered_map (filters : List Filter) (es : List Entry) (name : String) :
    Database.filtered ⟨name, es.map cellsOf⟩ (.ofFilters filters) =
      (es.filter (Filter.matchesAll filters)).map cellsOf := by
  rw [Database.filtered, List.filter_map]
  congr 2
  funext e
  exact Clause.holds_ofFilters e filters

/-- The rows are in the order of the entries. -/
theorem newestFirst_map (es : List Entry) :
    Database.newestFirst (es.map cellsOf) = (latestFirst es).map cellsOf := by
  rw [Database.newestFirst, ← List.map_reverse, latestFirst, Log.latest]
  refine (List.map_mergeSort fun a _ b _ => ?_).symm
  have hle : decide (b.micros ≤ a.micros) = !decide (a.micros < b.micros) := by
    rw [← decide_not, decide_eq_decide]
    omega
  exact hle

/-- A page whose numbers are cut to those that the table takes is the same page. -/
theorem page_pageNumber {α : Type} {xs : List α} (h : xs.length ≤ Text.maxSigned)
    (amount offset : Nat) :
    Log.page (pageNumber amount) (pageNumber offset) xs = Log.page amount offset xs := by
  have hdrop : xs.drop (pageNumber offset) = xs.drop offset := by
    rw [pageNumber]
    by_cases hle : offset ≤ Text.maxSigned
    · rw [Nat.min_eq_left hle]
    · rw [List.drop_of_length_le (by omega), List.drop_of_length_le (by omega)]
  have hlength : (xs.drop offset).length ≤ Text.maxSigned := by
    rw [List.length_drop]
    omega
  rw [Log.page, Log.page, hdrop, pageNumber]
  by_cases hle : amount ≤ Text.maxSigned
  · rw [Nat.min_eq_left hle]
  · rw [List.take_of_length_le (by omega), List.take_of_length_le (by omega)]

namespace Represents

/-- One more entry is stored behind the others. -/
theorem insert (h : log.Represents es) (hok : log.insert e = .ok log') :
    log'.Represents (es ++ [e]) := by
  obtain ⟨t, ht, hrows⟩ := h.rows
  obtain ⟨-, t₀, t', ht₀, hfree, ht', hrows'⟩ := rows_of_insert hok
  obtain rfl : t = t₀ := Option.some.inj (ht.symm.trans ht₀)
  refine ⟨⟨t', ht', by rw [hrows', hrows, List.map_append, List.map_singleton]⟩, ?_⟩
  rw [List.map_append, List.nodup_append]
  refine ⟨h.nodup, by simp, ?_⟩
  rintro id hid id' hid' rfl
  obtain ⟨x, hx, rfl⟩ := List.mem_map.1 hid
  have hxe : x.id = e.id := by simpa using hid'
  exact hfree (cellsOf x) (hrows ▸ List.mem_map_of_mem hx) (cellsOf_id_iff.2 hxe)

theorem of_retains (h : log.Represents es) (hsame : log.Retains log') : log'.Represents es := by
  obtain ⟨t, ht, hrows⟩ := h.rows
  exact ⟨⟨t, hsame.table ▸ hsame.database _ t ht, hrows⟩, h.nodup⟩

theorem countFilter (h : log.Represents es) {filters : List Filter}
    (hfits : (countQuery filters).Fits) :
    log.countFilter filters = .ok (es.filter (Filter.matchesAll filters)).length := by
  obtain ⟨⟨name, rows⟩, ht, rfl⟩ := h.rows
  rw [countFilter_of_fits ht hfits, filtered_map, List.length_map]

/-- A table answers with what the row of an entry says. -/
theorem retrieve (h : log.Represents es) (he : e ∈ es) :
    log.retrieve types e.id = (Row.ofEntry e).toEntry types := by
  obtain ⟨⟨name, rows⟩, ht, rfl⟩ := h.rows
  have hfound : ((es.map cellsOf).find? fun r => r .id = .blob e.id.bytes) = some (cellsOf e) := by
    have hsome : ((es.map cellsOf).find? fun r => r .id = .blob e.id.bytes).isSome = true :=
      List.find?_isSome.2 ⟨cellsOf e, List.mem_map_of_mem he, by simpa using cellsOf_id_iff.2 rfl⟩
    obtain ⟨r, hr⟩ := Option.isSome_iff_exists.1 hsome
    obtain ⟨x, hx, rfl⟩ := List.mem_map.1 (List.mem_of_find?_eq_some hr)
    have hid : x.id = e.id := cellsOf_id_iff.1 (by simpa using List.find?_some hr)
    rw [hr, List.inj_on_of_nodup_map h.nodup hx he hid]
  rw [retrieve_eq ht, hfound, answer_cellsOf]

/-- A table answers a page with what the rows of its entries say. The numbers of the page are cut to
those that the table takes. -/
theorem select_cut (h : log.Represents es) {filters : List Filter} {amount offset : Nat}
    (hfits : (pageQuery filters amount offset).Fits) :
    log.select types filters amount offset =
      (Log.page (pageNumber amount) (pageNumber offset)
        (latestFirst (es.filter (Filter.matchesAll filters)))).mapM
        fun e => (Row.ofEntry e).toEntry types := by
  obtain ⟨⟨name, rows⟩, ht, rfl⟩ := h.rows
  have hcells : pageCells ⟨name, es.map cellsOf⟩ filters amount offset =
      ((Log.page (pageNumber amount) (pageNumber offset)
        (latestFirst (es.filter (Filter.matchesAll filters)))).map Row.ofEntry).map .ofRow := by
    rw [pageCells_eq, Database.selected, filtered_map, newestFirst_map, List.map_map]
    simp only [Log.page, List.map_take, List.map_drop]
    rfl
  rw [select_of_fits ht hfits, hcells, readPage, mapM_readCells]
  exact List.mapM_map

/-- The numbers of a page may be greater than those that the table takes, if the entries are not
more. -/
theorem select (h : log.Represents es) (hsize : es.length ≤ Text.maxSigned)
    {filters : List Filter} {amount offset : Nat} (hfits : (pageQuery filters amount offset).Fits) :
    log.select types filters amount offset =
      (Log.page amount offset (latestFirst (es.filter (Filter.matchesAll filters)))).mapM
        fun e => (Row.ofEntry e).toEntry types := by
  have hlength : (latestFirst (es.filter (Filter.matchesAll filters))).length ≤
      Text.maxSigned := by
    rw [latestFirst, Log.latest, List.length_mergeSort, List.length_reverse]
    exact (List.length_filter_le _ _).trans hsize
  rw [h.select_cut hfits, page_pageNumber hlength]

end Represents

end TableLog

end AuditTrail
