import AuditTrail.Proofs.Backend.Agreement
import AuditTrail.Proofs.Backend.Contents
import AuditTrail.Proofs.ReadBack

/-!
# Pages of one sequence

* `Keeping.sequence`: the entries that filters match, in the order of reading.
* `Log.flatten_pages`: the pages of a list, one behind the other, are the list.
* `Workplace.Slices`: every read answers with a page of the sequence of its filters, and every count
  with its length.
* `Workplace.Reachable.slices`: so it is after every run. The entries of the sequence are those that
  were stored, and each is read back for itself. The filters see those that are read back in the
  same way exactly if the binary numbers of a table read back.
-/

namespace AuditTrail

open Sql

namespace Log

variable {α β : Type}

theorem page_map (f : α → β) (amount offset : Nat) (xs : List α) :
    page amount offset (xs.map f) = (page amount offset xs).map f := by
  simp [page, List.map_take, List.map_drop]

theorem mem_of_mem_page {a : α} {amount offset : Nat} {xs : List α}
    (h : a ∈ page amount offset xs) : a ∈ xs :=
  List.mem_of_mem_drop (List.mem_of_mem_take h)

/-- So many pages, one behind the other, are the front of the list. -/
theorem flatten_pages (size n : Nat) (xs : List α) :
    ((List.range n).map fun i => page size (i * size) xs).flatten = xs.take (n * size) := by
  induction n with
  | zero => simp
  | succ n ih =>
    rw [List.range_succ, List.map_append, List.flatten_append, ih, List.map_singleton,
      List.flatten_singleton, page, Nat.succ_mul, List.take_add]

end Log

/-- Four comparisons identify an entry. -/
theorem Filter.comparisons_identifying_lt (e : Entry) : comparisons (identifying e) < 1000 := by
  have hfour : comparisons (identifying e) = 4 := rfl
  rw [hfour]
  decide

/-! ## The sequence of a log -/

namespace Keeping

/-- The entries that all filters match, in the order of reading. -/
def sequence (k : Keeping) (es : List Entry) (filters : List Filter) : List Entry :=
  k.newestFirst (es.filter (Filter.matchesAll filters))

/-- What a table gives back is what was stored, as far as numbers go. In memory nothing is lost. -/
def KeepsNumbers : Keeping → List Entry → Prop
  | .memory _, _ => True
  | .table _ _ _, es => ∀ e ∈ es, ∀ x ∈ e.floats, x.ReadsBack

instance : (k : Keeping) → (es : List Entry) → Decidable (k.KeepsNumbers es)
  | .memory _, _ => .isTrue trivial
  | .table _ _ _, es => inferInstanceAs (Decidable (∀ e ∈ es, ∀ x ∈ e.floats, x.ReadsBack))

variable {k : Keeping} {types : ContentTypes} {es : List Entry} {f : Entry → Entry}

theorem length_sequence (k : Keeping) (es : List Entry) (filters : List Filter) :
    (k.sequence es filters).length = (es.filter (Filter.matchesAll filters)).length :=
  (k.perm_newestFirst _).length_eq

theorem mem_sequence {e : Entry} {filters : List Filter} :
    e ∈ k.sequence es filters ↔ e ∈ es ∧ Filter.matchesAll filters e = true := by
  rw [sequence, (k.perm_newestFirst _).mem_iff, List.mem_filter]

theorem sequence_nil (k : Keeping) (es : List Entry) : k.sequence es [] = k.newestFirst es := by
  have hall : es.filter (Filter.matchesAll []) = es := List.filter_eq_self.2 fun _ _ => rfl
  rw [sequence, hall]

theorem nodup_sequence (h : (es.map Entry.id).Nodup) (filters : List Filter) :
    ((k.sequence es filters).map Entry.id).Nodup :=
  ((k.perm_newestFirst _).map Entry.id).nodup_iff.2 (h.sublist (List.filter_sublist.map _))

/-- Entries that are read back are in the same order, and under the same identifiers. -/
theorem readBack_spec (hread : ∀ e ∈ es, k.readBack types e = .ok (f e)) :
    (∀ e ∈ es, (f e).id = e.id) ∧ ∀ xs : List Entry, (∀ e ∈ xs, e ∈ es) →
      (k.newestFirst xs).map f = k.newestFirst (xs.map f) := by
  cases k with
  | memory log =>
    have hsame : ∀ e ∈ es, f e = e := fun e he => (Except.ok.inj (hread e he)).symm
    refine ⟨fun e he => by rw [hsame e he], fun xs hxs => ?_⟩
    exact map_newestFirst _ (fun e he => by rw [hsame e (hxs e he)])
      fun _ _ e he => by rw [hsame e (hxs e he)]
  | table path location log =>
    have hparts := fun e he => Row.parts_of_toEntry (hread e he)
    refine ⟨fun e he => (hparts e he).2.1, fun xs hxs => ?_⟩
    exact map_newestFirst _ (fun e he => (hparts e (hxs e he)).1) nofun

theorem ids_readBack (hread : ∀ e ∈ es, k.readBack types e = .ok (f e)) :
    (es.map f).map Entry.id = es.map Entry.id := by
  rw [List.map_map]
  exact List.map_congr_left (readBack_spec hread).1

/-- If all binary numbers of a table read back, filters see the entries that are read back as they
see those that were stored. -/
theorem matchesAll_readBack (hread : ∀ e ∈ es, k.readBack types e = .ok (f e))
    (hkeeps : k.KeepsNumbers es) {e : Entry} (he : e ∈ es) (filters : List Filter) :
    Filter.matchesAll filters (f e) = Filter.matchesAll filters e := by
  cases k with
  | memory log => rw [← Except.ok.inj (hread e he)]
  | table path location log =>
    exact Filter.matchesAll_congr ((Row.ofEntry_eq_iff (hread e he)).2 (hkeeps e he)) filters

/-- If filters that identify an entry count the same among the entries that are read back and those
that were stored, then all binary numbers of a table read back. -/
theorem keepsNumbers_of_length_filter (hread : ∀ e ∈ es, k.readBack types e = .ok (f e))
    (hnodup : (es.map Entry.id).Nodup)
    (hcount : ∀ x filters, filters = Filter.identifying x →
      (es.filter (Filter.matchesAll filters)).length =
        ((es.map f).filter (Filter.matchesAll filters)).length) : k.KeepsNumbers es := by
  cases k with
  | memory log => trivial
  | table path location log =>
    intro e he
    have hback : (Row.ofEntry e).toEntry types = .ok (f e) := hread e he
    -- The filters that identify what is read back of the entry match something that was stored.
    have hself : Filter.matchesAll (Filter.identifying (f e)) (f e) = true :=
      Filter.matchesAll_identifying_self (f e)
    have hpos : 0 < (es.filter (Filter.matchesAll (Filter.identifying (f e)))).length := by
      rw [hcount _ _ rfl]
      exact List.length_pos_of_mem (List.mem_filter.2 ⟨List.mem_map_of_mem he, hself⟩)
    obtain ⟨x, hx⟩ := List.exists_mem_of_length_pos hpos
    obtain ⟨hx, hmatch⟩ := List.mem_filter.1 hx
    obtain rfl : x = e := by
      refine List.inj_on_of_nodup_map hnodup hx he ?_
      rw [← (Row.parts_of_toEntry hback).2.1, Filter.id_of_matchesAll_identifying hmatch]
    exact (Row.ofEntry_eq_iff hback).1 ((Filter.matchesAll_identifying_iff hback).1 hmatch)

end Keeping

/-! ## Slices -/

/-- Every read answers with a page of the sequence of its filters, whose items are read one by one,
and every count with the length of the sequence. Only what a table cannot be asked is refused, and
it can be asked with fewer than a thousand comparisons. -/
structure Workplace.Slices (types : ContentTypes) (w : Workplace)
    (read : Entry → Except Error Entry) (sequence : List Filter → List Entry) : Prop where
  filter : ∀ filters amount offset, w.current.Prepares (TableLog.pageQuery filters amount offset) →
    (Backend.filter types filters amount offset).answer w =
      (Log.page amount offset (sequence filters)).mapM read
  filter_refused : ∀ filters amount offset,
    ¬ w.current.Prepares (TableLog.pageQuery filters amount offset) →
      (Backend.filter types filters amount offset).answer w =
        .error (TableLog.tooLarge .prepareSelect)
  retrieveMany : ∀ amount offset, (Backend.retrieveMany types amount offset).answer w =
    (Log.page amount offset (sequence [])).mapM read
  retrieveTyped : ∀ type amount offset, (Backend.retrieveTyped types type amount offset).answer w =
    (Log.page amount offset (sequence [.type [type]])).mapM read
  countFilter : ∀ filters, w.current.Prepares (TableLog.countQuery filters) →
    (Backend.countFilter filters).answer w = .ok (sequence filters).length
  countFilter_refused : ∀ filters, ¬ w.current.Prepares (TableLog.countQuery filters) →
    (Backend.countFilter filters).answer w = .error (TableLog.tooLarge .countRows)
  count : Backend.count.answer w = .ok (sequence []).length
  prepares : ∀ filters amount offset, Filter.comparisons filters < 1000 →
    w.current.Prepares (TableLog.pageQuery filters amount offset) ∧
      w.current.Prepares (TableLog.countQuery filters)

namespace Workplace

variable {types : ContentTypes} {w : Workplace} {es es' : List Entry}

/-- A log answers with pages of what it is made of. -/
theorem slices_of_represents (hw : w.Sound) (h : w.current.Represents es)
    (hsize : es.length ≤ Text.maxSigned) :
    w.Slices types (fun e => w.current.readBack types e) (w.current.sequence es) where
  filter filters amount offset hprepares := by
    rw [(Backend.reads_filter hw.whole types filters amount offset).answer,
      h.select hsize hprepares]
    rfl
  filter_refused filters amount offset hnot := by
    rw [(Backend.reads_filter hw.whole types filters amount offset).answer,
      Keeping.select_of_not_prepares hnot]
  retrieveMany amount offset := by
    have hprepares : w.current.Prepares (TableLog.pageQuery [] amount offset) :=
      w.current.prepares_of_comparisons rfl (by decide)
    rw [(Backend.reads_retrieveMany hw.whole types amount offset).answer,
      h.select hsize hprepares]
    rfl
  retrieveTyped type amount offset := by
    have hprepares : w.current.Prepares (TableLog.pageQuery [.type [type]] amount offset) :=
      w.current.prepares_of_comparisons rfl (Filter.comparisons_singleton_lt le_rfl)
    rw [(Backend.reads_retrieveTyped hw.whole types type amount offset).answer,
      h.select hsize hprepares]
    rfl
  countFilter filters hprepares := by
    rw [(Backend.reads_countFilter hw.whole filters).answer, h.countFilter hprepares,
      Keeping.length_sequence]
  countFilter_refused filters hnot := by
    rw [(Backend.reads_countFilter hw.whole filters).answer,
      Keeping.countFilter_of_not_prepares hnot]
  count := by
    rw [(Backend.reads_count hw.whole).answer, h.count, Keeping.sequence_nil,
      (Keeping.perm_newestFirst _ _).length_eq]
  prepares filters amount offset hfew :=
    ⟨w.current.prepares_of_comparisons rfl hfew, w.current.prepares_of_comparisons rfl hfew⟩

namespace Slices

variable {read : Entry → Except Error Entry} {sequence : List Filter → List Entry}

theorem filter_of_comparisons (h : w.Slices types read sequence) {filters : List Filter}
    (hfew : Filter.comparisons filters < 1000) (amount offset : Nat) :
    (Backend.filter types filters amount offset).answer w =
      (Log.page amount offset (sequence filters)).mapM read :=
  h.filter _ _ _ (h.prepares filters amount offset hfew).1

/-- A page that was read is one of the sequence. -/
theorem filter_eq (h : w.Slices types read sequence) {filters : List Filter} {amount offset : Nat}
    {xs : List Entry} (hxs : (Backend.filter types filters amount offset).answer w = .ok xs) :
    w.current.Prepares (TableLog.pageQuery filters amount offset) ∧
      (Log.page amount offset (sequence filters)).mapM read = .ok xs := by
  by_cases hprepares : w.current.Prepares (TableLog.pageQuery filters amount offset)
  · exact ⟨hprepares, by rw [← h.filter _ _ _ hprepares, hxs]⟩
  · rw [h.filter_refused _ _ _ hprepares] at hxs
    cases hxs

end Slices

/-- What is read back is a page of the sequence of what is read back, for all filters, exactly if
the binary numbers of a table read back. -/
theorem slices_readBack_iff (hw : w.Sound) (h : w.current.Represents es)
    (hsize : es.length ≤ Text.maxSigned)
    (hread : es.mapM (fun e => w.current.readBack types e) = .ok es') :
    w.Slices types .ok (w.current.sequence es') ↔ w.current.KeepsNumbers es := by
  have hslices : w.Slices types _ _ := slices_of_represents hw h hsize
  obtain ⟨f, hitem, rfl⟩ := exists_map_of_mapM hread
  constructor
  · intro hback
    refine Keeping.keepsNumbers_of_length_filter hitem h.nodup fun x filters hfilters => ?_
    have hfew : Filter.comparisons filters < 1000 :=
      hfilters ▸ Filter.comparisons_identifying_lt x
    obtain ⟨-, hprepares⟩ := hslices.prepares filters 0 0 hfew
    have hcount := (hslices.countFilter _ hprepares).symm.trans (hback.countFilter _ hprepares)
    rw [← Keeping.length_sequence w.current, ← Keeping.length_sequence w.current]
    exact Except.ok.inj hcount
  · intro hkeeps
    have hsequence : ∀ filters, w.current.sequence (es.map f) filters =
        (w.current.sequence es filters).map f := by
      intro filters
      have hfilter : (es.map f).filter (Filter.matchesAll filters) =
          (es.filter (Filter.matchesAll filters)).map f := by
        rw [List.filter_map]
        congr 1
        exact List.filter_congr fun e he => Keeping.matchesAll_readBack hitem hkeeps he filters
      rw [Keeping.sequence, Keeping.sequence, hfilter,
        (Keeping.readBack_spec hitem).2 _ fun e he => List.mem_of_mem_filter he]
    have hpage : ∀ filters amount offset,
        (Log.page amount offset (w.current.sequence es filters)).mapM
            (fun e => w.current.readBack types e) =
          (Log.page amount offset (w.current.sequence (es.map f) filters)).mapM .ok := by
      intro filters amount offset
      rw [mapM_ok, hsequence, Log.page_map]
      refine mapM_eq_map fun e he => hitem e ?_
      exact (Keeping.mem_sequence.1 (Log.mem_of_mem_page he)).1
    exact {
      filter := fun filters amount offset hprepares => by
        rw [hslices.filter _ _ _ hprepares, hpage]
      filter_refused := hslices.filter_refused
      retrieveMany := fun amount offset => by rw [hslices.retrieveMany, hpage]
      retrieveTyped := fun type amount offset => by rw [hslices.retrieveTyped, hpage]
      countFilter := fun filters hprepares => by
        rw [hslices.countFilter _ hprepares, hsequence, List.length_map]
      countFilter_refused := hslices.countFilter_refused
      count := by rw [hslices.count, hsequence, List.length_map]
      prepares := hslices.prepares }

/-- The pages of a sequence, one behind the other, are what is read at once. -/
theorem Slices.flatten_pages {read : Entry → Except Error Entry}
    {sequence : List Filter → List Entry} (h : w.Slices types read sequence)
    {filters : List Filter} {xs : List Entry} (hread : (sequence filters).mapM read = .ok xs)
    {amount offset : Nat} (hprepares : w.current.Prepares (TableLog.pageQuery filters amount offset))
    {size n : Nat} (hn : (sequence filters).length ≤ n * size) :
    ∃ pages, ((List.range n).mapM fun i =>
      (Backend.filter types filters size (i * size)).answer w) = .ok pages ∧
        pages.flatten = xs := by
  obtain ⟨f, hitem, rfl⟩ := exists_map_of_mapM hread
  refine ⟨(List.range n).map fun i => Log.page size (i * size) ((sequence filters).map f), ?_, ?_⟩
  · refine mapM_eq_map fun i _ => ?_
    rw [h.filter _ _ _ ((Keeping.prepares_pageQuery_iff _ _ _ _).1 hprepares), Log.page_map]
    exact mapM_eq_map fun e he => hitem e (Log.mem_of_mem_page he)
  · rw [Log.flatten_pages, List.take_of_length_le (by rwa [List.length_map])]

/-- From a log without entries, after any run: every read is a slice of one sequence, that of the
stored entries which the filters match, in the order of reading, each read back for itself; pages
concatenate to what is read at once, without a gap and without a duplicate. If all entries can be
read back, then what is read back has this property for itself, filters included, exactly if the
binary numbers of a table read back. -/
theorem Reachable.slices {types₀ : ContentTypes} {w₀ : Workplace} (hw : w₀.Reachable types₀)
    (hempty : w₀.current.isEmpty = true) (cs : List Call)
    (hsize : (storedBy cs ((runAll types₀ cs).answer w₀)).length ≤ Text.maxSigned)
    (types : ContentTypes) :
    ∀ w es, (runAll types₀ cs).after w₀ = w → storedBy cs ((runAll types₀ cs).answer w₀) = es →
      w.Slices types (fun e => w.current.readBack types e) (w.current.sequence es) ∧
      (∀ filters size n xs,
        (Backend.filter types filters (w.current.sequence es filters).length 0).answer w = .ok xs →
        (w.current.sequence es filters).length ≤ n * size →
        (xs.map Entry.id).Nodup ∧ ∃ pages, ((List.range n).mapM fun i =>
          (Backend.filter types filters size (i * size)).answer w) = .ok pages ∧
            pages.flatten = xs) ∧
      ∀ es', es.mapM (fun e => w.current.readBack types e) = .ok es' →
        (w.Slices types .ok (w.current.sequence es') ↔ w.current.KeepsNumbers es) := by
  rintro w es rfl rfl
  obtain ⟨hsound, hmade⟩ := hw.represents hempty cs
  have hslices := @slices_of_represents types _ _ hsound hmade hsize
  refine ⟨hslices, fun filters size n xs hxs hn => ?_,
    fun es' hread => slices_readBack_iff hsound hmade hsize hread⟩
  obtain ⟨hprepares, hxs⟩ := hslices.filter_eq hxs
  rw [Log.page, List.drop_zero, List.take_length] at hxs
  refine ⟨?_, hslices.flatten_pages hxs hprepares hn⟩
  obtain ⟨f, hitem, rfl⟩ := exists_map_of_mapM hxs
  rw [Keeping.ids_readBack hitem]
  exact Keeping.nodup_sequence hmade.nodup filters

/-- A run that stores one number, which slips while it is read back. -/
def measuring : List Call := [.store Backend.measurement]

/-- The number that slips is not found among what is read back, and a filter of a thousand types is
refused. -/
theorem Reachable.slices_measuring :
    opened.Reachable .empty ∧ opened.current.isEmpty = true ∧
      (Backend.filter .empty Filter.thousandTypes 1 0).answer
          ((runAll .empty measuring).after opened) = .error (TableLog.tooLarge .prepareSelect) ∧
      ∃ es', (storedBy measuring ((runAll .empty measuring).answer opened)).mapM
          (fun e => ((runAll .empty measuring).after opened).current.readBack .empty e) = .ok es' ∧
        ¬ ((runAll .empty measuring).after opened).Slices .empty .ok
          (((runAll .empty measuring).after opened).current.sequence es') := by
  have hempty : opened.current.isEmpty = true := by decide +kernel
  have hsize : (storedBy measuring ((runAll .empty measuring).answer opened)).length ≤
      Text.maxSigned := by decide +kernel
  have hslips : ¬ ((runAll .empty measuring).after opened).current.KeepsNumbers
      (storedBy measuring ((runAll .empty measuring).answer opened)) := by decide +kernel
  have hok : BatchReport.isOk ((storedBy measuring ((runAll .empty measuring).answer opened)).mapM
      (fun e => ((runAll .empty measuring).after opened).current.readBack .empty e)) = true := by
    decide +kernel
  have htable : ((runAll .empty measuring).after opened).current.IsTable := by decide +kernel
  obtain ⟨hslices, -, hback⟩ :=
    (reachable_opened .empty).slices hempty measuring hsize .empty _ _ rfl rfl
  have hrefused := hslices.filter_refused Filter.thousandTypes 1 0 fun h =>
    Query.not_fits_thousandTypes rfl ((htable.prepares_iff _).1 h)
  cases hread : (storedBy measuring ((runAll .empty measuring).answer opened)).mapM
      (fun e => ((runAll .empty measuring).after opened).current.readBack .empty e) with
  | error err => simp [hread, BatchReport.isOk] at hok
  | ok es' =>
    exact ⟨reachable_opened .empty, hempty, hrefused, es', rfl,
      fun h => hslips ((hback es' hread).1 h)⟩

end Workplace

end AuditTrail
