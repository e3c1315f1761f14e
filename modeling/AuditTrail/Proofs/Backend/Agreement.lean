import AuditTrail.Proofs.Backend.Run
import AuditTrail.Proofs.Log.Agreement

/-!
# The logs agree over whole runs

* `Write`: a call that stores entries.
* `Log.Paired`: the state of a log in memory beside that of a log in a table, with the same entries
  and the same supply of identifiers. `Log.paired_storeWith`, `Log.paired_storeManyWith`: storing
  answers the same and keeps the pair; `Backend.paired_writeAll`: so does a run.
* `Reply.Same`: the same answer, with entries compared by `==`.
* `Reply.FromRows`: an answer beside the one that the rows of its entries give;
  `Backend.fromRows`: so a table answers beside the log in memory.
* `Call.Fits`: the statement of a call can be prepared. `Backend.not_same_of_not_fits`: only the log
  in memory answers one that cannot.
* `Backend.agreement`: after a run that answers the same, a read answers the same exactly if its
  statement can be prepared and the binary numbers that are to be answered read back.
-/

namespace AuditTrail

/-! ## Calls and answers -/

/-- A call that stores entries. -/
inductive Write
  | one (e : Entry)
  | many (es : List Entry)

namespace Write

/-- The call. -/
def call : Write → Call
  | .one e => .store e
  | .many es => .storeMany es

/-- The entries of the call. -/
def entries : Write → List Entry
  | .one e => [e]
  | .many es => es

end Write

/-- Calls that store entries, one after another. -/
def writeAll (types : ContentTypes) (ws : List Write) : Work (List Reply) :=
  runAll types (ws.map Write.call)

/-- Does the call only read? -/
def Call.isRead : Call → Bool
  | .store _ | .storeMany _ | .setup | .reopen _ => false
  | .retrieve _ | .retrieveMany _ _ | .retrieveTyped _ _ _ => true
  | .filter _ _ _ | .countFilter _ | .count => true

/-- The statement of the call can be prepared, if it is one of filters. -/
def Call.Fits : Call → Prop
  | .filter filters amount offset => (TableLog.pageQuery filters amount offset).Fits
  | .countFilter filters => (TableLog.countQuery filters).Fits
  | _ => True

/-- How many comparisons the filters of a call make. -/
def Call.comparisons : Call → Nat
  | .filter filters _ _ => Filter.comparisons filters
  | .countFilter filters => Filter.comparisons filters
  | _ => 0

theorem Call.fits_of_comparisons (c : Call) (h : c.comparisons < 1000) : c.Fits := by
  cases c with
  | filter filters amount offset => exact TableLog.fits_pageQuery h amount offset
  | countFilter filters => exact TableLog.fits_countQuery h
  | _ => trivial

namespace Reply

/-- The same answer: entries are compared with `==`, all else is equal. -/
def Same : Reply → Reply → Prop
  | .entry (.ok e), .entry (.ok e') => (e == e') = true
  | .entries (.ok es), .entries (.ok es') => List.Forall₂ (fun e e' => (e == e') = true) es es'
  | r, r' => r = r'

/-- The binary numbers in the entries of an answer. -/
def floats : Reply → List Binary64
  | .entry (.ok e) => e.floats
  | .entries (.ok es) => es.flatMap Entry.floats
  | _ => []

/-- An answer about entries, and what the rows of these entries say instead. -/
inductive FromRows (types : ContentTypes) (es : List Entry) : Reply → Reply → Prop
  | entry {e : Entry} (he : e ∈ es) :
      FromRows types es (.entry (.ok e)) (.entry ((Row.ofEntry e).toEntry types))
  | unknown (err : Error) : FromRows types es (.entry (.error err)) (.entry (.error err))
  | entries {xs : List Entry} (hxs : ∀ e ∈ xs, e ∈ es) :
      FromRows types es (.entries (.ok xs))
        (.entries (xs.mapM fun e => (Row.ofEntry e).toEntry types))
  | number (r : Except Error Nat) : FromRows types es (.number r) (.number r)

variable {types : ContentTypes} {es : List Entry}

theorem same_entry_iff {r : Except Error Entry} {e : Entry} :
    Same (.entry r) (.entry (.ok e)) ↔ ∃ e', r = .ok e' ∧ (e' == e) = true := by
  cases r <;> simp [Same]

theorem same_entries_iff {r : Except Error (List Entry)} {xs : List Entry} :
    Same (.entries r) (.entries (.ok xs)) ↔
      ∃ ys, r = .ok ys ∧ List.Forall₂ (fun e' e => (e' == e) = true) ys xs := by
  cases r <;> simp [Same]

namespace FromRows

variable {r r' : Reply}

/-- The rows say the same exactly if the binary numbers of the entries read back. -/
theorem same_iff (h : FromRows types es r r') (hplain : ∀ e ∈ es, e.IsPlain types) :
    Same r' r ↔ ∀ x ∈ r.floats, x.ReadsBack := by
  cases h with
  | entry he => exact same_entry_iff.trans (Entry.exists_readBack_iff (hplain _ he))
  | unknown err => simp [Same, floats]
  | @entries xs hxs =>
    have hread : ∀ e ∈ xs, (∃ e', (Row.ofEntry e).toEntry types = .ok e' ∧ (e' == e) = true) ↔
        ∀ x ∈ e.floats, x.ReadsBack :=
      fun e he => Entry.exists_readBack_iff (hplain e (hxs e he))
    rw [same_entries_iff, exists_mapM_iff, forall₂_congr hread, floats, List.forall_mem_flatMap]
  | number n => simp [Same, floats]

/-- The binary numbers of an answer are those of entries. -/
theorem floats_mem (h : FromRows types es r r') {x : Binary64} (hx : x ∈ r.floats) :
    ∃ e ∈ es, x ∈ e.floats := by
  cases h with
  | entry he => exact ⟨_, he, hx⟩
  | unknown err => cases hx
  | entries hxs =>
    obtain ⟨e, he, hx⟩ := List.mem_flatMap.1 hx
    exact ⟨e, hxs e he, hx⟩
  | number n => cases hx

end FromRows

end Reply

/-! ## Storing -/

namespace Keeping

/-- Is this a log in a table without rows, which can be written? -/
def isEmptyTable : Keeping → Bool
  | .memory _ => false
  | .table _ location log =>
    Backend.isWritable location && (log.database.table? log.table).any fun t => t.rows.isEmpty

/-- Both logs are made of the entries, and the one in a table can be written. -/
def Agree (k k' : Keeping) (es : List Entry) : Prop :=
  ∃ log path location table, k = .memory log ∧ k' = .table path location table ∧
    Backend.isWritable location = true ∧ Log.Agree log table es

theorem agree_empty {k : Keeping} (h : k.isEmptyTable = true) : Agree (.memory .empty) k [] := by
  cases k with
  | memory log => cases h
  | table path location log =>
    rw [isEmptyTable, Bool.and_eq_true, Option.any_eq_true] at h
    obtain ⟨hl, t, ht, hrows⟩ := h
    exact ⟨.empty, path, location, log, rfl, rfl, hl,
      Log.agree_empty ht (List.isEmpty_iff.1 hrows)⟩

/-- An insertion succeeds in both logs, or is refused in both for the same reason. -/
theorem Agree.insert {k k' : Keeping} {es : List Entry} (h : Agree k k' es) (e : Entry) :
    (∃ k₁ k₁', k.insert e = .ok k₁ ∧ k'.insert e = .ok k₁' ∧ Agree k₁ k₁' (es ++ [e])) ∨
      k.insert e = .error (.alreadyExists e.id) ∧ k'.insert e = .error (.alreadyExists e.id) := by
  obtain ⟨log, path, location, table, rfl, rfl, hl, hagree⟩ := h
  simp only [Keeping.insert, hl, if_true]
  obtain ⟨log', table', hlog, htable, hagree'⟩ | ⟨hlog, htable⟩ := hagree.insert e
  · rw [hlog, htable]
    exact .inl ⟨_, _, rfl, rfl, log', path, location, table', rfl, rfl, hl, hagree'⟩
  · rw [hlog, htable]
    exact .inr ⟨rfl, rfl⟩

/-- The table answers with what the row of the entry says that is answered in memory. -/
theorem Agree.retrieve {k k' : Keeping} {es : List Entry} (h : Agree k k' es)
    (types : ContentTypes) (id : EntryId) :
    Reply.FromRows types es (.entry (k.retrieve types id)) (.entry (k'.retrieve types id)) := by
  obtain ⟨log, path, location, table, rfl, rfl, -, hagree⟩ := h
  have hrow := hagree.retrieve types id
  simp only [Keeping.retrieve]
  cases hlog : log.retrieve id with
  | error err =>
    rw [hlog] at hrow
    rw [hrow]
    exact .unknown err
  | ok e =>
    rw [hlog] at hrow
    rw [hrow]
    exact .entry (hagree.memory.find?_eq_some_iff.1 (MemoryLog.retrieve_eq_ok_iff.1 hlog)).1

/-- The table answers with what the rows of the entries say that are answered in memory. -/
theorem Agree.select {k k' : Keeping} {es : List Entry} (h : Agree k k' es)
    (hplain : ∀ e ∈ es, e.IsPlain types) (hsize : es.length ≤ Text.maxSigned)
    {filters : List Filter} {amount offset : Nat}
    (hfits : (TableLog.pageQuery filters amount offset).Fits) :
    Reply.FromRows types es (.entries (k.select types filters amount offset))
      (.entries (k'.select types filters amount offset)) := by
  obtain ⟨log, path, location, table, rfl, rfl, -, hagree⟩ := h
  have hmem : ∀ e ∈ log.select filters amount offset, e ∈ es := by
    intro e he
    have hordered : e ∈ log.ordered :=
      List.mem_of_mem_filter (List.mem_of_mem_drop (List.mem_of_mem_take he))
    rw [hagree.memory.ordered, MemoryLog.newestFirst, Log.newest] at hordered
    exact List.mem_reverse.1 (List.mem_mergeSort.1 hordered)
  simp only [Keeping.select]
  rw [hagree.select hplain hsize hfits]
  exact .entries hmem

/-- Both count the same. -/
theorem Agree.countFilter {k k' : Keeping} {es : List Entry} (h : Agree k k' es)
    {filters : List Filter} (hfits : (TableLog.countQuery filters).Fits) :
    k'.countFilter filters = k.countFilter filters := by
  obtain ⟨log, path, location, table, rfl, rfl, -, hagree⟩ := h
  exact hagree.countFilter hfits

theorem Agree.count {k k' : Keeping} {es : List Entry} (h : Agree k k' es) :
    k'.count = k.count ∧ k.count = .ok es.length := by
  obtain ⟨log, path, location, table, rfl, rfl, -, hagree⟩ := h
  exact ⟨hagree.count, congrArg Except.ok hagree.memory.count⟩

end Keeping

namespace Log

/-- Both logs are made of the same entries, which have a property, and the same identifiers come
next. -/
structure Paired (p : Entry → Prop) (s s' : Store Keeping) : Prop where
  ids : s.ids = s'.ids
  logs : ∃ es, Keeping.Agree s.log s'.log es ∧ ∀ e ∈ es, p e

variable {p : Entry → Prop} {s s' : Store Keeping}

theorem paired_storeWith (h : Paired p s s') {e : Entry} (he : ∀ id, p (e.withId id)) :
    (storeWith Keeping.insert s e).1 = (storeWith Keeping.insert s' e).1 ∧
      Paired p (storeWith Keeping.insert s e).2 (storeWith Keeping.insert s' e).2 := by
  obtain ⟨es, hagree, hes⟩ := h.logs
  have hassign := Keeping.assign_eq_withId s'.ids e
  simp only [storeWith, h.ids]
  obtain ⟨k, k', hk, hk', hagree'⟩ | ⟨hk, hk'⟩ := hagree.insert (s'.ids.assign e).1
  · rw [hk, hk']
    refine ⟨rfl, rfl, _, hagree', ?_⟩
    rw [List.forall_mem_append, List.forall_mem_singleton, hassign]
    exact ⟨hes, he _⟩
  · rw [hk, hk']
    exact ⟨rfl, rfl, es, hagree, hes⟩

theorem paired_storeManyWith (h : Paired p s s') {es : List Entry}
    (hes : ∀ e ∈ es, ∀ id, p (e.withId id)) :
    (storeManyWith Keeping.insert s es).1 = (storeManyWith Keeping.insert s' es).1 ∧
      Paired p (storeManyWith Keeping.insert s es).2 (storeManyWith Keeping.insert s' es).2 := by
  induction es generalizing s s' with
  | nil => exact ⟨rfl, h⟩
  | cons e es ih =>
    obtain ⟨he, hes⟩ := List.forall_mem_cons.1 hes
    obtain ⟨hr, hpaired⟩ := paired_storeWith h he
    rw [storeManyWith, storeManyWith]
    cases hs : storeWith Keeping.insert s e with
    | mk r s₁ =>
      cases hs' : storeWith Keeping.insert s' e with
      | mk r' s₁' =>
        rw [hs, hs'] at hr hpaired
        obtain rfl : r = r' := hr
        -- Both batches go on, or both end here.
        cases r with
        | error err => exact ⟨rfl, hpaired⟩
        | ok id =>
          obtain ⟨hr', hpaired'⟩ := ih hpaired hes
          exact ⟨congrArg (Except.ok id :: ·) hr', hpaired'⟩

end Log

namespace Backend

variable {types : ContentTypes} {p : Entry → Prop} {w w' : Workplace}

theorem sound_writeAll (hw : w.Sound) (ws : List Write) : ((writeAll types ws).after w).Sound :=
  (runAll_spec hw (ws.map Write.call)).1

/-- A run that stores answers the same and keeps the pair. -/
theorem paired_writeAll (hw : w.Sound) (hw' : w'.Sound) (h : Log.Paired p w.state w'.state)
    {ws : List Write} (hws : ∀ wr ∈ ws, ∀ e ∈ wr.entries, ∀ id, p (e.withId id)) :
    (writeAll types ws).answer w = (writeAll types ws).answer w' ∧
      Log.Paired p ((writeAll types ws).after w).state ((writeAll types ws).after w').state := by
  unfold writeAll
  induction ws generalizing w w' with
  | nil => exact ⟨rfl, h⟩
  | cons wr ws ih =>
    obtain ⟨hwr, hws⟩ := List.forall_mem_cons.1 hws
    have hstep : (wr.call.work types).answer w = (wr.call.work types).answer w' ∧
        Log.Paired p ((wr.call.work types).after w).state
          ((wr.call.work types).after w').state := by
      cases wr with
      | one e =>
        obtain ⟨hr, hs, -⟩ := store_spec hw e
        obtain ⟨hr', hs', -⟩ := store_spec hw' e
        obtain ⟨hsame, hpaired⟩ := Log.paired_storeWith h (hwr e List.mem_cons_self)
        simp only [Write.call, Call.work, answer_map, after_map, hr, hr', hs, hs', hsame]
        exact ⟨trivial, hpaired⟩
      | many es =>
        obtain ⟨hr, hs, -⟩ := storeMany_spec hw es
        obtain ⟨hr', hs', -⟩ := storeMany_spec hw' es
        obtain ⟨hsame, hpaired⟩ := Log.paired_storeManyWith h hwr
        simp only [Write.call, Call.work, answer_map, after_map, hr, hr', hs, hs']
        exact ⟨congrArg (fun results => Reply.report ⟨results, es.length⟩) hsame, hpaired⟩
    obtain ⟨hr, hpaired⟩ := ih (Call.spec hw _).1 (Call.spec hw' _).1 hstep.2 hws
    rw [List.map_cons, answer_runAll_cons, answer_runAll_cons, after_runAll_cons,
      after_runAll_cons, hstep.1, hr]
    exact ⟨rfl, hpaired⟩

/-! ## Reading -/

section Reads

variable {es : List Entry}

theorem answer_read {α : Type} {work : Work α} {answer : Keeping → α} (f : α → Reply)
    (hw : w.Sound)
    (hwork : ∀ w : Workplace, w.backend.broken = false → Reads work w (answer w.current)) :
    (f <$> work : Work Reply).answer w = f (answer w.current) := by
  rw [answer_map, (hwork w hw.whole).answer]

theorem answer_filter (hw : w.Sound) (filters : List Filter) (amount offset : Nat) :
    ((Call.filter filters amount offset).work types).answer w =
      .entries (w.current.select types filters amount offset) :=
  answer_read .entries hw fun _ hw => reads_filter hw types filters amount offset

theorem answer_countFilter (hw : w.Sound) (filters : List Filter) :
    ((Call.countFilter filters).work types).answer w =
      .number (w.current.countFilter filters) :=
  answer_read .number hw fun _ hw => reads_countFilter hw filters

/-- A read from the table is answered from the rows of the entries that are answered in memory, if
its statement can be prepared. -/
theorem fromRows (hw : w.Sound) (hw' : w'.Sound)
    (h : Keeping.Agree w.current w'.current es) (hplain : ∀ e ∈ es, e.IsPlain types)
    (hsize : es.length ≤ Text.maxSigned) {c : Call} (hc : c.isRead = true) (hfits : c.Fits) :
    Reply.FromRows types es ((c.work types).answer w) ((c.work types).answer w') := by
  have hreads {α : Type} {work : Work α} {answer : Keeping → α} {f : α → Reply}
      (hwork : ∀ w : Workplace, w.backend.broken = false → Reads work w (answer w.current))
      (hrows : Reply.FromRows types es (f (answer w.current)) (f (answer w'.current))) :
      Reply.FromRows types es ((f <$> work : Work Reply).answer w)
        ((f <$> work : Work Reply).answer w') := by
    rw [answer_read f hw hwork, answer_read f hw' hwork]
    exact hrows
  cases c with
  | retrieve id => exact hreads (fun _ hw => reads_retrieve hw types id) (h.retrieve types id)
  | retrieveMany amount offset =>
    exact hreads (fun _ hw => reads_retrieveMany hw types amount offset)
      (h.select hplain hsize (TableLog.fits_pageQuery (by decide) amount offset))
  | retrieveTyped type amount offset =>
    have htype : Filter.comparisons [.type [type]] < 1000 :=
      Filter.comparisons_singleton_lt le_rfl
    exact hreads (fun _ hw => reads_retrieveTyped hw types type amount offset)
      (h.select hplain hsize (TableLog.fits_pageQuery htype amount offset))
  | filter filters amount offset =>
    rw [answer_filter hw, answer_filter hw']
    exact h.select hplain hsize hfits
  | countFilter filters =>
    rw [answer_countFilter hw, answer_countFilter hw', h.countFilter hfits]
    exact .number _
  | count =>
    refine hreads (fun _ hw => reads_count hw) ?_
    rw [h.count.1]
    exact .number _
  | store | storeMany | setup | reopen => cases hc

/-- A statement that cannot be prepared fails, while the log in memory answers. -/
theorem not_same_of_not_fits (hw : w.Sound) (hw' : w'.Sound)
    (h : Keeping.Agree w.current w'.current es) {c : Call} (hfits : ¬ c.Fits) :
    ¬ Reply.Same ((c.work types).answer w') ((c.work types).answer w) := by
  obtain ⟨log, path, location, table, hmemory, htable, -, -⟩ := h
  intro hsame
  cases c with
  | filter filters amount offset =>
    rw [answer_filter hw, answer_filter hw', hmemory, htable, Keeping.select, Keeping.select,
      TableLog.select_of_not_fits hfits, Reply.same_entries_iff] at hsame
    obtain ⟨_, hok, -⟩ := hsame
    cases hok
  | countFilter filters =>
    rw [answer_countFilter hw, answer_countFilter hw', hmemory, htable, Keeping.countFilter,
      Keeping.countFilter, TableLog.countFilter_of_not_fits hfits] at hsame
    exact absurd hsame nofun
  | _ => exact hfits trivial

/-- A read answers the same in both logs exactly if its statement can be prepared and the binary
numbers that it is to answer read back. -/
theorem same_iff (hw : w.Sound) (hw' : w'.Sound) (h : Keeping.Agree w.current w'.current es)
    (hplain : ∀ e ∈ es, e.IsPlain types) (hsize : es.length ≤ Text.maxSigned) {c : Call}
    (hc : c.isRead = true) :
    Reply.Same ((c.work types).answer w') ((c.work types).answer w) ↔
      c.Fits ∧ ∀ x ∈ ((c.work types).answer w).floats, x.ReadsBack := by
  by_cases hfits : c.Fits
  · rw [(fromRows hw hw' h hplain hsize hc hfits).same_iff hplain]
    exact (and_iff_right hfits).symm
  · exact iff_of_false (not_same_of_not_fits hw hw' h hfits) fun h => hfits h.1

end Reads

/-- Entries are stored in an empty log in memory and in an empty table, with the same identifiers to
come. All calls answer the same. So does every read behind them, exactly if its statement can be
prepared, as it can with fewer than a thousand comparisons, and the binary numbers that it is to
answer read back, as long as the rows can be numbered at all. -/
theorem agreement {s : System} (hw : w.Reachable types) (hempty : w.current.isEmptyTable = true)
    (hids : s.ids = w.system.ids) {ws : List Write}
    (hplain : ∀ wr ∈ ws, ∀ e ∈ wr.entries, e.IsPlain types) :
    (writeAll types ws).answer ⟨openMemory, s⟩ = (writeAll types ws).answer w ∧
    (∀ c : Call, c.comparisons < 1000 → c.Fits) ∧
    ∀ n, count.answer ((writeAll types ws).after ⟨openMemory, s⟩) = .ok n → n ≤ Text.maxSigned →
      (∀ c : Call, c.isRead = true →
        (Reply.Same ((c.work types).answer ((writeAll types ws).after w))
            ((c.work types).answer ((writeAll types ws).after ⟨openMemory, s⟩)) ↔
          c.Fits ∧
            ∀ x ∈ ((c.work types).answer ((writeAll types ws).after ⟨openMemory, s⟩)).floats,
              x.ReadsBack)) ∧
      ((∀ wr ∈ ws, ∀ e ∈ wr.entries, ∀ x ∈ e.floats, x.ReadsBack) →
        ∀ c : Call, c.isRead = true → c.Fits →
          Reply.Same ((c.work types).answer ((writeAll types ws).after w))
            ((c.work types).answer ((writeAll types ws).after ⟨openMemory, s⟩))) := by
  have hmemory := sound_openMemory s
  -- What the logs hold was submitted, but for the identifiers, so its numbers are submitted ones.
  have hsubmitted : ∀ wr ∈ ws, ∀ e ∈ wr.entries, ∀ id, (e.withId id).IsPlain types ∧
      ∃ wr ∈ ws, ∃ e₀ ∈ wr.entries, (e.withId id).floats = e₀.floats :=
    fun wr hwr e he id => ⟨(hplain wr hwr e he).withId id, wr, hwr, e, he, rfl⟩
  have hstart : Log.Paired (fun e => e.IsPlain types ∧
      ∃ wr ∈ ws, ∃ e₀ ∈ wr.entries, e.floats = e₀.floats)
      (Workplace.state ⟨openMemory, s⟩) w.state :=
    ⟨hids, [], Keeping.agree_empty hempty, List.forall_mem_nil _⟩
  obtain ⟨hanswer, -, es, hagree, hes⟩ := paired_writeAll hmemory hw.sound hstart hsubmitted
  have hsound : ((writeAll types ws).after ⟨openMemory, s⟩).Sound := sound_writeAll hmemory ws
  have hsound' : ((writeAll types ws).after w).Sound := sound_writeAll hw.sound ws
  refine ⟨hanswer, Call.fits_of_comparisons, fun n hn hsize => ?_⟩
  rw [(reads_count hsound.whole).answer] at hn
  obtain rfl : es.length = n := Except.ok.inj (hagree.count.2.symm.trans hn)
  have hplain' : ∀ e ∈ es, e.IsPlain types := fun e he => (hes e he).1
  refine ⟨fun c hc => same_iff hsound hsound' hagree hplain' hsize hc,
    fun hback c hc hfits => (same_iff hsound hsound' hagree hplain' hsize hc).2
      ⟨hfits, fun x hx => ?_⟩⟩
  obtain ⟨e, he, hx⟩ :=
    (fromRows hsound hsound' hagree hplain' hsize hc hfits).floats_mem hx
  obtain ⟨-, wr, hwr, e₀, he₀, hfloats⟩ := hes e he
  exact hback wr hwr e₀ he₀ x (hfloats ▸ hx)

/-- A number whose spelling, 9.100000000000001, is read as 9.1. -/
def slipping : Binary64 :=
  ⟨false, 5122844576133940, -49, by decide, by decide, by decide, by decide⟩

/-- An entry with this number. -/
def measurement : Entry :=
  ((Entry.ofType "reading" .info .epoch).withId (IdSupply.timeId 1 0)).withField "x"
    ⟨.number (.float slipping), trivial⟩

theorem isPlain_measurement : measurement.IsPlain .empty := by
  refine ⟨by decide, by rintro ct ⟨⟩, ?_, ?_, by decide⟩
  · rintro v ⟨⟩
  · rintro v ⟨⟩

/-- The entry is stored in both logs, and the table answers with another number. -/
theorem agreement_measurement :
    Workplace.opened.Reachable .empty ∧ Workplace.opened.current.isEmptyTable = true ∧
      measurement.IsPlain .empty ∧
      ¬ Reply.Same
        (((Call.retrieve measurement.id).work .empty).answer
          ((writeAll .empty [.one measurement]).after Workplace.opened))
        (((Call.retrieve measurement.id).work .empty).answer
          ((writeAll .empty [.one measurement]).after ⟨openMemory, Workplace.opened.system⟩)) := by
  have hreachable := Workplace.reachable_opened .empty
  have hempty : Workplace.opened.current.isEmptyTable = true := by decide +kernel
  have hplain : ∀ wr ∈ [Write.one measurement], ∀ e ∈ wr.entries, e.IsPlain .empty := by
    simpa [Write.entries] using isPlain_measurement
  refine ⟨hreachable, hempty, isPlain_measurement, fun hsame => ?_⟩
  obtain ⟨-, -, hreads⟩ := agreement hreachable hempty rfl hplain
  have hcount : count.answer ((writeAll .empty [.one measurement]).after
      ⟨openMemory, Workplace.opened.system⟩) = .ok 1 := by decide +kernel
  obtain ⟨-, hback⟩ := ((hreads 1 hcount (by decide)).1 (.retrieve measurement.id) rfl).1 hsame
  have hfloats : (((Call.retrieve measurement.id).work .empty).answer
      ((writeAll .empty [.one measurement]).after ⟨openMemory, Workplace.opened.system⟩)).floats =
        [slipping] := by decide +kernel
  rw [hfloats, List.forall_mem_singleton] at hback
  exact absurd hback (by decide +kernel)

end Backend

end AuditTrail
