import AuditTrail.Log.Memory
import AuditTrail.Proofs.Log.Order
import Mathlib.Data.List.Nodup

/-!
# The log in memory only grows

* `MemoryLog.Extends`: every entry is still found under its identifier.
* `MemoryLog.insert_eq_ok_iff`, `MemoryLog.find?_insert`: an entry is added exactly if its
  identifier is free, and nothing else changes.
* `MemoryLog.Represents`: a log made of the entries of a list, in the order in which they were
  stored. `Represents.insert` is the step, `Represents.ordered` the order of reading.
* `MemoryLog.retrieveMany_eq_select`, `MemoryLog.retrieveTyped_eq_select`: the other pages are those
  of filters.
-/

namespace AuditTrail

namespace MemoryLog

variable {log log' : MemoryLog} {e : Entry} {id : EntryId} {es : List Entry}

theorem retrieve_eq_ok_iff : log.retrieve id = .ok e ↔ log.find? id = some e := by
  unfold retrieve
  cases log.find? id <;> simp

/-! ## One more entry -/

/-- Every entry is still found under its identifier. -/
def Extends (log log' : MemoryLog) : Prop := ∀ id e, log.find? id = some e → log'.find? id = some e

theorem Extends.refl (log : MemoryLog) : log.Extends log := fun _ _ h => h

theorem Extends.trans {log'' : MemoryLog} (h : log.Extends log') (h' : log'.Extends log'') :
    log.Extends log'' :=
  fun id e he => h' id e (h id e he)

/-- An entry is added exactly if its identifier is free. -/
theorem insert_eq_ok_iff :
    log.insert e = .ok log' ↔
      log.find? e.id = none ∧
        log' = ⟨(e.id, e) :: log.entries, place ⟨e.timestamp, log.next⟩ e.id log.index,
          log.next + 1⟩ := by
  unfold insert
  cases log.find? e.id with
  | some e' => simp
  | none => simp [eq_comm]

theorem insert_eq_alreadyExists_iff :
    log.insert e = .error (.alreadyExists e.id) ↔ (log.find? e.id).isSome = true := by
  unfold insert
  cases log.find? e.id <;> simp

theorem find?_insert (h : log.insert e = .ok log') (id : EntryId) :
    log'.find? id = if id = e.id then some e else log.find? id := by
  obtain ⟨-, rfl⟩ := insert_eq_ok_iff.1 h
  rw [find?, List.lookup_cons, find?]
  by_cases hid : id = e.id
  · simp [hid]
  · simp [hid, beq_false_of_ne hid]

theorem extends_insert (h : log.insert e = .ok log') : log.Extends log' := by
  intro id e' he'
  rw [find?_insert h, if_neg ?_, he']
  rintro rfl
  simp [(insert_eq_ok_iff.1 h).1] at he'

theorem count_insert (h : log.insert e = .ok log') : log'.count = log.count + 1 := by
  obtain ⟨-, rfl⟩ := insert_eq_ok_iff.1 h
  rfl

/-! ## The entries in the order of their storing -/

/-- The places of the entries in the index, in the order of their storing. -/
def keys (es : List Entry) : List (OrderKey × EntryId) :=
  es.zipIdx.map fun (e, i) => (⟨e.timestamp, i⟩, e.id)

/-- The entries in the order of reading: by descending instant, and at the same instant the last
first. -/
def newestFirst (es : List Entry) : List Entry := Log.newest Entry.timestamp es.reverse

/-- The log is made of the entries, which were stored in this order. -/
structure Represents (log : MemoryLog) (es : List Entry) : Prop where
  entries : log.entries = (es.map fun e => (e.id, e)).reverse
  index : log.index = Log.newest (fun k => k.1.instant) (keys es).reverse
  next : log.next = es.length
  nodup : (es.map Entry.id).Nodup

theorem represents_empty : Represents .empty [] :=
  ⟨rfl, by simp [keys, empty, Log.newest], rfl, by simp⟩

namespace Represents

/-- The entry that is found under an identifier is the one that was stored under it. -/
theorem find?_eq_some_iff (h : log.Represents es) :
    log.find? id = some e ↔ e ∈ es ∧ e.id = id := by
  have hlookup : ∀ xs : List Entry,
      (xs.map fun e => (e.id, e)).lookup id = xs.find? fun e => e.id = id := by
    intro xs
    induction xs with
    | nil => rfl
    | cons x xs ih =>
      rw [List.map_cons, List.lookup_cons, List.find?_cons, ih]
      by_cases hx : x.id = id
      · simp [hx]
      · simp [hx, beq_false_of_ne (Ne.symm hx)]
  rw [find?, h.entries, ← List.map_reverse, hlookup]
  constructor
  · intro hfound
    exact ⟨List.mem_reverse.1 (List.mem_of_find?_eq_some hfound),
      by simpa using List.find?_some hfound⟩
  · rintro ⟨he, hid⟩
    obtain ⟨x, hx⟩ : ∃ x, (es.reverse.find? fun e => e.id = id) = some x :=
      Option.isSome_iff_exists.1
        (List.find?_isSome.2 ⟨e, List.mem_reverse.2 he, by simpa using hid⟩)
    have hxid : x.id = id := by simpa using List.find?_some hx
    have hxmem : x ∈ es := List.mem_reverse.1 (List.mem_of_find?_eq_some hx)
    rw [hx, List.inj_on_of_nodup_map h.nodup hxmem he (hxid.trans hid.symm)]

theorem find?_eq_none_iff (h : log.Represents es) : log.find? id = none ↔ ∀ e ∈ es, e.id ≠ id := by
  rw [Option.eq_none_iff_forall_ne_some]
  simp only [ne_eq, h.find?_eq_some_iff, not_and]

theorem count (h : log.Represents es) : log.count = es.length := by
  rw [MemoryLog.count, h.entries, List.length_reverse, List.length_map]

end Represents

theorem keys_append (es : List Entry) (e : Entry) :
    keys (es ++ [e]) = keys es ++ [(⟨e.timestamp, es.length⟩, e.id)] := by
  simp [keys, List.zipIdx_append]

theorem sequence_lt_of_mem_keys {k : OrderKey × EntryId} (h : k ∈ keys es) :
    k.1.sequence < es.length := by
  obtain ⟨⟨e, i⟩, hmem, rfl⟩ := List.mem_map.1 h
  exact List.snd_lt_of_mem_zipIdx hmem

/-- A key with a greater number than all others is placed in front of the first that is not newer
in time. -/
theorem place_eq {key : OrderKey} {index : List (OrderKey × EntryId)}
    (h : ∀ k ∈ index, k.1.sequence < key.sequence) :
    place key id index = index.takeWhile (fun k => !k.1.instant.le key.instant) ++
      (key, id) :: index.dropWhile fun k => !k.1.instant.le key.instant := by
  induction index with
  | nil => rfl
  | cons k index ih =>
    have hk := h k List.mem_cons_self
    have hnewer : key.newer k.1 = k.1.instant.le key.instant := by
      rw [OrderKey.newer, Bool.eq_iff_iff]
      have htotal := Instant.le_total key.instant k.1.instant
      have hext : key.instant = k.1.instant ↔
          key.instant.second = k.1.instant.second ∧ key.instant.nano = k.1.instant.nano :=
        ⟨fun h => by rw [h]; exact ⟨rfl, rfl⟩, fun h => Instant.ext h.1 h.2⟩
      simp only [Bool.or_eq_true, Bool.not_eq_true', Bool.and_eq_true, decide_eq_true_eq,
        ← Bool.not_eq_true, Instant.le_iff, hext] at htotal ⊢
      omega
    obtain ⟨k, i⟩ := k
    rw [place]
    cases hle : k.instant.le key.instant with
    | true => simp [hnewer, hle]
    | false => simp [hnewer, hle, ih fun k hk => h k (List.mem_cons_of_mem _ hk)]

/-- One more entry is stored behind the others. -/
theorem Represents.insert (h : log.Represents es) (hok : log.insert e = .ok log') :
    log'.Represents (es ++ [e]) := by
  obtain ⟨hfree, rfl⟩ := insert_eq_ok_iff.1 hok
  refine ⟨by simp [h.entries], ?_, by simp [h.next], ?_⟩
  · have hlt : ∀ k ∈ log.index, k.1.sequence < log.next := by
      intro k hk
      rw [h.index, Log.mem_newest, List.mem_reverse] at hk
      exact h.next ▸ sequence_lt_of_mem_keys hk
    rw [keys_append, List.reverse_append, List.reverse_singleton, List.singleton_append,
      Log.newest_cons, ← h.index, ← h.next, place_eq hlt]
  · rw [List.map_append, List.nodup_append]
    refine ⟨h.nodup, by simp, ?_⟩
    simpa [ne_comm] using h.find?_eq_none_iff.1 hfree

/-- The order of reading: by descending instant, and at the same instant the last first. -/
theorem Represents.ordered (h : log.Represents es) : log.ordered = newestFirst es := by
  have hfind : ∀ k ∈ log.index, log.find? k.2 = some ((log.find? k.2).getD default) ∧
      k.1.instant = ((log.find? k.2).getD default).timestamp := by
    intro k hk
    rw [h.index, Log.mem_newest, List.mem_reverse] at hk
    obtain ⟨⟨e, i⟩, hmem, rfl⟩ := List.mem_map.1 hk
    have he : log.find? e.id = some e :=
      h.find?_eq_some_iff.2 ⟨List.fst_mem_of_mem_zipIdx hmem, rfl⟩
    simp [he]
  have hmap : log.ordered = log.index.map fun k => (log.find? k.2).getD default := by
    rw [MemoryLog.ordered, ← List.filterMap_eq_map]
    exact List.filterMap_congr fun k hk => (hfind k hk).1
  have hkeys : (keys es).map (fun k => (log.find? k.2).getD default) = es := by
    rw [keys, List.map_map]
    conv_rhs => rw [← List.zipIdx_map_fst 0 es]
    refine List.map_congr_left fun x hx => ?_
    simp [h.find?_eq_some_iff.2 ⟨List.fst_mem_of_mem_zipIdx hx, rfl⟩]
  have hinstant : ∀ k ∈ (keys es).reverse,
      ((log.find? k.2).getD default).timestamp = k.1.instant := by
    intro k hk
    refine (hfind k ?_).2.symm
    rw [h.index]
    exact (Log.mem_newest _).2 hk
  rw [hmap, newestFirst, h.index, Log.map_newest hinstant, List.map_reverse, hkeys]

/-- All entries match no filters at all. -/
theorem retrieveMany_eq_select (log : MemoryLog) (amount offset : Nat) :
    log.retrieveMany amount offset = log.select [] amount offset := rfl

/-- The entries of a type are those that its filter matches. -/
theorem retrieveTyped_eq_select (log : MemoryLog) (type : String) (amount offset : Nat) :
    log.retrieveTyped type amount offset = log.select [.type [type]] amount offset := by
  have hmatch : (fun e : Entry => decide (e.type = type)) = Filter.matchesAll [.type [type]] := by
    funext e
    simp [Filter.matchesAll, Filter.matches, eq_comm]
  rw [retrieveTyped, select, hmatch]

/-- The log answers a page of the entries that the filters match. -/
theorem Represents.select (h : log.Represents es) (filters : List Filter) (amount offset : Nat) :
    log.select filters amount offset =
      Log.page amount offset (newestFirst (es.filter (Filter.matchesAll filters))) := by
  rw [MemoryLog.select, scan, h.ordered, newestFirst, Log.filter_newest, List.filter_reverse,
    newestFirst]

theorem Represents.countFilter (h : log.Represents es) (filters : List Filter) :
    log.countFilter filters = (es.filter (Filter.matchesAll filters)).length := by
  rw [MemoryLog.countFilter, h.ordered, newestFirst, Log.filter_newest, Log.newest,
    List.length_mergeSort, List.filter_reverse, List.length_reverse]

end MemoryLog

end AuditTrail
