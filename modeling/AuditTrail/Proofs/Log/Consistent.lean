import AuditTrail.Proofs.Log.Memory

/-!
# The index of the log in memory

* `MemoryLog.Consistent`: the index and the entries describe one log. `MemoryLog.Consistent.insert`:
  every insertion keeps that.
* `MemoryLog.Consistent.map_find?`: the walk along the index meets no identifier without an entry;
  `MemoryLog.Consistent.countFilter_nil`: without filters every entry is counted.
* `MemoryLog.Represents.precedes`: what was stored later has a greater number.
-/

namespace AuditTrail.MemoryLog

variable {log log' : MemoryLog} {e : Entry} {id : EntryId} {es : List Entry}

/-- The index and the entries describe one log. -/
structure Consistent (log : MemoryLog) : Prop where
  /-- A key of the index has the instant of the entry. -/
  mapped : ∀ k id, (k, id) ∈ log.index → ∃ e, log.find? id = some e ∧ k.instant = e.timestamp
  indexed : ∀ id e, log.find? id = some e → (log.index.map Prod.snd).count id = 1
  named : ∀ id e, log.find? id = some e → e.id = id ∧ id.isNil = false
  nodup : (log.entries.map Prod.fst).Nodup
  numbered : (log.index.map fun k => k.1.sequence).Nodup
  below : ∀ k ∈ log.index, k.1.sequence < log.next
  length_index : log.index.length = log.next
  length_entries : log.entries.length = log.next
  /-- The index is in the order of reading. -/
  sorted : log.index.Pairwise fun a b => a.1.newer b.1 = true

theorem consistent_empty : Consistent .empty := by
  constructor <;> simp [empty, find?]

/-! ## One more key -/

theorem perm_place (key : OrderKey) (id : EntryId) (index : List (OrderKey × EntryId)) :
    (place key id index).Perm ((key, id) :: index) := by
  induction index with
  | nil => exact .refl _
  | cons k index ih =>
    obtain ⟨k, i⟩ := k
    rw [place]
    split
    · exact .refl _
    · exact (ih.cons _).trans (.swap _ _ _)

theorem newer_trans {a b c : OrderKey} (hab : a.newer b = true) (hbc : b.newer c = true) :
    a.newer c = true := by
  simp only [OrderKey.newer, Bool.or_eq_true, Bool.not_eq_true', Bool.and_eq_true,
    decide_eq_true_eq, ← Bool.not_eq_true, Instant.le_iff, Instant.ext_iff] at *
  omega

/-- Of two keys with different numbers one is newer. -/
theorem newer_of_not_newer {a b : OrderKey} (hne : a.sequence ≠ b.sequence)
    (h : ¬ a.newer b = true) : b.newer a = true := by
  simp only [OrderKey.newer, Bool.or_eq_true, Bool.not_eq_true', Bool.and_eq_true,
    decide_eq_true_eq, ← Bool.not_eq_true, Instant.le_iff, Instant.ext_iff] at *
  omega

/-- A key with a number of its own gets its place in the order. -/
theorem pairwise_place {key : OrderKey} {index : List (OrderKey × EntryId)}
    (h : index.Pairwise fun a b => a.1.newer b.1 = true)
    (hne : ∀ k ∈ index, k.1.sequence ≠ key.sequence) :
    (place key id index).Pairwise fun a b => a.1.newer b.1 = true := by
  induction index with
  | nil => simp [place]
  | cons k index ih =>
    obtain ⟨k, i⟩ := k
    obtain ⟨hk, hindex⟩ := List.pairwise_cons.1 h
    rw [place]
    split
    · next hnewer =>
      refine List.pairwise_cons.2 ⟨fun a ha => ?_, h⟩
      rcases List.mem_cons.1 ha with rfl | ha
      · exact hnewer
      · exact newer_trans hnewer (hk a ha)
    · next hnot =>
      have hmore := ih hindex fun k hk => hne k (List.mem_cons_of_mem _ hk)
      refine List.pairwise_cons.2 ⟨fun a ha => ?_, hmore⟩
      rcases List.mem_cons.1 ((perm_place key id index).mem_iff.1 ha) with rfl | ha
      · exact newer_of_not_newer (hne (k, i) List.mem_cons_self).symm hnot
      · exact hk a ha

/-! ## One more entry -/

theorem mem_index_insert (hok : log.insert e = .ok log') {k : OrderKey × EntryId} :
    k ∈ log'.index ↔ k = (⟨e.timestamp, log.next⟩, e.id) ∨ k ∈ log.index := by
  obtain ⟨-, rfl⟩ := insert_eq_ok_iff.1 hok
  rw [(perm_place _ _ _).mem_iff, List.mem_cons]

namespace Consistent

/-- An identifier that is free is not in the index. -/
theorem not_mem_index (h : log.Consistent) (hfree : log.find? id = none) :
    id ∉ log.index.map Prod.snd := by
  intro hmem
  obtain ⟨⟨k, i⟩, hk, rfl⟩ := List.mem_map.1 hmem
  obtain ⟨e, he, -⟩ := h.mapped k _ hk
  simp [hfree] at he

/-- An insertion keeps the index and the entries together. -/
theorem insert (h : log.Consistent) (hid : e.id.isNil = false) (hok : log.insert e = .ok log') :
    log'.Consistent := by
  have hfind := find?_insert hok
  have hmem := @mem_index_insert _ _ _ hok
  have hgrows := extends_insert hok
  obtain ⟨hfree, rfl⟩ := insert_eq_ok_iff.1 hok
  have hperm := perm_place ⟨e.timestamp, log.next⟩ e.id log.index
  have hfresh := h.not_mem_index hfree
  -- The number of the new key is above all others.
  have hnumber : log.next ∉ log.index.map fun k => k.1.sequence := by
    intro hmem
    obtain ⟨k, hk, hnext⟩ := List.mem_map.1 hmem
    have := h.below k hk
    omega
  constructor
  case mapped =>
    intro k id hk
    rcases hmem.1 hk with heq | hk
    · obtain ⟨rfl, rfl⟩ := Prod.mk.inj heq
      exact ⟨e, by simp [hfind], rfl⟩
    · obtain ⟨e', he', hinstant⟩ := h.mapped k id hk
      exact ⟨e', hgrows id e' he', hinstant⟩
  case indexed =>
    intro id e' he'
    rw [(hperm.map Prod.snd).count_eq, List.map_cons, List.count_cons]
    rw [hfind] at he'
    by_cases heq : id = e.id
    · subst heq
      simp [List.count_eq_zero.2 hfresh]
    · rw [if_neg heq] at he'
      simp [h.indexed id e' he', Ne.symm heq]
  case named =>
    intro id e' he'
    rw [hfind] at he'
    by_cases heq : id = e.id
    · subst heq
      obtain rfl : e = e' := by simpa using he'
      exact ⟨rfl, hid⟩
    · rw [if_neg heq] at he'
      exact h.named id e' he'
  case nodup =>
    rw [List.map_cons, List.nodup_cons]
    refine ⟨fun hmem => ?_, h.nodup⟩
    obtain ⟨⟨id, e'⟩, hmem, rfl⟩ := List.mem_map.1 hmem
    rw [find?, List.lookup_eq_none_iff] at hfree
    simpa using hfree _ hmem
  case numbered =>
    rw [(hperm.map _).nodup_iff, List.map_cons, List.nodup_cons]
    exact ⟨hnumber, h.numbered⟩
  case below =>
    intro k hk
    rcases hmem.1 hk with rfl | hk
    · exact Nat.lt_succ_self _
    · exact Nat.lt_succ_of_lt (h.below k hk)
  case length_index =>
    show (place _ _ _).length = _
    rw [hperm.length_eq, List.length_cons, h.length_index]
  case length_entries =>
    show (_ :: log.entries).length = _
    rw [List.length_cons, h.length_entries]
  case sorted =>
    refine pairwise_place h.sorted fun k hk heq => hnumber ?_
    exact List.mem_map.2 ⟨k, hk, heq⟩

/-! ## Reading along the index -/

/-- The walk along the index meets no identifier without an entry. -/
theorem map_find? (h : log.Consistent) :
    (log.index.map fun k => log.find? k.2) = log.ordered.map some := by
  have hwalk : ∀ index : List (OrderKey × EntryId), (∀ k ∈ index, ∃ e, log.find? k.2 = some e) →
      (index.map fun k => log.find? k.2) =
        (index.filterMap fun k => log.find? k.2).map some := by
    intro index hindex
    induction index with
    | nil => rfl
    | cons k index ih =>
      obtain ⟨e, he⟩ := hindex k List.mem_cons_self
      have hmore := ih fun k hk => hindex k (List.mem_cons_of_mem _ hk)
      rw [List.map_cons, hmore, List.filterMap_cons, he]
      rfl
  apply hwalk
  intro k hk
  obtain ⟨e, he, -⟩ := h.mapped k.1 k.2 hk
  exact ⟨e, he⟩

/-- Without filters every entry is counted. -/
theorem countFilter_nil (h : log.Consistent) : log.countFilter [] = log.next := by
  have hlength := congrArg List.length h.map_find?
  have hall : log.ordered.filter (Filter.matchesAll []) = log.ordered :=
    List.filter_eq_self.2 fun _ _ => rfl
  rw [List.length_map, List.length_map] at hlength
  rw [countFilter, hall, ← hlength, h.length_index]

end Consistent

/-! ## What was stored later -/

/-- The keys of the entries are in the index, that of the second with the greater number. -/
def Precedes (log : MemoryLog) (a b : Entry) : Prop :=
  ∃ k l, (k, a.id) ∈ log.index ∧ (l, b.id) ∈ log.index ∧ k.instant = a.timestamp ∧
    l.instant = b.timestamp ∧ k.sequence < l.sequence

/-- What was stored later has a greater number. -/
theorem Represents.precedes (h : log.Represents es) : es.Pairwise log.Precedes := by
  have hmem : ∀ (i : Nat) (hi : i < es.length),
      ((⟨es[i].timestamp, i⟩, es[i].id) : OrderKey × EntryId) ∈ log.index := by
    intro i hi
    rw [h.index, Log.mem_newest, List.mem_reverse, keys]
    exact List.mem_map.2 ⟨(es[i], i), by simp [List.mem_zipIdx_iff_getElem?, hi], rfl⟩
  refine List.pairwise_iff_getElem.2 fun i j hi hj hlt => ?_
  exact ⟨⟨es[i].timestamp, i⟩, ⟨es[j].timestamp, j⟩, hmem i hi, hmem j hj, rfl, rfl, hlt⟩

end AuditTrail.MemoryLog
