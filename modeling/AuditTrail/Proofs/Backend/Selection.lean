import AuditTrail.Proofs.Backend.Pages

/-!
# What filters see of what was stored

* `Filter.matchesAll_identifying_eq_true_iff`: what it takes to match the filters that identify an
  entry.
* `Filter.forall_matchesAll_eq_iff`: filters see an entry that was read back as they see the one
  that was stored exactly if its binary numbers read back. They are blind to everything else that
  a row does not keep: fractions of microseconds, leap seconds, other content types of the same key
  and the signs of zeros.
* `Workplace.exists_of_matchesAll`: what the filters match is on the unlimited page that is read.
* `Workplace.forall_matchesAll_page_iff`: whatever stands on a page matches the filters of the page.
* `Workplace.Reachable.selection`: so it is after every run.
-/

namespace AuditTrail

/-! ## One entry -/

namespace Filter

theorem matchesAll_identifying_eq_true_iff {a b : Entry} :
    matchesAll (identifying a) b = true ↔
      a.id = b.id ∧ a.user.map Json.encode = b.user.map Json.encode ∧
        a.object.map Json.encode = b.object.map Json.encode ∧ a.data.encode = b.data.encode := by
  rw [← sameOrAbsent_getD_iff a.user_present b.user_present,
    ← sameOrAbsent_getD_iff a.object_present b.object_present, Payload.encode_eq_iff]
  simp [matchesAll, identifying, «matches»]

variable {types : ContentTypes} {e e' : Entry}

/-- The filters that identify an entry match what was read back exactly if it has the same row. -/
theorem matchesAll_identifying_toEntry_iff (h : (Row.ofEntry e).toEntry types = .ok e') :
    matchesAll (identifying e) e' = true ↔ Row.ofEntry e' = Row.ofEntry e := by
  obtain ⟨-, hid, -⟩ := Row.parts_of_toEntry h
  rw [matchesAll_identifying_eq_true_iff, Row.ofEntry_eq_iff_values h,
    eq_comm (a := e'.user.map Json.encode), eq_comm (a := e'.object.map Json.encode),
    eq_comm (a := e'.data.encode)]
  exact and_iff_right hid.symm

/-- Filters see what was read back as they see what was stored exactly if the binary numbers read
back. -/
theorem forall_matchesAll_eq_iff (h : (Row.ofEntry e).toEntry types = .ok e') :
    (∀ filters, matchesAll filters e' = matchesAll filters e) ↔ ∀ x ∈ e.floats, x.ReadsBack := by
  rw [← Row.ofEntry_eq_iff h]
  constructor
  · intro hsame
    rw [← matchesAll_identifying_toEntry_iff h, hsame, matchesAll_identifying_self]
  · exact fun hrow => matchesAll_congr hrow

end Filter

/-! ## Pages -/

namespace Keeping

variable {k : Keeping} {types : ContentTypes} {e e' : Entry}

/-- The filters that identify an entry match what a log gives back for it exactly if its binary
numbers are kept. -/
theorem matchesAll_identifying_readBack_iff (h : k.readBack types e = .ok e') :
    Filter.matchesAll (Filter.identifying e) e' = true ↔ k.KeepsNumbers [e] := by
  cases k with
  | memory log =>
    obtain rfl : e = e' := Except.ok.inj h
    exact iff_of_true (Filter.matchesAll_identifying_self e) trivial
  | table path location log =>
    have hrow : (Row.ofEntry e).toEntry types = .ok e' := h
    rw [Filter.matchesAll_identifying_toEntry_iff hrow, Row.ofEntry_eq_iff hrow, KeepsNumbers,
      List.forall_mem_singleton]

theorem keepsNumbers_iff {es : List Entry} :
    k.KeepsNumbers es ↔ ∀ e ∈ es, k.KeepsNumbers [e] := by
  cases k <;> simp [KeepsNumbers]

end Keeping

namespace Workplace

variable {types : ContentTypes} {w : Workplace} {es : List Entry}

/-- What the filters match is on the unlimited page, if that can be read. -/
theorem exists_of_matchesAll (hw : w.Sound) (h : w.current.Represents es)
    (hsize : es.length ≤ Text.maxSigned) {filters : List Filter} {amount : Nat} {xs : List Entry}
    (hamount : es.length ≤ amount)
    (hread : (Backend.filter types filters amount 0).answer w = .ok xs) {e : Entry} (he : e ∈ es)
    (hmatch : Filter.matchesAll filters e = true) :
    ∃ x ∈ xs, w.current.readBack types e = .ok x := by
  have hall : (w.current.sequence es filters).length ≤ amount := by
    rw [Keeping.length_sequence]
    exact (List.length_filter_le _ _).trans hamount
  obtain ⟨-, hread⟩ := (slices_of_represents hw h hsize).filter_eq hread
  rw [Log.page, List.drop_zero, List.take_of_length_le hall] at hread
  obtain ⟨f, hitem, rfl⟩ := exists_map_of_mapM hread
  have hmem : e ∈ w.current.sequence es filters := Keeping.mem_sequence.2 ⟨he, hmatch⟩
  exact ⟨f e, List.mem_map_of_mem hmem, hitem e hmem⟩

/-- Whatever stands on a page was stored, and the filters matched what was stored. -/
theorem exists_of_mem_page (hw : w.Sound) (h : w.current.Represents es)
    (hsize : es.length ≤ Text.maxSigned) {filters : List Filter} {amount offset : Nat}
    {xs : List Entry} (hread : (Backend.filter types filters amount offset).answer w = .ok xs)
    {x : Entry} (hx : x ∈ xs) :
    ∃ e ∈ es, w.current.readBack types e = .ok x ∧ Filter.matchesAll filters e = true := by
  obtain ⟨-, hread⟩ := (slices_of_represents hw h hsize).filter_eq hread
  obtain ⟨f, hitem, rfl⟩ := exists_map_of_mapM hread
  obtain ⟨e, he, rfl⟩ := List.mem_map.1 hx
  obtain ⟨hstored, hmatch⟩ := Keeping.mem_sequence.1 (Log.mem_of_mem_page he)
  exact ⟨e, hstored, hitem e he, hmatch⟩

/-- Whatever stands on a page matches the filters of the page, for all pages, exactly if the binary
numbers are kept of all entries that can be read back. -/
theorem forall_matchesAll_page_iff (hw : w.Sound) (h : w.current.Represents es)
    (hsize : es.length ≤ Text.maxSigned) :
    (∀ filters amount offset xs, (Backend.filter types filters amount offset).answer w = .ok xs →
        ∀ x ∈ xs, Filter.matchesAll filters x = true) ↔
      ∀ e ∈ es, ∀ e', w.current.readBack types e = .ok e' → w.current.KeepsNumbers [e] := by
  constructor
  · intro hpages e he e' hback
    -- The filters that identify the entry select nothing else.
    have hsequence : ∀ a ∈ w.current.sequence es (Filter.identifying e), a = e := by
      intro a ha
      obtain ⟨ha, hmatch⟩ := Keeping.mem_sequence.1 ha
      exact List.inj_on_of_nodup_map h.nodup ha he
        (Filter.matchesAll_identifying_eq_true_iff.1 hmatch).1.symm
    have hread : (Backend.filter types (Filter.identifying e) es.length 0).answer w =
        .ok ((Log.page es.length 0 (w.current.sequence es (Filter.identifying e))).map
          fun _ => e') := by
      rw [(slices_of_represents hw h hsize).filter_of_comparisons
        (Filter.comparisons_identifying_lt e)]
      refine mapM_eq_map fun a ha => ?_
      rw [hsequence a (Log.mem_of_mem_page ha)]
      exact hback
    obtain ⟨x, hx, hxe⟩ := exists_of_matchesAll hw h hsize le_rfl hread he
      (Filter.matchesAll_identifying_self e)
    obtain rfl : e' = x := Except.ok.inj (hback.symm.trans hxe)
    exact (Keeping.matchesAll_identifying_readBack_iff hback).1 (hpages _ _ _ _ hread e' hx)
  · intro hkeeps filters amount offset xs hread x hx
    obtain ⟨e, he, hback, hmatch⟩ := exists_of_mem_page hw h hsize hread hx
    have hitem : ∀ a ∈ [e], w.current.readBack types a = .ok ((fun _ => x) a) := by
      simpa using hback
    rw [← hmatch]
    exact Keeping.matchesAll_readBack hitem (hkeeps e he x hback) List.mem_cons_self filters

/-- Storing an entry does not change which filters it satisfies, as far as its binary numbers read
back, which is exactly as far as that goes. So after any run from a log without entries: an
unlimited page that can be read misses none of the stored entries that the filters match, and every
page holds only entries that match, exactly if the numbers of the stored entries that can be read
are kept. -/
theorem Reachable.selection {types₀ : ContentTypes} {w₀ : Workplace} (hw : w₀.Reachable types₀)
    (hempty : w₀.current.isEmpty = true) (cs : List Call)
    (hsize : (storedBy cs ((runAll types₀ cs).answer w₀)).length ≤ Text.maxSigned)
    (types : ContentTypes) :
    (∀ e e', (Row.ofEntry e).toEntry types = .ok e' →
      ((∀ filters, Filter.matchesAll filters e' = Filter.matchesAll filters e) ↔
        ∀ x ∈ e.floats, x.ReadsBack)) ∧
    ∀ w es, (runAll types₀ cs).after w₀ = w → storedBy cs ((runAll types₀ cs).answer w₀) = es →
      (∀ filters amount xs, es.length ≤ amount →
        (Backend.filter types filters amount 0).answer w = .ok xs →
          ∀ e ∈ es, Filter.matchesAll filters e = true →
            ∃ x ∈ xs, w.current.readBack types e = .ok x) ∧
      ((∀ filters amount offset xs,
          (Backend.filter types filters amount offset).answer w = .ok xs →
            ∀ x ∈ xs, Filter.matchesAll filters x = true) ↔
        ∀ e ∈ es, ∀ e', w.current.readBack types e = .ok e' → w.current.KeepsNumbers [e]) := by
  refine ⟨fun e e' h => Filter.forall_matchesAll_eq_iff h, ?_⟩
  rintro w es rfl rfl
  obtain ⟨hsound, hmade⟩ := hw.represents hempty cs
  refine ⟨fun filters amount xs hamount hread e he hmatch => ?_,
    forall_matchesAll_page_iff hsound hmade hsize⟩
  exact exists_of_matchesAll hsound hmade hsize hamount hread he hmatch

/-- A number that slips while it is read back is found by filters that it no longer satisfies. -/
theorem Reachable.selection_measuring :
    opened.Reachable .empty ∧ opened.current.isEmpty = true ∧
      ∃ filters amount offset xs, (Backend.filter .empty filters amount offset).answer
          ((runAll .empty measuring).after opened) = .ok xs ∧
        ∃ x ∈ xs, Filter.matchesAll filters x = false := by
  have hempty : opened.current.isEmpty = true := by decide +kernel
  have hsize : (storedBy measuring ((runAll .empty measuring).answer opened)).length ≤
      Text.maxSigned := by decide +kernel
  obtain ⟨-, hrun⟩ := (reachable_opened .empty).selection hempty measuring hsize .empty
  obtain ⟨-, hpages⟩ := hrun _ _ rfl rfl
  have hslips : ¬ ((runAll .empty measuring).after opened).current.KeepsNumbers
      (storedBy measuring ((runAll .empty measuring).answer opened)) := by decide +kernel
  have hok : BatchReport.isOk ((storedBy measuring ((runAll .empty measuring).answer opened)).mapM
      (fun e => ((runAll .empty measuring).after opened).current.readBack .empty e)) = true := by
    decide +kernel
  refine ⟨reachable_opened .empty, hempty, ?_⟩
  by_contra hnone
  push Not at hnone
  simp only [ne_eq, Bool.not_eq_false] at hnone
  have hkeeps := hpages.1 hnone
  cases hread : (storedBy measuring ((runAll .empty measuring).answer opened)).mapM
      (fun e => ((runAll .empty measuring).after opened).current.readBack .empty e) with
  | error err => simp [hread, BatchReport.isOk] at hok
  | ok es' =>
    obtain ⟨f, hitem, -⟩ := exists_map_of_mapM hread
    exact hslips (Keeping.keepsNumbers_iff.2 fun e he => hkeeps e he (f e) (hitem e he))

end Workplace

end AuditTrail
