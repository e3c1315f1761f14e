import AuditTrail.Sql.Query
import Mathlib.Algebra.Order.BigOperators.Group.List
import Mathlib.Algebra.Order.Ring.Nat

/-!
# What queries read, and which fit

* `numbersOf`: the numbers of the parameters in conditions; `numbersOf_ofFilters`: those of the
  clause of filters are one after another.
* `Clause.eval_congr`: parameters of other numbers make no difference to a clause.
* `Query.rows_page`, `Query.rows_count`: the query for filters reads the rows for which their clause
  is true, and the size and the offset of a page are what was asked for, up to the greatest integer.
* `Filter.comparisons`: how many comparisons filters make. `Clause.depth_ofFilters`: how deep their
  clause is. `Query.fits_of_comparisons`, `Query.not_fits`: which queries can be prepared.
-/

namespace AuditTrail

namespace Sql

/-! ## Numbers of parameters -/

/-- The numbers of a term. -/
def Term.numbers : Term → List Nat
  | .empty _ => []
  | .compare _ _ n => [n]

/-- The numbers of conditions. -/
def numbersOf (conditions : List (List Term)) : List Nat :=
  conditions.flatMap fun terms => terms.flatMap Term.numbers

theorem numbers_termsFrom (next : Nat) (tests : List Test) :
    (termsFrom next tests).flatMap Term.numbers =
      List.range' next (tests.filterMap Test.value?).length := by
  induction tests generalizing next with
  | nil => rfl
  | cons t tests ih =>
    cases t with
    | empty c => exact ih next
    | compare c how v =>
      rw [termsFrom, List.flatMap_cons, ih (next + 1)]
      rfl

/-- The values of all conditions are numbered one after another. -/
theorem numbersOf_conditionsFrom (next : Nat) (lists : List (List Test)) :
    numbersOf (conditionsFrom next lists) =
      List.range' next (lists.flatten.filterMap Test.value?).length := by
  induction lists generalizing next with
  | nil => rfl
  | cons tests lists ih =>
    have hmore := ih (next + (tests.filterMap Test.value?).length)
    unfold numbersOf at hmore ⊢
    rw [conditionsFrom, List.flatMap_cons, numbers_termsFrom, hmore, List.range'_append_1,
      List.flatten_cons, List.filterMap_append, List.length_append]

theorem numbersOf_ofFilters (fs : List Filter) :
    numbersOf (Clause.ofFilters fs).conditions =
      List.range' 1 (Clause.ofFilters fs).parameters.length := by
  rw [Clause.ofFilters, numbersOf_conditionsFrom, List.flatMap_def]

theorem parameter_append {ps : List Cell} {n : Nat} (hn : n ∈ List.range' 1 ps.length)
    (more : List Cell) : parameter (ps ++ more) n = parameter ps n := by
  have hlt : n - 1 < ps.length := by
    rw [List.mem_range'_1] at hn
    omega
  rw [parameter, parameter, List.getD_eq_getElem?_getD, List.getD_eq_getElem?_getD,
    List.getElem?_append_left hlt]

/-- The truth of conditions depends only on the parameters of their numbers. -/
theorem Clause.eval_congr {conditions : List (List Term)} {ps qs : List Cell}
    (h : ∀ n ∈ numbersOf conditions, parameter ps n = parameter qs n) (row : StoredRow) :
    (Clause.mk conditions ps).eval row = (Clause.mk conditions qs).eval row := by
  have hterm : ∀ t : Term, (∀ n ∈ t.numbers, parameter ps n = parameter qs n) →
      t.eval ps row = t.eval qs row := by
    intro t ht
    cases t with
    | empty c => rfl
    | compare c how n => rw [Term.eval, Term.eval, ht n (by simp [Term.numbers])]
  have hcondition : ∀ terms : List Term,
      (∀ n ∈ terms.flatMap Term.numbers, parameter ps n = parameter qs n) →
        evalCondition ps row terms = evalCondition qs row terms := by
    intro terms hterms
    induction terms with
    | nil => rfl
    | cons t terms ih =>
      simp only [List.flatMap_cons, List.mem_append] at hterms
      have hmore := ih fun n hn => hterms n (.inr hn)
      unfold evalCondition at hmore ⊢
      rw [List.foldr_cons, List.foldr_cons, hterm t fun n hn => hterms n (.inl hn), hmore]
  induction conditions with
  | nil => rfl
  | cons terms conditions ih =>
    simp only [numbersOf, List.flatMap_cons, List.mem_append] at h
    have hmore := ih fun n hn => h n (.inr hn)
    unfold Clause.eval at hmore ⊢
    rw [List.foldr_cons, List.foldr_cons, hcondition terms fun n hn => h n (.inl hn)]
    exact congrArg _ hmore

/-- Parameters behind those of the clause of filters make no difference to it. -/
theorem Clause.filtered_append (t : Table) (fs : List Filter) (more : List Cell) :
    Database.filtered t ⟨(ofFilters fs).conditions, (ofFilters fs).parameters ++ more⟩ =
      Database.filtered t (ofFilters fs) := by
  refine List.filter_congr fun row _ => ?_
  rw [holds, holds, Clause.eval_congr fun n hn => ?_]
  rw [numbersOf_ofFilters] at hn
  exact parameter_append hn more

/-! ## Rows -/

namespace Query

/-- Behind the parameters of the clause stand the size and the offset. -/
theorem parameter_nextNumber (c : Clause) (amount offset : Nat) :
    parameter (page c amount offset).parameters c.nextNumber = .int (pageNumber amount) ∧
      parameter (page c amount offset).parameters (c.nextNumber + 1) =
        .int (pageNumber offset) := by
  simp [parameter, parameters, Clause.nextNumber, List.getD_eq_getElem?_getD]

theorem rowsOf_pageNumber (n : Nat) : rowsOf (.int (pageNumber n)) = pageNumber n := rfl

/-- A page of the rows for which the clause of the filters is true. -/
theorem rows_page (t : Table) (fs : List Filter) (amount offset : Nat) :
    (page (.ofFilters fs) amount offset).rows t =
      Log.page (pageNumber amount) (pageNumber offset) (Database.selected t (.ofFilters fs)) := by
  obtain ⟨hamount, hoffset⟩ := parameter_nextNumber (.ofFilters fs) amount offset
  rw [rows, hamount, hoffset, rowsOf_pageNumber, rowsOf_pageNumber, Database.selected, parameters,
    Clause.filtered_append]
  rfl

theorem rows_count (t : Table) (fs : List Filter) :
    (count (.ofFilters fs)).rows t = Database.filtered t (.ofFilters fs) := rfl

end Query

/-! ## Depths -/

/-- A joint adds at most what is joined, if that is deeper than a single side. -/
theorem foldl_joint_le {a s : Nat} {ns : List Nat} (ha : a ≤ s + 1) (hs : 1 ≤ s)
    (hns : ∀ n ∈ ns, 1 ≤ n) : (ns.map (· + 1)).foldl joint a ≤ s + ns.sum + 1 := by
  induction ns generalizing a s with
  | nil => simpa using ha
  | cons n ns ih =>
    obtain ⟨hn, hns⟩ := List.forall_mem_cons.1 hns
    have hjoint : joint a (n + 1) ≤ s + n + 1 := by
      rw [joint]
      omega
    have := ih hjoint (by omega) hns
    rw [List.map_cons, List.foldl_cons, List.sum_cons]
    omega

theorem add_length_le_foldl_joint (a : Nat) (ds : List Nat) :
    a + ds.length ≤ ds.foldl joint a := by
  induction ds generalizing a with
  | nil => exact le_rfl
  | cons d ds ih =>
    have := ih (joint a d)
    rw [List.foldl_cons, List.length_cons]
    rw [joint] at this ⊢
    omega

theorem lt_foldl_joint {a d : Nat} {ds : List Nat} (h : d ∈ ds) : d < ds.foldl joint a := by
  induction ds generalizing a with
  | nil => cases h
  | cons d' ds ih =>
    rw [List.foldl_cons]
    rcases List.mem_cons.1 h with rfl | h
    · have := add_length_le_foldl_joint (joint a d) ds
      rw [joint] at this ⊢
      omega
    · exact ih h

theorem foldl_joint_map {α : Type} {a : Nat} (ha : 2 ≤ a) (xs : List α) :
    (xs.map fun _ => 2).foldl joint a = a + xs.length := by
  induction xs generalizing a with
  | nil => rfl
  | cons x xs ih =>
    have hjoint : joint a 2 = a + 1 := congrArg (· + 1) (Nat.max_eq_left ha)
    rw [List.map_cons, List.foldl_cons, hjoint, ih (by omega), List.length_cons]
    omega

/-- A condition is one deeper than it has terms, and one without terms is as deep as one with a
single term. -/
theorem conditionDepth_eq (terms : List Term) :
    conditionDepth terms = max terms.length 1 + 1 := by
  unfold conditionDepth
  cases terms with
  | nil => rfl
  | cons t terms =>
    rw [if_neg (List.cons_ne_nil _ _), List.map_cons, joinedDepth, foldl_joint_map le_rfl,
      List.length_cons]
    omega

/-! ## Comparisons -/

theorem length_termsFrom (next : Nat) (tests : List Test) :
    (termsFrom next tests).length = tests.length := by
  induction tests generalizing next with
  | nil => rfl
  | cons t tests ih =>
    cases t with
    | empty c => exact congrArg (· + 1) (ih next)
    | compare c how v => exact congrArg (· + 1) (ih (next + 1))

theorem lengths_conditionsFrom (next : Nat) (lists : List (List Test)) :
    (conditionsFrom next lists).map List.length = lists.map List.length := by
  induction lists generalizing next with
  | nil => rfl
  | cons tests lists ih =>
    rw [conditionsFrom, List.map_cons, List.map_cons, length_termsFrom, ih]

theorem length_tests (f : Filter) : (tests f).length = f.size := by
  cases f <;> exact List.length_map _

end Sql

/-- How many comparisons filters make. One without candidates makes one that is false. -/
def Filter.comparisons (fs : List Filter) : Nat := (fs.map fun f => max f.size 1).sum

theorem Filter.comparisons_singleton {f : Filter} (h : f.size ≤ 1) : comparisons [f] = 1 := by
  rw [comparisons, List.map_singleton, List.sum_singleton]
  omega

theorem Filter.comparisons_singleton_lt {f : Filter} (h : f.size ≤ 1) : comparisons [f] < 1000 := by
  rw [comparisons_singleton h]
  decide

namespace Sql

/-- The clause of filters joins, for each of them, as many comparisons as it makes. -/
theorem Clause.depth_ofFilters (fs : List Filter) :
    (ofFilters fs).depth = joinedDepth ((fs.map fun f => max f.size 1).map (· + 1)) := by
  have hlengths := lengths_conditionsFrom 1 (fs.map tests)
  rw [List.map_map, Function.comp_def] at hlengths
  simp only [length_tests] at hlengths
  have hdepths : (ofFilters fs).conditions.map conditionDepth =
      ((ofFilters fs).conditions.map List.length).map fun n => max n 1 + 1 := by
    rw [List.map_map]
    exact List.map_congr_left fun terms _ => conditionDepth_eq terms
  rw [depth, hdepths, ofFilters, hlengths, List.map_map, List.map_map]
  rfl

theorem Clause.depth_ofFilters_le (fs : List Filter) :
    (ofFilters fs).depth ≤ Filter.comparisons fs + 1 := by
  rw [depth_ofFilters, Filter.comparisons]
  cases fs with
  | nil => exact Nat.zero_le _
  | cons f fs =>
    rw [List.map_cons, List.map_cons, joinedDepth, List.sum_cons]
    refine foldl_joint_le le_rfl (Nat.le_max_right _ _) fun n hn => ?_
    obtain ⟨g, -, rfl⟩ := List.mem_map.1 hn
    exact Nat.le_max_right _ _

theorem Clause.size_lt_depth_ofFilters {fs : List Filter} {f : Filter} (h : f ∈ fs) :
    f.size < (ofFilters fs).depth := by
  rw [depth_ofFilters]
  cases fs with
  | nil => cases h
  | cons g fs =>
    rw [List.map_cons, List.map_cons, joinedDepth]
    rcases List.mem_cons.1 h with rfl | h
    · have := add_length_le_foldl_joint (max f.size 1 + 1)
        ((fs.map fun f => max f.size 1).map (· + 1))
      omega
    · have := @lt_foldl_joint (max g.size 1 + 1) _ _
        (List.mem_map_of_mem (f := (· + 1)) (List.mem_map_of_mem (f := fun f => max f.size 1) h))
      omega

theorem Clause.length_lt_depth_ofFilters {fs : List Filter} (h : fs ≠ []) :
    fs.length < (ofFilters fs).depth := by
  rw [depth_ofFilters]
  cases fs with
  | nil => exact absurd rfl h
  | cons f fs =>
    have := add_length_le_foldl_joint (max f.size 1 + 1)
      ((fs.map fun f => max f.size 1).map (· + 1))
    rw [List.length_map, List.length_map] at this
    rw [List.map_cons, List.map_cons, joinedDepth, List.length_cons]
    omega

theorem Clause.length_parameters_ofFilters_le (fs : List Filter) :
    (ofFilters fs).parameters.length ≤ Filter.comparisons fs :=
  calc (ofFilters fs).parameters.length
    _ ≤ (fs.flatMap tests).length := List.length_filterMap_le _ _
    _ = (fs.map Filter.size).sum := by
      rw [List.length_flatMap]
      exact congrArg List.sum (List.map_congr_left fun f _ => length_tests f)
    _ ≤ Filter.comparisons fs := List.sum_le_sum fun f _ => Nat.le_max_left _ _

namespace Query

variable {fs : List Filter} {q : Query}

/-- Fewer than a thousand comparisons can be prepared, whatever is asked of the rows. -/
theorem fits_of_comparisons (hq : q.clause = .ofFilters fs) (h : Filter.comparisons fs < 1000) :
    q.Fits := by
  have hdepth := Clause.depth_ofFilters_le fs
  have hlength := Clause.length_parameters_ofFilters_le fs
  have hmore : q.parameters.length ≤ q.clause.parameters.length + 2 := by
    cases q with
    | page c amount offset => simp [parameters, clause]
    | count c => exact Nat.le_add_right _ _
  rw [hq] at hmore
  rw [Fits, hq, maxDepth, maxParameters]
  omega

/-- A filter of a thousand candidates, or a thousand filters, cannot be prepared. -/
theorem not_fits (hq : q.clause = .ofFilters fs)
    (h : 1000 ≤ fs.length ∨ ∃ f ∈ fs, 1000 ≤ f.size) : ¬ q.Fits := by
  rw [Fits, hq, maxDepth]
  rintro ⟨hdepth, -⟩
  rcases h with h | ⟨f, hf, h⟩
  · have := Clause.length_lt_depth_ofFilters (List.ne_nil_of_length_pos (by omega : 0 < fs.length))
    omega
  · have := Clause.size_lt_depth_ofFilters hf
    omega

end Query

end Sql

/-- A filter with more candidates than a statement can compare with. -/
def Filter.thousandTypes : List Filter := [.type (List.replicate 1000 "t")]

theorem Sql.Query.not_fits_thousandTypes {q : Query}
    (hq : q.clause = .ofFilters Filter.thousandTypes) : ¬ q.Fits := by
  have hsize : 1000 ≤ (Filter.type (List.replicate 1000 "t")).size := by
    rw [Filter.size, List.length_replicate]
  exact not_fits hq (.inr ⟨_, List.mem_singleton_self _, hsize⟩)

end AuditTrail
