import AuditTrail.Proofs.Row
import AuditTrail.Proofs.Sql.Expression

/-!
# What clauses mean

* `Clause.exists_readWhere?`: the text of a clause, in either dialect, is read as a condition whose
  truth is that of the clause.
* `Clause.holds_ofFilters`: the clause of filters is true for the row of an entry exactly if all
  filters match the entry.
* `Clause.readWhere?_ofFilters`: both together, for the text of the clause of filters.
-/

namespace AuditTrail.Sql

open Text

/-! ## Tokens of a clause -/

/-- The tokens of a term. -/
def Term.tokens : Term → List Token
  | .empty c => [.column c, .keyword .is, .keyword .null]
  | .compare c how n => [.column c, .sign how, .parameter n]

/-- The condition that a term is read as. -/
def Term.expression : Term → Expression
  | .empty c => .isNull (.column c)
  | .compare c how n => .compare how (.column c) (.parameter n)

/-- Tokens with a keyword between two neighbours. -/
def joined (k : Keyword) : List (List Token) → List Token
  | [] => []
  | [ts] => ts
  | ts :: us :: more => ts ++ .keyword k :: joined k (us :: more)

/-- The tokens of a condition. -/
def conditionTokens (terms : List Term) : List Token :=
  if terms = [] then [.number 1, .sign .equal, .number 0]
  else .opening :: joined .or (terms.map Term.tokens) ++ [.closing]

/-- One of the conditions. -/
def anyOf : Expression → List Expression → Expression
  | x, [] => x
  | x, y :: ys => .either x (anyOf y ys)

/-- All of the conditions. -/
def allOf : Expression → List Expression → Expression
  | x, [] => x
  | x, y :: ys => .both x (allOf y ys)

/-- What a condition is read as. -/
def conditionExpression : List Term → Expression
  | [] => .compare .equal (.number 1) (.number 0)
  | t :: terms => anyOf t.expression (terms.map Term.expression)

/-- What a clause is read as. -/
def clauseExpression? : List (List Term) → Option Expression
  | [] => none
  | terms :: conditions =>
    some (allOf (conditionExpression terms) (conditions.map conditionExpression))

namespace Spells

variable {d : Dialect}

theorem joinWith {k : Keyword} {sep : String} (hsep : sep.toList = ' ' :: k.chars ++ [' '])
    {α : Type} {text : α → String} {tokens : α → List Token} :
    ∀ {items : List α}, (∀ i ∈ items, Spells d (text i).toList (tokens i)) →
      Spells d (Text.joinWith sep (items.map text)).toList (joined k (items.map tokens))
  | [], _ => nil
  | [i], h => h i (by simp)
  | i :: j :: items, h => by
    have hmore : Spells d (Text.joinWith sep ((j :: items).map text)).toList
        (joined k ((j :: items).map tokens)) :=
      joinWith hsep fun x hx => h x (List.mem_cons_of_mem _ hx)
    have hkey : Spells d (' ' :: (k.chars ++ ' ' :: (Text.joinWith sep
        ((j :: items).map text)).toList)) (.keyword k :: joined k ((j :: items).map tokens)) :=
      space ((keyword k).append (space hmore) rfl (by decide))
    have := (h i (by simp)).append hkey rfl (by decide)
    simpa [Text.joinWith, joined, hsep] using this

theorem term (t : Term) : Spells d (t.text d).toList t.tokens := by
  cases t with
  | empty c =>
    have hnull : Spells d (' ' :: (Keyword.is.chars ++ ' ' :: Keyword.null.chars))
        [.keyword .is, .keyword .null] :=
      space ((keyword .is).append (space (keyword .null)) rfl (by decide))
    have htext : (Term.text d (.empty c)).toList =
        c.name.toList ++ ' ' :: (Keyword.is.chars ++ ' ' :: Keyword.null.chars) := by
      rw [Term.text, String.toList_append]
      rfl
    rw [htext]
    exact (column c).append hnull rfl (by decide)
  | compare c how n =>
    obtain ⟨s, hs, hword, hspace, htoken⟩ : ∃ s, how.sign.toList = [s] ∧ isWordChar s = false ∧
        s ≠ ' ' ∧ token? d [s] = some (.sign how) := by
      cases how
      · exact ⟨'=', rfl, by decide, by decide, rfl⟩
      · exact ⟨'<', rfl, by decide, by decide, rfl⟩
      · exact ⟨'>', rfl, by decide, by decide, rfl⟩
    have hsign : Spells d (' ' :: s :: ' ' :: (d.placeholder n).toList) [.sign how, .parameter n] :=
      space (mark hword hspace htoken (space (parameter n)))
    have htext : (Term.text d (.compare c how n)).toList =
        c.name.toList ++ ' ' :: s :: ' ' :: (d.placeholder n).toList := by
      simp [Term.text, hs]
    rw [htext]
    exact (column c).append hsign rfl (by decide)

/-- The text of a condition starts with a bracket or a number and spells its tokens. -/
theorem condition (terms : List Term) :
    Spells d (conditionText d terms).toList (conditionTokens terms) := by
  unfold conditionText conditionTokens
  split
  · have hnumber : ∀ n c, token? d [c] = some (.number n) → isWordChar c = true →
        Spells d [c] [.number n] := fun n c h hc => word (by simp) (by simpa using hc) h
    have hzero : Spells d ['0'] [.number 0] := hnumber 0 '0' (by cases d <;> decide) (by decide)
    have hone : Spells d ['1'] [.number 1] := hnumber 1 '1' (by cases d <;> decide) (by decide)
    exact hone.append (space (mark (by decide) (by decide) rfl (space hzero))) rfl (by decide)
  · have hterms : Spells d (Text.joinWith " OR " (terms.map (Term.text d))).toList
        (joined .or (terms.map Term.tokens)) := joinWith rfl fun t _ => term t
    have hclose : Spells d [')'] [.closing] := mark (by decide) (by decide) rfl nil
    have := mark (show isWordChar '(' = false by decide) (by decide) rfl
      (hterms.append hclose rfl (by decide))
    simpa using this

theorem clause (c : Clause) : Spells d (c.text d).toList
    (if c.conditions = [] then []
      else .keyword .where :: joined .and (c.conditions.map conditionTokens)) := by
  unfold Clause.text
  split
  · exact nil
  · have hall : Spells d (Text.joinWith " AND " (c.conditions.map (conditionText d))).toList
        (joined .and (c.conditions.map conditionTokens)) := joinWith rfl fun t _ => condition t
    have := space ((keyword .where).append (space hall) rfl (by decide))
    simpa [Keyword.chars] using this

end Spells

/-! ## Reading a clause -/

theorem readTest_term (t : Term) (rest : List Token) :
    readTest (t.tokens ++ rest) = some (t.expression, rest) := by
  cases t <;> rfl

theorem readFactor_term (fuel : Nat) (t : Term) (rest : List Token) :
    readFactor (fuel + 1) (t.tokens ++ rest) = some (t.expression, rest) := by
  have h := readTest_term t rest
  cases t <;> exact h

theorem readAnd_last {fuel : Nat} {ts rest : List Token} {x : Expression}
    (h : readFactor fuel ts = some (x, rest)) (hrest : rest.head? ≠ some (.keyword .and)) :
    readAnd (fuel + 1) ts = some (x, rest) := by
  rw [readAnd, h]
  simp only [Option.bind_eq_bind, Option.bind_some]
  split
  · exact absurd rfl hrest
  · rfl

theorem readAnd_more {fuel : Nat} {ts rest rest' : List Token} {x y : Expression}
    (h : readFactor fuel ts = some (x, .keyword .and :: rest))
    (hmore : readAnd fuel rest = some (y, rest')) :
    readAnd (fuel + 1) ts = some (.both x y, rest') := by
  rw [readAnd, h]
  simp only [Option.bind_eq_bind, Option.bind_some, hmore]
  rfl

theorem readOr_last {fuel : Nat} {ts rest : List Token} {x : Expression}
    (h : readAnd fuel ts = some (x, rest)) (hrest : rest.head? ≠ some (.keyword .or)) :
    readOr (fuel + 1) ts = some (x, rest) := by
  rw [readOr, h]
  simp only [Option.bind_eq_bind, Option.bind_some]
  split
  · exact absurd rfl hrest
  · rfl

theorem readOr_more {fuel : Nat} {ts rest rest' : List Token} {x y : Expression}
    (h : readAnd fuel ts = some (x, .keyword .or :: rest))
    (hmore : readOr fuel rest = some (y, rest')) :
    readOr (fuel + 1) ts = some (.either x y, rest') := by
  rw [readOr, h]
  simp only [Option.bind_eq_bind, Option.bind_some, hmore]
  rfl

theorem readFactor_brackets {fuel : Nat} {ts rest : List Token} {x : Expression}
    (h : readOr fuel ts = some (x, .closing :: rest)) :
    readFactor (fuel + 1) (.opening :: ts) = some (x, rest) := by
  rw [readFactor]
  simp only [h, Option.bind_eq_bind, Option.bind_some]
  rfl

/-- Terms up to a closing bracket. -/
theorem readOr_terms (t : Term) (terms : List Term) (rest : List Token) (fuel : Nat)
    (hfuel : terms.length + 3 ≤ fuel) :
    readOr fuel (joined .or ((t :: terms).map Term.tokens) ++ .closing :: rest) =
      some (anyOf t.expression (terms.map Term.expression), .closing :: rest) := by
  induction terms generalizing t fuel with
  | nil =>
    obtain ⟨fuel, rfl⟩ : ∃ k, fuel = k + 3 := ⟨fuel - 3, by simp at hfuel; omega⟩
    exact readOr_last (readAnd_last (readFactor_term fuel t _) (by simp)) (by simp)
  | cons u terms ih =>
    obtain ⟨fuel, rfl⟩ : ∃ k, fuel = k + 3 := ⟨fuel - 3, by simp at hfuel; omega⟩
    have hmore := ih u (fuel + 2) (by simp at hfuel; omega)
    have hand : readAnd (fuel + 2) (t.tokens ++ .keyword .or ::
        (joined .or ((u :: terms).map Term.tokens) ++ .closing :: rest)) = some (t.expression, _) :=
      readAnd_last (readFactor_term fuel t _) (by simp)
    simp only [List.map_cons, joined, List.append_assoc, List.cons_append] at hmore hand ⊢
    exact readOr_more hand hmore

/-- There are more tokens than terms. -/
theorem length_joined_terms (terms : List Term) :
    terms.length ≤ (joined .or (terms.map Term.tokens)).length := by
  induction terms with
  | nil => simp
  | cons t terms ih =>
    have htokens : 1 ≤ t.tokens.length := by cases t <;> simp [Term.tokens]
    cases terms with
    | nil => simpa [joined] using htokens
    | cons u terms =>
      simp only [List.map_cons, joined, List.length_append, List.length_cons] at ih ⊢
      omega

theorem readFactor_condition (terms : List Term) (rest : List Token) (fuel : Nat)
    (hfuel : (conditionTokens terms).length + 2 ≤ fuel) :
    readFactor fuel (conditionTokens terms ++ rest) = some (conditionExpression terms, rest) := by
  obtain ⟨fuel, rfl⟩ : ∃ k, fuel = k + 1 := ⟨fuel - 1, by omega⟩
  cases terms with
  | nil => rfl
  | cons t terms =>
    have hlength := length_joined_terms (t :: terms)
    rw [conditionTokens, if_neg (by simp)] at hfuel ⊢
    simp only [List.length_append, List.length_cons, List.length_nil] at hfuel hlength
    simp only [List.cons_append, List.append_assoc, List.nil_append]
    exact readFactor_brackets (readOr_terms t terms rest fuel (by omega))

/-- Conditions up to the end. -/
theorem readAnd_conditions (terms : List Term) (conditions : List (List Term)) (fuel : Nat)
    (hfuel : (joined .and ((terms :: conditions).map conditionTokens)).length + 3 ≤ fuel) :
    readAnd fuel (joined .and ((terms :: conditions).map conditionTokens)) =
      some (allOf (conditionExpression terms) (conditions.map conditionExpression), []) := by
  induction conditions generalizing terms fuel with
  | nil =>
    obtain ⟨fuel, rfl⟩ : ∃ k, fuel = k + 1 := ⟨fuel - 1, by omega⟩
    simp only [List.map_cons, List.map_nil, joined] at hfuel ⊢
    have hread := readFactor_condition terms [] fuel (by omega)
    rw [List.append_nil] at hread
    exact readAnd_last hread (by simp)
  | cons next conditions ih =>
    obtain ⟨fuel, rfl⟩ : ∃ k, fuel = k + 1 := ⟨fuel - 1, by omega⟩
    simp only [List.map_cons, joined, List.length_append, List.length_cons] at hfuel ih ⊢
    have hread := readFactor_condition terms
      (.keyword .and :: joined .and (conditionTokens next :: conditions.map conditionTokens)) fuel
      (by omega)
    exact readAnd_more hread (ih next fuel (by omega))

theorem readWhereTokens?_conditions (conditions : List (List Term)) :
    readWhereTokens? (if conditions = [] then []
      else .keyword .where :: joined .and (conditions.map conditionTokens)) =
      some (clauseExpression? conditions) := by
  cases conditions with
  | nil => rfl
  | cons terms conditions =>
    rw [if_neg (by simp), readWhereTokens?]
    have hread := readAnd_conditions terms conditions
      (4 * (joined .and ((terms :: conditions).map conditionTokens)).length + 3) (by omega)
    rw [readOr_last hread (by simp)]
    rfl

theorem readWhere?_text (d : Dialect) (c : Clause) :
    readWhere? d (c.text d) = some (clauseExpression? c.conditions) := by
  rw [readWhere?, (Spells.clause c).tokens?_eq]
  exact readWhereTokens?_conditions c.conditions

/-! ## Truth of a clause -/

theorem either_false (a : Option Bool) : either a (some false) = a := by
  rcases a with - | - | - <;> rfl

theorem both_true (a : Option Bool) : both a (some true) = a := by
  rcases a with - | - | - <;> rfl

theorem either_eq_true_iff {a b : Option Bool} :
    either a b = some true ↔ a = some true ∨ b = some true := by
  rcases a with - | - | - <;> rcases b with - | - | - <;> simp [either]

theorem both_eq_true_iff {a b : Option Bool} :
    both a b = some true ↔ a = some true ∧ b = some true := by
  rcases a with - | - | - <;> rcases b with - | - | - <;> simp [both]

theorem eval_expression (parameters : List Cell) (row : StoredRow) (t : Term) :
    t.expression.eval parameters row = t.eval parameters row := by
  cases t <;> rfl

theorem eval_conditionExpression (parameters : List Cell) (row : StoredRow) (terms : List Term) :
    (conditionExpression terms).eval parameters row = evalCondition parameters row terms := by
  cases terms with
  | nil => rfl
  | cons t terms =>
    rw [conditionExpression]
    induction terms generalizing t with
    | nil => exact (eval_expression _ _ t).trans (either_false _).symm
    | cons u terms ih =>
      rw [List.map_cons, anyOf, Expression.eval, ih u, eval_expression]
      rfl

theorem truth_clauseExpression? (parameters : List Cell) (row : StoredRow)
    (conditions : List (List Term)) :
    truth parameters row (clauseExpression? conditions) =
      (Clause.mk conditions parameters).eval row := by
  cases conditions with
  | nil => rfl
  | cons terms conditions =>
    rw [clauseExpression?, truth]
    induction conditions generalizing terms with
    | nil => exact (eval_conditionExpression _ _ terms).trans (both_true _).symm
    | cons next conditions ih =>
      rw [List.map_cons, allOf, Expression.eval, ih next, eval_conditionExpression]
      rfl

/-- The text of a clause is read as a condition whose truth is that of the clause. -/
theorem Clause.exists_readWhere? (d : Dialect) (c : Clause) :
    ∃ x, readWhere? d (c.text d) = some x ∧ ∀ row, truth c.parameters row x = c.eval row :=
  ⟨_, readWhere?_text d c, fun row => truth_clauseExpression? c.parameters row c.conditions⟩

/-! ## Numbers of parameters -/

/-- The truth of a test. -/
def Test.eval (row : StoredRow) : Test → Option Bool
  | .empty c => some (row c = .null)
  | .compare c how v => how.eval (row c) v

theorem parameter_of_drop {parameters more : List Cell} {next : Nat} {v : Cell}
    (h : parameters.drop (next - 1) = v :: more) : parameter parameters next = v := by
  have hget : parameters[next - 1]? = some v := by
    have := congrArg (fun cs : List Cell => cs[0]?) h
    simpa using this
  simp [parameter, List.getD_eq_getElem?_getD, hget]

theorem drop_succ_of_drop {parameters more : List Cell} {next : Nat} {v : Cell} (hnext : 1 ≤ next)
    (h : parameters.drop (next - 1) = v :: more) : parameters.drop (next + 1 - 1) = more := by
  have := congrArg (List.drop 1) h
  rw [List.drop_drop] at this
  rwa [show next + 1 - 1 = next - 1 + 1 by omega]

/-- A condition is true if one of its tests is, as its parameters are the values of the tests. -/
theorem evalCondition_termsFrom {parameters rest : List Cell} {row : StoredRow} {next : Nat}
    (hnext : 1 ≤ next) {tests : List Test}
    (h : parameters.drop (next - 1) = tests.filterMap Test.value? ++ rest) :
    evalCondition parameters row (termsFrom next tests) = some true ↔
      ∃ t ∈ tests, t.eval row = some true := by
  induction tests generalizing next with
  | nil => simp [termsFrom, evalCondition]
  | cons t tests ih =>
    cases t with
    | empty c =>
      rw [termsFrom, evalCondition, List.foldr_cons, either_eq_true_iff, List.exists_mem_cons_iff]
      exact or_congr Iff.rfl (ih hnext h)
    | compare c how v =>
      have hvalue : parameter parameters next = v := parameter_of_drop h
      rw [termsFrom, evalCondition, List.foldr_cons, either_eq_true_iff, List.exists_mem_cons_iff,
        Term.eval, hvalue]
      exact or_congr Iff.rfl (ih (Nat.le_succ_of_le hnext) (drop_succ_of_drop hnext h))

/-- All conditions are true if each has a test that is. -/
theorem eval_conditionsFrom {parameters rest : List Cell} {row : StoredRow} {next : Nat}
    (hnext : 1 ≤ next) {lists : List (List Test)}
    (h : parameters.drop (next - 1) = lists.flatten.filterMap Test.value? ++ rest) :
    (Clause.mk (conditionsFrom next lists) parameters).eval row = some true ↔
      ∀ tests ∈ lists, ∃ t ∈ tests, t.eval row = some true := by
  induction lists generalizing next with
  | nil => simp [conditionsFrom, Clause.eval]
  | cons tests lists ih =>
    rw [List.flatten_cons, List.filterMap_append, List.append_assoc] at h
    have hmore : parameters.drop (next + (tests.filterMap Test.value?).length - 1) =
        lists.flatten.filterMap Test.value? ++ rest := by
      have := congrArg (List.drop (tests.filterMap Test.value?).length) h
      rw [List.drop_drop, List.drop_left] at this
      rw [← this]
      congr 1
      omega
    rw [conditionsFrom, Clause.eval, List.foldr_cons, both_eq_true_iff, List.forall_mem_cons]
    exact and_congr (evalCondition_termsFrom hnext h) (ih (by omega) hmore)

theorem Clause.eval_ofFilters {filters : List Filter} {row : StoredRow} :
    (Clause.ofFilters filters).eval row = some true ↔
      ∀ f ∈ filters, ∃ t ∈ tests f, t.eval row = some true := by
  have h : (Clause.ofFilters filters).parameters.drop (1 - 1) =
      (filters.map tests).flatten.filterMap Test.value? ++ [] := by
    simp [Clause.ofFilters, List.flatMap_def]
  have hall : (Clause.ofFilters filters).eval row = some true ↔
      ∀ ts ∈ filters.map tests, ∃ t ∈ ts, t.eval row = some true := eval_conditionsFrom le_rfl h
  rwa [List.forall_mem_map] at hall

/-! ## Tests of entries -/

section Entries

variable (e : Entry)

/-- The cells of an entry. -/
def cellsOf : StoredRow := StoredRow.ofRow (Row.ofEntry e)

theorem equals_text_iff {o : Option String} {s : String} :
    (Cell.ofText? o).equals (.text s) = some true ↔ o = some s := by
  cases o <;> simp [Cell.ofText?, Cell.equals, Cell.same]

theorem equals_int_iff {m n : Int} : (Cell.int m).equals (.int n) = some true ↔ m = n := by
  simp [Cell.equals, Cell.same]

theorem less_int_iff {m n : Int} : (Cell.int m).less (.int n) = some true ↔ m < n := by
  simp [Cell.less, Cell.precedes]

/-- The test of a JSON column is true if the candidate equals the value or stands for none. -/
theorem eval_ofJson_iff {column : Column} {o : Option Json} {row : StoredRow}
    (hrow : row column = Cell.ofText? (o.map Json.encode))
    (hpresent : ∀ v, o = some v → v.isNull = false) (v : Json) :
    (Test.ofJson column v).eval row = some true ↔ Filter.sameOrAbsent v o = true := by
  unfold Test.ofJson
  cases hv : v.isNull with
  | true =>
    rw [if_pos rfl, Test.eval, hrow]
    cases o with
    | none => simp [Cell.ofText?, Filter.sameOrAbsent, hv]
    | some w =>
      have hw : (w == v) = false := by
        cases h : w == v with
        | false => rfl
        | true =>
          have := Json.isNull_eq_of_beq h
          rw [hpresent w rfl, hv] at this
          cases this
      simp [Cell.ofText?, Filter.sameOrAbsent, hw]
  | false =>
    rw [if_neg (by simp), Test.eval, hrow, Comparison.eval, equals_text_iff]
    cases o with
    | none => simp [Filter.sameOrAbsent, hv]
    | some w => simp [Filter.sameOrAbsent, Json.encode_eq_iff]

theorem exists_test_iff {α : Type} {xs : List α} {test : α → Test} {p : α → Bool}
    {row : StoredRow} (h : ∀ x, (test x).eval row = some true ↔ p x = true) :
    (∃ t ∈ xs.map test, t.eval row = some true) ↔ xs.any p = true := by
  simp [h]

theorem equals_bytes_iff {i j : EntryId} :
    (Cell.blob i.bytes).equals (.blob j.bytes) = some true ↔ j = i := by
  obtain ⟨a, _⟩ := i
  obtain ⟨b, _⟩ := j
  simp [Cell.equals, Cell.same, eq_comm]

theorem rank_eq_iff {a b : Level} : (a.rank : Int) = b.rank ↔ b = a := by
  cases a <;> cases b <;> simp [Level.rank]

/-- A filter has a test that is true for the row of an entry exactly if it matches the entry. -/
theorem exists_tests_iff (f : Filter) :
    (∃ t ∈ tests f, t.eval (cellsOf e) = some true) ↔ f.matches e = true := by
  cases f with
  | id ids =>
    refine exists_test_iff fun i => ?_
    rw [decide_eq_true_eq]
    exact equals_bytes_iff
  | type types =>
    refine exists_test_iff fun s => ?_
    rw [decide_eq_true_eq]
    exact (equals_text_iff (o := some e.type)).trans (Option.some_inj.trans eq_comm)
  | user values => exact exists_test_iff (eval_ofJson_iff rfl e.user_present)
  | object values => exact exists_test_iff (eval_ofJson_iff rfl e.object_present)
  | contentType cts =>
    have h : ∀ c : ContentType, (Test.compare .contentType .equal (.text c.key)).eval (cellsOf e) =
        some true ↔ (e.contentType.any fun ct => c.key = ct.key) = true := fun c => by
      refine equals_text_iff.trans ?_
      rw [Row.ofEntry]
      cases e.contentType <;> simp [eq_comm]
    refine (exists_test_iff h).trans ?_
    rw [Filter.matches]
    cases e.contentType <;> simp
  | level levels =>
    refine exists_test_iff fun l => ?_
    rw [decide_eq_true_eq]
    exact equals_int_iff.trans rank_eq_iff
  | levelAbove levels =>
    refine exists_test_iff fun l => ?_
    rw [decide_eq_true_eq]
    exact less_int_iff.trans Int.ofNat_lt
  | levelBelow levels =>
    refine exists_test_iff fun l => ?_
    rw [decide_eq_true_eq]
    exact less_int_iff.trans Int.ofNat_lt
  | timestamp instants =>
    refine exists_test_iff fun t => ?_
    rw [decide_eq_true_eq]
    exact equals_int_iff.trans eq_comm
  | timestampBefore instants =>
    refine exists_test_iff fun t => ?_
    rw [decide_eq_true_eq]
    exact less_int_iff
  | timestampAfter instants =>
    refine exists_test_iff fun t => ?_
    rw [decide_eq_true_eq]
    exact less_int_iff
  | data payloads =>
    refine exists_test_iff fun p => ?_
    refine (equals_text_iff (o := some e.data.encode)).trans ?_
    rw [Option.some_inj, eq_comm]
    exact Payload.encode_eq_iff

/-- The clause of filters is true for the row of an entry exactly if all filters match it. -/
theorem Clause.holds_ofFilters (filters : List Filter) :
    (Clause.ofFilters filters).holds (cellsOf e) = Filter.matchesAll filters e := by
  rw [Bool.eq_iff_iff, Clause.holds, decide_eq_true_eq, Clause.eval_ofFilters, Filter.matchesAll,
    List.all_eq_true]
  exact forall₂_congr fun f _ => exists_tests_iff e f

end Entries

/-- The text of the clause of filters, read with its parameters by their numbers, is true for the
row of an entry exactly if all filters match the entry. -/
theorem Clause.readWhere?_ofFilters (d : Dialect) (filters : List Filter) (e : Entry) :
    ∃ x, readWhere? d ((Clause.ofFilters filters).text d) = some x ∧
      (truth (Clause.ofFilters filters).parameters (StoredRow.ofRow (Row.ofEntry e)) x =
        some true ↔ Filter.matchesAll filters e = true) := by
  obtain ⟨x, hread, htruth⟩ := Clause.exists_readWhere? d (Clause.ofFilters filters)
  refine ⟨x, hread, ?_⟩
  rw [htruth, ← Clause.holds_ofFilters e, Clause.holds, decide_eq_true_eq]
  rfl

end AuditTrail.Sql
