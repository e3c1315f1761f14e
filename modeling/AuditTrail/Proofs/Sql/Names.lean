import AuditTrail.Proofs.Sql.Placeholders
import AuditTrail.Proofs.Text.Separated
import AuditTrail.Sql.Database
import Mathlib.Data.List.Nodup

/-!
# Names of tables and indexes

* `createdName`: the name in a statement that creates something; `createdName_schema`: a schema
  creates a table and its two indexes.
* `Dialect.kept`: what a database keeps of a name; PostgreSQL cuts it (`clip`).
* `indexName_take_inj`: names of indexes stay apart if two characters are left of their ends.
* `names_nodup_iff`: when the names of two tables and of their indexes are distinct.
-/

namespace AuditTrail.Sql

open Text

/-! ## What is created, and under which name -/

/-- The name in a statement that creates something: the sixth word. -/
def createdName (statement : String) : String :=
  String.ofList ((splitAll ' ' statement.toList)[5]?.getD [])

/-- The longest front of a text that has at most `n` bytes. -/
def clip : Nat → List Char → List Char
  | _, [] => []
  | n, c :: cs => if c.utf8Size ≤ n then c :: clip (n - c.utf8Size) cs else []

/-- What a database keeps of a name. -/
def Dialect.kept : Dialect → String → List Char
  | .sqlite, name => name.toList
  | .postgres, name => clip 63 name.toList

/-- The ends of the names of indexes. -/
def indexEnds : List (List Char) := ["_occurred_at".toList, "_type".toList]

/-- The name of an index. -/
def indexName (table ending : List Char) : List Char := "idx_".toList ++ table ++ ending

/-- The names of the indexes of a table. -/
def indexNames (table : List Char) : List (List Char) := indexEnds.map (indexName table)

variable {a b : List Char} {n : Nat}

/-! ## Cut names -/

theorem indexEnds_apart {e f : List Char} (he : e ∈ indexEnds) (hf : f ∈ indexEnds) {k : Nat}
    (h : (e.drop k).take 2 = f.take 2) : k = 0 ∧ e = f := by
  have hshort : ∀ e ∈ indexEnds, e.length ≤ 12 := by decide
  have hfew : ∀ k < 12, ∀ e ∈ indexEnds, ∀ f ∈ indexEnds, (e.drop k).take 2 = f.take 2 →
      k = 0 ∧ e = f := by decide
  rcases lt_or_ge k 12 with hk | hk
  · exact hfew k hk e he f hf h
  · rw [List.drop_eq_nil_of_le ((hshort e he).trans hk)] at h
    have hne : ∀ f ∈ indexEnds, [] ≠ f.take 2 := by decide
    exact absurd h (hne f hf)

/-- Names of indexes with two characters of their ends are not the same. -/
theorem indexName_take_inj {e f : List Char} (he : e ∈ indexEnds) (hf : f ∈ indexEnds)
    (ha : a.length + 6 ≤ n) (hb : b.length + 6 ≤ n)
    (h : (indexName a e).take n = (indexName b f).take n) : a = b ∧ e = f := by
  wlog hab : a.length ≤ b.length generalizing a b e f with hsym
  · obtain ⟨rfl, rfl⟩ := hsym hf he hb ha h.symm (Nat.le_of_not_le hab)
    exact ⟨rfl, rfl⟩
  obtain ⟨m, rfl⟩ : ∃ m, n = m + 4 := ⟨n - 4, by omega⟩
  have hbehind : (a ++ e).take m = (b ++ f).take m := by
    simpa [indexName] using h
  -- The end of one name stands in the other where the longer table ends.
  have hends : (e.drop (b.length - a.length)).take 2 = f.take 2 := by
    have hpart := congrArg (fun cs => (cs.drop b.length).take 2) hbehind
    simpa only [List.drop_take, List.take_take, List.drop_append, List.drop_length,
      List.drop_eq_nil_of_le hab, List.nil_append, Nat.sub_self, List.drop_zero,
      Nat.min_eq_left (show 2 ≤ m - b.length by omega)] using hpart
  obtain ⟨hlength, rfl⟩ := indexEnds_apart he hf hends
  refine ⟨?_, rfl⟩
  have hpart := congrArg (List.take a.length) hbehind
  rw [List.take_take, List.take_take, Nat.min_eq_left (by omega), List.take_left,
    show a.length = b.length by omega, List.take_left] at hpart
  exact hpart

theorem length_indexName {e : List Char} : (indexName a e).length = a.length + 4 + e.length := by
  simp only [indexName, List.length_append]
  exact congrArg (· + e.length) (Nat.add_comm _ _)

/-- A name that is short enough is that of an index only if the index was not cut. -/
theorem take_eq_take_indexName_iff {e : List Char} (ha : a.length + 6 ≤ n) :
    a.take n = (indexName b e).take n ↔ a = indexName b e := by
  constructor
  · intro h
    rw [List.take_of_length_le (by omega)] at h
    have hlength := congrArg List.length h
    rw [List.length_take] at hlength
    rwa [List.take_of_length_le (by omega)] at h
  · exact congrArg _

/-- A table and its two indexes: the indexes are the same if only one character of their ends is
left. -/
theorem nodup_own_iff (ha : a.length ≤ n) :
    ((a :: indexNames a).map (List.take n)).Nodup ↔ a.length + 6 ≤ n := by
  constructor
  · intro h
    by_contra hlong
    have hfirst : ∀ e ∈ indexEnds, e = ['_'] ++ e.drop 1 := by decide
    have hsame : ∀ e ∈ indexEnds,
        (indexName a e).take n = ("idx_".toList ++ a ++ ['_']).take n := by
      intro e he
      have hlength : n ≤ ("idx_".toList ++ a ++ ['_']).length := by
        rw [← indexName, length_indexName, List.length_singleton]
        omega
      rw [hfirst e he, indexName, ← List.append_assoc, List.take_append_of_le_length hlength]
    have hapart := (List.nodup_cons.1 (List.nodup_cons.1 h).2).1
    exact hapart (List.mem_singleton.2 ((hsame "_occurred_at".toList (by decide)).trans
      (hsame "_type".toList (by decide)).symm))
  · intro hshort
    rw [List.map_cons, List.nodup_cons, List.mem_map]
    constructor
    · rintro ⟨x, hx, hsame⟩
      obtain ⟨e, he, rfl⟩ := List.mem_map.1 hx
      have hlength := congrArg List.length ((take_eq_take_indexName_iff hshort).1 hsame.symm)
      rw [length_indexName] at hlength
      omega
    · rw [indexNames, List.map_map]
      refine List.Nodup.map_on ?_ (by decide)
      intro e he f hf h
      exact (indexName_take_inj he hf hshort hshort h).2

/-- Two tables and their indexes: only a table that is called like an index of the other has a name
of the other. -/
theorem disjoint_names_iff (ha : a.length + 6 ≤ n) (hb : b.length + 6 ≤ n) (hne : a ≠ b) :
    (∀ x ∈ (a :: indexNames a).map (List.take n), ∀ y ∈ (b :: indexNames b).map (List.take n),
      x ≠ y) ↔ a ∉ indexNames b ∧ b ∉ indexNames a := by
  have hown : ∀ c : List Char, c.take n ∈ (c :: indexNames c).map (List.take n) := fun c =>
    List.mem_map_of_mem List.mem_cons_self
  constructor
  · intro h
    refine ⟨fun hmem => ?_, fun hmem => ?_⟩
    · exact h _ (hown a) _ (List.mem_map_of_mem (List.mem_cons_of_mem b hmem)) rfl
    · exact h _ (List.mem_map_of_mem (List.mem_cons_of_mem a hmem)) _ (hown b) rfl
  · rintro ⟨hab, hba⟩ x hx y hy hsame
    obtain ⟨u, hu, rfl⟩ := List.mem_map.1 hx
    obtain ⟨v, hv, rfl⟩ := List.mem_map.1 hy
    rcases List.mem_cons.1 hu with rfl | hu <;> rcases List.mem_cons.1 hv with rfl | hv
    · rw [List.take_of_length_le (by omega), List.take_of_length_le (by omega)] at hsame
      exact hne hsame
    · obtain ⟨f, hf, rfl⟩ := List.mem_map.1 hv
      exact hab (((take_eq_take_indexName_iff ha).1 hsame).symm ▸ List.mem_map_of_mem hf)
    · obtain ⟨e, he, rfl⟩ := List.mem_map.1 hu
      exact hba (((take_eq_take_indexName_iff hb).1 hsame.symm).symm ▸ List.mem_map_of_mem he)
    · obtain ⟨e, he, rfl⟩ := List.mem_map.1 hu
      obtain ⟨f, hf, rfl⟩ := List.mem_map.1 hv
      exact hne (indexName_take_inj he hf ha hb hsame).1

theorem nodup_take_names_iff (hn : 63 ≤ n) (ha : a.length ≤ 63) (hb : b.length ≤ 63)
    (hne : a ≠ b) :
    ((a :: indexNames a ++ b :: indexNames b).map (List.take n)).Nodup ↔
      (a.length + 6 ≤ n ∧ b.length + 6 ≤ n) ∧ a ∉ indexNames b ∧ b ∉ indexNames a := by
  rw [List.map_append, List.nodup_append, nodup_own_iff (ha.trans hn), nodup_own_iff (hb.trans hn),
    ← and_assoc]
  exact and_congr_right fun h => disjoint_names_iff h.1 h.2 hne

/-! ## Names of schemas -/

/-- The names of a table and of its indexes. -/
def tableNames (table : String) : List String := [table, orderIndex table, typeIndex table]

theorem toList_tableNames (table : String) :
    (tableNames table).map String.toList = table.toList :: indexNames table.toList := by
  simp [tableNames, orderIndex, typeIndex, indexNames, indexEnds, indexName]

theorem toList_of_mem_tableNames {table name : String} (h : name ∈ tableNames table) :
    name.toList = table.toList ∨ ∃ e ∈ indexEnds, name.toList = indexName table.toList e := by
  have hmem : name.toList ∈ table.toList :: indexNames table.toList :=
    toList_tableNames table ▸ List.mem_map_of_mem h
  refine (List.mem_cons.1 hmem).imp_right fun hindex => ?_
  obtain ⟨e, he, heq⟩ := List.mem_map.1 hindex
  exact ⟨e, he, heq.symm⟩

theorem isTableName_of_check {table : String} (h : checkTableName table = .ok ()) :
    isTableName table = true := by
  unfold checkTableName at h
  split at h
  · assumption
  · cases h

theorem length_le_of_isTableName {table : String} (h : isTableName table = true) :
    table.toList.length ≤ 63 := by
  unfold isTableName at h
  split at h
  · cases h
  · next c cs hchars =>
    simp only [Bool.and_eq_true, decide_eq_true_eq] at h
    rw [hchars, List.length_cons]
    exact h.1.2

theorem isNameChar_of_mem_tableNames {table name : String} (h : isTableName table = true)
    (hname : name ∈ tableNames table) : ∀ c ∈ name.toList, isNameChar c = true := by
  have htable := isNameChar_of_isTableName h
  rcases toList_of_mem_tableNames hname with heq | ⟨e, he, heq⟩
  · rwa [heq]
  · have hfront : "idx_".toList.all isNameChar = true := by decide
    have hend : ∀ e ∈ indexEnds, e.all isNameChar = true := by decide
    rw [heq, indexName]
    simp only [List.mem_append]
    rintro c ((hc | hc) | hc)
    · exact List.all_eq_true.1 hfront c hc
    · exact htable c hc
    · exact List.all_eq_true.1 (hend e he) c hc

theorem length_le_of_mem_tableNames {table name : String} (h : isTableName table = true)
    (hname : name ∈ tableNames table) : name.toList.length ≤ 79 := by
  have htable := length_le_of_isTableName h
  rcases toList_of_mem_tableNames hname with heq | ⟨e, he, heq⟩
  · rw [heq]
    omega
  · have hend : ∀ e ∈ indexEnds, e.length ≤ 12 := by decide
    have := hend e he
    rw [heq, length_indexName]
    omega

/-- Five words stand in front of the name that a statement creates. -/
theorem createdName_eq {statement name : String} (words rest : List Char)
    (h : statement.toList = words ++ ' ' :: (name.toList ++ ' ' :: rest))
    (hwords : (splitAll ' ' words).length = 5) (hname : ' ' ∉ name.toList) :
    createdName statement = name := by
  rw [createdName, h, splitAll_append_separator, List.getElem?_append_right hwords.le, hwords,
    splitAll_append hname]
  exact String.ofList_toList

/-- A schema creates a table and its indexes. -/
theorem createdName_schema (d : Dialect) {table : String} (h : isTableName table = true) :
    (d.schema table).map createdName = tableNames table := by
  have hword : ∀ name ∈ tableNames table, ' ' ∉ name.toList := fun name hmem hblank =>
    absurd (isNameChar_of_mem_tableNames h hmem ' ' hblank) (by decide)
  have htable : ∀ rest ending : String,
      createdName ("CREATE TABLE IF NOT EXISTS " ++ table ++ " (" ++ rest ++ ending) = table := by
    intro rest ending
    refine createdName_eq "CREATE TABLE IF NOT EXISTS".toList ("(" ++ rest ++ ending).toList ?_
      (by decide) (hword table List.mem_cons_self)
    simp
  have hindex : ∀ name ∈ tableNames table, ∀ rest ending : String,
      createdName ("CREATE INDEX IF NOT EXISTS " ++ name ++ " ON " ++ rest ++ ending) = name := by
    intro name hmem rest ending
    refine createdName_eq "CREATE INDEX IF NOT EXISTS".toList ("ON " ++ rest ++ ending).toList ?_
      (by decide) (hword name hmem)
    simp
  have horder : orderIndex table ∈ tableNames table := by simp [tableNames]
  have htype : typeIndex table ∈ tableNames table := by simp [tableNames]
  rw [Dialect.schema, List.map_cons, List.map_cons, List.map_singleton, htable, hindex _ horder,
    hindex _ htype, tableNames]

/-! ## Names of two tables -/

/-- As many characters of a name of a table or of an index are kept; without a bound, all of the
longest. -/
def Dialect.room : Dialect → Nat
  | .sqlite => 79
  | .postgres => 63

theorem clip_eq_take {cs : List Char} (h : ∀ c ∈ cs, c.utf8Size = 1) (n : Nat) :
    clip n cs = cs.take n := by
  induction cs generalizing n with
  | nil => rw [clip, List.take_nil]
  | cons c cs ih =>
    obtain ⟨hc, hcs⟩ := List.forall_mem_cons.1 h
    cases n with
    | zero => rw [clip, hc, List.take_zero]; rfl
    | succ n => rw [clip, hc, if_pos (Nat.le_add_left _ _), Nat.add_sub_cancel, ih hcs]; rfl

theorem utf8Size_of_isNameChar {c : Char} (h : isNameChar c = true) : c.utf8Size = 1 := by
  have hle : c.val ≤ 127 := by
    rcases Bool.or_eq_true_iff.1 h with halphanum | hunderscore
    · rcases Bool.or_eq_true_iff.1 halphanum with halpha | hdigit
      · rcases Bool.or_eq_true_iff.1 halpha with hupper | hlower
        · exact UInt32.le_trans (of_decide_eq_true hupper).2 (by decide)
        · exact UInt32.le_trans (of_decide_eq_true (Bool.and_eq_true_iff.1 hlower).2) (by decide)
      · exact UInt32.le_trans (of_decide_eq_true (Bool.and_eq_true_iff.1 hdigit).2) (by decide)
    · rw [of_decide_eq_true hunderscore]
      decide
  exact Char.utf8Size_eq_one_iff.2 hle

theorem kept_eq_take (d : Dialect) {table name : String} (h : isTableName table = true)
    (hname : name ∈ tableNames table) : d.kept name = name.toList.take d.room := by
  cases d with
  | postgres =>
    exact clip_eq_take
      (fun c hc => utf8Size_of_isNameChar (isNameChar_of_mem_tableNames h hname c hc)) 63
  | sqlite =>
    exact (List.take_of_length_le (length_le_of_mem_tableNames h hname)).symm

/-- A schema creates a table and its two indexes, and the names of two schemas are distinct exactly
if neither table is called like an index of the other and, where names are cut, six characters are
left of both. Names are compared as texts here; to both databases, those that differ in case only
are one name (`sameName`). -/
theorem names_nodup_iff (d : Dialect) {a b : String} (ha : checkTableName a = .ok ())
    (hb : checkTableName b = .ok ()) (hne : a ≠ b) :
    (d.schema a).map createdName = [a, orderIndex a, typeIndex a] ∧
      ((((d.schema a ++ d.schema b).map createdName).map d.kept).Nodup ↔
        (d = .postgres → a.length ≤ 57 ∧ b.length ≤ 57) ∧
          (a ≠ orderIndex b ∧ a ≠ typeIndex b) ∧ b ≠ orderIndex a ∧ b ≠ typeIndex a) := by
  have ha := isTableName_of_check ha
  have hb := isTableName_of_check hb
  have hkept : ∀ {table : String}, isTableName table = true →
      ((d.schema table).map createdName).map d.kept =
        (table.toList :: indexNames table.toList).map (List.take d.room) := by
    intro table h
    rw [createdName_schema d h, ← toList_tableNames, List.map_map]
    exact List.map_congr_left fun name hname => kept_eq_take d h hname
  have hindex : ∀ {x y : String}, x.toList ∉ indexNames y.toList ↔
      x ≠ orderIndex y ∧ x ≠ typeIndex y := by
    intro x y
    have hnames : indexNames y.toList = [orderIndex y, typeIndex y].map String.toList :=
      (List.cons.inj (toList_tableNames y)).2.symm
    rw [hnames]
    simp [String.toList_inj]
  have hroom : (a.toList.length + 6 ≤ d.room ∧ b.toList.length + 6 ≤ d.room) ↔
      (d = .postgres → a.length ≤ 57 ∧ b.length ≤ 57) := by
    have hla := length_le_of_isTableName ha
    have hlb := length_le_of_isTableName hb
    simp only [String.length_toList] at hla hlb ⊢
    cases d with
    | sqlite =>
      simp only [Dialect.room, reduceCtorEq, false_implies, iff_true]
      omega
    | postgres =>
      simp only [Dialect.room, true_implies]
      omega
  refine ⟨createdName_schema d ha, ?_⟩
  rw [List.map_append, List.map_append, hkept ha, hkept hb, ← List.map_append,
    nodup_take_names_iff (by cases d <;> decide) (length_le_of_isTableName ha)
      (length_le_of_isTableName hb) fun h => hne (String.toList_inj.1 h),
    hroom, hindex, hindex]

/-- A table that is called like an index of another, and one whose name is so long that its own
indexes become the same. -/
theorem names_nodup_iff_clashing :
    checkTableName "t" = .ok () ∧ checkTableName "idx_t_type" = .ok () ∧
      ¬ (((Dialect.sqlite.schema "t" ++ Dialect.sqlite.schema "idx_t_type").map createdName).map
        Dialect.sqlite.kept).Nodup ∧
      checkTableName "a_name_of_the_fifty_eight_letters_that_is_still_admissible" = .ok () ∧
      ¬ (((Dialect.postgres.schema "t" ++ Dialect.postgres.schema
        "a_name_of_the_fifty_eight_letters_that_is_still_admissible").map createdName).map
          Dialect.postgres.kept).Nodup := by
  refine ⟨rfl, rfl, fun h => ?_, rfl, fun h => ?_⟩
  · exact ((names_nodup_iff .sqlite rfl rfl (by decide)).2.1 h).2.2.2 rfl
  · exact absurd (((names_nodup_iff .postgres rfl rfl (by decide)).2.1 h).1 rfl).2 (by decide)

/-- In one database the table of that name is refused. -/
example : ((Database.empty.create "t").2.create "idx_t_type").1 =
    .error (Database.refused "there is already an index named idx_t_type") := by
  decide +kernel

end AuditTrail.Sql
