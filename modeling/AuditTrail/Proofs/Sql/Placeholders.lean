import AuditTrail.Log.Table
import AuditTrail.Proofs.Sql.Query
import AuditTrail.Proofs.Text.Numeral

/-!
# Parameters and their placeholders

* `placeholders`: the numerals behind the marks of a text, from left to right. `Marks m cs ns`: the
  marks of the characters are those of the numbers, whatever stands behind them.
* `Filter.SameShape`: filters of one predicate with as many candidates, and with nulls at the same
  places. `Clause.conditions_ofFilters_congr`: their clauses have the same conditions.
* `encodings`: the values of a filter, as they are bound.
* `Clause.Apart`: values are not part of a text, and the placeholders of a text are numbered in the
  order of the values; a page has two more, for its size and its offset.
  `Clause.placeholders_ofFilters`: so it is for all filters.
-/

namespace AuditTrail

namespace Filter

/-- The candidates that are null, where `null` stands for an absent value. -/
def nulls : Filter → List Bool
  | .user values => values.map Json.isNull
  | .object values => values.map Json.isNull
  | _ => []

/-- The same predicate with as many candidates, and with nulls at the same places. -/
structure SameShape (f g : Filter) : Prop where
  name : f.name = g.name
  size : f.size = g.size
  nulls : f.nulls = g.nulls

end Filter

namespace Sql

open Text

/-! ## Marks in a text -/

/-- The mark of a parameter as a character. -/
def Dialect.markChar : Dialect → Char
  | .sqlite => '?'
  | .postgres => '$'

/-- The numerals behind each mark, from left to right. -/
def numerals (m : Char) : List Char → List String
  | [] => []
  | c :: cs =>
    if c = m then String.ofList (cs.takeWhile Char.isDigit) :: numerals m cs else numerals m cs

/-- The numerals of the placeholders of a text, from left to right. -/
def placeholders (d : Dialect) (s : String) : List String := numerals d.markChar s.toList

/-- The marks of the characters are those of the numbers, in front of whatever is no digit. -/
def Marks (m : Char) (cs : List Char) (ns : List Nat) : Prop :=
  ∀ rest, StopsAt Char.isDigit rest → numerals m (cs ++ rest) = ns.map decimal ++ numerals m rest

theorem numerals_append {m : Char} {cs : List Char} (h : m ∉ cs) (rest : List Char) :
    numerals m (cs ++ rest) = numerals m rest := by
  induction cs with
  | nil => rfl
  | cons c cs ih =>
    rw [List.mem_cons, not_or] at h
    rw [List.cons_append, numerals, if_neg (Ne.symm h.1), ih h.2]

namespace Marks

variable {m : Char} {cs more : List Char} {ns ks : List Nat}

theorem plain (h : m ∉ cs) : Marks m cs [] := by
  intro rest _
  rw [numerals_append h]
  rfl

/-- A text without marks may stand in front, even if digits follow at once. -/
theorem behind (h : m ∉ cs) (hmore : Marks m more ns) : Marks m (cs ++ more) ns := by
  intro rest hrest
  rw [List.append_assoc, numerals_append h, hmore rest hrest]

theorem append (h : Marks m cs ns) (hmore : Marks m more ks) {c : Char} {tail : List Char}
    (hc : more = c :: tail) (hstop : c.isDigit = false) : Marks m (cs ++ more) (ns ++ ks) := by
  intro rest hrest
  have hnext := hmore rest hrest
  subst hc
  rw [List.append_assoc, h (c :: tail ++ rest) (stopsAt_cons.2 hstop), hnext, List.map_append,
    List.append_assoc]

theorem placeholder (d : Dialect) (n : Nat) :
    Marks d.markChar (d.placeholder n).toList [n] := by
  intro rest hrest
  have hdigits : ∀ c ∈ decimalChars n, c.isDigit = true := fun _ => isDigit_of_mem_decimalChars
  have hmark : d.markChar ∉ decimalChars n := by
    intro hmem
    have := hdigits _ hmem
    cases d <;> exact absurd this (by decide)
  have hchars : (d.placeholder n).toList = d.markChar :: decimalChars n := by
    cases d <;> simp [Dialect.placeholder, Dialect.mark, Dialect.markChar, decimal]
  rw [hchars, List.cons_append, numerals, if_pos rfl, takeWhile_append_stop hdigits hrest,
    numerals_append hmark]
  rfl

theorem placeholders_eq {d : Dialect} {s : String} (h : Marks d.markChar s.toList ns) :
    placeholders d s = ns.map decimal := by
  have := h [] (stopsAt_nil _)
  simpa [numerals, placeholders] using this

end Marks

/-! ## Marks of a clause -/

section Texts

variable (d : Dialect)

theorem marks_joinWith {α : Type} (sep : String) {text : α → String} {numbers : α → List Nat}
    (hsep : d.markChar ∉ sep.toList) (hspace : ∃ tail, sep.toList = ' ' :: tail) :
    ∀ {items : List α}, (∀ i ∈ items, Marks d.markChar (text i).toList (numbers i)) →
      Marks d.markChar (Text.joinWith sep (items.map text)).toList (items.flatMap numbers)
  | [], _ => .plain (by simp [Text.joinWith])
  | [i], h => by simpa [Text.joinWith] using h i (by simp)
  | i :: j :: items, h => by
    obtain ⟨tail, htail⟩ := hspace
    have hmore := marks_joinWith sep hsep ⟨tail, htail⟩ fun x hx => h x (List.mem_cons_of_mem i hx)
    have hjoined := (h i (by simp)).append (hmore.behind hsep)
      (by rw [htail, List.cons_append]) (by decide)
    simpa [Text.joinWith] using hjoined

theorem marks_term (t : Term) : Marks d.markChar (t.text d).toList t.numbers := by
  have hname : ∀ c : Column, d.markChar ∉ c.name.toList := by
    intro c
    cases d <;> cases c <;> decide
  cases t with
  | empty c =>
    have hnull : d.markChar ∉ " IS NULL".toList := by cases d <;> decide
    apply Marks.plain
    rw [Term.text, String.toList_append, List.mem_append, not_or]
    exact ⟨hname c, hnull⟩
  | compare c how n =>
    have hsign : d.markChar ∉ (" " ++ how.sign ++ " ").toList := by
      cases d <;> cases how <;> decide
    have htext := ((Marks.placeholder d n).behind hsign).behind (hname c)
    simpa [Term.text, Term.numbers, String.append_assoc] using htext

theorem marks_condition (terms : List Term) :
    Marks d.markChar (conditionText d terms).toList (terms.flatMap Term.numbers) := by
  unfold conditionText
  split
  · next h =>
    subst h
    exact .plain (by cases d <;> decide)
  · have hterms := marks_joinWith d " OR " (by cases d <;> decide) ⟨_, rfl⟩
      fun t (_ : t ∈ terms) => marks_term d t
    have hclose : Marks d.markChar [')'] [] := .plain (by cases d <;> decide)
    have hopen : d.markChar ∉ ['('] := by cases d <;> decide
    simpa using (hterms.append hclose rfl (by decide)).behind hopen

theorem marks_clause (c : Clause) :
    Marks d.markChar (c.text d).toList (numbersOf c.conditions) := by
  unfold Clause.text
  split
  · next h =>
    rw [h]
    exact .plain (by simp)
  · have hall := marks_joinWith d " AND " (by cases d <;> decide) ⟨_, rfl⟩
      fun terms (_ : terms ∈ c.conditions) => marks_condition d terms
    have hwhere : d.markChar ∉ " WHERE ".toList := by cases d <;> decide
    simpa [numbersOf] using hall.behind hwhere

end Texts

/-! ## The other dialect -/

/-- The character with the mark of the other dialect in the place of that of the first. -/
def otherMark (c : Char) : Char :=
  if c = Dialect.sqlite.markChar then Dialect.postgres.markChar else c

theorem map_otherMark {cs : List Char} (h : Dialect.sqlite.markChar ∉ cs) :
    cs.map otherMark = cs := by
  have hsame : ∀ c ∈ cs, otherMark c = id c := by
    intro c hc
    apply if_neg
    rintro rfl
    exact h hc
  rw [List.map_congr_left hsame, List.map_id]

/-- The second text is the first with other marks. -/
def Remarked (s t : String) : Prop := t.toList = s.toList.map otherMark

namespace Remarked

variable {s t s' t' : String}

theorem plain (h : Dialect.sqlite.markChar ∉ s.toList) : Remarked s s := (map_otherMark h).symm

theorem append (h : Remarked s t) (h' : Remarked s' t') : Remarked (s ++ s') (t ++ t') := by
  unfold Remarked at *
  rw [String.toList_append, String.toList_append, List.map_append, h, h']

theorem joinWith {α : Type} {sep : String} {f g : α → String} (hsep : Remarked sep sep) :
    ∀ {items : List α}, (∀ i ∈ items, Remarked (f i) (g i)) →
      Remarked (Text.joinWith sep (items.map f)) (Text.joinWith sep (items.map g))
  | [], _ => rfl
  | [i], h => h i (by simp)
  | i :: j :: items, h =>
    ((h i (by simp)).append hsep).append
      (joinWith hsep fun x hx => h x (List.mem_cons_of_mem i hx))

theorem placeholder (n : Nat) :
    Remarked (Dialect.sqlite.placeholder n) (Dialect.postgres.placeholder n) := by
  have hdigits : (decimalChars n).map otherMark = decimalChars n := by
    apply map_otherMark
    intro hmem
    exact absurd (isDigit_of_mem_decimalChars hmem) (by decide)
  have hmark : otherMark '?' = '$' := rfl
  simp [Remarked, Dialect.placeholder, Dialect.mark, decimal, hdigits, hmark]

theorem term (t : Term) : Remarked (t.text .sqlite) (t.text .postgres) := by
  have hname : ∀ c : Column, Remarked c.name c.name := by
    intro c
    apply plain
    cases c <;> decide
  cases t with
  | empty c => exact (hname c).append (plain (s := " IS NULL") (by decide))
  | compare c how n =>
    have hsign : Remarked how.sign how.sign := plain (by cases how <;> decide)
    have hspace : Remarked " " " " := plain (by decide)
    exact ((((hname c).append hspace).append hsign).append hspace).append (placeholder n)

theorem condition (terms : List Term) :
    Remarked (conditionText .sqlite terms) (conditionText .postgres terms) := by
  unfold conditionText
  split
  · exact plain (by decide)
  · have hterms := joinWith (plain (s := " OR ") (by decide)) fun t (_ : t ∈ terms) => term t
    exact ((plain (s := "(") (by decide)).append hterms).append (plain (s := ")") (by decide))

theorem clause (c : Clause) : Remarked (c.text .sqlite) (c.text .postgres) := by
  unfold Clause.text
  split
  · rfl
  · have hall := joinWith (plain (s := " AND ") (by decide))
      fun terms (_ : terms ∈ c.conditions) => condition terms
    exact (plain (s := " WHERE ") (by decide)).append hall

end Remarked

/-! ## Values and shapes of filters -/

/-- The values of a filter as they are bound, in the order of its candidates. Where a column is to
be empty there is none. -/
def encodings : Filter → List Cell
  | .id ids => ids.map fun i => .blob i.bytes
  | .type types => types.map .text
  | .user values => (values.filter fun v => !v.isNull).map fun v => .text v.encode
  | .object values => (values.filter fun v => !v.isNull).map fun v => .text v.encode
  | .contentType cts => cts.map fun ct => .text ct.key
  | .level levels => levels.map fun l => .int l.rank
  | .levelAbove levels => levels.map fun l => .int l.rank
  | .levelBelow levels => levels.map fun l => .int l.rank
  | .timestamp instants => instants.map fun t => .int t.micros
  | .timestampBefore instants => instants.map fun t => .int t.micros
  | .timestampAfter instants => instants.map fun t => .int t.micros
  | .data payloads => payloads.map fun p => .text p.encode

theorem values_ofJson (column : Column) (values : List Json) :
    (values.map (Test.ofJson column)).filterMap Test.value? =
      (values.filter fun v => !v.isNull).map fun v => .text v.encode := by
  induction values with
  | nil => rfl
  | cons v values ih =>
    cases hv : v.isNull with
    | true =>
      have htest : (Test.ofJson column v).value? = none := by simp [Test.ofJson, hv, Test.value?]
      rw [List.map_cons, List.filterMap_cons_none htest, List.filter_cons_of_neg (by simp [hv]), ih]
    | false =>
      have htest : (Test.ofJson column v).value? = some (.text v.encode) := by
        simp [Test.ofJson, hv, Test.value?]
      rw [List.map_cons, List.filterMap_cons_some htest, List.filter_cons_of_pos (by simp [hv]),
        List.map_cons, ih]

theorem values_tests (f : Filter) : (tests f).filterMap Test.value? = encodings f := by
  have hcompare {α : Type} (xs : List α) (column : Column) (how : Comparison) (cell : α → Cell) :
      (xs.map fun x => Test.compare column how (cell x)).filterMap Test.value? = xs.map cell := by
    rw [List.filterMap_map]
    exact congrFun List.filterMap_eq_map xs
  cases f with
  | user values => exact values_ofJson .userId values
  | object values => exact values_ofJson .objectId values
  | _ => exact hcompare _ _ _ _

theorem parameters_ofFilters (fs : List Filter) :
    (Clause.ofFilters fs).parameters = fs.flatMap encodings := by
  rw [Clause.ofFilters, List.flatMap_def, List.flatMap_def, List.filterMap_flatten, List.map_map]
  exact congrArg List.flatten (List.map_congr_left fun f _ => values_tests f)

/-- The test without its value. -/
def Test.blank : Test → Test
  | .empty c => .empty c
  | .compare c how _ => .compare c how .null

theorem termsFrom_blank (next : Nat) (tests : List Test) :
    termsFrom next (tests.map Test.blank) = termsFrom next tests := by
  induction tests generalizing next with
  | nil => rfl
  | cons t tests ih =>
    cases t with
    | empty c => exact congrArg (Term.empty c :: ·) (ih next)
    | compare c how v => exact congrArg (Term.compare c how next :: ·) (ih (next + 1))

theorem length_values_blank (tests : List Test) :
    ((tests.map Test.blank).filterMap Test.value?).length =
      (tests.filterMap Test.value?).length := by
  induction tests with
  | nil => rfl
  | cons t tests ih =>
    cases t with
    | empty c => exact ih
    | compare c how v => exact congrArg (· + 1) ih

/-- Conditions are made of tests without their values. -/
theorem conditionsFrom_blank (next : Nat) (lists : List (List Test)) :
    conditionsFrom next (lists.map (List.map Test.blank)) = conditionsFrom next lists := by
  induction lists generalizing next with
  | nil => rfl
  | cons tests lists ih =>
    rw [List.map_cons, conditionsFrom, conditionsFrom, termsFrom_blank, length_values_blank, ih]

/-- The column that a predicate looks at, and how. -/
def lookedAt : FilterName → Column × Comparison
  | .id => (.id, .equal)
  | .type => (.type, .equal)
  | .user => (.userId, .equal)
  | .object => (.objectId, .equal)
  | .contentType => (.contentType, .equal)
  | .level => (.level, .equal)
  | .levelAbove => (.level, .greater)
  | .levelBelow => (.level, .less)
  | .timestamp => (.occurredAt, .equal)
  | .timestampBefore => (.occurredAt, .less)
  | .timestampAfter => (.occurredAt, .greater)
  | .data => (.data, .equal)

/-- The tests of a shape, without values. -/
def outline (name : FilterName) (size : Nat) (nulls : List Bool) : List Test :=
  let (column, how) := lookedAt name
  if name = .user ∨ name = .object then
    nulls.map fun null => if null then .empty column else .compare column how .null
  else List.replicate size (.compare column how .null)

theorem blank_ofJson (column : Column) (v : Json) :
    (Test.ofJson column v).blank =
      if v.isNull then .empty column else .compare column .equal .null := by
  unfold Test.ofJson
  split <;> rfl

theorem blank_tests (f : Filter) : (tests f).map Test.blank = outline f.name f.size f.nulls := by
  have hcompare {α : Type} (xs : List α) (column : Column) (how : Comparison) (cell : α → Cell) :
      (xs.map fun x => Test.compare column how (cell x)).map Test.blank =
        List.replicate xs.length (.compare column how .null) := by
    rw [List.map_map]
    exact List.map_const'
  have hjson (column : Column) (values : List Json) :
      (values.map (Test.ofJson column)).map Test.blank =
        (values.map Json.isNull).map fun null =>
          if null then .empty column else .compare column .equal .null := by
    rw [List.map_map, List.map_map]
    exact List.map_congr_left fun v _ => blank_ofJson column v
  cases f with
  | user values => exact hjson .userId values
  | object values => exact hjson .objectId values
  | _ => exact hcompare _ _ _ _

/-- Filters of the same shapes have the same conditions. -/
theorem Clause.conditions_ofFilters_congr {fs gs : List Filter}
    (h : List.Forall₂ Filter.SameShape fs gs) :
    (Clause.ofFilters gs).conditions = (Clause.ofFilters fs).conditions := by
  have hblank : (gs.map tests).map (List.map Test.blank) =
      (fs.map tests).map (List.map Test.blank) := by
    induction h with
    | nil => rfl
    | cons hfg _ ih =>
      rw [List.map_cons, List.map_cons, List.map_cons, List.map_cons, ih, blank_tests, blank_tests,
        hfg.name, hfg.size, hfg.nulls]
  rw [Clause.ofFilters, Clause.ofFilters, ← conditionsFrom_blank, hblank, conditionsFrom_blank]

/-! ## Statements on a table -/

theorem isNameChar_of_isTableName {table : String} (h : isTableName table = true) :
    ∀ c ∈ table.toList, isNameChar c = true := by
  intro x hmem
  unfold isTableName at h
  split at h
  · cases h
  · next c cs hchars =>
    simp only [Bool.and_eq_true, List.all_eq_true] at h
    obtain ⟨⟨hfirst, -⟩, hall⟩ := h
    rw [hchars] at hmem
    rcases List.mem_cons.1 hmem with heq | hmem
    · rw [heq]
      simp only [isNameChar, Char.isAlphanum, Bool.or_eq_true] at hfirst ⊢
      exact hfirst.imp_left .inl
    · exact hall _ hmem

theorem markChar_not_mem_of_isTableName (d : Dialect) {table : String}
    (h : isTableName table = true) : d.markChar ∉ table.toList := by
  intro hmem
  have hmark : isNameChar d.markChar = false := by cases d <;> decide
  have hname := isNameChar_of_isTableName h d.markChar hmem
  rw [hmark] at hname
  cases hname

/-- Behind the placeholders of the clause a page has two more. -/
theorem marks_page (d : Dialect) {table : String} (h : isTableName table = true) (c : Clause)
    (amount offset : Nat) :
    Marks d.markChar ((Query.page c amount offset).text d table).toList
      (numbersOf c.conditions ++ [c.nextNumber, c.nextNumber + 1]) := by
  have htable := markChar_not_mem_of_isTableName d h
  have hfront : d.markChar ∉ ("SELECT " ++ columnList ++ " FROM " ++ table).toList := by
    have hcolumns : d.markChar ∉ ("SELECT " ++ columnList ++ " FROM ").toList := by
      cases d <;> decide
    rw [String.toList_append, List.mem_append, not_or]
    exact ⟨hcolumns, htable⟩
  have hoffset : d.markChar ∉ " OFFSET ".toList := by cases d <;> decide
  have hlimit : d.markChar ∉ (" " ++ orderText ++ " LIMIT ").toList := by cases d <;> decide
  have hlast := (Marks.placeholder d (c.nextNumber + 1)).behind hoffset
  have hpage := ((Marks.placeholder d c.nextNumber).append hlast rfl (by decide)).behind hlimit
  have hall := ((marks_clause d c).append hpage rfl (by decide)).behind hfront
  have htext : ((Query.page c amount offset).text d table).toList =
      ("SELECT " ++ columnList ++ " FROM " ++ table).toList ++ ((c.text d).toList ++
        ((" " ++ orderText ++ " LIMIT ").toList ++ ((d.placeholder c.nextNumber).toList ++
          (" OFFSET ".toList ++ (d.placeholder (c.nextNumber + 1)).toList)))) := by
    unfold Query.text
    simp only [String.toList_append, List.append_assoc]
  rw [htext]
  exact hall

/-- The statement of a page depends on the text of its clause and on the next number only. -/
theorem Query.text_page_congr {d : Dialect} {c c' : Clause} (htext : c.text d = c'.text d)
    (hnext : c.nextNumber = c'.nextNumber) (table : String) (amount offset amount' offset' : Nat) :
    (page c amount offset).text d table = (page c' amount' offset').text d table := by
  unfold Query.text
  simp only [htext, hnext]

/-- The greatest page size, and the greatest offset, is the greatest integer of 64 bits. -/
theorem pageNumber_eq (n : Nat) : pageNumber n = min n (2 ^ 63 - 1) := rfl

/-- Values stand apart from the statements of filters: what is bound to their placeholders, and what
the placeholders are. -/
structure Clause.Apart (fs : List Filter) : Prop where
  /-- Filters of the same shapes have one clause, and one statement for all pages. -/
  text : ∀ gs, List.Forall₂ Filter.SameShape fs gs → ∀ d,
    (ofFilters gs).text d = (ofFilters fs).text d
  page_text : ∀ gs, List.Forall₂ Filter.SameShape fs gs → ∀ d table amount offset amount' offset',
    (TableLog.pageQuery gs amount' offset').text d table =
      (TableLog.pageQuery fs amount offset).text d table
  count_text : ∀ gs, List.Forall₂ Filter.SameShape fs gs → ∀ d table,
    (TableLog.countQuery gs).text d table = (TableLog.countQuery fs).text d table
  /-- The texts of both dialects differ in their marks only. -/
  dialects : Remarked ((ofFilters fs).text .sqlite) ((ofFilters fs).text .postgres)
  /-- The placeholders are numbered from one on, in the order of the values. -/
  numbers : ∀ d, placeholders d ((ofFilters fs).text d) =
    (List.range' 1 (ofFilters fs).parameters.length).map decimal
  values : (ofFilters fs).parameters = fs.flatMap encodings
  nextNumber : (ofFilters fs).nextNumber = (ofFilters fs).parameters.length + 1
  /-- Behind them a page has two more, for its size and its offset. -/
  page_numbers : ∀ d table amount offset, isTableName table = true →
    placeholders d ((TableLog.pageQuery fs amount offset).text d table) =
      (List.range' 1 ((ofFilters fs).parameters.length + 2)).map decimal
  page_end : ∀ d table amount offset, ∃ front, (TableLog.pageQuery fs amount offset).text d table =
    front ++ " LIMIT " ++ d.placeholder ((ofFilters fs).parameters.length + 1) ++
      " OFFSET " ++ d.placeholder ((ofFilters fs).parameters.length + 2)
  page_values : ∀ amount offset, (TableLog.pageQuery fs amount offset).parameters =
    fs.flatMap encodings ++
      [.int (min amount (2 ^ 63 - 1) : Nat), .int (min offset (2 ^ 63 - 1) : Nat)]
  page_rows : ∀ amount offset t, (TableLog.pageQuery fs amount offset).rows t =
    Log.page (min amount (2 ^ 63 - 1)) (min offset (2 ^ 63 - 1))
      (Database.selected t (ofFilters fs))
  count_values : (TableLog.countQuery fs).parameters = fs.flatMap encodings

/-- Values are not part of a text, and placeholders are numbered in the order of the values. -/
theorem Clause.placeholders_ofFilters (fs : List Filter) : Apart fs := by
  have hnumbers := numbersOf_ofFilters fs
  have htext : ∀ gs, List.Forall₂ Filter.SameShape fs gs → ∀ d,
      (ofFilters gs).text d = (ofFilters fs).text d := by
    intro gs h d
    rw [Clause.text, Clause.text, Clause.conditions_ofFilters_congr h]
  have hnext : ∀ gs, List.Forall₂ Filter.SameShape fs gs →
      (ofFilters gs).nextNumber = (ofFilters fs).nextNumber := by
    intro gs h
    have := congrArg (fun conditions => (numbersOf conditions).length)
      (Clause.conditions_ofFilters_congr h)
    simpa [numbersOf_ofFilters, Clause.nextNumber] using this
  refine ⟨htext, ?_, ?_, .clause _, ?_, parameters_ofFilters fs, rfl, ?_, ?_, ?_, ?_,
    parameters_ofFilters fs⟩
  · intro gs h d table amount offset amount' offset'
    exact Query.text_page_congr (htext gs h d) (hnext gs h) table amount' offset' amount offset
  · intro gs h d table
    exact congrArg (("SELECT COUNT(*) FROM " ++ table) ++ ·) (htext gs h d)
  · intro d
    have hmarks := marks_clause d (ofFilters fs)
    rw [hnumbers] at hmarks
    exact hmarks.placeholders_eq
  · intro d table amount offset htable
    have hmarks := marks_page d htable (ofFilters fs) amount offset
    have hrange : List.range' 1 ((ofFilters fs).parameters.length + 2) =
        List.range' 1 (ofFilters fs).parameters.length ++
          [(ofFilters fs).nextNumber, (ofFilters fs).nextNumber + 1] := by
      rw [← List.range'_append_1, Clause.nextNumber, Nat.add_comm 1]
      rfl
    rw [hnumbers, ← hrange] at hmarks
    exact hmarks.placeholders_eq
  · intro d table amount offset
    exact ⟨"SELECT " ++ columnList ++ " FROM " ++ table ++ (ofFilters fs).text d ++ " " ++
      orderText, rfl⟩
  · intro amount offset
    rw [← parameters_ofFilters, ← pageNumber_eq, ← pageNumber_eq]
    rfl
  · intro amount offset t
    exact Query.rows_page t fs amount offset

/-- Text that looks like a condition stays a value. -/
theorem Clause.placeholders_ofFilters_quoted :
    (ofFilters [.type ["note' OR 1 = 1 --"], .user [.null, .string "?9"]]).text .sqlite =
      (ofFilters [.type ["note"], .user [.null, .string "u"]]).text .sqlite ∧
    placeholders .sqlite ((TableLog.pageQuery [.type ["note"], .user [.null, .string "u"]]
      20 (2 ^ 64 - 1)).text .sqlite "log") = ["1", "2", "3", "4"] ∧
    (TableLog.pageQuery [.type ["note"], .user [.null, .string "u"]] 20 (2 ^ 64 - 1)).parameters =
      [.text "note", .text "\"u\"", .int 20, .int 9223372036854775807] := by
  have hapart := Clause.placeholders_ofFilters [.type ["note"], .user [.null, .string "u"]]
  have hshape : List.Forall₂ Filter.SameShape
      [.type ["note"], .user [.null, .string "u"]]
      [.type ["note' OR 1 = 1 --"], .user [.null, .string "?9"]] :=
    .cons ⟨rfl, rfl, rfl⟩ (.cons ⟨rfl, rfl, rfl⟩ .nil)
  refine ⟨hapart.text _ hshape .sqlite, hapart.page_numbers .sqlite "log" _ _ (by decide), ?_⟩
  rw [hapart.page_values]
  decide +kernel

end Sql

end AuditTrail
