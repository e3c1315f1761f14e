import AuditTrail.Proofs.Text.Numeral
import AuditTrail.Sql.Database

/-!
# Conditions as texts

The part of the language of conditions that clauses are written in, read from its characters.

* `Token`, `tokens?`: the words, numbers, parameters and signs of a text. Characters of words that
  stand side by side belong together; blanks only separate.
* `Expression`: comparisons and tests for nothing, joined by `OR` and `AND`.
* `Expression.eval`: the truth of an expression for a row, with parameters by their numbers.
* `readWhere?`: the expression of a text behind `WHERE`. `AND` binds more tightly than `OR`, and
  brackets bind more tightly than both. Without any text there is no condition.
* `Spells d cs ts`: the characters are those of the tokens, whatever stands behind them.
-/

namespace AuditTrail.Sql

open Text

/-! ## Tokens -/

/-- A word with a meaning of its own. -/
inductive Keyword
  | where
  | or
  | and
  | is
  | null
  deriving DecidableEq, Repr

namespace Keyword

/-- All keywords. -/
def all : List Keyword := [.where, .or, .and, .is, .null]

/-- The text of a keyword. -/
def chars : Keyword → List Char
  | .where => ['W', 'H', 'E', 'R', 'E']
  | .or => ['O', 'R']
  | .and => ['A', 'N', 'D']
  | .is => ['I', 'S']
  | .null => ['N', 'U', 'L', 'L']

end Keyword

/-- A word, a number, a parameter or a sign. -/
inductive Token
  | keyword (k : Keyword)
  | column (c : Column)
  | number (n : Nat)
  | parameter (n : Nat)
  | sign (how : Comparison)
  | opening
  | closing
  deriving DecidableEq, Repr

/-- A character of a word, a number or a parameter. -/
def isWordChar (c : Char) : Bool := isNameChar c || c = '?' || c = '$'

/-- The runs of word characters, and each other character by itself. -/
def chunks : List Char → List (List Char)
  | [] => []
  | c :: cs =>
    match chunks cs with
    | (d :: run) :: more =>
      if isWordChar c && isWordChar d then (c :: d :: run) :: more else [c] :: (d :: run) :: more
    | more => [c] :: more

/-- The token of a keyword or of the name of a column. -/
def nameToken? (cs : List Char) : Option Token :=
  match Keyword.all.find? fun k => k.chars = cs with
  | some k => some (.keyword k)
  | none => (Column.ofName? (String.ofList cs)).map .column

/-- The token of a chunk. -/
def token? (d : Dialect) : List Char → Option Token
  | [] => none
  | ['('] => some .opening
  | [')'] => some .closing
  | ['='] => some (.sign .equal)
  | ['<'] => some (.sign .less)
  | ['>'] => some (.sign .greater)
  | c :: cs =>
    if d.mark.toList = [c] then
      if cs ≠ [] ∧ cs.all Char.isDigit then some (.parameter (ofDigits cs)) else none
    else if (c :: cs).all Char.isDigit then some (.number (ofDigits (c :: cs)))
    else nameToken? (c :: cs)

/-- The tokens of a text; none if a chunk is no token. -/
def tokens? (d : Dialect) (cs : List Char) : Option (List Token) :=
  ((chunks cs).filter fun chunk => chunk ≠ [' ']).mapM (token? d)

/-! ## Expressions -/

/-- What is compared. -/
inductive Operand
  | column (c : Column)
  | parameter (n : Nat)
  | number (n : Nat)
  deriving DecidableEq, Repr

/-- A condition. -/
inductive Expression
  | compare (how : Comparison) (a b : Operand)
  | isNull (a : Operand)
  | either (a b : Expression)
  | both (a b : Expression)
  deriving DecidableEq, Repr

/-- The value of an operand. -/
def Operand.value (parameters : List Cell) (row : StoredRow) : Operand → Cell
  | .column c => row c
  | .parameter n => Sql.parameter parameters n
  | .number n => .int n

/-- The truth of an expression; it is unknown where it depends on an empty cell. -/
def Expression.eval (parameters : List Cell) (row : StoredRow) : Expression → Option Bool
  | .compare how a b => how.eval (a.value parameters row) (b.value parameters row)
  | .isNull a => some (a.value parameters row = .null)
  | .either a b => Sql.either (a.eval parameters row) (b.eval parameters row)
  | .both a b => Sql.both (a.eval parameters row) (b.eval parameters row)

/-! ## Reading -/

/-- The operand in front. -/
def readOperand : List Token → Option (Operand × List Token)
  | .column c :: rest => some (.column c, rest)
  | .parameter n :: rest => some (.parameter n, rest)
  | .number n :: rest => some (.number n, rest)
  | _ => none

/-- The comparison or the test in front. -/
def readTest (ts : List Token) : Option (Expression × List Token) := do
  let (a, rest) ← readOperand ts
  match rest with
  | .keyword .is :: .keyword .null :: rest => return (.isNull a, rest)
  | .sign how :: rest =>
    let (b, rest) ← readOperand rest
    return (.compare how a b, rest)
  | _ => none

mutual

/-- Conditions joined by `OR`. Each step uses up one unit of fuel. -/
def readOr : Nat → List Token → Option (Expression × List Token)
  | 0, _ => none
  | fuel + 1, ts => do
    let (a, rest) ← readAnd fuel ts
    match rest with
    | .keyword .or :: rest =>
      let (b, rest) ← readOr fuel rest
      return (.either a b, rest)
    | rest => return (a, rest)

/-- Conditions joined by `AND`. -/
def readAnd : Nat → List Token → Option (Expression × List Token)
  | 0, _ => none
  | fuel + 1, ts => do
    let (a, rest) ← readFactor fuel ts
    match rest with
    | .keyword .and :: rest =>
      let (b, rest) ← readAnd fuel rest
      return (.both a b, rest)
    | rest => return (a, rest)

/-- A condition in brackets, or a test. -/
def readFactor : Nat → List Token → Option (Expression × List Token)
  | 0, _ => none
  | fuel + 1, ts =>
    match ts with
    | .opening :: ts => do
      let (x, rest) ← readOr fuel ts
      match rest with
      | .closing :: rest => return (x, rest)
      | _ => none
    | ts => readTest ts

end

/-- The condition behind `WHERE`; without any token there is none. -/
def readWhereTokens? : List Token → Option (Option Expression)
  | [] => some none
  | .keyword .where :: ts => do
    let (x, rest) ← readOr (4 * ts.length + 4) ts
    if rest = [] then return some x else none
  | _ => none

/-- The condition of a text. -/
def readWhere? (d : Dialect) (s : String) : Option (Option Expression) := do
  readWhereTokens? (← tokens? d s.toList)

/-- The truth of what may be no condition at all, which is true then. -/
def truth (parameters : List Cell) (row : StoredRow) : Option Expression → Option Bool
  | none => some true
  | some x => x.eval parameters row

/-! ## Tokens of texts that are put together -/

theorem chunks_cons {c : Char} (h : isWordChar c = false) (cs : List Char) :
    chunks (c :: cs) = [c] :: chunks cs := by
  rw [chunks]
  split
  · next heq => rw [heq, h]; simp
  · rfl

theorem chunks_append {w : List Char} (hne : w ≠ []) (hw : ∀ c ∈ w, isWordChar c = true)
    {rest : List Char} (hrest : StopsAt isWordChar rest) :
    chunks (w ++ rest) = w :: chunks rest := by
  induction w with
  | nil => exact absurd rfl hne
  | cons c w ih =>
    cases w with
    | nil =>
      cases rest with
      | nil => rfl
      | cons d rest =>
        have hd := stopsAt_cons.1 hrest
        rw [List.singleton_append, chunks, chunks_cons hd]
        simp [hd]
    | cons d w =>
      have hc := hw c (by simp)
      have hd := hw d (by simp)
      rw [List.cons_append, chunks, ih (by simp) fun x hx => hw x (List.mem_cons_of_mem _ hx)]
      simp [hc, hd]

/-- The characters are those of the tokens, in front of whatever stops a word. -/
def Spells (d : Dialect) (cs : List Char) (ts : List Token) : Prop :=
  ∀ rest more, StopsAt isWordChar rest → tokens? d rest = some more →
    tokens? d (cs ++ rest) = some (ts ++ more)

namespace Spells

variable {d : Dialect} {cs more : List Char} {ts us : List Token}

theorem nil : Spells d [] [] := fun _ _ _ h => h

theorem append (h : Spells d cs ts) (hmore : Spells d more us) {c : Char} {tail : List Char}
    (hc : more = c :: tail) (hstop : isWordChar c = false) :
    Spells d (cs ++ more) (ts ++ us) := by
  intro rest after hrest hafter
  have hnext := hmore rest after hrest hafter
  subst hc
  rw [List.append_assoc, List.append_assoc]
  exact h _ _ (stopsAt_cons.2 hstop) hnext

theorem word {w : List Char} {t : Token} (hne : w ≠ []) (hall : w.all isWordChar = true)
    (ht : token? d w = some t) : Spells d w [t] := by
  intro rest more hrest hmore
  have hw : ∀ c ∈ w, isWordChar c = true := List.all_eq_true.1 hall
  have hspace : w ≠ [' '] := by
    rintro rfl
    exact absurd (hw ' ' (by simp)) (by decide)
  unfold tokens? at *
  rw [chunks_append hne hw hrest, List.filter_cons_of_pos (by simpa using hspace), List.mapM_cons,
    ht, hmore]
  rfl

/-- A mark stands by itself, so that a word may follow at once. -/
theorem mark {c : Char} {t : Token} (hc : isWordChar c = false) (hspace : c ≠ ' ')
    (ht : token? d [c] = some t) (h : Spells d cs ts) : Spells d (c :: cs) (t :: ts) := by
  intro rest more hrest hmore
  have hnext := h rest more hrest hmore
  unfold tokens? at *
  rw [List.cons_append, chunks_cons hc, List.filter_cons_of_pos (by simpa using hspace),
    List.mapM_cons, ht, hnext]
  rfl

theorem space (h : Spells d cs ts) : Spells d (' ' :: cs) ts := by
  intro rest more hrest hmore
  have hnext := h rest more hrest hmore
  unfold tokens? at *
  rw [List.cons_append, chunks_cons (by decide), List.filter_cons_of_neg (by simp), hnext]

/-- The tokens of a text that is spelt to its end. -/
theorem tokens?_eq (h : Spells d cs ts) : tokens? d cs = some ts := by
  have := h [] [] (stopsAt_nil _) rfl
  simpa using this

theorem keyword (k : Keyword) : Spells d k.chars [.keyword k] := by
  cases d <;> cases k <;> exact word (by decide) (by decide) (by decide)

theorem column (c : Column) : Spells d c.name.toList [.column c] := by
  cases d <;> cases c <;> exact word (by decide) (by decide) (by decide)

theorem parameter (n : Nat) : Spells d (d.placeholder n).toList [.parameter n] := by
  have hdigits : ∀ c ∈ decimalChars n, c.isDigit = true := fun _ => isDigit_of_mem_decimalChars
  have hword : ∀ c ∈ decimalChars n, isWordChar c = true := fun c hc => by
    simp [isWordChar, isNameChar, Char.isAlphanum, hdigits c hc]
  have hall : (decimalChars n).all Char.isDigit = true := List.all_eq_true.2 hdigits
  obtain ⟨c, hmark, hc, htoken⟩ : ∃ c, d.mark.toList = [c] ∧ isWordChar c = true ∧
      ∀ cs, token? d (c :: cs) =
        if cs ≠ [] ∧ cs.all Char.isDigit then some (.parameter (ofDigits cs)) else none := by
    cases d
    · exact ⟨'?', rfl, rfl, fun cs => by simp [token?, Dialect.mark]⟩
    · exact ⟨'$', rfl, rfl, fun cs => by simp [token?, Dialect.mark]⟩
  have hchars : (d.placeholder n).toList = c :: decimalChars n := by
    simp [Dialect.placeholder, decimal, hmark]
  rw [hchars]
  refine word (by simp) (List.all_eq_true.2 fun x hx => ?_) ?_
  · rcases List.mem_cons.1 hx with rfl | hx
    · exact hc
    · exact hword x hx
  · rw [htoken, if_pos ⟨decimalChars_ne_nil n, hall⟩, ofDigits_decimalChars]

end Spells

end AuditTrail.Sql
