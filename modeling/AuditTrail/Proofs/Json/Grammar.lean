import AuditTrail.Proofs.Json.Number
import Mathlib.Data.List.TakeWhile

/-!
# The grammar of JSON texts

* `NumberForm.SpeltBy`, `Piece.SpeltBy`, `Form.SpeltBy`: the characters spell a number, a piece of a
  string, a form. These are the productions of the grammar, read along the form: no needless zero
  stands in front of a number, no comma behind the last item, and control characters stand in no
  string.
* `Spaced`: spaces may stand around what is spelt.
* `Form.ofChars?_eq_some_iff`: the reader finds a form exactly if the text spells it.

The reader is followed along the form in one direction and along its fuel in the other. Behind a
form stands something that cannot continue a number, and two units of fuel for each character
suffice.
-/

namespace AuditTrail

open Text

/-! ## Numbers -/

namespace NumberForm

/-- A fraction is a point and digits. -/
def FractionSpeltBy : Option (List Char) → List Char → Prop
  | none, cs => cs = []
  | some ds, cs => cs = '.' :: ds

/-- An exponent starts with a letter in either case, and only a negative one needs its sign. -/
def ExponentSpeltBy : Option (Bool × List Char) → List Char → Prop
  | none, cs => cs = []
  | some (negative, ds), cs => ∃ e sign, (e = 'e' ∨ e = 'E') ∧
      (sign = ['-'] ∧ negative = true ∨ (sign = ['+'] ∨ sign = []) ∧ negative = false) ∧
        cs = e :: (sign ++ ds)

/-- The characters spell the number. -/
def SpeltBy (f : NumberForm) (cs : List Char) : Prop :=
  f.WellSpelt ∧ ∃ fraction exponent, FractionSpeltBy f.fraction fraction ∧
    ExponentSpeltBy f.exponent exponent ∧
    cs = (if f.negative then ['-'] else []) ++ (f.whole ++ (fraction ++ exponent))

theorem speltBy_chars {f : NumberForm} (h : f.WellSpelt) : f.SpeltBy f.chars := by
  refine ⟨h, f.fractionChars, f.exponentChars, ?_, ?_, f.chars_eq⟩
  · unfold fractionChars
    cases f.fraction <;> rfl
  · unfold exponentChars
    rcases f.exponent with - | ⟨negative, ds⟩
    · rfl
    · cases negative
      · exact ⟨'e', ['+'], .inl rfl, .inr ⟨.inl rfl, rfl⟩, rfl⟩
      · exact ⟨'e', ['-'], .inl rfl, .inl ⟨rfl, rfl⟩, rfl⟩

/-! ### What is spelt is read -/

/-- A number starts with a sign or a digit. -/
theorem head_of_speltBy {f : NumberForm} {cs : List Char} (h : f.SpeltBy cs) :
    ∃ c tail, cs = c :: tail ∧ (c = '-' ∨ c.isDigit = true) := by
  obtain ⟨hf, fraction, exponent, -, -, rfl⟩ := h
  obtain ⟨c, tail, hwhole⟩ := List.exists_cons_of_ne_nil hf.whole.1
  cases f.negative
  · exact ⟨c, tail ++ (fraction ++ exponent), by simp [hwhole],
      .inr (hf.whole.2 c (by simp [hwhole]))⟩
  · exact ⟨'-', _, rfl, .inl rfl⟩

theorem readExponent_of_speltBy {exponent : Option (Bool × List Char)} {cs rest : List Char}
    (hdigits : ∀ negative ds, exponent = some (negative, ds) → AreDigits ds)
    (h : ExponentSpeltBy exponent cs) (hrest : StopsAt continues rest) :
    Json.readExponent (cs ++ rest) = some (exponent, rest) := by
  rcases exponent with - | ⟨negative, ds⟩
  · obtain rfl : cs = [] := h
    cases rest with
    | nil => rfl
    | cons c cs =>
      have hc := stopsAt_cons.1 hrest
      simp only [continues, Bool.or_eq_false_iff, decide_eq_false_iff_not] at hc
      simp [Json.readExponent, hc]
  · obtain ⟨e, sign, he, hsign, rfl⟩ := h
    obtain ⟨hne, hd⟩ := hdigits _ _ rfl
    have hstop := stopsAt_isDigit hrest
    have hsigned : Json.readSign (sign ++ (ds ++ rest)) = (negative, ds ++ rest) := by
      obtain ⟨c, ds', rfl⟩ := List.exists_cons_of_ne_nil hne
      have hc := hd c List.mem_cons_self
      rcases hsign with ⟨rfl, rfl⟩ | ⟨rfl | rfl, rfl⟩
      · rfl
      · rfl
      · have hminus : c ≠ '-' := ne_of_isDigit hc (by decide)
        have hplus : c ≠ '+' := ne_of_isDigit hc (by decide)
        rw [List.nil_append, List.cons_append, Json.readSign.eq_def]
        split
        · next heq => exact absurd (List.cons.inj heq).1 hminus
        · next heq => exact absurd (List.cons.inj heq).1 hplus
        · rfl
    rw [List.cons_append, List.append_assoc, Json.readExponent, if_pos he, hsigned]
    simp [takeWhile_append_stop hd hstop, dropWhile_append_stop hd hstop, hne]

theorem readFraction_of_speltBy {fraction : Option (List Char)} {cs rest : List Char}
    (hdigits : ∀ ds, fraction = some ds → AreDigits ds) (h : FractionSpeltBy fraction cs)
    (hrest : StopsAt (fun c => c.isDigit || c = '.') rest) :
    Json.readFraction (cs ++ rest) = some (fraction, rest) := by
  obtain - | ds := fraction
  · obtain rfl : cs = [] := h
    rw [List.nil_append, Json.readFraction.eq_def]
    split
    · next cs => exact absurd (stopsAt_cons.1 hrest) (by simp)
    · rfl
  · obtain rfl : cs = '.' :: ds := h
    obtain ⟨hne, hd⟩ := hdigits _ rfl
    have hstop : StopsAt Char.isDigit rest := fun c hc => by
      have := hrest c hc
      simp_all
    simp [Json.readFraction, takeWhile_append_stop hd hstop, dropWhile_append_stop hd hstop, hne]

theorem stopsAt_fraction {fraction : Option (List Char)} {cs rest : List Char}
    (h : FractionSpeltBy fraction cs) (hrest : StopsAt (fun c => c.isDigit || c = '.') rest) :
    StopsAt Char.isDigit (cs ++ rest) := by
  obtain - | ds := fraction
  · obtain rfl : cs = [] := h
    intro c hc
    have := hrest c hc
    simp_all
  · obtain rfl : cs = '.' :: ds := h
    simp [stopsAt_cons]

theorem stopsAt_exponent {exponent : Option (Bool × List Char)} {cs rest : List Char}
    (h : ExponentSpeltBy exponent cs) (hrest : StopsAt continues rest) :
    StopsAt (fun c => c.isDigit || c = '.') (cs ++ rest) := by
  rcases exponent with - | ⟨negative, ds⟩
  · obtain rfl : cs = [] := h
    intro c hc
    have := hrest c hc
    simp_all [continues]
  · obtain ⟨e, sign, rfl | rfl, -, rfl⟩ := h <;> simp [stopsAt_cons]

theorem readUnsigned_of_speltBy {f : NumberForm} (h : f.WellSpelt)
    {fraction exponent rest : List Char} (hfraction : FractionSpeltBy f.fraction fraction)
    (hexponent : ExponentSpeltBy f.exponent exponent) (hrest : StopsAt continues rest) :
    Json.readUnsigned f.negative (f.whole ++ (fraction ++ (exponent ++ rest))) =
      some (f, rest) := by
  have hbehind := stopsAt_exponent hexponent hrest
  have hstop := stopsAt_fraction hfraction hbehind
  have hzero : ¬ (f.whole = [] ∨ f.whole.head? = some '0' ∧ f.whole.length ≠ 1) := by
    rintro (hnil | ⟨hhead, hlen⟩)
    · exact h.whole.1 hnil
    · exact hlen (h.no_zero hhead)
  unfold Json.readUnsigned
  simp only [takeWhile_append_stop h.whole.2 hstop, dropWhile_append_stop h.whole.2 hstop,
    if_neg hzero, readFraction_of_speltBy h.fraction hfraction hbehind,
    readExponent_of_speltBy h.exponent hexponent hrest, Option.bind_eq_bind, Option.bind_some]
  rfl

/-- What spells a number is read in front of what cannot continue it. -/
theorem readNumber_of_speltBy {f : NumberForm} {cs rest : List Char} (h : f.SpeltBy cs)
    (hrest : StopsAt continues rest) : Json.readNumber (cs ++ rest) = some (f, rest) := by
  obtain ⟨hf, fraction, exponent, hfraction, hexponent, rfl⟩ := h
  have hread := readUnsigned_of_speltBy hf hfraction hexponent hrest
  simp only [List.append_assoc]
  cases hn : f.negative with
  | true =>
    rw [hn] at hread
    simpa [Json.readNumber] using hread
  | false =>
    rw [hn] at hread
    obtain ⟨c, cs, hcs⟩ := List.exists_cons_of_ne_nil hf.whole.1
    have hc : c ≠ '-' := ne_of_isDigit (hf.whole.2 c (by simp [hcs])) (by decide)
    rw [hcs] at hread ⊢
    simp only [Bool.false_eq_true, if_false, List.nil_append, List.cons_append] at hread ⊢
    unfold Json.readNumber
    split
    · next heq => exact absurd (List.cons.inj heq).1 hc
    · exact hread

/-! ### What is read is spelt -/

theorem areDigits_takeWhile {cs : List Char} (h : cs.takeWhile Char.isDigit ≠ []) :
    AreDigits (cs.takeWhile Char.isDigit) :=
  ⟨h, fun _ => List.mem_takeWhile_imp⟩

/-- The sign in front, and the rest behind it. -/
theorem exists_sign (cs : List Char) : ∃ sign, cs = sign ++ (Json.readSign cs).2 ∧
    (sign = ['-'] ∧ (Json.readSign cs).1 = true ∨
      (sign = ['+'] ∨ sign = []) ∧ (Json.readSign cs).1 = false) := by
  unfold Json.readSign
  split
  · exact ⟨['-'], rfl, .inl ⟨rfl, rfl⟩⟩
  · exact ⟨['+'], rfl, .inr ⟨.inl rfl, rfl⟩⟩
  · exact ⟨[], rfl, .inr ⟨.inr rfl, rfl⟩⟩

theorem speltBy_of_readExponent {cs rest : List Char} {exponent : Option (Bool × List Char)}
    (h : Json.readExponent cs = some (exponent, rest)) :
    (∀ negative ds, exponent = some (negative, ds) → AreDigits ds) ∧
      ∃ front, ExponentSpeltBy exponent front ∧ cs = front ++ rest := by
  unfold Json.readExponent at h
  split at h
  · next e cs =>
    split at h
    · next he =>
      obtain ⟨sign, hcs, hsign⟩ := exists_sign cs
      simp only at h
      split at h
      · cases h
      · next hne =>
        obtain ⟨rfl, rfl⟩ := Prod.mk.inj (Option.some.inj h)
        refine ⟨?_, e :: (sign ++ (Json.readSign cs).2.takeWhile Char.isDigit),
          ⟨e, sign, he, hsign, rfl⟩, ?_⟩
        · rintro _ _ ⟨⟩
          exact areDigits_takeWhile hne
        · rw [List.cons_append, List.append_assoc, List.takeWhile_append_dropWhile, ← hcs]
    · obtain ⟨rfl, rfl⟩ := Prod.mk.inj (Option.some.inj h)
      exact ⟨nofun, [], rfl, rfl⟩
  · obtain ⟨rfl, rfl⟩ := Prod.mk.inj (Option.some.inj h)
    exact ⟨nofun, [], rfl, rfl⟩

theorem speltBy_of_readFraction {cs rest : List Char} {fraction : Option (List Char)}
    (h : Json.readFraction cs = some (fraction, rest)) :
    (∀ ds, fraction = some ds → AreDigits ds) ∧
      ∃ front, FractionSpeltBy fraction front ∧ cs = front ++ rest := by
  unfold Json.readFraction at h
  split at h
  · next cs =>
    simp only at h
    split at h
    · cases h
    · next hne =>
      obtain ⟨rfl, rfl⟩ := Prod.mk.inj (Option.some.inj h)
      refine ⟨?_, _, rfl, by rw [List.cons_append, List.takeWhile_append_dropWhile]⟩
      rintro _ ⟨⟩
      exact areDigits_takeWhile hne
  · obtain ⟨rfl, rfl⟩ := Prod.mk.inj (Option.some.inj h)
    exact ⟨nofun, [], rfl, rfl⟩

theorem speltBy_of_readUnsigned {negative : Bool} {f : NumberForm} {cs rest : List Char}
    (h : Json.readUnsigned negative cs = some (f, rest)) :
    ∃ front, f.SpeltBy front ∧ (if negative then ['-'] else []) ++ cs = front ++ rest := by
  unfold Json.readUnsigned at h
  simp only [Option.bind_eq_bind] at h
  split at h
  · cases h
  · next hwhole =>
    obtain ⟨⟨fraction, cs₁⟩, hfraction, h⟩ := Option.bind_eq_some_iff.1 h
    obtain ⟨⟨exponent, cs₂⟩, hexponent, h⟩ := Option.bind_eq_some_iff.1 h
    obtain ⟨rfl, rfl⟩ := Prod.mk.inj (Option.some.inj h)
    obtain ⟨hfd, middle, hmiddle, hcs₁⟩ := speltBy_of_readFraction hfraction
    obtain ⟨hed, back, hback, hcs₂⟩ := speltBy_of_readExponent hexponent
    rw [not_or, not_and, not_not] at hwhole
    refine ⟨_, ⟨⟨areDigits_takeWhile hwhole.1, hwhole.2, hfd, hed⟩, middle, back, hmiddle, hback,
      rfl⟩, ?_⟩
    have hcs : cs = cs.takeWhile Char.isDigit ++ (middle ++ (back ++ cs₂)) := by
      rw [← hcs₂, ← hcs₁, List.takeWhile_append_dropWhile]
    conv_lhs => rw [hcs]
    simp only [List.append_assoc]

/-- What is read as a number spells it. -/
theorem speltBy_of_readNumber {f : NumberForm} {cs rest : List Char}
    (h : Json.readNumber cs = some (f, rest)) : ∃ front, f.SpeltBy front ∧ cs = front ++ rest := by
  unfold Json.readNumber at h
  split at h
  · exact speltBy_of_readUnsigned h
  · exact speltBy_of_readUnsigned h

end NumberForm

namespace Json

open NumberForm

/-! ## Strings -/

/-- The characters spell the piece: a unit in four digits, a character by itself or by an escape. -/
def Piece.SpeltBy : Piece → List Char → Prop
  | .unit n, cs => ∃ a b c d, hexUnit? a b c d = some n ∧ cs = ['\\', 'u', a, b, c, d]
  | .char c, cs =>
    (0x20 ≤ c.toNat ∧ c ≠ '"' ∧ c ≠ '\\') ∧ cs = [c] ∨
      ∃ e, unescape? e = some c ∧ cs = ['\\', e]

/-- The characters spell the pieces, one behind the other. -/
def PiecesSpeltBy : List Piece → List Char → Prop
  | [], cs => cs = []
  | p :: pieces, cs =>
    ∃ front back, p.SpeltBy front ∧ PiecesSpeltBy pieces back ∧ cs = front ++ back

/-- The characters spell a string between quotes. -/
def QuotedBy (pieces : List Piece) (cs : List Char) : Prop :=
  ∃ body, PiecesSpeltBy pieces body ∧ cs = '"' :: (body ++ ['"'])

theorem readPieces_append {p : Piece} {front : List Char} (h : p.SpeltBy front) (cs : List Char) :
    readPieces (front ++ cs) = (readPieces cs).map fun q => (p :: q.1, q.2) := by
  cases p with
  | unit n =>
    obtain ⟨a, b, c, d, hn, rfl⟩ := h
    simp only [List.cons_append, List.nil_append]
    rw [readPieces, hn]
    cases readPieces cs <;> rfl
  | char c =>
    obtain ⟨⟨hlow, hquote, hslash⟩, rfl⟩ | ⟨e, he, rfl⟩ := h
    · have hplain : ¬ (c.toNat < 0x20 ∨ c = '\\') := by
        rintro (hlt | heq)
        · omega
        · exact hslash heq
      rw [List.singleton_append, readPieces, if_neg hplain]
      · cases readPieces cs <;> rfl
      · exact hquote
      · exact fun _ _ _ _ _ heq => absurd heq hslash
      · exact fun _ _ heq => absurd heq hslash
    · have hu : e ≠ 'u' := by
        rintro rfl
        cases he
      simp only [List.cons_append, List.nil_append]
      rw [readPieces, he]
      · cases readPieces cs <;> rfl
      · exact fun _ _ _ _ _ heq => absurd heq hu

/-- What spells the pieces of a string is read up to the closing quote. -/
theorem readPieces_of_speltBy {pieces : List Piece} {body : List Char}
    (h : PiecesSpeltBy pieces body) (rest : List Char) :
    readPieces (body ++ '"' :: rest) = some (pieces, rest) := by
  induction pieces generalizing body with
  | nil =>
    obtain rfl : body = [] := h
    rfl
  | cons p pieces ih =>
    obtain ⟨front, back, hp, hback, rfl⟩ := h
    rw [List.append_assoc, readPieces_append hp, ih hback]
    rfl

theorem exists_body_cons {p : Piece} {pieces : List Piece} {front cs rest : List Char}
    (hp : p.SpeltBy front) (h : ∃ body, PiecesSpeltBy pieces body ∧ cs = body ++ '"' :: rest) :
    ∃ body, PiecesSpeltBy (p :: pieces) body ∧ front ++ cs = body ++ '"' :: rest := by
  obtain ⟨body, hbody, rfl⟩ := h
  exact ⟨front ++ body, ⟨front, body, hp, hbody, rfl⟩, by rw [List.append_assoc]⟩

/-- What is read up to the closing quote spells the pieces. -/
theorem speltBy_of_readPieces {cs : List Char} {pieces : List Piece} {rest : List Char}
    (h : readPieces cs = some (pieces, rest)) :
    ∃ body, PiecesSpeltBy pieces body ∧ cs = body ++ '"' :: rest := by
  fun_induction readPieces cs generalizing pieces rest with
  | case1 => cases h
  | case2 cs =>
    obtain ⟨rfl, rfl⟩ := Prod.mk.inj (Option.some.inj h)
    exact ⟨[], rfl, rfl⟩
  | case3 a b c d cs ih =>
    obtain ⟨n, hn, h⟩ := Option.bind_eq_some_iff.1 h
    obtain ⟨⟨pieces, rest⟩, hcs, h⟩ := Option.bind_eq_some_iff.1 h
    obtain ⟨rfl, rfl⟩ := Prod.mk.inj (Option.some.inj h)
    exact exists_body_cons (p := .unit n) ⟨a, b, c, d, hn, rfl⟩ (ih hcs)
  | case4 e cs hu ih =>
    obtain ⟨c, hc, h⟩ := Option.bind_eq_some_iff.1 h
    obtain ⟨⟨pieces, rest⟩, hcs, h⟩ := Option.bind_eq_some_iff.1 h
    obtain ⟨rfl, rfl⟩ := Prod.mk.inj (Option.some.inj h)
    exact exists_body_cons (p := .char c) (.inr ⟨e, hc, rfl⟩) (ih hcs)
  | case5 => cases h
  | case6 c cs hquote _ _ hplain ih =>
    obtain ⟨⟨pieces, rest⟩, hcs, h⟩ := Option.bind_eq_some_iff.1 h
    obtain ⟨rfl, rfl⟩ := Prod.mk.inj (Option.some.inj h)
    rw [not_or, Nat.not_lt] at hplain
    exact exists_body_cons (p := .char c) (.inl ⟨⟨hplain.1, hquote, hplain.2⟩, rfl⟩) (ih hcs)

/-! ## Spaces -/

/-- Spaces only. -/
def AreSpaces (cs : List Char) : Prop := ∀ c ∈ cs, isSpace c = true

/-- What is spelt, with spaces around it. -/
def Spaced (spelt : List Char → Prop) (cs : List Char) : Prop :=
  ∃ a body b, AreSpaces a ∧ spelt body ∧ AreSpaces b ∧ cs = a ++ (body ++ b)

theorem areSpaces_nil : AreSpaces [] := List.forall_mem_nil _

theorem spaced_self {spelt : List Char → Prop} {cs : List Char} (h : spelt cs) :
    Spaced spelt cs :=
  ⟨[], cs, [], areSpaces_nil, h, areSpaces_nil, by simp⟩

theorem exists_spaces (cs : List Char) : ∃ a, AreSpaces a ∧ cs = a ++ skipSpace cs :=
  ⟨cs.takeWhile isSpace, fun _ => List.mem_takeWhile_imp,
    List.takeWhile_append_dropWhile.symm⟩

theorem skipSpace_append {a : List Char} (h : AreSpaces a) (cs : List Char) :
    skipSpace (a ++ cs) = skipSpace cs :=
  List.dropWhile_append_of_pos h

theorem skipSpace_of_stopsAt {cs : List Char} (h : StopsAt isSpace cs) : skipSpace cs = cs :=
  dropWhile_append_stop (List.forall_mem_nil _) h

theorem stopsAt_skipSpace (cs : List Char) : StopsAt isSpace (skipSpace cs) := by
  intro c hc
  have hhead := List.head?_dropWhile_not isSpace cs
  rw [skipSpace] at hc
  rwa [hc] at hhead

theorem skipSpace_skipSpace (cs : List Char) : skipSpace (skipSpace cs) = skipSpace cs :=
  skipSpace_of_stopsAt (stopsAt_skipSpace cs)

/-- What is spelt reaches up to the next token. -/
theorem exists_spaced {spelt : List Char → Prop} {a cs rest : List Char} (body : List Char)
    (ha : AreSpaces a) (hbody : spelt body) (hcs : cs = a ++ (body ++ rest)) :
    ∃ front, Spaced spelt front ∧ cs = front ++ skipSpace rest := by
  obtain ⟨b, hb, hrest⟩ := exists_spaces rest
  refine ⟨a ++ (body ++ b), ⟨a, body, b, ha, hbody, hb, rfl⟩, ?_⟩
  rw [hcs, List.append_assoc, List.append_assoc, ← hrest]

namespace Form

mutual

/-- The characters spell the form. -/
def SpeltBy : Form → List Char → Prop
  | .null, cs => cs = ['n', 'u', 'l', 'l']
  | .bool true, cs => cs = ['t', 'r', 'u', 'e']
  | .bool false, cs => cs = ['f', 'a', 'l', 's', 'e']
  | .number n, cs => n.SpeltBy cs
  | .string pieces, cs => QuotedBy pieces cs
  | .array items, cs => ∃ body, (items = [] ∧ AreSpaces body ∨ ItemsSpeltBy items body) ∧
      cs = '[' :: (body ++ [']'])
  | .object members, cs => ∃ body, (members = [] ∧ AreSpaces body ∨ MembersSpeltBy members body) ∧
      cs = '\x7b' :: (body ++ ['\x7d'])

/-- The characters spell the items, at least one, with commas between them. -/
def ItemsSpeltBy : List Form → List Char → Prop
  | [], _ => False
  | item :: items, cs => ∃ front, Spaced (SpeltBy item) front ∧
      (items = [] ∧ cs = front ∨ ∃ more, ItemsSpeltBy items more ∧ cs = front ++ ',' :: more)

/-- The characters spell the members, at least one, with commas between them. -/
def MembersSpeltBy : List (List Piece × Form) → List Char → Prop
  | [], _ => False
  | (key, value) :: members, cs => ∃ name front, Spaced (QuotedBy key) name ∧
      Spaced (SpeltBy value) front ∧
      (members = [] ∧ cs = name ++ ':' :: front ∨
        ∃ more, MembersSpeltBy members more ∧ cs = name ++ ':' :: (front ++ ',' :: more))

end

/-! ## Steps of the reader -/

theorem read_skipSpace (fuel : Nat) (cs : List Char) : read fuel (skipSpace cs) = read fuel cs := by
  cases fuel with
  | zero => rfl
  | succ fuel => rw [read, read, skipSpace_skipSpace]

theorem readItems_skipSpace (fuel : Nat) (cs : List Char) :
    readItems fuel (skipSpace cs) = readItems fuel cs := by
  cases fuel with
  | zero => rfl
  | succ fuel => rw [readItems, readItems, read_skipSpace]

theorem readMembers_skipSpace (fuel : Nat) (cs : List Char) :
    readMembers fuel (skipSpace cs) = readMembers fuel cs := by
  cases fuel with
  | zero => rfl
  | succ fuel => rw [readMembers, readMembers, skipSpace_skipSpace]

/-! ## What is read is spelt -/

mutual

/-- What is read spells the form, up to the next token. -/
theorem spaced_of_read : ∀ {fuel : Nat} {cs : List Char} {f : Form} {rest : List Char},
    read fuel cs = some (f, rest) → ∃ front, Spaced f.SpeltBy front ∧ cs = front ++ skipSpace rest
  | 0, _, _, _, h => by cases h
  | fuel + 1, cs, f, rest, h => by
    obtain ⟨a, ha, hcs⟩ := exists_spaces cs
    rw [read] at h
    split at h
    · next heq =>
      obtain ⟨rfl, rfl⟩ := Prod.mk.inj (Option.some.inj h)
      exact exists_spaced ['n', 'u', 'l', 'l'] ha rfl
        (hcs.trans (congrArg (a ++ ·) heq))
    · next heq =>
      obtain ⟨rfl, rfl⟩ := Prod.mk.inj (Option.some.inj h)
      exact exists_spaced ['t', 'r', 'u', 'e'] ha rfl
        (hcs.trans (congrArg (a ++ ·) heq))
    · next heq =>
      obtain ⟨rfl, rfl⟩ := Prod.mk.inj (Option.some.inj h)
      exact exists_spaced ['f', 'a', 'l', 's', 'e'] ha rfl
        (hcs.trans (congrArg (a ++ ·) heq))
    · next tail heq =>
      obtain ⟨⟨pieces, rest⟩, hpieces, h⟩ := Option.bind_eq_some_iff.1 h
      obtain ⟨rfl, rfl⟩ := Prod.mk.inj (Option.some.inj h)
      obtain ⟨body, hbody, rfl⟩ := speltBy_of_readPieces hpieces
      refine exists_spaced ('"' :: (body ++ ['"'])) ha ⟨body, hbody, rfl⟩ ?_
      rw [hcs, heq]
      simp
    · next tail heq =>
      split at h
      · next rest heq' =>
        obtain ⟨rfl, rfl⟩ := Prod.mk.inj (Option.some.inj h)
        obtain ⟨sp, hsp, htail⟩ := exists_spaces tail
        refine exists_spaced ('[' :: (sp ++ [']'])) ha ⟨sp, .inl ⟨rfl, hsp⟩, rfl⟩ ?_
        rw [hcs, heq, htail, heq']
        simp
      · obtain ⟨⟨items, rest⟩, hitems, h⟩ := Option.bind_eq_some_iff.1 h
        obtain ⟨rfl, rfl⟩ := Prod.mk.inj (Option.some.inj h)
        rw [readItems_skipSpace] at hitems
        obtain ⟨body, hbody, rfl⟩ := speltBy_of_readItems hitems
        refine exists_spaced ('[' :: (body ++ [']'])) ha ⟨body, .inr hbody, rfl⟩ ?_
        rw [hcs, heq]
        simp
    · next tail heq =>
      split at h
      · next rest heq' =>
        obtain ⟨rfl, rfl⟩ := Prod.mk.inj (Option.some.inj h)
        obtain ⟨sp, hsp, htail⟩ := exists_spaces tail
        refine exists_spaced ('\x7b' :: (sp ++ ['\x7d'])) ha ⟨sp, .inl ⟨rfl, hsp⟩, rfl⟩ ?_
        rw [hcs, heq, htail, heq']
        simp
      · obtain ⟨⟨members, rest⟩, hmembers, h⟩ := Option.bind_eq_some_iff.1 h
        obtain ⟨rfl, rfl⟩ := Prod.mk.inj (Option.some.inj h)
        rw [readMembers_skipSpace] at hmembers
        obtain ⟨body, hbody, rfl⟩ := speltBy_of_readMembers hmembers
        refine exists_spaced ('\x7b' :: (body ++ ['\x7d'])) ha ⟨body, .inr hbody, rfl⟩ ?_
        rw [hcs, heq]
        simp
    · obtain ⟨⟨n, rest⟩, hn, h⟩ := Option.bind_eq_some_iff.1 h
      obtain ⟨rfl, rfl⟩ := Prod.mk.inj (Option.some.inj h)
      obtain ⟨body, hbody, heq⟩ := speltBy_of_readNumber hn
      exact exists_spaced body ha hbody (hcs.trans (congrArg (a ++ ·) heq))

theorem speltBy_of_readItems : ∀ {fuel : Nat} {cs : List Char} {items : List Form}
    {rest : List Char}, readItems fuel cs = some (items, rest) →
      ∃ body, ItemsSpeltBy items body ∧ cs = body ++ ']' :: rest
  | 0, _, _, _, h => by cases h
  | fuel + 1, cs, items, rest, h => by
    rw [readItems] at h
    obtain ⟨⟨item, rest₁⟩, hitem, h⟩ := Option.bind_eq_some_iff.1 h
    obtain ⟨front, hfront, hcs⟩ := spaced_of_read hitem
    dsimp only at h
    split at h
    · next heq =>
      obtain ⟨rfl, rfl⟩ := Prod.mk.inj (Option.some.inj h)
      exact ⟨front, ⟨front, hfront, .inl ⟨rfl, rfl⟩⟩, heq ▸ hcs⟩
    · next heq =>
      obtain ⟨⟨more, rest⟩, hmore, h⟩ := Option.bind_eq_some_iff.1 h
      obtain ⟨rfl, rfl⟩ := Prod.mk.inj (Option.some.inj h)
      obtain ⟨body, hbody, rfl⟩ := speltBy_of_readItems hmore
      refine ⟨_, ⟨front, hfront, .inr ⟨body, hbody, rfl⟩⟩, ?_⟩
      rw [hcs, heq]
      simp
    · cases h

theorem speltBy_of_readMembers : ∀ {fuel : Nat} {cs : List Char}
    {members : List (List Piece × Form)} {rest : List Char},
      readMembers fuel cs = some (members, rest) →
        ∃ body, MembersSpeltBy members body ∧ cs = body ++ '\x7d' :: rest
  | 0, _, _, _, h => by cases h
  | fuel + 1, cs, members, rest, h => by
    obtain ⟨a, ha, hcs⟩ := exists_spaces cs
    rw [readMembers] at h
    split at h
    · next heq =>
      obtain ⟨⟨key, rest₁⟩, hkey, h⟩ := Option.bind_eq_some_iff.1 h
      obtain ⟨k, hk, htail⟩ := speltBy_of_readPieces hkey
      obtain ⟨name, hname, hcs⟩ : ∃ name, Spaced (QuotedBy key) name ∧
          cs = name ++ skipSpace rest₁ := by
        refine exists_spaced ('"' :: (k ++ ['"'])) ha ⟨k, hk, rfl⟩ ?_
        rw [hcs, heq, htail]
        simp
      dsimp only at h
      split at h
      · next heq =>
        obtain ⟨⟨value, rest₂⟩, hvalue, h⟩ := Option.bind_eq_some_iff.1 h
        obtain ⟨front, hfront, htail⟩ := spaced_of_read hvalue
        rw [heq, htail] at hcs
        dsimp only at h
        split at h
        · next heq =>
          obtain ⟨rfl, rfl⟩ := Prod.mk.inj (Option.some.inj h)
          refine ⟨_, ⟨name, front, hname, hfront, .inl ⟨rfl, rfl⟩⟩, ?_⟩
          rw [hcs, heq]
          simp
        · next heq =>
          obtain ⟨⟨more, rest⟩, hmore, h⟩ := Option.bind_eq_some_iff.1 h
          obtain ⟨rfl, rfl⟩ := Prod.mk.inj (Option.some.inj h)
          obtain ⟨body, hbody, rfl⟩ := speltBy_of_readMembers hmore
          refine ⟨_, ⟨name, front, hname, hfront, .inr ⟨body, hbody, rfl⟩⟩, ?_⟩
          rw [hcs, heq]
          simp
        · cases h
      · cases h
    · cases h

end

/-! ## What is spelt is read -/

/-- What spells a form starts with no space and no closing bracket. -/
theorem head_of_speltBy {f : Form} {cs : List Char} (h : f.SpeltBy cs) :
    ∃ c tail, cs = c :: tail ∧ isSpace c = false ∧ c ≠ ']' := by
  cases f with
  | null => exact ⟨'n', _, h, by decide, by decide⟩
  | bool b => cases b <;> exact ⟨_, _, h, by decide, by decide⟩
  | number n =>
    obtain ⟨c, tail, hcs, hc⟩ := NumberForm.head_of_speltBy h
    refine ⟨c, tail, hcs, ?_⟩
    rcases hc with rfl | hc
    · decide
    · exact ⟨by simp [isSpace, ne_of_isDigit hc], ne_of_isDigit hc (by decide)⟩
  | string pieces =>
    obtain ⟨body, -, hcs⟩ := h
    exact ⟨'"', _, hcs, by decide, by decide⟩
  | array items =>
    obtain ⟨body, -, hcs⟩ := h
    exact ⟨'[', _, hcs, by decide, by decide⟩
  | object members =>
    obtain ⟨body, -, hcs⟩ := h
    exact ⟨'\x7b', _, hcs, by decide, by decide⟩

/-- The token behind what is spelt: it is no space and cannot continue a number. -/
def IsNext (rest : List Char) : Prop := StopsAt (fun c => continues c || isSpace c) rest

theorem IsNext.skipSpace {rest : List Char} (h : IsNext rest) : skipSpace rest = rest :=
  skipSpace_of_stopsAt fun c hc => ((Bool.or_eq_false_iff).1 (h c hc)).2

/-- Spaces before the next token do not continue a number either. -/
theorem IsNext.stopsAt_append {b rest : List Char} (h : IsNext rest) (hb : AreSpaces b) :
    StopsAt continues (b ++ rest) := by
  cases b with
  | nil => exact fun c hc => ((Bool.or_eq_false_iff).1 (h c hc)).1
  | cons c b =>
    have hspace := hb c List.mem_cons_self
    simp only [isSpace, Bool.or_eq_true, decide_eq_true_eq] at hspace
    rcases hspace with ((rfl | rfl) | rfl) | rfl <;> exact stopsAt_cons.2 (by decide)

/-- If a form is read where it is spelt, then also with spaces around it. -/
theorem read_of_spaced {f : Form} (fuel : Nat) {front : List Char} (rest : List Char)
    (hread : ∀ {cs : List Char}, f.SpeltBy cs → 2 * cs.length ≤ fuel →
      ∀ {rest : List Char}, StopsAt continues rest → read fuel (cs ++ rest) = some (f, rest))
    (h : Spaced f.SpeltBy front) (hfuel : 2 * front.length ≤ fuel) (hrest : IsNext rest) :
    ∃ rest', read fuel (front ++ rest) = some (f, rest') ∧ skipSpace rest' = rest := by
  obtain ⟨a, body, b, ha, hbody, hb, rfl⟩ := h
  simp only [List.length_append] at hfuel
  refine ⟨b ++ rest, ?_, (skipSpace_append hb rest).trans hrest.skipSpace⟩
  rw [← read_skipSpace, List.append_assoc, skipSpace_append ha, read_skipSpace, List.append_assoc]
  exact hread hbody (by omega) (hrest.stopsAt_append hb)

theorem exists_fuel {f : Form} {cs : List Char} {fuel : Nat} (h : f.SpeltBy cs)
    (hfuel : 2 * cs.length ≤ fuel) : ∃ n, fuel = n + 1 := by
  obtain ⟨c, tail, rfl, -⟩ := head_of_speltBy h
  rw [List.length_cons] at hfuel
  exact ⟨fuel - 1, by omega⟩

theorem read_number {n : NumberForm} {cs rest : List Char} (h : n.SpeltBy cs) (fuel : Nat)
    (hrest : StopsAt continues rest) :
    read (fuel + 1) (cs ++ rest) = some (.number n, rest) := by
  have hread := readNumber_of_speltBy h hrest
  obtain ⟨c, tail, rfl, hc⟩ := NumberForm.head_of_speltBy h
  have hne : ∀ d : Char, d ≠ '-' → d.isDigit = false → c ≠ d := by
    rintro d hd hdigit rfl
    rcases hc with hc | hc
    · exact hd hc
    · exact ne_of_isDigit hc hdigit rfl
  have hspace : isSpace c = false := by
    simp [isSpace, hne ' ' (by decide) (by decide), hne '\t' (by decide) (by decide),
      hne '\n' (by decide) (by decide), hne '\r' (by decide) (by decide)]
  rw [List.cons_append] at hread ⊢
  rw [read, skipSpace_of_stopsAt (stopsAt_cons.2 hspace)]
  split
  · next heq => exact absurd (List.cons.inj heq).1 (hne 'n' (by decide) (by decide))
  · next heq => exact absurd (List.cons.inj heq).1 (hne 't' (by decide) (by decide))
  · next heq => exact absurd (List.cons.inj heq).1 (hne 'f' (by decide) (by decide))
  · next heq => exact absurd (List.cons.inj heq).1 (hne '"' (by decide) (by decide))
  · next heq => exact absurd (List.cons.inj heq).1 (hne '[' (by decide) (by decide))
  · next heq => exact absurd (List.cons.inj heq).1 (hne '\x7b' (by decide) (by decide))
  · rw [hread]; rfl

theorem read_string {pieces : List Piece} {cs : List Char} (h : QuotedBy pieces cs) (fuel : Nat)
    (rest : List Char) : read (fuel + 1) (cs ++ rest) = some (.string pieces, rest) := by
  obtain ⟨body, hbody, rfl⟩ := h
  rw [List.cons_append, List.append_assoc, List.singleton_append, read,
    skipSpace_of_stopsAt (stopsAt_cons.2 (by decide))]
  simp only [readPieces_of_speltBy hbody, Option.bind_eq_bind, Option.bind_some]
  rfl

theorem skipSpace_spaced {spelt : List Char → Prop} {front : List Char} (h : Spaced spelt front)
    {p : Char → Prop} (hhead : ∀ body, spelt body →
      ∃ c tail, body = c :: tail ∧ isSpace c = false ∧ p c) (rest : List Char) :
    ∃ c tail, Json.skipSpace (front ++ rest) = c :: tail ∧ p c := by
  obtain ⟨a, body, b, ha, hbody, -, rfl⟩ := h
  obtain ⟨c, tail, rfl, hspace, hc⟩ := hhead body hbody
  refine ⟨c, tail ++ (b ++ rest), ?_, hc⟩
  rw [List.append_assoc, skipSpace_append ha]
  simpa using skipSpace_of_stopsAt (stopsAt_cons.2 hspace)

/-- Items do not start with the end of the array. -/
theorem skipSpace_items {items : List Form} {body : List Char} (h : ItemsSpeltBy items body)
    (rest : List Char) :
    ∃ c tail, Json.skipSpace (body ++ rest) = c :: tail ∧ c ≠ ']' := by
  cases items with
  | nil => exact h.elim
  | cons item items =>
    obtain ⟨front, hfront, ⟨-, rfl⟩ | ⟨more, -, rfl⟩⟩ := h
    · exact skipSpace_spaced hfront (fun _ => head_of_speltBy) rest
    · rw [List.append_assoc]
      exact skipSpace_spaced hfront (fun _ => head_of_speltBy) _

/-- Members start with the quote of a key. -/
theorem skipSpace_members {members : List (List Piece × Form)} {body : List Char}
    (h : MembersSpeltBy members body) (rest : List Char) :
    ∃ c tail, Json.skipSpace (body ++ rest) = c :: tail ∧ c = '"' := by
  cases members with
  | nil => exact h.elim
  | cons m members =>
    have hquote : ∀ body, QuotedBy m.1 body →
        ∃ c tail, body = c :: tail ∧ isSpace c = false ∧ c = '"' := by
      rintro _ ⟨body, -, rfl⟩
      exact ⟨'"', _, rfl, by decide, rfl⟩
    obtain ⟨name, front, hname, -, ⟨-, rfl⟩ | ⟨more, -, rfl⟩⟩ := h
    all_goals
      rw [List.append_assoc]
      exact skipSpace_spaced hname hquote _

/-- Behind the key of a member stands its value. -/
theorem readMembers_key {key : List Piece} {name : List Char} (h : Spaced (QuotedBy key) name)
    (fuel : Nat) (cs : List Char) :
    readMembers (fuel + 1) (name ++ ':' :: cs) = (do
      let (value, rest) ← read fuel cs
      match Json.skipSpace rest with
      | '\x7d' :: rest => return ([(key, value)], rest)
      | ',' :: rest =>
        let (members, rest) ← readMembers fuel rest
        return ((key, value) :: members, rest)
      | _ => none) := by
  obtain ⟨a, _, b, ha, ⟨k, hk, rfl⟩, hb, rfl⟩ := h
  have hread := readPieces_of_speltBy hk (b ++ ':' :: cs)
  rw [readMembers, List.append_assoc, skipSpace_append ha]
  simp only [List.cons_append, List.append_assoc, List.nil_append]
  rw [skipSpace_of_stopsAt (stopsAt_cons.2 (by decide))]
  simp only [hread, Option.bind_eq_bind, Option.bind_some]
  rw [skipSpace_append hb, skipSpace_of_stopsAt (stopsAt_cons.2 (by decide))]
  rfl

theorem isNext_cons {c : Char} (hc : (continues c || isSpace c) = false) (rest : List Char) :
    IsNext (c :: rest) :=
  stopsAt_cons.2 hc

mutual

/-- What spells a form is read in front of what cannot continue a number. -/
theorem read_of_speltBy : ∀ {f : Form} {cs : List Char}, f.SpeltBy cs → ∀ {fuel : Nat},
    2 * cs.length ≤ fuel → ∀ {rest : List Char}, StopsAt continues rest →
      read fuel (cs ++ rest) = some (f, rest)
  | .null, _, rfl, _ + 1, _, _, _ => rfl
  | .bool true, _, rfl, _ + 1, _, _, _ => rfl
  | .bool false, _, rfl, _ + 1, _, _, _ => rfl
  | .number n, _, h, fuel + 1, _, _, hrest => read_number h fuel hrest
  | .string pieces, _, h, fuel + 1, _, rest, _ => read_string h fuel rest
  | .array items, _, ⟨body, hbody, rfl⟩, fuel + 1, hfuel, rest, _ => by
    simp only [List.length_cons, List.length_append, List.length_nil] at hfuel
    rw [List.cons_append, List.append_assoc, List.singleton_append, read,
      skipSpace_of_stopsAt (stopsAt_cons.2 (by decide))]
    rcases hbody with ⟨rfl, hspaces⟩ | hitems
    · simp only [skipSpace_append hspaces]
      rw [skipSpace_of_stopsAt (stopsAt_cons.2 (by decide))]
      rfl
    · have hread := readItems_of_speltBy hitems fuel (by omega) rest
      obtain ⟨c, tail, htail, hc⟩ := skipSpace_items hitems (']' :: rest)
      rw [← readItems_skipSpace, htail] at hread
      simp only [htail]
      split
      · next heq => exact absurd (List.cons.inj heq).1 hc
      · rw [hread]; rfl
  | .object members, _, ⟨body, hbody, rfl⟩, fuel + 1, hfuel, rest, _ => by
    simp only [List.length_cons, List.length_append, List.length_nil] at hfuel
    rw [List.cons_append, List.append_assoc, List.singleton_append, read,
      skipSpace_of_stopsAt (stopsAt_cons.2 (by decide))]
    rcases hbody with ⟨rfl, hspaces⟩ | hmembers
    · simp only [skipSpace_append hspaces]
      rw [skipSpace_of_stopsAt (stopsAt_cons.2 (by decide))]
      rfl
    · have hread := readMembers_of_speltBy hmembers fuel (by omega) rest
      obtain ⟨c, tail, htail, rfl⟩ := skipSpace_members hmembers ('\x7d' :: rest)
      rw [← readMembers_skipSpace, htail] at hread
      simp only [htail]
      split
      · next heq => exact absurd (List.cons.inj heq).1 (by decide)
      · rw [hread]; rfl
  | f, cs, h, 0, hfuel, _, _ => by
    obtain ⟨n, hn⟩ := exists_fuel h hfuel
    cases hn

theorem readItems_of_speltBy : ∀ {items : List Form} {cs : List Char}, ItemsSpeltBy items cs →
    ∀ fuel : Nat, 2 * cs.length + 1 ≤ fuel → ∀ rest : List Char,
      readItems fuel (cs ++ ']' :: rest) = some (items, rest)
  | item :: items, _, ⟨front, hfront, hmore⟩, fuel + 1, hfuel, rest => by
    have hitem := fun {next} => read_of_spaced fuel next
      (fun h hle => read_of_speltBy (f := item) h hle) hfront
    rcases hmore with ⟨rfl, rfl⟩ | ⟨more, hmore, rfl⟩
    · obtain ⟨behind, hread, hskip⟩ := hitem (by omega) (isNext_cons (c := ']') (by decide) rest)
      rw [readItems, hread]
      simp only [Option.bind_eq_bind, Option.bind_some]
      rw [hskip]
      rfl
    · simp only [List.length_cons, List.length_append] at hfuel
      obtain ⟨behind, hread, hskip⟩ := hitem (by omega)
        (isNext_cons (c := ',') (by decide) (more ++ ']' :: rest))
      rw [List.append_assoc, List.cons_append, readItems, hread]
      simp only [Option.bind_eq_bind, Option.bind_some]
      rw [hskip]
      simp only [readItems_of_speltBy hmore fuel (by omega) rest, Option.bind_some]
      rfl

theorem readMembers_of_speltBy : ∀ {members : List (List Piece × Form)} {cs : List Char},
    MembersSpeltBy members cs → ∀ fuel : Nat, 2 * cs.length + 1 ≤ fuel → ∀ rest : List Char,
      readMembers fuel (cs ++ '\x7d' :: rest) = some (members, rest)
  | (key, value) :: members, _, ⟨name, front, hname, hfront, hmore⟩, fuel + 1, hfuel, rest => by
    have hvalue := fun {next} => read_of_spaced fuel next
      (fun h hle => read_of_speltBy (f := value) h hle) hfront
    rcases hmore with ⟨rfl, rfl⟩ | ⟨more, hmore, rfl⟩
    · simp only [List.length_cons, List.length_append] at hfuel
      obtain ⟨behind, hread, hskip⟩ := hvalue (by omega)
        (isNext_cons (c := '\x7d') (by decide) rest)
      rw [List.append_assoc, List.cons_append, readMembers_key hname, hread]
      simp only [Option.bind_eq_bind, Option.bind_some]
      rw [hskip]
      rfl
    · simp only [List.length_cons, List.length_append] at hfuel
      obtain ⟨behind, hread, hskip⟩ := hvalue (by omega)
        (isNext_cons (c := ',') (by decide) (more ++ '\x7d' :: rest))
      rw [List.append_assoc, List.cons_append, List.append_assoc, List.cons_append,
        readMembers_key hname, hread]
      simp only [Option.bind_eq_bind, Option.bind_some]
      rw [hskip]
      simp only [readMembers_of_speltBy hmore fuel (by omega) rest, Option.bind_some]
      rfl

end

/-- The reader finds a form exactly if the text spells it, with spaces around it. -/
theorem ofChars?_eq_some_iff {cs : List Char} {f : Form} :
    ofChars? cs = some f ↔ Spaced f.SpeltBy cs := by
  rw [ofChars?]
  constructor
  · intro h
    split at h
    · next hread =>
      split at h
      · next hrest =>
        obtain rfl := Option.some.inj h
        obtain ⟨front, hfront, hcs⟩ := spaced_of_read hread
        rw [hrest, List.append_nil] at hcs
        exact hcs ▸ hfront
      · cases h
    · cases h
  · intro h
    obtain ⟨rest, hread, hrest⟩ := read_of_spaced _ []
      (fun hcs hfuel => read_of_speltBy hcs hfuel) h (Nat.le_add_right _ 2) (stopsAt_nil _)
    rw [List.append_nil] at hread
    rw [hread]
    exact if_pos hrest

end Form

end Json

end AuditTrail
