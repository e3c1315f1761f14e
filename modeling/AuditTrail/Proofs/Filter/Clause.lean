import AuditTrail.Proofs.Instant.Text
import AuditTrail.Proofs.Json.Meaning
import AuditTrail.Proofs.Json.Readable
import AuditTrail.Proofs.Row
import AuditTrail.Proofs.Text.Separated

/-!
# Filters are read back from clauses

* `Json.exists_parse?_text`, `Json.exists_parse?_array`: what is read from the text of a value, and
  of a list of values.
* `Filter.clause`: the clause that writes a filter. `Filter.Expressible`: the filters that a clause
  can write. `Filter.Same`: filters with equal candidates.
* `Filter.ofClauses_map_clause`: expressible filters are read back from their clauses, exactly as
  far as their binary numbers read back.
-/

namespace AuditTrail

open Text

/-! ## Values -/

namespace Json

/-- A value that does not nest too deep is read from its text, and it is the same exactly if its
binary numbers read back. -/
theorem exists_parse?_text {v : Json} (hd : v.depth ≤ maxDepth) :
    ∃ w, parse? v.text = some w ∧ ((w == v) = true ↔ ∀ x ∈ v.floats, x.ReadsBack) ∧
      ((∀ x ∈ v.floats, x.ReadsBack) → w = v) := by
  obtain ⟨w, hw⟩ := Option.isSome_iff_exists.1 (parse?_text_isSome_iff.2 hd)
  have hback : (∀ x ∈ v.floats, x.ReadsBack) → w = v := fun hf =>
    Option.some.inj (hw.symm.trans (parse?_text hd hf))
  refine ⟨w, hw, ⟨fun hsame => ?_, fun hf => ?_⟩, hback⟩
  · rw [parse?_of_text] at hw
    exact Raw.readsBack_of_value? v.canonical hw (congrArg raw (beq_iff.1 hsame))
  · rw [hback hf]
    exact beq_iff.2 rfl

theorem items?_array (vs : List Json) : (array vs).items? = some vs := by
  refine congrArg some (List.map_injective_iff.2 (fun _ _ => ext_raw) ?_)
  rw [List.map_map]
  exact List.attach_map_subtype_val _

/-- Arrays are equal if their items are, one by one. -/
theorem array_beq_array_iff {vs ws : List Json} :
    (array vs == array ws) = true ↔ List.Forall₂ (fun v w => (v == w) = true) vs ws := by
  change Raw.sameItems (vs.map raw) (ws.map raw) = true ↔ _
  induction vs generalizing ws with
  | nil => cases ws <;> simp [Raw.sameItems]
  | cons v vs ih =>
    cases ws with
    | nil => simp [Raw.sameItems]
    | cons w ws =>
      rw [List.forall₂_cons, ← ih, List.map_cons, List.map_cons, Raw.sameItems, Bool.and_eq_true]
      rfl

theorem array_injective : Function.Injective array := by
  intro vs ws h
  have hitems := congrArg items? h
  rwa [items?_array, items?_array, Option.some.injEq] at hitems

theorem floats_array (vs : List Json) : (array vs).floats = vs.flatMap floats := by
  change Raw.floatsItems (vs.map raw) = _
  induction vs with
  | nil => rfl
  | cons v vs ih =>
    rw [List.map_cons, Raw.floatsItems, ih]
    rfl

/-- What is read from the text of an array is an array. -/
theorem exists_parse?_array {vs : List Json} (hd : (array vs).depth ≤ maxDepth) :
    ∃ ws, parse? (array vs).text = some (array ws) ∧
      (List.Forall₂ (fun w v => (w == v) = true) ws vs ↔
        ∀ x ∈ vs.flatMap floats, x.ReadsBack) ∧
      ((∀ x ∈ vs.flatMap floats, x.ReadsBack) → ws = vs) := by
  obtain ⟨w, hw, hsame, hback⟩ := exists_parse?_text hd
  obtain ⟨ws, rfl⟩ : ∃ ws, array ws = w := by
    rw [parse?_of_text] at hw
    exact Form.exists_array_of_value? hw
  rw [floats_array] at hsame hback
  exact ⟨ws, hw, array_beq_array_iff.symm.trans hsame, fun hf => array_injective (hback hf)⟩

end Json

/-- What is read from the text of a payload is a payload. -/
theorem Payload.exists_parse?_text {p : Payload} (hd : (Json.object p).depth ≤ Json.maxDepth) :
    ∃ q, parse? p.text = some q ∧ ((q == p) = true ↔ ∀ x ∈ p.floats, x.ReadsBack) ∧
      ((∀ x ∈ p.floats, x.ReadsBack) → q = p) := by
  obtain ⟨w, hw, hsame, hback⟩ := Json.exists_parse?_text hd
  obtain ⟨q, rfl⟩ : ∃ q, Json.object q = w := by
    rw [Json.parse?_of_text] at hw
    exact Json.Form.exists_object_of_value? hw
  refine ⟨q, ?_, beq_iff.trans hsame, fun hf => ?_⟩
  · rw [parse?, text, hw]
    rfl
  · exact Option.some.inj (congrArg Json.payload? (hback hf))

/-! ## Items -/

theorem Level.parse?_name (level : Level) : parse? level.name = some level := by
  cases level <;> decide +kernel

theorem Level.isItem_name (level : Level) : IsItem level.name := by
  cases level <;> exact ⟨by decide, by decide⟩

theorem FilterName.parse?_text (name : FilterName) : parse? name.text = some name := by
  cases name <;> decide +kernel

theorem FilterName.equals_not_mem_text (name : FilterName) : '=' ∉ name.text.toList := by
  cases name <;> decide

theorem Instant.isItem_text (t : Instant) : IsItem (t.text .zero) := by
  have hpadded : ∀ width n, ∀ c ∈ paddedChars width n, IsPlain c :=
    fun width n c hc => isPlain_of_isDigit (isDigit_of_mem_paddedChars hc)
  have hyear : ∀ y, ∀ c ∈ yearChars y, IsPlain c := by
    intro y
    unfold yearChars
    split
    · exact hpadded 4 _
    · refine List.forall_mem_cons.2 ⟨?_, hpadded 4 _⟩
      split <;> decide
  have hfraction : ∀ n, ∀ c ∈ fractionChars n, IsPlain c := by
    intro n
    unfold fractionChars
    split
    · exact nofun
    · split
      · exact List.forall_mem_cons.2 ⟨by decide, hpadded 3 _⟩
      · split
        · exact List.forall_mem_cons.2 ⟨by decide, hpadded 6 _⟩
        · exact List.forall_mem_cons.2 ⟨by decide, hpadded 9 _⟩
  have hoffset : ∀ c ∈ Offset.zero.chars, IsPlain c := by
    simp only [Offset.chars, List.forall_mem_cons, List.not_mem_nil, false_imp_iff, implies_true,
      and_true]
    decide
  have hmarks : IsPlain '-' ∧ IsPlain 'T' ∧ IsPlain ':' := by decide
  obtain ⟨hhyphen, hletter, hcolon⟩ := hmarks
  refine isItem_of_plain ?_
  simp only [chars, dateChars, List.append_assoc, List.cons_append, List.forall_mem_append,
    List.forall_mem_cons]
  exact ⟨hyear _, hhyphen, hpadded 2 _, hhyphen, hpadded 2 _, hletter, hpadded 2 _, hcolon,
    hpadded 2 _, hcolon, hpadded 2 _, hfraction _, hoffset⟩

namespace Filter

/-! ## Clauses -/

/-- The text of the candidates of a filter. -/
def candidatesText : Filter → String
  | .id ids => joinWith "," (ids.map EntryId.text)
  | .type types => joinWith "," types
  | .user values => (Json.array values).text
  | .object values => (Json.array values).text
  | .contentType types => joinWith "," (types.map ContentType.key)
  | .level levels => joinWith "," (levels.map Level.name)
  | .levelAbove levels => joinWith "," (levels.map Level.name)
  | .levelBelow levels => joinWith "," (levels.map Level.name)
  | .timestamp instants => joinWith "," (instants.map (Instant.text .zero))
  | .timestampBefore instants => joinWith "," (instants.map (Instant.text .zero))
  | .timestampAfter instants => joinWith "," (instants.map (Instant.text .zero))
  | .data payloads => joinWith "," (payloads.map Payload.text)

/-- The clause that writes a filter. -/
def clause (f : Filter) : String := f.name.text ++ "=" ++ f.candidatesText

/-- An instant whose year has four digits. -/
def HasFourDigitYear (t : Instant) : Prop := 0 ≤ t.year ∧ t.year ≤ 9999

instance (t : Instant) : Decidable (HasFourDigitYear t) := inferInstanceAs (Decidable (_ ∧ _))

/-- A filter that a clause can write. -/
def Expressible : Filter → Prop
  | .id ids => ids ≠ []
  | .type types => types ≠ [] ∧ ∀ s ∈ types, IsItem s
  | .user values => (Json.array values).depth ≤ Json.maxDepth
  | .object values => (Json.array values).depth ≤ Json.maxDepth
  | .contentType types =>
    types ≠ [] ∧ ∀ ct ∈ types, IsItem ct.key ∧ ContentType.parse? ct.key = some ct
  | .level levels => levels ≠ []
  | .levelAbove levels => levels ≠ []
  | .levelBelow levels => levels ≠ []
  | .timestamp instants => instants ≠ [] ∧ ∀ t ∈ instants, HasFourDigitYear t
  | .timestampBefore instants => instants ≠ [] ∧ ∀ t ∈ instants, HasFourDigitYear t
  | .timestampAfter instants => instants ≠ [] ∧ ∀ t ∈ instants, HasFourDigitYear t
  | .data payloads =>
    payloads.length = 1 ∧ ∀ p ∈ payloads, (Json.object p).depth ≤ Json.maxDepth

instance : (f : Filter) → Decidable f.Expressible
  | .id ids => inferInstanceAs (Decidable (ids ≠ []))
  | .type _ => inferInstanceAs (Decidable (_ ∧ _))
  | .user _ => inferInstanceAs (Decidable (_ ≤ _))
  | .object _ => inferInstanceAs (Decidable (_ ≤ _))
  | .contentType _ => inferInstanceAs (Decidable (_ ∧ _))
  | .level levels => inferInstanceAs (Decidable (levels ≠ []))
  | .levelAbove levels => inferInstanceAs (Decidable (levels ≠ []))
  | .levelBelow levels => inferInstanceAs (Decidable (levels ≠ []))
  | .timestamp _ => inferInstanceAs (Decidable (_ ∧ _))
  | .timestampBefore _ => inferInstanceAs (Decidable (_ ∧ _))
  | .timestampAfter _ => inferInstanceAs (Decidable (_ ∧ _))
  | .data _ => inferInstanceAs (Decidable (_ ∧ _))

/-- The same predicate with the same candidates in order, where values are compared as JSON. -/
def Same : Filter → Filter → Prop
  | .user vs, .user ws => List.Forall₂ (fun v w => (v == w) = true) vs ws
  | .object vs, .object ws => List.Forall₂ (fun v w => (v == w) = true) vs ws
  | .data ps, .data qs => List.Forall₂ (fun p q => (p == q) = true) ps qs
  | f, g => f = g

/-- The binary numbers of all candidates. -/
def floats : Filter → List Binary64
  | .user values => values.flatMap Json.floats
  | .object values => values.flatMap Json.floats
  | .data payloads => payloads.flatMap Payload.floats
  | _ => []

/-! ## Reading -/

/-- Candidates are read one by one. -/
theorem readEach_map {α : Type} {read : String → Except InputFault α} {text : α → String}
    {xs : List α} (h : ∀ x ∈ xs, read (text x) = .ok x) : readEach read (xs.map text) = .ok xs := by
  rw [readEach, mapM_map h]
  rfl

/-- A clause is cut at the first `=`, which stands behind the name. -/
theorem ofClause_named (name : FilterName) (raw : String) :
    ofClause (name.text ++ "=" ++ raw) =
      ofNamed (name.text ++ "=" ++ raw) name raw.toList := by
  have hcut : splitFirst '=' (name.text ++ "=" ++ raw).toList =
      some (name.text.toList, raw.toList) := by
    have hclause : (name.text ++ "=" ++ raw).toList = name.text.toList ++ '=' :: raw.toList := by
      simp
    rw [hclause, splitFirst_append name.equals_not_mem_text]
  rw [ofClause, hcut]
  simp only [String.ofList_toList, FilterName.parse?_text]

theorem ofClause_clause (f : Filter) :
    ofClause f.clause = ofNamed f.clause f.name f.candidatesText.toList :=
  ofClause_named f.name f.candidatesText

theorem ofClauses_singleton {clause : String} {f : Filter} (h : ofClause clause = .ok f) :
    ofClauses [clause] = .ok [f] := by
  rw [ofClauses, List.mapM_cons, h]
  rfl

/-- What stands for no value is read from between commas. -/
theorem ofNamed_of_ne {clause : String} {name : FilterName} {raw : List Char}
    (hname : name ≠ .data ∧ name ≠ .user ∧ name ≠ .object) :
    ofNamed clause name raw = parseClause clause name (commaSeparated raw) := by
  unfold ofNamed
  split
  · exact absurd rfl hname.1
  · exact absurd rfl hname.2.1
  · exact absurd rfl hname.2.2
  · rfl

/-- Items between commas are read one by one. -/
theorem ofNamed_joinWith {clause : String} {name : FilterName} {texts : List String} {f : Filter}
    (hname : name ≠ .data ∧ name ≠ .user ∧ name ≠ .object) (hne : texts ≠ [])
    (hitems : ∀ s ∈ texts, IsItem s) (h : parseValues name texts = .ok f) :
    ofNamed clause name (joinWith "," texts).toList = .ok f := by
  rw [ofNamed_of_ne hname, parseClause, commaSeparated_joinWith hne hitems, h]
  rfl

theorem readEach_ids (ids : List EntryId) : readEach readId (ids.map EntryId.text) = .ok ids :=
  readEach_map fun id _ => by
    rw [readId, EntryId.parse_text]
    rfl

theorem readEach_levels (levels : List Level) :
    readEach readLevel (levels.map Level.name) = .ok levels :=
  readEach_map fun level _ => by rw [readLevel, Level.parse?_name]

theorem readEach_contentTypes {types : List ContentType}
    (h : ∀ ct ∈ types, ContentType.parse? ct.key = some ct) :
    readEach readContentType (types.map ContentType.key) = .ok types :=
  readEach_map fun ct hct => by rw [readContentType, h ct hct]

theorem readEach_instants {instants : List Instant} (h : ∀ t ∈ instants, HasFourDigitYear t) :
    readEach readInstant (instants.map (Instant.text .zero)) = .ok instants :=
  readEach_map fun t ht => by
    rw [readInstant, t.isItem_text.2, Instant.parse_text (h t ht).1 (h t ht).2]
    rfl

/-- Candidates that are no values are items, which are read one by one. -/
theorem exists_items {f : Filter} (h : f.Expressible)
    (hname : f.name ≠ .data ∧ f.name ≠ .user ∧ f.name ≠ .object) :
    ∃ texts, f.candidatesText = joinWith "," texts ∧ texts ≠ [] ∧ (∀ s ∈ texts, IsItem s) ∧
      parseValues f.name texts = .ok f := by
  have hitems : ∀ {α : Type} {xs : List α} {text : α → String}, (∀ x ∈ xs, IsItem (text x)) →
      ∀ s ∈ xs.map text, IsItem s := List.forall_mem_map.2
  have hmap : ∀ {α : Type} {xs : List α} {text : α → String}, xs ≠ [] → xs.map text ≠ [] :=
    fun hne => mt List.map_eq_nil_iff.1 hne
  cases f with
  | id ids =>
    exact ⟨_, rfl, hmap h, hitems fun id _ => id.isItem_text,
      congrArg (Except.map Filter.id) (readEach_ids ids)⟩
  | type types => exact ⟨types, rfl, h.1, h.2, rfl⟩
  | contentType types =>
    exact ⟨_, rfl, hmap h.1, hitems fun ct hct => (h.2 ct hct).1,
      congrArg (Except.map Filter.contentType) (readEach_contentTypes fun ct hct => (h.2 ct hct).2)⟩
  | level levels =>
    exact ⟨_, rfl, hmap h, hitems fun level _ => level.isItem_name,
      congrArg (Except.map Filter.level) (readEach_levels levels)⟩
  | levelAbove levels =>
    exact ⟨_, rfl, hmap h, hitems fun level _ => level.isItem_name,
      congrArg (Except.map Filter.levelAbove) (readEach_levels levels)⟩
  | levelBelow levels =>
    exact ⟨_, rfl, hmap h, hitems fun level _ => level.isItem_name,
      congrArg (Except.map Filter.levelBelow) (readEach_levels levels)⟩
  | timestamp instants =>
    exact ⟨_, rfl, hmap h.1, hitems fun t _ => t.isItem_text,
      congrArg (Except.map Filter.timestamp) (readEach_instants h.2)⟩
  | timestampBefore instants =>
    exact ⟨_, rfl, hmap h.1, hitems fun t _ => t.isItem_text,
      congrArg (Except.map Filter.timestampBefore) (readEach_instants h.2)⟩
  | timestampAfter instants =>
    exact ⟨_, rfl, hmap h.1, hitems fun t _ => t.isItem_text,
      congrArg (Except.map Filter.timestampAfter) (readEach_instants h.2)⟩
  | user values => exact absurd rfl hname.2.1
  | object values => exact absurd rfl hname.2.2
  | data payloads => exact absurd rfl hname.1

/-! ## Reading back -/

theorem same_refl (f : Filter) : f.Same f := by
  have hvalues : ∀ vs : List Json, List.Forall₂ (fun v w => (v == w) = true) vs vs := fun vs =>
    List.forall₂_same.2 fun v _ => Json.beq_iff.2 rfl
  cases f with
  | user vs => exact hvalues vs
  | object vs => exact hvalues vs
  | data ps => exact List.forall₂_same.2 fun p _ => Payload.beq_iff.2 (Json.beq_iff.2 rfl)
  | _ => rfl

theorem ofNamed_data {p q : Payload} (clause : String)
    (h : Payload.parse? p.text = some q) :
    ofNamed clause .data p.text.toList = .ok (.data [q]) := by
  have hread : parseValues .data [p.text] = .ok (.data [q]) := by
    have hpayload : readEach readPayload [p.text] = .ok [q] := by
      simp [readEach, readPayload, h]
      rfl
    exact congrArg (Except.map Filter.data) hpayload
  rw [ofNamed, parseClause, String.ofList_toList, hread]
  rfl

/-- An expressible filter is read back from its clause, exactly as far as its binary numbers read
back. -/
theorem exists_ofClause_clause {f : Filter} (h : f.Expressible) :
    ∃ f', ofClause f.clause = .ok f' ∧ (f'.Same f ↔ ∀ x ∈ f.floats, x.ReadsBack) ∧
      ((∀ x ∈ f.floats, x.ReadsBack) → f' = f) := by
  rw [ofClause_clause]
  by_cases hname : f.name ≠ .data ∧ f.name ≠ .user ∧ f.name ≠ .object
  · obtain ⟨texts, htext, hne, hitems, hparse⟩ := exists_items h hname
    have hfloats : f.floats = [] := by
      cases f <;> simp_all [name, floats]
    rw [htext, hfloats]
    exact ⟨f, ofNamed_joinWith hname hne hitems hparse, by simpa using same_refl f, fun _ => rfl⟩
  · cases f with
    | user values =>
      obtain ⟨ws, hread, hsame, hback⟩ := Json.exists_parse?_array h
      refine ⟨.user ws, ?_, hsame, fun hf => congrArg Filter.user (hback hf)⟩
      rw [Json.parse?] at hread
      simp only [name, candidatesText, ofNamed, hread, candidates, Json.items?_array,
        Option.getD_some]
    | object values =>
      obtain ⟨ws, hread, hsame, hback⟩ := Json.exists_parse?_array h
      refine ⟨.object ws, ?_, hsame, fun hf => congrArg Filter.object (hback hf)⟩
      rw [Json.parse?] at hread
      simp only [name, candidatesText, ofNamed, hread, candidates, Json.items?_array,
        Option.getD_some]
    | data payloads =>
      obtain ⟨p, rfl⟩ := List.length_eq_one_iff.1 h.1
      have hd := h.2 p List.mem_cons_self
      obtain ⟨q, hread, hsame, hback⟩ := Payload.exists_parse?_text hd
      have hfloats : (Filter.data [p]).floats = p.floats := List.append_nil _
      rw [hfloats]
      refine ⟨.data [q], ofNamed_data _ hread, ?_, fun hf => by rw [hback hf]⟩
      rw [← hsame]
      exact List.forall₂_cons.trans (and_iff_left .nil)
    | _ => simp [name] at hname

/-- Expressible filters are read back from their clauses in order, exactly as far as their binary
numbers read back. -/
theorem ofClauses_map_clause {fs : List Filter} (h : ∀ f ∈ fs, f.Expressible) :
    ∃ fs', ofClauses (fs.map clause) = .ok fs' ∧
      (List.Forall₂ Same fs' fs ↔ ∀ f ∈ fs, ∀ x ∈ f.floats, x.ReadsBack) ∧
      ((∀ f ∈ fs, ∀ x ∈ f.floats, x.ReadsBack) → fs' = fs) := by
  induction fs with
  | nil => exact ⟨[], rfl, by simp, fun _ => rfl⟩
  | cons f fs ih =>
    obtain ⟨hf, hfs⟩ := List.forall_mem_cons.1 h
    obtain ⟨f', hread, hsame, hback⟩ := exists_ofClause_clause hf
    obtain ⟨fs', hreads, hsames, hbacks⟩ := ih hfs
    rw [ofClauses] at hreads
    refine ⟨f' :: fs', ?_, ?_, fun hnumbers => ?_⟩
    · rw [ofClauses, List.map_cons, List.mapM_cons, hread, hreads]
      rfl
    · rw [List.forall₂_cons, hsame, hsames, List.forall_mem_cons]
    · obtain ⟨hnumber, hnumbers⟩ := List.forall_mem_cons.1 hnumbers
      rw [hback hnumber, hbacks hnumbers]

/-- Filters whose candidates hold separators, a leap second, and values inside of values. -/
def intricate : List Filter :=
  [.type ["a=b", ""], .user [],
    .object [.null, .array [.string "x,y=z", .array []], ⟨.number (.float (.zero true)), trivial⟩],
    .contentType [⟨"shop.eu", "Order"⟩], .levelAbove [.debug, .critical],
    .timestamp [⟨1435708799, 1123456789, by decide, by decide, by decide, by decide⟩],
    .data [.insert .empty "k" (.string "v,w")]]

/-- A filter for 20.000000000000014, which is read as 20.000000000000018. -/
def finest : Filter :=
  .data [.insert .empty "x" ⟨.number (.float
    ⟨false, 5629499534213124, -48, by decide, by decide, by decide, by decide⟩), trivial⟩]

/-- Intricate filters are read back from their clauses, and the finest is not. -/
theorem ofClauses_map_clause_intricate :
    (∀ f ∈ intricate, f.Expressible) ∧
      intricate.map clause =
        ["type=a=b,", "user_id=[]", "object_id=[null,[\"x,y=z\",[]],-0.0]",
          "content_type=shop.eu.Order", "level_gt=debug,critical",
          "timestamp=2015-06-30T23:59:60.123456789+00:00", "data=\x7b\"k\":\"v,w\"\x7d"] ∧
      ofClauses (intricate.map clause) = .ok intricate ∧
      finest.Expressible ∧
      ∃ fs', ofClauses [finest.clause] = .ok fs' ∧ ¬ List.Forall₂ Same fs' [finest] := by
  have hexpressible : ∀ f ∈ intricate, f.Expressible := by decide +kernel
  have hfinest : ∀ f ∈ [finest], f.Expressible := by decide +kernel
  have hback : ∀ f ∈ intricate, ∀ x ∈ f.floats, x.ReadsBack := by decide +kernel
  have hslips : ¬ ∀ f ∈ [finest], ∀ x ∈ f.floats, x.ReadsBack := by decide +kernel
  obtain ⟨fs, hread, -, hsame⟩ := ofClauses_map_clause hexpressible
  obtain ⟨fs', hread', hsame', -⟩ := ofClauses_map_clause hfinest
  refine ⟨hexpressible, by decide +kernel, ?_, hfinest finest List.mem_cons_self, fs', hread',
    mt hsame'.1 hslips⟩
  rw [hread, hsame hback]

end Filter

end AuditTrail
