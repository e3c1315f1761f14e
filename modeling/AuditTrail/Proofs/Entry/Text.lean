import AuditTrail.Entry.Text
import AuditTrail.Proofs.Command.Recording
import AuditTrail.Proofs.Instant.Loose
import AuditTrail.Proofs.Json.Meaning
import AuditTrail.Proofs.Json.Readable
import AuditTrail.Proofs.Text.Separated

/-!
# Entries are read back from their JSON texts

* `Json.value?_form_iff`: a value is read back from its spelling exactly if it has room and its
  binary numbers read back.
* `Entry.fields?_form`: the members of an entry's text are found under their columns.
* `Entry.ofForm?_form`: what is read from an entry's text, member by member.
* `Entry.IsReadable`: the entries that their texts have room for. `Entry.parse?_text_self`: they are
  read back. `Entry.isReadable_of_parse?_text`: no others are.
* `Entry.isReadable_of_parse?`: each entry that was read from some text is among them.
* `Entry.text_roundtrip`: the three together.
-/

namespace AuditTrail

open Text

/-! ## Values -/

namespace Json

/-- If what is read from a spelling is equal to the value, then the value had room and its binary
numbers read back. -/
theorem readsBack_of_beq {v w : Json} {room : Nat} (h : v.raw.form.value? room = some w)
    (hsame : (w == v) = true) : v.depth ≤ room ∧ ∀ x ∈ v.floats, x.ReadsBack := by
  have hdepth := (Form.depth_of_value? h).1
  rw [Raw.depth_form] at hdepth
  exact ⟨hdepth, Raw.readsBack_of_value? v.canonical h (congrArg raw (beq_iff.1 hsame))⟩

/-- A value is read back from its spelling exactly if it has room and its binary numbers read
back. -/
theorem value?_form_iff {v : Json} {room : Nat} :
    v.raw.form.value? room = some v ↔ v.depth ≤ room ∧ ∀ x ∈ v.floats, x.ReadsBack := by
  constructor
  · exact fun h => readsBack_of_beq h (beq_iff.2 rfl)
  · rintro ⟨hdepth, hfloats⟩
    exact Raw.value?_form v.canonical room hdepth hfloats

/-- What is read from the spelling of a value is `null` only if the value is. -/
theorem isNull_of_value?_form {v w : Json} {room : Nat} (h : v.raw.form.value? room = some w) :
    w.isNull = v.isNull := by
  have hnull : v.raw.form = .null ↔ v.isNull = true := by
    obtain ⟨raw, hc⟩ := v
    cases raw <;> simp [Raw.form, isNull]
  exact Bool.eq_iff_iff.2 ((Form.isNull_iff_of_value? h).trans hnull)

namespace Form

theorem wellSpeltMembers_iff {members : List (List Piece × Form)} :
    WellSpeltMembers members ↔ ∀ m ∈ members, (∀ p ∈ m.1, p.WellSpelt) ∧ m.2.WellSpelt := by
  induction members with
  | nil => simp [WellSpeltMembers]
  | cons m members ih => simp [WellSpeltMembers, ih, and_assoc]

end Form

end Json

namespace Entry

open Json

/-! ## Members under their columns -/

theorem ofMemberName?_memberName (c : Column) : ofMemberName? (memberName c) = some c := by
  cases c <;> decide

/-- Members that come once each are found under their columns. -/
theorem collectMembers_map {found members : List (Column × Form)}
    (h : ((found ++ members).map Prod.fst).Nodup) :
    collectMembers found (members.map fun m => (piecesOf (memberName m.1), m.2)) =
      some (found ++ members) := by
  induction members generalizing found with
  | nil => simp [collectMembers]
  | cons m members ih =>
    have hnew : ¬ (found.any fun f => f.1 = m.1) = true := by
      intro hany
      obtain ⟨f, hf, heq⟩ := List.any_eq_true.1 hany
      rw [List.map_append, List.nodup_append] at h
      exact h.2.2 f.1 (List.mem_map_of_mem hf) m.1 (by simp) (of_decide_eq_true heq)
    rw [List.map_cons, collectMembers, decodeString_piecesOf]
    simp only [Option.bind_eq_bind, Option.bind_some, ofMemberName?_memberName, if_neg hnew]
    rw [ih (by rwa [List.append_assoc, List.singleton_append]), List.append_assoc,
      List.singleton_append]

/-- A record that is made column by column is found column by column. -/
theorem lookup_filterMap (f : Column → Option Form) (cs : List Column) (c : Column) :
    (cs.filterMap fun c => (f c).map fun x => (c, x)).lookup c = if c ∈ cs then f c else none := by
  induction cs with
  | nil => rfl
  | cons d cs ih =>
    rw [List.filterMap_cons]
    by_cases hd : c = d
    · subst hd
      cases hf : f c with
      | none => simp [ih, hf]
      | some x => simp
    · have hne : (c == d) = false := beq_eq_false_iff_ne.2 hd
      cases hf : f d with
      | none => simp [ih, hd]
      | some x => simp [List.lookup_cons, hne, ih, hd]

/-- The members of an entry, under their columns. -/
def members (e : Entry) : List (Column × Form) :=
  Column.all.filterMap fun c => (e.memberForm? c).map fun f => (c, f)

theorem form_eq (e : Entry) :
    e.form = .object (e.members.map fun m => (piecesOf (memberName m.1), m.2)) := by
  rw [form, members, List.map_filterMap]
  simp only [Option.map_map]
  rfl

theorem lookup_members (e : Entry) (c : Column) : e.members.lookup c = e.memberForm? c := by
  rw [members, lookup_filterMap, if_pos c.mem_all]

theorem mem_members_iff {e : Entry} {c : Column} {f : Form} :
    (c, f) ∈ e.members ↔ e.memberForm? c = some f := by
  simp [members, c.mem_all]

theorem nodup_members (e : Entry) : (e.members.map Prod.fst).Nodup := by
  rw [members, List.map_filterMap]
  refine List.Nodup.filterMap (fun c d x hc hd => ?_) (show Column.all.Nodup by decide)
  simp only [Option.map_map, Option.mem_def, Option.map_eq_some_iff] at hc hd
  obtain ⟨_, -, hc⟩ := hc
  obtain ⟨_, -, hd⟩ := hd
  exact hc.trans hd.symm

theorem fields?_form (e : Entry) : fields? e.form = some e.members := by
  rw [form_eq, fields?, collectMembers_map e.nodup_members, List.nil_append]

/-! ## Member by member -/

theorem readText_textForm (s : String) : readText (textForm s) = some s :=
  decodeString_piecesOf s

theorem readId_text (id : EntryId) : readId (textForm id.text) = some id := by
  simp only [readId, readText_textForm, Option.bind_eq_bind, Option.bind_some,
    id.parseExact_text, Except.toOption]

theorem readLevel_name (level : Level) : readLevel (textForm level.name) = some level := by
  simp only [textForm, readLevel, readText, decodeString_piecesOf, Option.bind_eq_bind,
    Option.bind_some, Level.ofName?_name]

theorem readInstant_text (t : Instant) : readInstant (textForm (t.text .zulu)) = some t := by
  simp only [readInstant, readText_textForm, Option.bind_eq_bind, Option.bind_some,
    t.parseLoose?_text]

theorem readContentType_key (ct : ContentType) :
    readContentType (textForm ct.key) = (ContentType.parse? ct.key).map some := by
  simp only [textForm, readContentType, readText, decodeString_piecesOf, Option.bind_eq_bind,
    Option.bind_some, Option.pure_def]
  cases ContentType.parse? ct.key <;> rfl

/-- An entry is put together from what its members say. -/
theorem ofFields?_eq_some_iff {fields : List (Column × Form)} {e : Entry} :
    ofFields? fields = some e ↔
      ∃ id type level timestamp user object contentType data,
        (fields.lookup .id).bind readId = some id ∧
        (fields.lookup .type).bind readText = some type ∧
        (fields.lookup .level).bind readLevel = some level ∧
        (fields.lookup .occurredAt).bind readInstant = some timestamp ∧
        optional .null readValue (fields.lookup .userId) = some user ∧
        optional .null readValue (fields.lookup .objectId) = some object ∧
        optional none readContentType (fields.lookup .contentType) = some contentType ∧
        optional .empty readPayload (fields.lookup .data) = some data ∧
        e = { ((((Entry.ofType type level timestamp).atInstant timestamp).withId id).withUser user
          |>.withObject object).withData data with contentType } := by
  simp only [ofFields?, Option.bind_eq_bind, Option.bind_eq_some_iff, Option.pure_def,
    Option.some.injEq]
  constructor
  · rintro ⟨_, hf, id, hid, _, hf₁, type, htype, _, hf₂, level, hlevel, _, hf₃, t, ht, user, hu,
      object, ho, contentType, hct, data, hd, rfl⟩
    exact ⟨id, type, level, t, user, object, contentType, data, ⟨_, hf, hid⟩, ⟨_, hf₁, htype⟩,
      ⟨_, hf₂, hlevel⟩, ⟨_, hf₃, ht⟩, hu, ho, hct, hd, rfl⟩
  · rintro ⟨id, type, level, t, user, object, contentType, data, ⟨_, hf, hid⟩, ⟨_, hf₁, htype⟩,
      ⟨_, hf₂, hlevel⟩, ⟨_, hf₃, ht⟩, hu, ho, hct, hd, rfl⟩
    exact ⟨_, hf, id, hid, _, hf₁, type, htype, _, hf₂, level, hlevel, _, hf₃, t, ht, user, hu,
      object, ho, contentType, hct, data, hd, rfl⟩

/-- What is read from an entry's text: four parts as they were written, and what the values, the
content type and the payload are read as. -/
theorem ofForm?_form_eq_some_iff {e e' : Entry} :
    ofForm? e.form = some e' ↔
      ∃ user object contentType data,
        optional .null readValue (e.user.map fun v => v.raw.form) = some user ∧
        optional .null readValue (e.object.map fun v => v.raw.form) = some object ∧
        optional none readContentType (e.contentType.map fun ct => textForm ct.key) =
          some contentType ∧
        readPayload (Json.object e.data).raw.form = some data ∧
        e' = { (((((Entry.ofType e.type e.level e.timestamp).atInstant e.timestamp).withId
          e.id).withUser user).withObject object).withData data with contentType } := by
  rw [ofForm?, fields?_form, Option.bind_eq_bind, Option.bind_some, ofFields?_eq_some_iff]
  simp only [lookup_members, memberForm?, Option.bind_some, readId_text, readText_textForm,
    readLevel_name, readInstant_text, Option.some.injEq, exists_and_left, exists_eq_left',
    optional]

/-! ## The whole entry -/

/-- What has to hold for an entry to be read back, apart from its binary numbers: its content type
is one of its own key, and its text does not nest too deep. -/
structure IsReadable (e : Entry) : Prop where
  ofKey : ∀ ct, e.contentType = some ct → ct.IsOfKey
  depth : e.form.depth ≤ maxDepth

/-- The text of an entry nests one level deeper than its values. -/
theorem depth_form_le_iff {e : Entry} : e.form.depth ≤ maxDepth ↔ e.NestsIn memberRoom := by
  have hmembers : e.form.depth ≤ maxDepth ↔
      ∀ c f, e.memberForm? c = some f → f.depth ≤ memberRoom := by
    have hroom : maxDepth = memberRoom + 1 := rfl
    rw [form_eq, Form.depth, hroom, Nat.add_le_add_iff_right, Form.depthMembers_le_iff,
      List.forall_mem_map]
    simp only [Prod.forall, mem_members_iff]
  rw [hmembers]
  constructor
  · intro h
    refine ⟨fun v hv => ?_, fun v hv => ?_, ?_⟩
    · exact (Raw.depth_form v.raw).symm.trans_le (h .userId _ (by rw [memberForm?, hv]; rfl))
    · exact (Raw.depth_form v.raw).symm.trans_le (h .objectId _ (by rw [memberForm?, hv]; rfl))
    · exact (Raw.depth_form _).symm.trans_le (h .data _ rfl)
  · intro h c f hf
    cases c with
    | userId =>
      obtain ⟨v, hv, rfl⟩ := Option.map_eq_some_iff.1 hf
      exact (Raw.depth_form v.raw).trans_le (h.user v hv)
    | objectId =>
      obtain ⟨v, hv, rfl⟩ := Option.map_eq_some_iff.1 hf
      exact (Raw.depth_form v.raw).trans_le (h.object v hv)
    | data =>
      obtain rfl := Option.some.inj hf
      exact (Raw.depth_form _).trans_le h.data
    | contentType =>
      obtain ⟨ct, -, rfl⟩ := Option.map_eq_some_iff.1 hf
      exact Nat.zero_le _
    | id | type | level | occurredAt =>
      obtain rfl := Option.some.inj hf
      exact Nat.zero_le _

theorem wellSpelt_form (e : Entry) : e.form.WellSpelt := by
  rw [form_eq]
  refine Form.wellSpeltMembers_iff.2 (List.forall_mem_map.2 fun ⟨c, f⟩ hm =>
    ⟨wellSpelt_piecesOf _, ?_⟩)
  have hf := mem_members_iff.1 hm
  cases c with
  | userId | objectId =>
    obtain ⟨v, -, rfl⟩ := Option.map_eq_some_iff.1 hf
    exact v.raw.wellSpelt_form
  | data =>
    obtain rfl := Option.some.inj hf
    exact Raw.wellSpelt_form _
  | contentType =>
    obtain ⟨ct, -, rfl⟩ := Option.map_eq_some_iff.1 hf
    exact wellSpelt_piecesOf _
  | id | type | level | occurredAt =>
    obtain rfl := Option.some.inj hf
    exact wellSpelt_piecesOf _

/-- The text of an entry is taken apart into its spelling. -/
theorem parse?_of_text (e : Entry) : parse? e.text = ofForm? e.form := by
  rw [parse?, text, String.toList_ofList, Form.ofChars?_chars e.wellSpelt_form]
  rfl

/-- What is read from the member of a value that may be absent is absent only if the value is. -/
theorem isSome_present?_of_readValue {o : Option Json} {w : Json}
    (hpresent : ∀ v, o = some v → v.isNull = false)
    (h : optional .null readValue (o.map fun v => v.raw.form) = some w) :
    w.present?.isSome = o.isSome := by
  cases o with
  | none =>
    obtain rfl := Option.some.inj h
    rfl
  | some v =>
    have hnull : w.isNull = false := (isNull_of_value?_form h).trans (hpresent v rfl)
    rw [present?_eq_some hnull]
    rfl

/-- A value that may be absent is read back if it has room and its binary numbers read back. -/
theorem readValue_form {o : Option Json} (hdepth : ∀ v, o = some v → v.depth ≤ memberRoom)
    (hfloats : ∀ x ∈ valueFloats o, x.ReadsBack) :
    optional .null readValue (o.map fun v => v.raw.form) = some (o.getD .null) := by
  cases o with
  | none => rfl
  | some v => exact value?_form_iff.2 ⟨hdepth v rfl, hfloats⟩

/-- If the value that is read back is equal, then it had room and its binary numbers read back. -/
theorem readsBack_of_readValue {o : Option Json} {w : Json}
    (h : optional .null readValue (o.map fun v => v.raw.form) = some w)
    (hsame : sameValue w.present? o = true) :
    (∀ v, o = some v → v.depth ≤ memberRoom) ∧ ∀ x ∈ valueFloats o, x.ReadsBack := by
  cases o with
  | none => exact ⟨nofun, List.forall_mem_nil _⟩
  | some v =>
    obtain ⟨w', hw', hsame⟩ : ∃ w', w.present? = some w' ∧ (w' == v) = true := by
      cases hw : w.present? with
      | none => rw [hw] at hsame; cases hsame
      | some w' => rw [hw] at hsame; exact ⟨w', rfl, hsame⟩
    obtain ⟨-, rfl⟩ := present?_eq_some_iff.1 hw'
    obtain ⟨hdepth, hfloats⟩ := readsBack_of_beq h hsame
    exact ⟨fun _ hv => Option.some.inj hv ▸ hdepth, hfloats⟩

theorem sameValue_self (o : Option Json) : sameValue o o = true := by
  cases o with
  | none => rfl
  | some v => exact beq_iff.2 rfl

theorem forall_mem_floats {e : Entry} {p : Binary64 → Prop} :
    (∀ x ∈ e.floats, p x) ↔ (∀ x ∈ valueFloats e.user, p x) ∧
      (∀ x ∈ valueFloats e.object, p x) ∧ ∀ x ∈ e.data.floats, p x := by
  rw [floats, List.forall_mem_append, List.forall_mem_append, and_assoc]

theorem readPayload_eq_some_iff {f : Form} {p : Payload} :
    readPayload f = some p ↔ f.value? memberRoom = some (Json.object p) := by
  simp only [readPayload, Option.bind_eq_bind, Option.bind_eq_some_iff,
    Payload.payload?_eq_some_iff, exists_eq_right]

/-- An entry is read back from its text as it is. -/
theorem parse?_text_self {e : Entry} (h : e.IsReadable) (hfloats : ∀ x ∈ e.floats, x.ReadsBack) :
    parse? e.text = some e := by
  have hnests := depth_form_le_iff.1 h.depth
  obtain ⟨huser, hobject, hdata⟩ := forall_mem_floats.1 hfloats
  have hct : optional none readContentType (e.contentType.map fun ct => textForm ct.key) =
      some e.contentType := by
    cases hct : e.contentType with
    | none => rfl
    | some ct =>
      rw [Option.map_some, optional, readContentType_key,
        ContentType.parse?_key_iff.2 (h.ofKey ct hct), Option.map_some]
  rw [parse?_of_text, ofForm?_form_eq_some_iff]
  refine ⟨e.user.getD .null, e.object.getD .null, e.contentType, e.data,
    readValue_form hnests.user huser, readValue_form hnests.object hobject, hct,
    readPayload_eq_some_iff.2 (value?_form_iff.2 ⟨hnests.data, hdata⟩), ?_⟩
  have hpresent {o : Option Json} (ho : ∀ v, o = some v → v.isNull = false) :
      (o.getD .null).present? = o := by
    cases o with
    | none => rfl
    | some v => exact present?_eq_some (ho v rfl)
  simp only [Entry.withData, Entry.withObject, Entry.withUser, Entry.withId, Entry.atInstant,
    Entry.ofType, hpresent e.user_present, hpresent e.object_present]

/-- An entry that is read back as an equal one has all that it takes. -/
theorem isReadable_of_parse?_text {e e' : Entry} (h : parse? e.text = some e')
    (hsame : (e' == e) = true) : e.IsReadable ∧ ∀ x ∈ e.floats, x.ReadsBack := by
  rw [parse?_of_text, ofForm?_form_eq_some_iff] at h
  obtain ⟨user, object, contentType, data, hu, ho, hct, hd, rfl⟩ := h
  have hparts : Entry.same _ e = true := hsame
  simp only [Entry.same, Entry.withData, Entry.withObject, Entry.withUser, Entry.withId,
    Entry.atInstant, Bool.and_eq_true, decide_eq_true_eq] at hparts
  obtain ⟨⟨⟨⟨-, husame⟩, hosame⟩, hctsame⟩, hdsame⟩ := hparts
  obtain ⟨hudepth, hufloats⟩ := readsBack_of_readValue hu husame
  obtain ⟨hodepth, hofloats⟩ := readsBack_of_readValue ho hosame
  obtain ⟨hddepth, hdfloats⟩ :=
    readsBack_of_beq (readPayload_eq_some_iff.1 hd) (Payload.beq_iff.1 hdsame)
  refine ⟨⟨fun ct he => ?_, depth_form_le_iff.2 ⟨hudepth, hodepth, hddepth⟩⟩,
    forall_mem_floats.2 ⟨hufloats, hofloats, hdfloats⟩⟩
  rw [hctsame, he, Option.map_some, optional, readContentType_key] at hct
  obtain ⟨ct', hparse, heq⟩ := Option.map_eq_some_iff.1 hct
  obtain rfl := Option.some.inj heq
  exact ContentType.parse?_key_iff.1 hparse

/-- What is absent stays absent, and what is present stays present. -/
theorem isSome_of_parse?_text {e e' : Entry} (h : parse? e.text = some e') :
    e'.user.isSome = e.user.isSome ∧ e'.object.isSome = e.object.isSome ∧
      e'.contentType.isSome = e.contentType.isSome := by
  rw [parse?_of_text, ofForm?_form_eq_some_iff] at h
  obtain ⟨user, object, contentType, data, hu, ho, hct, -, rfl⟩ := h
  refine ⟨isSome_present?_of_readValue e.user_present hu,
    isSome_present?_of_readValue e.object_present ho, ?_⟩
  cases he : e.contentType with
  | none =>
    rw [he] at hct
    obtain rfl := Option.some.inj hct
    rfl
  | some ct =>
    rw [he, Option.map_some, optional, readContentType_key] at hct
    obtain ⟨ct', -, rfl⟩ := Option.map_eq_some_iff.1 hct
    rfl

theorem depth_of_readValue {o : Option Form} {v : Json}
    (h : optional .null readValue o = some v) : v.depth ≤ memberRoom := by
  cases o with
  | none => exact Option.some.inj h ▸ Nat.zero_le _
  | some f => exact (Form.depth_of_value? h).2

theorem depth_of_readPayload {o : Option Form} {p : Payload}
    (h : optional .empty readPayload o = some p) : (Json.object p).depth ≤ memberRoom := by
  cases o with
  | none => exact Option.some.inj h ▸ (by decide : (Json.object .empty).depth ≤ memberRoom)
  | some f => exact (Form.depth_of_value? (readPayload_eq_some_iff.1 h)).2

/-- A content type that was read is one of the key that was read, so it is read back. -/
theorem isOfKey_of_readContentType {o : Option Form} {ct : ContentType}
    (h : optional none readContentType o = some (some ct)) : ct.IsOfKey := by
  cases o with
  | none => cases h
  | some f =>
    rw [optional] at h
    unfold readContentType at h
    split at h
    · cases h
    · simp only [Option.bind_eq_bind, Option.bind_eq_some_iff, Option.pure_def,
        Option.some.injEq] at h
      obtain ⟨key, -, ct', hparse, rfl⟩ := h
      exact (ContentType.parse?_eq_some_iff.1 hparse).1

/-- An entry that was read from a text, in whatever spelling, can be read from its own. -/
theorem isReadable_of_parse? {s : String} {e : Entry} (h : parse? s = some e) : e.IsReadable := by
  simp only [parse?, ofForm?, Option.bind_eq_bind, Option.bind_eq_some_iff,
    ofFields?_eq_some_iff] at h
  obtain ⟨-, -, fields, -, id, type, level, t, user, object, contentType, data, -, -, -, -, hu, ho,
    hct, hd, rfl⟩ := h
  refine ⟨fun ct he => ?_, depth_form_le_iff.2 ⟨fun v hv => ?_, fun v hv => ?_, ?_⟩⟩
  · obtain rfl : contentType = some ct := he
    exact isOfKey_of_readContentType hct
  · obtain ⟨-, rfl⟩ := present?_eq_some_iff.1 hv
    exact depth_of_readValue hu
  · obtain ⟨-, rfl⟩ := present?_eq_some_iff.1 hv
    exact depth_of_readValue ho
  · exact depth_of_readPayload hd

/-- An entry is read back from its text exactly if its content type is one of its own key, the text
does not nest too deep, and the binary numbers read back. Then it is read back as it is, so that
its text stays the same. Whatever is read back, what is absent stays absent. An entry that was read
from some text is read back from its own. -/
theorem text_roundtrip (e : Entry) :
    ((∃ e', parse? e.text = some e' ∧ (e' == e) = true) ↔
      e.IsReadable ∧ ∀ x ∈ e.floats, x.ReadsBack) ∧
    (∀ e', parse? e.text = some e' →
      e'.user.isSome = e.user.isSome ∧ e'.object.isSome = e.object.isSome ∧
        e'.contentType.isSome = e.contentType.isSome ∧
        ((e' == e) = true ↔ e' = e)) ∧
    ∀ s, parse? s = some e → (∀ x ∈ e.floats, x.ReadsBack) →
      parse? e.text = some e ∧ (parse? e.text).map text = some e.text := by
  have hself : (e == e) = true := by
    change Entry.same e e = true
    simp [Entry.same, sameValue_self, Payload.beq_iff, beq_iff]
  refine ⟨⟨?_, ?_⟩, fun e' h => ?_, fun s h hfloats => ?_⟩
  · rintro ⟨e', h, hsame⟩
    exact isReadable_of_parse?_text h hsame
  · rintro ⟨hreadable, hfloats⟩
    exact ⟨e, parse?_text_self hreadable hfloats, hself⟩
  · obtain ⟨huser, hobject, hcontentType⟩ := isSome_of_parse?_text h
    refine ⟨huser, hobject, hcontentType, fun hsame => ?_, ?_⟩
    · obtain ⟨hreadable, hfloats⟩ := isReadable_of_parse?_text h hsame
      exact Option.some.inj (h.symm.trans (parse?_text_self hreadable hfloats))
    · rintro rfl
      exact hself
  · have hparse := parse?_text_self (isReadable_of_parse? h) hfloats
    exact ⟨hparse, by rw [hparse, Option.map_some]⟩

/-- An entry in the leap second at the end of time, with nested values and a binary number. -/
def nested : Entry :=
  { ((((Entry.ofType "a \"b\"\n" .critical .epoch).atInstant .beyondLast).withUser
    (.array [.null, .string "é", .object (.insert .empty "" (.bool true))])).withField "x"
      ⟨.number (.float Row.half), trivial⟩).withField "null" .null with
    contentType := some ⟨"a.b", "C"⟩ }

theorem text_roundtrip_nested :
    nested.IsReadable ∧ (∀ x ∈ nested.floats, x.ReadsBack) ∧
      (∃ e', parse? nested.text = some e' ∧ (e' == nested) = true ∧ e'.object = none) ∧
      (parse? nested.text).map text = some nested.text := by
  have hnests : nested.NestsIn memberRoom := by
    refine ⟨?_, ?_, by decide +kernel⟩
    · rintro _ ⟨⟩
      decide +kernel
    · rintro _ ⟨⟩
  have hdepth := depth_form_le_iff.2 hnests
  have hreadable : nested.IsReadable := by
    refine ⟨?_, hdepth⟩
    rintro _ ⟨⟩
    exact ⟨by decide, by decide, by decide⟩
  have hfloats : ∀ x ∈ nested.floats, x.ReadsBack := by decide +kernel
  obtain ⟨hback, habsent, htext⟩ := text_roundtrip nested
  obtain ⟨e', he', hsame⟩ := hback.2 ⟨hreadable, hfloats⟩
  obtain ⟨-, hobject, -, heq⟩ := habsent e' he'
  have hparse : parse? nested.text = some nested := he'.trans (congrArg some (heq.1 hsame))
  obtain ⟨-, hsecond⟩ := htext nested.text hparse hfloats
  have hnone := Option.isNone_iff_eq_none.1 (Option.isSome_eq_false_iff.1 hobject)
  exact ⟨hreadable, hfloats, ⟨e', he', hsame, hnone⟩, hsecond⟩

end Entry

end AuditTrail
