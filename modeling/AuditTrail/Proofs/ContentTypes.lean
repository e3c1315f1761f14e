import AuditTrail.Proofs.Command.Meant
import AuditTrail.Proofs.ContentType
import AuditTrail.Proofs.Row.Normal
import AuditTrail.Registry.Basic
import Mathlib.Data.Finset.Dedup

/-!
# The last registration counts

* `ContentTypes.find?_insert`, `ContentTypes.resolve_insertAll`: what is found after registrations.
* `ContentTypes.registerKeys_fst`, `ContentTypes.registerKeys_snd`: keys are registered up to the
  first text that is none (`ContentTypes.leading`).
* `ContentTypes.Call`, `ContentTypes.runAll`: calls one after the other, and
  `ContentTypes.registered` what they register.
* `Registry.resolve_of_ofConfig`: the table that settings give.
* `ContentTypes.last_registration_counts`: the table is a map (`ContentTypes.IsLastMap`), keys are
  registered up to the first text that is none (`ContentTypes.RegistersUpTo`), and the table of
  settings reads its keys (`ContentTypes.ReadsKeys`).
-/

namespace AuditTrail

namespace ContentTypes

variable {t : ContentTypes} {key : String}

/-! ## One registration -/

/-- A registration changes what is found under its own key. -/
theorem find?_insert (t : ContentTypes) (r : Registration) (key : String) :
    (t.insert r).find? key = if r.key = key then some r else t.find? key := by
  have hothers : (t.registrations.filter fun q => q.key ≠ r.key).find? (fun q => q.key = key) =
      if r.key = key then none else t.find? key := by
    rw [List.find?_filter, find?]
    split
    · next h =>
      rw [List.find?_eq_none]
      intro q _
      simp [h]
    · next h =>
      congr 1
      funext q
      by_cases hq : q.key = key
      · simp [hq, Ne.symm h]
      · simp [hq]
  rw [find?, insert, List.find?_append, hothers]
  by_cases h : r.key = key <;> simp [h]

theorem resolve_insert (t : ContentTypes) (r : Registration) (key : String) :
    (t.insert r).resolve key =
      if r.contentType.key = key then some r.contentType else t.resolve key := by
  rw [resolve, find?_insert, apply_ite (Option.map _)]
  rfl

theorem contains_eq (t : ContentTypes) (key : String) :
    t.contains key = (t.resolve key).isSome := by
  rw [contains, resolve, Option.isSome_map]

theorem contains_iff_mem_keys : t.contains key = true ↔ key ∈ t.keys := by
  simp [contains, find?, keys]

theorem size_eq (t : ContentTypes) : t.size = t.keys.toFinset.card := by
  rw [keys, List.toFinset_card_of_nodup t.nodup, List.length_map, size]

/-! ## Many registrations -/

/-- The table after registrations one after the other. -/
def insertAll (t : ContentTypes) (rs : List Registration) : ContentTypes := rs.foldl insert t

/-- The last registration of a key counts. -/
theorem resolve_insertAll (t : ContentTypes) (rs : List Registration) (key : String) :
    (t.insertAll rs).resolve key =
      ((rs.map Registration.contentType).reverse.find? fun ct => ct.key = key).or
        (t.resolve key) := by
  induction rs generalizing t with
  | nil => rfl
  | cons r rs ih =>
    rw [insertAll, List.foldl_cons, ← insertAll, ih, resolve_insert, List.map_cons,
      List.reverse_cons, List.find?_append, Option.or_assoc]
    by_cases h : r.contentType.key = key <;> simp [h]

/-- The content types of the keys in front of the first text that is none. -/
def leading : List String → List ContentType
  | [] => []
  | key :: keys =>
    match ContentType.parse? key with
    | some ct => ct :: leading keys
    | none => []

/-- The registration of a key. -/
def untyped (ct : ContentType) : Registration := ⟨ct, .untyped .empty⟩

theorem registerKeys_snd (t : ContentTypes) (keys : List String) :
    (t.registerKeys keys).2 = t.insertAll ((leading keys).map untyped) := by
  induction keys generalizing t with
  | nil => rfl
  | cons key keys ih =>
    rw [registerKeys, leading]
    cases ContentType.parse? key with
    | none => rfl
    | some ct => exact ih _

/-- Keys are registered up to the first text that is none, which is reported. -/
theorem registerKeys_fst (t : ContentTypes) (keys : List String) :
    ∃ front, List.Forall₂ (fun s ct => ContentType.KeyOf ct s) front (leading keys) ∧
      (keys = front ∧ (t.registerKeys keys).1 = .ok () ∨
        ∃ s back, keys = front ++ s :: back ∧ ¬ ContentType.IsKey s ∧
          (t.registerKeys keys).1 = .error (.invalidInput (.malformedKey s))) := by
  induction keys generalizing t with
  | nil => exact ⟨[], .nil, .inl ⟨rfl, rfl⟩⟩
  | cons key keys ih =>
    rw [registerKeys, leading]
    cases hparse : ContentType.parse? key with
    | none =>
      exact ⟨[], .nil, .inr ⟨key, keys, rfl, ContentType.parse?_eq_none_iff.1 hparse, rfl⟩⟩
    | some ct =>
      obtain ⟨front, hfront, hresult⟩ := ih (t.registerKey ct)
      refine ⟨key :: front, .cons (ContentType.parse?_eq_some_iff.1 hparse) hfront, ?_⟩
      rcases hresult with ⟨rfl, hok⟩ | ⟨s, back, rfl, hs, herror⟩
      · exact .inl ⟨rfl, hok⟩
      · exact .inr ⟨s, back, rfl, hs, herror⟩

/-! ## Calls -/

/-- What can be done to a table. -/
inductive Call
  | register (ct : ContentType) (value : Json)
  | registerKey (ct : ContentType)
  | registerKeys (keys : List String)

/-- The table after a call. -/
def run (t : ContentTypes) : Call → ContentTypes
  | .register ct value => t.register ct value
  | .registerKey ct => t.registerKey ct
  | .registerKeys keys => (t.registerKeys keys).2

/-- The table after calls one after the other. -/
def runAll (t : ContentTypes) (calls : List Call) : ContentTypes := calls.foldl run t

/-- The registrations of a call. -/
def Call.registrations : Call → List Registration
  | .register ct value => [⟨ct, .typed value⟩]
  | .registerKey ct => [untyped ct]
  | .registerKeys keys => (leading keys).map untyped

/-- The content types that calls register, one after the other. -/
def registered (calls : List Call) : List ContentType :=
  (calls.flatMap Call.registrations).map Registration.contentType

theorem run_eq (t : ContentTypes) (call : Call) : t.run call = t.insertAll call.registrations := by
  cases call with
  | register ct value => rfl
  | registerKey ct => rfl
  | registerKeys keys => exact t.registerKeys_snd keys

theorem runAll_eq (t : ContentTypes) (calls : List Call) :
    t.runAll calls = t.insertAll (calls.flatMap Call.registrations) := by
  induction calls generalizing t with
  | nil => rfl
  | cons call calls ih =>
    rw [runAll, List.foldl_cons, ← runAll, ih, run_eq, List.flatMap_cons, insertAll, insertAll,
      insertAll, List.foldl_append]

theorem resolve_runAll (t : ContentTypes) (calls : List Call) (key : String) :
    (t.runAll calls).resolve key =
      ((registered calls).reverse.find? fun ct => ct.key = key).or (t.resolve key) := by
  rw [runAll_eq, resolve_insertAll, registered]

theorem resolve_empty (key : String) : empty.resolve key = none := rfl

/-- The registered keys are those of the content types that were registered. -/
theorem toFinset_keys_runAll (calls : List Call) :
    (empty.runAll calls).keys.toFinset = ((registered calls).map ContentType.key).toFinset := by
  ext key
  rw [List.mem_toFinset, ← contains_iff_mem_keys, contains_eq, resolve_runAll, resolve_empty,
    Option.or_none, List.find?_isSome]
  simp

/-- What is registered stays registered. -/
theorem contains_runAll (calls : List Call) (h : t.contains key = true) :
    (t.runAll calls).contains key = true := by
  rw [contains_eq] at h
  rw [contains_eq, resolve_runAll, Option.isSome_or, h, Bool.or_true]

end ContentTypes

/-! ## The table of a registry -/

open ContentTypes

variable {c : Config} {s s' : System} {registry : Registry}

/-- The table that settings give holds the content types of their keys, all of which are keys. -/
theorem Registry.contentTypes_of_ofConfig (h : ofConfig c s = (.ok registry, s')) :
    registry.contentTypes = ContentTypes.empty.runAll [.registerKeys c.contentTypes] := by
  have hkeys : ContentTypes.empty.runAll [.registerKeys c.contentTypes] =
      (ContentTypes.empty.registerKeys c.contentTypes).2 := rfl
  rw [hkeys]
  unfold ofConfig at h
  cases hresult : ContentTypes.empty.registerKeys c.contentTypes with
  | mk outcome types =>
    rw [hresult] at h
    cases outcome with
    | error err => cases congrArg Prod.fst h
    | ok _ =>
      obtain ⟨backend, -, rfl⟩ := map_eq_ok.1 (congrArg Prod.fst h)
      rfl

theorem ContentTypes.isOfKey_of_mem_leading {keys : List String} {ct : ContentType}
    (h : ct ∈ leading keys) : ct.IsOfKey := by
  induction keys with
  | nil => cases h
  | cons key keys ih =>
    rw [leading] at h
    cases hparse : ContentType.parse? key with
    | none => simp [hparse] at h
    | some ct' =>
      rw [hparse] at h
      rcases List.mem_cons.1 h with rfl | h
      · exact (ContentType.parse?_eq_some_iff.1 hparse).1
      · exact ih h

/-- A table of keys finds the content type that a key is read as. -/
theorem Registry.resolve_of_ofConfig (h : ofConfig c s = (.ok registry, s')) {key : String}
    (hkey : registry.contentTypes.contains key = true) :
    registry.contentTypes.resolve key = ContentType.parse? key := by
  rw [contains_eq, contentTypes_of_ofConfig h, resolve_runAll, resolve_empty,
    Option.or_none] at hkey
  rw [contentTypes_of_ofConfig h, resolve_runAll, resolve_empty, Option.or_none]
  obtain ⟨ct, hct⟩ := Option.isSome_iff_exists.1 hkey
  have hmem : ct ∈ leading c.contentTypes := by
    have := List.mem_reverse.1 (List.mem_of_find?_eq_some hct)
    simpa [registered, Call.registrations, untyped, Function.comp_def] using this
  rw [hct, eq_comm, ContentType.parse?_eq_some_iff]
  exact ⟨isOfKey_of_mem_leading hmem, by simpa using List.find?_some hct⟩

/-- A content type that is given with a recording is read back from its column. -/
theorem Registry.readContentType_of_ofConfig (h : ofConfig c s = (.ok registry, s'))
    {r : Recording} {now : Instant} {e : Entry}
    (he : r.toEntry registry.contentTypes now = .ok e) :
    Row.readContentType registry.contentTypes (Row.ofEntry e).contentType = .ok e.contentType := by
  have hmeans := (Recording.toEntry_eq_ok_iff.1 he).contentType
  rw [Row.ofEntry]
  cases hgiven : r.contentType with
  | none =>
    rw [hgiven] at hmeans
    rw [show e.contentType = none from hmeans]
    rfl
  | some key =>
    rw [hgiven] at hmeans
    obtain ⟨hcontains, ct, hparse, hkey, hct⟩ := hmeans
    have hresolve := (resolve_of_ofConfig h hcontains).trans hparse
    rw [hct, Option.map_some, hkey, Row.readContentType, hresolve]

namespace ContentTypes

/-- After calls, the table is a map in which the last registration of a key counts. -/
structure IsLastMap (calls : List Call) : Prop where
  resolve : ∀ key, (empty.runAll calls).resolve key =
    (registered calls).reverse.find? fun ct => ct.key = key
  key : ∀ key ct, (empty.runAll calls).resolve key = some ct → ct.key = key
  contains : ∀ key, (empty.runAll calls).contains key = true ↔
    ((empty.runAll calls).resolve key).isSome = true
  size : (empty.runAll calls).size = ((registered calls).map ContentType.key).toFinset.card
  stays : ∀ key more, (empty.runAll calls).contains key = true →
    (empty.runAll (calls ++ more)).contains key = true

/-- Texts that are registered at once are registered in order, up to the first one that is no key,
which is reported. -/
structure RegistersUpTo (t : ContentTypes) (texts front : List String) : Prop where
  keys : List.Forall₂ (fun s ct => ContentType.KeyOf ct s) front (leading texts)
  table : (t.registerKeys texts).2 = (leading texts).foldl registerKey t
  outcome : texts = front ∧ (t.registerKeys texts).1 = .ok () ∨
    ∃ s back, texts = front ++ s :: back ∧ ¬ ContentType.IsKey s ∧
      (t.registerKeys texts).1 = .error (.invalidInput (.malformedKey s))

/-- In the table a key stands for what it is read as, so that recorded content types are read back
from rows. -/
structure ReadsKeys (t : ContentTypes) : Prop where
  resolve : ∀ key, t.contains key = true → t.resolve key = ContentType.parse? key
  column : ∀ (r : Recording) (now : Instant) (e : Entry), r.toEntry t now = .ok e →
    Row.readContentType t (Row.ofEntry e).contentType = .ok e.contentType
  row : ∀ (r : Recording) (now : Instant) (e e' : Entry), r.toEntry t now = .ok e →
    (Row.ofEntry e).toEntry t = .ok e' → e'.contentType = e.contentType

theorem isLastMap (calls : List Call) : IsLastMap calls where
  resolve key := by rw [resolve_runAll, resolve_empty, Option.or_none]
  key key ct := key_of_resolve
  contains key := by rw [contains_eq]
  size := by rw [size_eq, toFinset_keys_runAll]
  stays key more hkey := by
    rw [runAll, List.foldl_append]
    exact contains_runAll more hkey

theorem exists_registersUpTo (t : ContentTypes) (texts : List String) :
    ∃ front, RegistersUpTo t texts front := by
  obtain ⟨front, hfront, houtcome⟩ := t.registerKeys_fst texts
  refine ⟨front, hfront, ?_, houtcome⟩
  rw [registerKeys_snd, insertAll, List.foldl_map]
  rfl

theorem readsKeys_of_ofConfig (h : Registry.ofConfig c s = (.ok registry, s')) :
    ReadsKeys registry.contentTypes where
  resolve key := Registry.resolve_of_ofConfig h
  column r now e := Registry.readContentType_of_ofConfig h
  row r now e e' he he' := by
    obtain ⟨_, _, _, contentType, _, -, -, -, hct, -, rfl⟩ := Row.toEntry_ofEntry_eq_ok_iff.1 he'
    exact Except.ok.inj (hct.symm.trans (Registry.readContentType_of_ofConfig h he))

/-- The last registration of a key counts, keys that are registered at once are registered up to the
first text that is none, and the table that settings give reads its keys. -/
theorem last_registration_counts :
    (∀ calls, IsLastMap calls) ∧
    (∀ (t : ContentTypes) (texts : List String), ∃ front, RegistersUpTo t texts front) ∧
    ∀ (c : Config) (s s' : System) (registry : Registry),
      Registry.ofConfig c s = (.ok registry, s') → ReadsKeys registry.contentTypes :=
  ⟨isLastMap, exists_registersUpTo, fun _ _ _ _ => readsKeys_of_ofConfig⟩

/-- Settings with a key of three parts and one that is given twice. -/
theorem last_registration_counts_dotted :
    ∃ registry s', Registry.ofConfig { Config.initial "audit.db" with
        contentTypes := ["shop.Order", "a.b.C", "shop.Order"] } default = (.ok registry, s') ∧
      registry.contentTypes.keys = ["a.b.C", "shop.Order"] ∧
      registry.contentTypes.resolve "a.b.C" = some ⟨"a.b", "C"⟩ := by
  have hkeys : empty.registerKeys ["shop.Order", "a.b.C", "shop.Order"] =
      (.ok (), empty.runAll [.registerKey ⟨"shop", "Order"⟩, .registerKey ⟨"a.b", "C"⟩,
        .registerKey ⟨"shop", "Order"⟩]) := by
    have hshop : ContentType.parse? "shop.Order" = some ⟨"shop", "Order"⟩ := by decide
    have hdotted : ContentType.parse? "a.b.C" = some ⟨"a.b", "C"⟩ := by decide
    simp only [registerKeys, hshop, hdotted]
    rfl
  have hconfig : ∃ s', Registry.ofConfig { Config.initial "audit.db" with
      contentTypes := ["shop.Order", "a.b.C", "shop.Order"] } default =
        (.ok (.around .openMemory (empty.runAll [.registerKey ⟨"shop", "Order"⟩,
          .registerKey ⟨"a.b", "C"⟩, .registerKey ⟨"shop", "Order"⟩])), s') := by
    simp only [Registry.ofConfig, hkeys]
    exact ⟨_, rfl⟩
  obtain ⟨s', hconfig⟩ := hconfig
  refine ⟨_, s', hconfig, by decide, ?_⟩
  exact ((last_registration_counts.2.2 _ _ _ _ hconfig).resolve "a.b.C" (by decide)).trans
    (by decide)

/-- Two content types can have one key. -/
example : (empty.runAll [.registerKey ⟨"a.b", "C"⟩, .registerKey ⟨"a", "b.C"⟩,
    .registerKeys ["a.C", "a.", "b.C"]]).resolve "a.b.C" = some ⟨"a", "b.C"⟩ := by
  decide

end ContentTypes

end AuditTrail
