import AuditTrail.Command.Basic
import AuditTrail.Proofs.Backend.Contents
import AuditTrail.Proofs.ContentType
import AuditTrail.Proofs.Readable
import Mathlib.Algebra.Order.BigOperators.Group.List

/-!
# What a person records

* `Instant.not_isBeyondLast_of_parse`: no text names the leap second at the end of time.
* `Json.depth_loose`: values that were read from texts.
* `Recording.payload`: the payload that the texts of a recording mean.
* `Recording.admissible_of_toEntry`, `Recording.payload_of_toEntry`: the row of an entry that a
  person gives can be read unless its payload nests too deep.
-/

namespace AuditTrail

open Text

/-! ## Instants -/

namespace Instant

theorem lt_of_takeNumber {n k : Nat} {cs rest : List Char} (h : takeNumber n cs = .ok (k, rest)) :
    k < 10 ^ n := by
  unfold takeNumber at h
  split at h
  · next hdigits =>
    obtain ⟨hlength, hall⟩ := hdigits
    obtain ⟨rfl, -⟩ := Prod.mk.inj (Except.ok.inj h)
    have := ofDigits_lt (List.all_eq_true.1 hall)
    rwa [hlength] at this
  · cases h

/-- Up to the end of the year 9999 there are 2932897 days. -/
theorem dayNumber_le {d : Date} (hyear : d.year ≤ 9999) : d.dayNumber ≤ 2932897 + d.day := by
  have hmonths : ((Date.monthLengths (Date.isLeap d.year)).take (d.month - 1)).sum ≤ 366 := by
    refine Nat.le_trans ((List.take_sublist _ _).sum_le_sum fun _ _ => Nat.zero_le _) ?_
    cases Date.isLeap d.year <;> decide
  have hstart : Date.yearStart d.year ≤ Date.yearStart 9999 := by
    unfold Date.yearStart
    omega
  have hend : Date.yearStart 9999 - Date.epoch + 366 ≤ 2932897 + 1 := by decide
  unfold Date.dayNumber
  omega

theorem second_of_assemble {date : Date} {hour minute second nano : Nat} {offset : Int}
    {t : Instant} (h : assemble date hour minute second nano offset = .ok t) :
    t.second ≤ date.dayNumber * 86400 + (hour * 3600 + minute * 60 + second : Nat) + 86400 := by
  unfold assemble at h
  simp only at h
  split at h
  · next t' ht =>
    split at h
    · next hoffset =>
      obtain rfl := Except.ok.inj h
      rw [ofLocal?, ofParts?_eq_some_iff] at ht
      rw [ht.1]
      split <;> omega
    · cases h
  · cases h

theorem ite_throw_eq_ok {ε α β : Type} {c : Prop} [Decidable c] {e : ε} {f : α → Except ε β}
    {x : Except ε β} {b : β} :
    (if c then throw e >>= f else x) = .ok b ↔ ¬ c ∧ x = .ok b := by
  split
  · next hc => simp [hc, throw, throwThe, MonadExceptOf.throw, bind, Except.bind]
  · next hc => simp [hc]

/-- A text has four digits for the year, so no instant that is read is near the end of time. -/
theorem not_isBeyondLast_of_parse {s : String} {t : Instant} (h : parse s = .ok t) :
    ¬ t.IsBeyondLast := by
  rw [parse, parseChars] at h
  simp only [ite_throw_eq_ok, bind_eq_ok, Prod.exists] at h
  obtain ⟨-, year, _, hyear, _, -, month, _, -, _, -, day, _, hday, -, _, -, hour, _, hhour, _, -,
    minute, _, hminute, _, -, second, _, hsecond, nano, _, -, -, offset, _, -, -, ht⟩ := h
  have hyear := lt_of_takeNumber hyear
  have hday := lt_of_takeNumber hday
  have hhour := lt_of_takeNumber hhour
  have hminute := lt_of_takeNumber hminute
  have hsecond := lt_of_takeNumber hsecond
  have hdate : Date.dayNumber ⟨year, month, day⟩ ≤ 2932897 + day :=
    dayNumber_le (d := ⟨year, month, day⟩) (by simp only; omega)
  have hbound := second_of_assemble ht
  rintro ⟨-, hend⟩
  omega

theorem not_isBeyondLast_truncated {t : Instant} (h : ¬ t.IsBeyondLast) :
    ¬ t.truncated.IsBeyondLast := by
  rintro ⟨hleap, hlast⟩
  have hnano : 1000000000 ≤ t.nano - t.nano % 1000 := of_decide_eq_true hleap
  exact h ⟨decide_eq_true (by omega), hlast⟩

end Instant

/-! ## Values -/

theorem Json.depth_loose (s : String) : (Json.loose s).depth ≤ maxDepth := by
  unfold Json.loose
  cases h : parse? s with
  | none => exact Nat.zero_le _
  | some v => exact depth_of_parse? h

/-! ## Entries -/

namespace Entry

variable {types : ContentTypes} {e : Entry}

namespace Admissible

theorem ofType (type : String) (level : Level) {t : Instant} (h : ¬ t.IsBeyondLast) :
    (Entry.ofType type level t).Admissible types :=
  ⟨Instant.not_isBeyondLast_truncated h, nofun, nofun, nofun⟩

theorem withId (h : e.Admissible types) (id : EntryId) : (e.withId id).Admissible types :=
  ⟨h.instant, h.contentType, h.user, h.object⟩

theorem withTimestamp (h : e.Admissible types) {t : Instant} (ht : ¬ t.IsBeyondLast) :
    (e.withTimestamp t).Admissible types :=
  ⟨Instant.not_isBeyondLast_truncated ht, h.contentType, h.user, h.object⟩

theorem withUser (h : e.Admissible types) (s : String) :
    (e.withUser (.loose s)).Admissible types := by
  refine ⟨h.instant, h.contentType, fun v hv => ?_, h.object⟩
  obtain ⟨-, rfl⟩ := Json.present?_eq_some_iff.1 hv
  exact Json.depth_loose s

theorem withObject (h : e.Admissible types) (s : String) :
    (e.withObject (.loose s)).Admissible types := by
  refine ⟨h.instant, h.contentType, h.user, fun v hv => ?_⟩
  obtain ⟨-, rfl⟩ := Json.present?_eq_some_iff.1 hv
  exact Json.depth_loose s

theorem withContentType (h : e.Admissible types) {ct : ContentType}
    (hct : types.contains ct.key = true) : (e.withContentType ct).Admissible types := by
  refine ⟨h.instant, ?_, h.user, h.object⟩
  rintro _ ⟨⟩
  exact hct

theorem withData (h : e.Admissible types) (data : Payload) : (e.withData data).Admissible types :=
  ⟨h.instant, h.contentType, h.user, h.object⟩

end Admissible

end Entry

namespace Recording

variable {types : ContentTypes} {e e' : Entry} {r : Recording} {now : Instant}

/-- The payload with more members. -/
def insertFields : List String → Payload → Except CommandFault Payload
  | [], p => .ok p
  | s :: fields, p => do
    let (key, value) ← readField s
    insertFields fields (p.insert key value)

/-- The payload that is meant. -/
def payload (r : Recording) : Except CommandFault Payload := do
  let p ← match r.data with
    | none => .ok .empty
    | some s => readPayload s
  insertFields r.fields p

theorem parse_of_readInstant {s : String} {t : Instant} (h : readInstant s = .ok t) :
    Instant.parse s = .ok t := by
  unfold readInstant at h
  cases ht : Instant.parse s with
  | error f => rw [ht] at h; cases h
  | ok t' => rw [ht] at h; exact congrArg Except.ok (Except.ok.inj h)

theorem contains_of_readContentType {s : String} {ct : ContentType}
    (h : readContentType types s = .ok ct) : types.contains ct.key = true := by
  unfold readContentType at h
  split at h
  · next hcontains =>
    split at h
    · next ct' hparse =>
      obtain rfl := Except.ok.inj h
      rwa [ContentType.key_of_parse? hparse]
    · cases h
  · cases h

/-- What holds of an entry holds of the entry with what a text gives. -/
theorem given_induction {α : Type} {read : String → Except CommandFault α} {put : Entry → α → Entry}
    {text : Option String} {P : Entry → Prop} (h : given read put text e = .ok e') (he : P e)
    (hput : ∀ s a, read s = .ok a → P (put e a)) : P e' := by
  cases text with
  | none => exact Except.ok.inj h ▸ he
  | some s =>
    rw [given] at h
    cases hread : read s with
    | error f => rw [hread] at h; cases h
    | ok a =>
      rw [hread] at h
      exact Except.ok.inj h ▸ hput s a hread

theorem data_of_given {α : Type} {read : String → Except CommandFault α} {put : Entry → α → Entry}
    {text : Option String} (h : given read put text e = .ok e')
    (hput : ∀ e a, (put e a).data = e.data) : e'.data = e.data :=
  given_induction (P := fun x => x.data = e.data) h rfl fun _ a _ => hput e a

theorem withFields_eq_ok {fields : List String} :
    withFields fields e = .ok e' ↔
      ∃ p, insertFields fields e.data = .ok p ∧ e' = e.withData p := by
  induction fields generalizing e with
  | nil => simp [withFields, insertFields, Entry.withData, eq_comm]
  | cons s fields ih =>
    simp only [withFields, insertFields, bind_eq_ok, Prod.exists, ih]
    constructor
    · rintro ⟨key, value, hfield, p, hp, rfl⟩
      exact ⟨p, ⟨key, value, hfield, hp⟩, rfl⟩
    · rintro ⟨p, ⟨key, value, hfield, hp⟩, rfl⟩
      exact ⟨key, value, hfield, p, hp, rfl⟩

/-- The row of an entry that a person gives can be read unless its payload nests too deep. -/
theorem admissible_of_toEntry (hnow : ¬ now.IsBeyondLast) (h : r.toEntry types now = .ok e) :
    e.Admissible types := by
  simp only [toEntry, bind_eq_ok] at h
  obtain ⟨level, -, e₁, hid, e₂, hinstant, e₃, huser, e₄, hobject, e₅, hct, e₆, hdata, hfields⟩ := h
  have h₁ : e₁.Admissible types :=
    given_induction hid (.ofType r.type level hnow)
      fun _ id _ => Entry.Admissible.withId (.ofType r.type level hnow) id
  have h₂ : e₂.Admissible types := by
    refine given_induction hinstant h₁ fun s t ht => h₁.withTimestamp ?_
    exact Instant.not_isBeyondLast_of_parse (parse_of_readInstant ht)
  have h₃ : e₃.Admissible types := by
    refine given_induction huser h₂ fun s v hv => ?_
    obtain rfl := Except.ok.inj hv
    exact h₂.withUser s
  have h₄ : e₄.Admissible types := by
    refine given_induction hobject h₃ fun s v hv => ?_
    obtain rfl := Except.ok.inj hv
    exact h₃.withObject s
  have h₅ : e₅.Admissible types :=
    given_induction hct h₄ fun s ct hct => h₄.withContentType (contains_of_readContentType hct)
  have h₆ : e₆.Admissible types := given_induction hdata h₅ fun _ p _ => h₅.withData p
  obtain ⟨p, -, rfl⟩ := withFields_eq_ok.1 hfields
  exact h₆.withData p

/-- The payload of the entry is the one that is meant. -/
theorem payload_of_toEntry (h : r.toEntry types now = .ok e) : r.payload = .ok e.data := by
  simp only [toEntry, bind_eq_ok] at h
  obtain ⟨level, -, e₁, hid, e₂, hinstant, e₃, huser, e₄, hobject, e₅, hct, e₆, hdata, hfields⟩ := h
  have hempty : e₅.data = .empty := by
    rw [data_of_given hct fun _ _ => rfl, data_of_given hobject fun _ _ => rfl,
      data_of_given huser fun _ _ => rfl, data_of_given hinstant fun _ _ => rfl,
      data_of_given hid fun _ _ => rfl]
    rfl
  obtain ⟨p, hp, rfl⟩ := withFields_eq_ok.1 hfields
  rw [payload]
  cases hgiven : r.data with
  | none =>
    rw [hgiven] at hdata
    obtain rfl : e₅ = e₆ := Except.ok.inj hdata
    rw [hempty] at hp
    exact hp
  | some s =>
    rw [hgiven, given, map_eq_ok] at hdata
    obtain ⟨q, hq, rfl⟩ := hdata
    simp only [hq]
    exact hp

end Recording

end AuditTrail
