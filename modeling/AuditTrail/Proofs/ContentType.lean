import AuditTrail.ContentTypes
import AuditTrail.Proofs.Text.Separated

/-!
# Keys of content types

* `ContentType.CutAtLastDot`: what stands before and behind the last dot of a text. There is only
  one such cut (`CutAtLastDot.unique`), and there is one if there is a dot
  (`exists_cutAtLastDot_iff`).
* `ContentType.IsOfKey`: the content types that are read back from their keys
  (`parse?_key_iff`).
* `ContentType.parse?_eq_some_iff`, `ContentType.parse?_eq_none_iff`: the texts that are keys,
  `ContentType.KeyOf`; `ContentType.not_isKey_iff`: the texts that are none.
* `ContentType.eq_of_key_eq`: no two content types with names without dots have the same key.
* `ContentType.key_splits_uniquely`: keys and content types determine each other.
-/

namespace AuditTrail.ContentType

open Text

variable {s before behind : String} {ct : ContentType}

/-! ## The last dot -/

/-- The text is cut at its last dot: what stands before it, and behind it. -/
def CutAtLastDot (s before behind : String) : Prop :=
  s = before ++ "." ++ behind ∧ '.' ∉ behind.toList

theorem cutAtLastDot_iff :
    CutAtLastDot s before behind ↔
      splitLast '.' s.toList = some (before.toList, behind.toList) := by
  rw [splitLast_eq_some_iff, CutAtLastDot, ← String.toList_inj]
  simp

theorem CutAtLastDot.unique {before' behind' : String} (h : CutAtLastDot s before behind)
    (h' : CutAtLastDot s before' behind') : before = before' ∧ behind = behind' := by
  have hsplit := (cutAtLastDot_iff.1 h).symm.trans (cutAtLastDot_iff.1 h')
  obtain ⟨hbefore, hbehind⟩ := Prod.mk.inj (Option.some.inj hsplit)
  exact ⟨String.toList_inj.1 hbefore, String.toList_inj.1 hbehind⟩

/-- There is a last dot if there is one. -/
theorem exists_cutAtLastDot_iff :
    (∃ before behind, CutAtLastDot s before behind) ↔ '.' ∈ s.toList := by
  constructor
  · rintro ⟨before, behind, rfl, -⟩
    simp
  · intro hdot
    cases hsplit : splitLast '.' s.toList with
    | none => exact absurd hdot (splitLast_eq_none_iff.1 hsplit)
    | some parts =>
      refine ⟨String.ofList parts.1, String.ofList parts.2, cutAtLastDot_iff.2 ?_⟩
      rw [hsplit, String.toList_ofList, String.toList_ofList]

/-! ## Keys -/

/-- Both parts are there, and the name has no dot. -/
structure IsOfKey (ct : ContentType) : Prop where
  namespaceName : ct.namespaceName ≠ ""
  name : ct.name ≠ ""
  dotless : '.' ∉ ct.name.toList

/-- The text is a key of the content type: a namespace, a dot, and a name without dots. -/
def KeyOf (ct : ContentType) (s : String) : Prop := ct.IsOfKey ∧ ct.key = s

/-- The text is a key of some content type. -/
def IsKey (s : String) : Prop := ∃ ct : ContentType, ct.KeyOf s

theorem cutAtLastDot_parts_iff :
    CutAtLastDot s ct.namespaceName ct.name ↔ ct.key = s ∧ '.' ∉ ct.name.toList := by
  rw [CutAtLastDot, key, eq_comm]

theorem keyOf_iff :
    ct.KeyOf s ↔
      CutAtLastDot s ct.namespaceName ct.name ∧ ct.namespaceName ≠ "" ∧ ct.name ≠ "" := by
  rw [cutAtLastDot_parts_iff]
  constructor
  · rintro ⟨⟨hnamespace, hname, hdot⟩, hkey⟩
    exact ⟨⟨hkey, hdot⟩, hnamespace, hname⟩
  · rintro ⟨⟨hkey, hdot⟩, hnamespace, hname⟩
    exact ⟨⟨hnamespace, hname, hdot⟩, hkey⟩

/-- A key is read as its content type, and nothing else is read. -/
theorem parse?_eq_some_iff : parse? s = some ct ↔ ct.KeyOf s := by
  rw [keyOf_iff, cutAtLastDot_iff, parse?]
  cases splitLast '.' s.toList with
  | none => simp
  | some parts =>
    obtain ⟨front, back⟩ := parts
    simp only [Option.some.injEq, Prod.mk.injEq]
    constructor
    · intro h
      split at h
      · cases h
      · next hparts =>
        obtain rfl := Option.some.inj h
        simpa using hparts
    · rintro ⟨⟨rfl, rfl⟩, hnamespace, hname⟩
      simp [hnamespace, hname]

theorem key_of_parse? (h : parse? s = some ct) : ct.key = s := (parse?_eq_some_iff.1 h).2

/-- The content types that are read back from their keys. -/
theorem parse?_key_iff : parse? ct.key = some ct ↔ ct.IsOfKey := by
  rw [parse?_eq_some_iff, KeyOf, and_iff_left rfl]

theorem parse?_eq_none_iff : parse? s = none ↔ ¬ IsKey s := by
  simp only [Option.eq_none_iff_forall_ne_some, IsKey, ne_eq, parse?_eq_some_iff, not_exists]

theorem isKey_iff :
    IsKey s ↔ ∃ before behind, CutAtLastDot s before behind ∧ before ≠ "" ∧ behind ≠ "" := by
  constructor
  · rintro ⟨ct, hct⟩
    exact ⟨ct.namespaceName, ct.name, keyOf_iff.1 hct⟩
  · rintro ⟨before, behind, h⟩
    exact ⟨⟨before, behind⟩, keyOf_iff.2 h⟩

/-- A text is no key if it has no dot, or nothing before or behind the last one. -/
theorem not_isKey_iff :
    ¬ IsKey s ↔ '.' ∉ s.toList ∨
      ∃ before behind, CutAtLastDot s before behind ∧ (before = "" ∨ behind = "") := by
  rw [isKey_iff]
  constructor
  · intro hnone
    by_cases hdot : '.' ∈ s.toList
    · obtain ⟨before, behind, hcut⟩ := exists_cutAtLastDot_iff.2 hdot
      refine .inr ⟨before, behind, hcut, ?_⟩
      by_contra hparts
      exact hnone ⟨before, behind, hcut, not_or.1 hparts⟩
    · exact .inl hdot
  · rintro hempty ⟨before, behind, hcut, hbefore, hbehind⟩
    rcases hempty with hdot | ⟨before', behind', hcut', hparts⟩
    · exact hdot (exists_cutAtLastDot_iff.1 ⟨before, behind, hcut⟩)
    · obtain ⟨rfl, rfl⟩ := hcut.unique hcut'
      exact hparts.elim hbefore hbehind

/-- No two content types with names without dots have the same key. -/
theorem eq_of_key_eq {a b : ContentType} (ha : '.' ∉ a.name.toList) (hb : '.' ∉ b.name.toList)
    (h : a.key = b.key) : a = b := by
  have hparts := (cutAtLastDot_parts_iff.2 ⟨h, ha⟩).unique (cutAtLastDot_parts_iff.2 ⟨rfl, hb⟩)
  cases a
  cases b
  rw [mk.injEq]
  exact hparts

/-- A content type is read back from its key exactly if both parts are there and the name has no
dot. A text is not read exactly if it has no dot, or nothing before or behind the last one. Otherwise
it is the key of the content type that it is read as, and of no other with a name without dots. -/
theorem key_splits_uniquely :
    (∀ namespaceName name : String,
      parse? (key ⟨namespaceName, name⟩) = some ⟨namespaceName, name⟩ ↔
        namespaceName ≠ "" ∧ name ≠ "" ∧ '.' ∉ name.toList) ∧
    ∀ s : String,
      (parse? s = none ↔ '.' ∉ s.toList ∨
        ∃ before behind, CutAtLastDot s before behind ∧ (before = "" ∨ behind = "")) ∧
      ∀ ct, parse? s = some ct →
        ct.key = s ∧
          ∀ other : ContentType, other.key = s ∧ '.' ∉ other.name.toList ↔ other = ct := by
  refine ⟨fun namespaceName name => ?_, fun s => ⟨?_, fun ct h => ?_⟩⟩
  · rw [parse?_key_iff]
    constructor
    · intro h
      exact ⟨h.namespaceName, h.name, h.dotless⟩
    · rintro ⟨hnamespace, hname, hdot⟩
      exact ⟨hnamespace, hname, hdot⟩
  · rw [parse?_eq_none_iff, not_isKey_iff]
  · obtain ⟨hct, rfl⟩ := parse?_eq_some_iff.1 h
    refine ⟨rfl, fun other => ⟨?_, ?_⟩⟩
    · rintro ⟨hkey, hdot⟩
      exact eq_of_key_eq hdot hct.dotless hkey
    · rintro rfl
      exact ⟨rfl, hct.dotless⟩

theorem key_splits_uniquely_dotted :
    parse? "github.com/acme/blog.Post" = some ⟨"github.com/acme/blog", "Post"⟩ ∧
      ∀ other : ContentType,
        other.key = "github.com/acme/blog.Post" ∧ '.' ∉ other.name.toList ↔
          other = ⟨"github.com/acme/blog", "Post"⟩ := by
  have hparse : parse? "github.com/acme/blog.Post" = some ⟨"github.com/acme/blog", "Post"⟩ := by
    decide
  obtain ⟨-, honly⟩ := (key_splits_uniquely.2 "github.com/acme/blog.Post").2 _ hparse
  exact ⟨hparse, honly⟩

end AuditTrail.ContentType
