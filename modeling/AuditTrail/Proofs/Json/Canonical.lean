import AuditTrail.Proofs.Binary64.Nearest
import AuditTrail.Proofs.Row
import Mathlib.Data.List.Sort
import Mathlib.Data.Option.Basic

/-!
# One text for each value

* `Binary64.value`: a binary number as a rational, in which the two zeros are one.
  `Binary64.same_iff_value`: numbers are the same exactly if they have one value.
* `Json.Raw.Equal`: equality of values part by part. Arrays are compared place by place, and objects
  key by key, in whatever order their members stand. `Json.Raw.same_iff_equal`: for canonical trees
  that is what `==` decides.
* `Payload.get?_ofMembers`: of the members that were written for a key the last one counts.
* `Json.encode_eq_iff_equal`: two values, or two payloads, have one text in a column exactly if they
  are equal.
-/

namespace AuditTrail

/-! ## Binary numbers as rationals -/

namespace Binary64

/-- The number as a rational. -/
def value (x : Binary64) : ℚ := if x.negative then -x.magnitude else x.magnitude

theorem roundsTo_magnitude (x : Binary64) : RoundsTo x.magnitude x := by
  have hpow : (0 : ℚ) < 2 ^ x.exponent := by positivity
  have hgap := x.gap_pos
  apply roundsTo_of_strict
  · exact mul_lt_mul_of_pos_right (by linarith) hpow
  · exact mul_lt_mul_of_pos_right (by linarith) hpow

theorem magnitude_eq_zero_iff {x : Binary64} : x.magnitude = 0 ↔ x.isZero = true := by
  have hpow : (2 : ℚ) ^ x.exponent ≠ 0 := by positivity
  simp [magnitude, isZero, hpow]

theorem abs_value (x : Binary64) : |x.value| = x.magnitude := by
  unfold value
  split
  · rw [abs_neg, abs_of_nonneg x.magnitude_nonneg]
  · exact abs_of_nonneg x.magnitude_nonneg

/-- Numbers are the same exactly if they have one value. -/
theorem same_iff_value {x y : Binary64} : x.same y = true ↔ x.value = y.value := by
  simp only [same, Bool.or_eq_true, decide_eq_true_eq, Bool.and_eq_true]
  constructor
  · rintro (rfl | ⟨hx, hy⟩)
    · rfl
    · simp [value, magnitude_eq_zero_iff.2 hx, magnitude_eq_zero_iff.2 hy]
  · intro h
    have hmagnitude : x.magnitude = y.magnitude := by rw [← x.abs_value, h, y.abs_value]
    by_cases hzero : x.magnitude = 0
    · exact .inr ⟨magnitude_eq_zero_iff.1 hzero, magnitude_eq_zero_iff.1 (hmagnitude ▸ hzero)⟩
    · -- One magnitude that is not zero has one mantissa and one exponent, and leaves the sign.
      obtain ⟨hm, he⟩ := eq_of_roundsTo x.roundsTo_magnitude (hmagnitude ▸ y.roundsTo_magnitude)
      have hsign : x.negative = y.negative := by
        have hpos : 0 < y.magnitude :=
          lt_of_le_of_ne y.magnitude_nonneg fun h0 => hzero (hmagnitude.trans h0.symm)
        unfold value at h
        rw [hmagnitude] at h
        cases hx : x.negative <;> cases hy : y.negative <;> simp [hx, hy] at h ⊢ <;> linarith
      left
      cases x
      cases y
      simp_all

end Binary64

/-! ## Equality part by part -/

namespace Json.Raw

/-- Equality of values, whatever the order of the members of objects. -/
inductive Equal : Raw → Raw → Prop
  | null : Equal .null .null
  | bool (b : Bool) : Equal (.bool b) (.bool b)
  | int (n : Int) : Equal (.number (.int n)) (.number (.int n))
  | float {x y : Binary64} (value : x.value = y.value) :
      Equal (.number (.float x)) (.number (.float y))
  | string (s : String) : Equal (.string s) (.string s)
  | array {xs ys : List Raw} (length : xs.length = ys.length)
      (items : ∀ (i : Nat) x y, xs[i]? = some x → ys[i]? = some y → Equal x y) :
      Equal (.array xs) (.array ys)
  | object {xs ys : List (String × Raw)}
      (keys : ∀ key, (xs.lookup key).isSome = (ys.lookup key).isSome)
      (values : ∀ key x y, xs.lookup key = some x → ys.lookup key = some y → Equal x y) :
      Equal (.object xs) (.object ys)

theorem isSome_lookup_iff {xs : List (String × Raw)} {key : String} :
    (xs.lookup key).isSome = true ↔ key ∈ xs.map Prod.fst := by
  simp only [List.lookup_isSome_iff, beq_iff_eq, List.mem_map]
  constructor
  · rintro ⟨m, hm, rfl⟩
    exact ⟨m, hm, rfl⟩
  · rintro ⟨m, hm, rfl⟩
    exact ⟨m, hm, rfl⟩

theorem lookup_cons_eq (key k : String) (x : Raw) (xs : List (String × Raw)) :
    ((k, x) :: xs).lookup key = if key = k then some x else xs.lookup key := by
  rw [List.lookup_cons]
  by_cases h : key = k
  · simp [h]
  · simp [h, beq_false_of_ne h]

mutual

theorem equal_of_same : ∀ {r s : Raw}, r.same s = true → Equal r s
  | .null, s, h => by
    cases s with
    | null => exact .null
    | _ => simp [same] at h
  | .bool b, s, h => by
    cases s with
    | bool c =>
      obtain rfl : b = c := by simpa [same] using h
      exact .bool b
    | _ => simp [same] at h
  | .number m, s, h => by
    cases s with
    | number n =>
      rw [same] at h
      cases m <;> cases n <;> simp only [Number.same, decide_eq_true_eq] at h
      · subst h
        exact .int _
      · cases h
      · cases h
      · exact .float (Binary64.same_iff_value.1 h)
    | _ => simp [same] at h
  | .string a, s, h => by
    cases s with
    | string b =>
      obtain rfl : a = b := by simpa [same] using h
      exact .string a
    | _ => simp [same] at h
  | .array xs, s, h => by
    cases s with
    | array ys =>
      obtain ⟨hlength, hitems⟩ := equal_of_sameItems (by simpa [same] using h)
      exact .array hlength hitems
    | _ => simp [same] at h
  | .object xs, s, h => by
    cases s with
    | object ys =>
      have hmembers := @equal_of_sameMembers xs ys (by simpa [same] using h)
      exact .object (fun key => (hmembers key).1) fun key => (hmembers key).2
    | _ => simp [same] at h

theorem equal_of_sameItems : ∀ {xs ys : List Raw}, sameItems xs ys = true →
    xs.length = ys.length ∧ ∀ (i : Nat) x y, xs[i]? = some x → ys[i]? = some y → Equal x y
  | [], [], _ => ⟨rfl, by simp⟩
  | [], _ :: _, h => by simp [sameItems] at h
  | _ :: _, [], h => by simp [sameItems] at h
  | x :: xs, y :: ys, h => by
    rw [sameItems, Bool.and_eq_true] at h
    have hx := equal_of_same (r := x) (s := y) h.1
    obtain ⟨hlength, hitems⟩ := @equal_of_sameItems xs ys h.2
    refine ⟨congrArg (· + 1) hlength, fun i a b ha hb => ?_⟩
    cases i with
    | zero =>
      obtain rfl : x = a := by simpa using ha
      obtain rfl : y = b := by simpa using hb
      exact hx
    | succ i => exact hitems i a b (by simpa using ha) (by simpa using hb)

theorem equal_of_sameMembers : ∀ {xs ys : List (String × Raw)}, sameMembers xs ys = true →
    ∀ key, (xs.lookup key).isSome = (ys.lookup key).isSome ∧
      ∀ x y, xs.lookup key = some x → ys.lookup key = some y → Equal x y
  | [], [], _ => by simp
  | [], _ :: _, h => by simp [sameMembers] at h
  | _ :: _, [], h => by simp [sameMembers] at h
  | (j, x) :: xs, (k, y) :: ys, h => by
    simp only [sameMembers, Bool.and_eq_true, beq_iff_eq] at h
    obtain ⟨⟨rfl, hsame⟩, hmore⟩ := h
    have hx := equal_of_same (r := x) (s := y) hsame
    have hmembers := @equal_of_sameMembers xs ys hmore
    intro key
    rw [lookup_cons_eq, lookup_cons_eq]
    by_cases hkey : key = j
    · simpa [hkey] using hx
    · simpa [hkey] using hmembers key

end

theorem sameItems_of {xs ys : List Raw} (hlength : xs.length = ys.length)
    (hitems : ∀ (i : Nat) x y, xs[i]? = some x → ys[i]? = some y → x.same y = true) :
    sameItems xs ys = true := by
  induction xs generalizing ys with
  | nil =>
    obtain rfl := List.length_eq_zero_iff.1 hlength.symm
    rfl
  | cons x xs ih =>
    cases ys with
    | nil => cases hlength
    | cons y ys =>
      rw [sameItems, Bool.and_eq_true]
      exact ⟨hitems 0 x y rfl rfl, ih (by simpa using hlength) fun i => hitems (i + 1)⟩

/-- Members with the same keys in the same order are compared one by one. -/
theorem sameMembers_of {xs ys : List (String × Raw)}
    (hkeys : xs.map Prod.fst = ys.map Prod.fst) (hnodup : (xs.map Prod.fst).Nodup)
    (hvalues : ∀ key x y, xs.lookup key = some x → ys.lookup key = some y → x.same y = true) :
    sameMembers xs ys = true := by
  induction xs generalizing ys with
  | nil =>
    obtain rfl := List.map_eq_nil_iff.1 hkeys.symm
    rfl
  | cons m xs ih =>
    obtain ⟨j, x⟩ := m
    cases ys with
    | nil => cases hkeys
    | cons m ys =>
      obtain ⟨k, y⟩ := m
      simp only [List.map_cons, List.cons.injEq] at hkeys
      obtain ⟨rfl, hkeys⟩ := hkeys
      rw [List.map_cons, List.nodup_cons] at hnodup
      simp only [sameMembers, beq_self_eq_true, Bool.true_and, Bool.and_eq_true]
      refine ⟨hvalues j x y (by simp) (by simp), ih hkeys hnodup.2 fun key a b ha hb => ?_⟩
      -- The key of the first member is none of the others.
      have hne : key ≠ j := by
        rintro rfl
        exact hnodup.1 (isSome_lookup_iff.1 (by rw [ha]; rfl))
      exact hvalues key a b (by rwa [lookup_cons_eq, if_neg hne])
        (by rwa [lookup_cons_eq, if_neg hne])

/-- Ascending keys are the same list if they are the same keys. -/
theorem keys_eq {xs ys : List (String × Raw)} (hx : (xs.map Prod.fst).Pairwise (· < ·))
    (hy : (ys.map Prod.fst).Pairwise (· < ·))
    (h : ∀ key, (xs.lookup key).isSome = (ys.lookup key).isSome) :
    xs.map Prod.fst = ys.map Prod.fst := by
  have : Std.Irrefl (α := String) (· < ·) := ⟨String.lt_irrefl⟩
  refine hx.eq_of_mem_iff hy fun key => ?_
  rw [← isSome_lookup_iff, ← isSome_lookup_iff, h key]

theorem same_of_equal {r s : Raw} (h : Equal r s) (hr : r.Canonical) (hs : s.Canonical) :
    r.same s = true := by
  induction h with
  | null => rfl
  | bool b => simp [same]
  | int n => simp [same, Number.same]
  | float value => exact Binary64.same_iff_value.2 value
  | string s => simp [same]
  | @array xs ys length items ih =>
    rw [Canonical, canonicalItems_iff] at hr hs
    rw [same]
    exact sameItems_of length fun i x y hx hy =>
      ih i x y hx hy (hr x (List.mem_of_getElem? hx)) (hs y (List.mem_of_getElem? hy))
  | @object xs ys keys values ih =>
    rw [Canonical, canonicalMembers_iff] at hr hs
    have hmem : ∀ {zs : List (String × Raw)} {key z}, zs.lookup key = some z → (key, z) ∈ zs := by
      intro zs key z hz
      obtain ⟨front, rest, rfl, -⟩ := List.lookup_eq_some_iff.1 hz
      simp
    have hnodup : (xs.map Prod.fst).Nodup := by
      apply hr.1.imp
      rintro a b hlt rfl
      exact String.lt_irrefl a hlt
    rw [same]
    exact sameMembers_of (keys_eq hr.1 hs.1 keys) hnodup fun key x y hx hy =>
      ih key x y hx hy (hr.2 _ (hmem hx)) (hs.2 _ (hmem hy))

/-- For canonical trees `==` decides equality. -/
theorem same_iff_equal {r s : Raw} (hr : r.Canonical) (hs : s.Canonical) :
    r.same s = true ↔ Equal r s :=
  ⟨equal_of_same, fun h => same_of_equal h hr hs⟩

end Json.Raw

/-- Equality of values, whatever the order of the members of objects. -/
def Json.Equal (v w : Json) : Prop := v.raw.Equal w.raw

theorem Json.beq_iff_equal {v w : Json} : (v == w) = true ↔ v.Equal w :=
  Json.Raw.same_iff_equal v.canonical w.canonical

/-! ## Payloads as maps -/

namespace Payload

/-- Under each key there is the same value or none in both. -/
def Equal (p q : Payload) : Prop := ∀ key, Option.Rel Json.Equal (p.get? key) (q.get? key)

/-- The value of a key is the one that the members say. -/
theorem map_raw_get? (p : Payload) (key : String) :
    (p.get? key).map Json.raw = p.members.lookup key := by
  have hlist : p.toList.map (fun m => (m.1, m.2.raw)) = p.members := by
    rw [toList, List.map_map]
    exact List.attach_map_subtype_val p.members
  have hlookup : ∀ ms : List (String × Json),
      (ms.lookup key).map Json.raw = (ms.map fun m => (m.1, m.2.raw)).lookup key := by
    intro ms
    induction ms with
    | nil => rfl
    | cons m ms ih =>
      rw [List.map_cons, Json.Raw.lookup_cons_eq, List.lookup_cons, ← ih]
      by_cases h : key = m.1
      · simp [h]
      · simp [h, beq_false_of_ne h]
  rw [get?, hlookup, hlist]

theorem equal_iff {p q : Payload} : (Json.object p).Equal (.object q) ↔ p.Equal q := by
  have hrel : ∀ a b : Option Json, Option.Rel Json.Equal a b ↔
      (a.map Json.raw).isSome = (b.map Json.raw).isSome ∧
        ∀ x y, a.map Json.raw = some x → b.map Json.raw = some y → x.Equal y := by
    intro a b
    constructor
    · rintro (h | -)
      · simpa [Json.Equal] using h
      · simp
    · intro h
      cases a <;> cases b <;> simp at h
      · exact .none
      · exact .some h
  constructor
  · intro h key
    cases h with
    | object keys values =>
      rw [hrel, map_raw_get?, map_raw_get?]
      exact ⟨keys key, values key⟩
  · intro h
    have hkey : ∀ key, _ := fun key => (hrel _ _).1 (h key)
    simp only [map_raw_get?] at hkey
    exact .object (fun key => (hkey key).1) fun key => (hkey key).2

theorem beq_iff_equal {p q : Payload} : (p == q) = true ↔ p.Equal q := by
  rw [beq_iff, Json.beq_iff_equal, equal_iff]

theorem lookup_insertMember (k : String) (v : Json.Raw) (members : List (String × Json.Raw))
    (key : String) :
    (Json.Raw.insertMember k v members).lookup key =
      if key = k then some v else members.lookup key := by
  induction members with
  | nil => rw [Json.Raw.insertMember, Json.Raw.lookup_cons_eq]
  | cons m members ih =>
    obtain ⟨k', v'⟩ := m
    rw [Json.Raw.insertMember]
    split
    · rw [Json.Raw.lookup_cons_eq]
    · split
      · next heq =>
        subst heq
        rw [Json.Raw.lookup_cons_eq, Json.Raw.lookup_cons_eq]
        by_cases h : key = k <;> simp [h]
      · next hne =>
        rw [Json.Raw.lookup_cons_eq, ih, Json.Raw.lookup_cons_eq]
        by_cases h : key = k'
        · rw [if_pos h, if_pos h, if_neg]
          rintro rfl
          exact hne h
        · rw [if_neg h, if_neg h]

theorem get?_insert (p : Payload) (k : String) (v : Json) (key : String) :
    (p.insert k v).get? key = if key = k then some v else p.get? key := by
  have hinjective : Function.Injective (Option.map Json.raw) :=
    Option.map_injective fun _ _ => Json.ext_raw
  apply hinjective
  rw [map_raw_get?, insert, lookup_insertMember]
  split
  · rfl
  · exact (map_raw_get? p key).symm

/-- Of the members that were written for a key the last one counts. -/
theorem get?_ofMembers (ms : List (String × Json)) (key : String) :
    (ofMembers ms).get? key = ms.reverse.lookup key := by
  rw [ofMembers, ← List.foldr_reverse]
  induction ms.reverse with
  | nil => rfl
  | cons m ms ih =>
    rw [List.foldr_cons, get?_insert, ih, List.lookup_cons]
    by_cases h : key = m.1
    · simp [h]
    · simp [h, beq_false_of_ne h]

end Payload

/-- Two values have one text in a column exactly if they are equal, and so do two payloads. In which
order members are written makes no difference: each key counts with its last value. -/
theorem Json.encode_eq_iff_equal :
    (∀ v w : Json, (v.encode = w.encode ↔ (v == w) = true) ∧ ((v == w) = true ↔ v.Equal w)) ∧
    (∀ p q : Payload,
      (p.encode = q.encode ↔ (p == q) = true) ∧ ((p == q) = true ↔ p.Equal q)) ∧
    ∀ ms ns : List (String × Json),
      (Payload.ofMembers ms).encode = (Payload.ofMembers ns).encode ↔
        ∀ key, Option.Rel Json.Equal (ms.reverse.lookup key) (ns.reverse.lookup key) := by
  refine ⟨fun v w => ⟨encode_eq_iff, beq_iff_equal⟩,
    fun p q => ⟨Payload.encode_eq_iff, Payload.beq_iff_equal⟩, fun ms ns => ?_⟩
  rw [Payload.encode_eq_iff, Payload.beq_iff_equal, Payload.Equal]
  simp only [Payload.get?_ofMembers]

end AuditTrail
