import AuditTrail.Json.Number

/-!
# JSON values

* `Json.Raw`: the tree of a value; the members of an object are a list.
* `Json.Raw.Canonical`: keys ascend and integers fit 64 bits, so that each value has one tree.
* `Json`: a canonical tree. `Payload`: the members of a canonical object.
* `Json.same`, written `==`: equality of values. An integer is never equal to a float, and the two
  zeros of the floats are equal.
* `Json.normalized`: the value with positive zeros for negative ones.
* `Json.depth`: how deep arrays and objects nest.
-/

namespace AuditTrail

-- Powers of whole numbers are meant as the core library has them.
attribute [local instance (high)] instPowNat

namespace Number

/-- Equal as JSON numbers. -/
def same : Number → Number → Bool
  | .int m, .int n => m = n
  | .float x, .float y => x.same y
  | _, _ => false

/-- Integers have 64 bits, signed or unsigned. -/
def InRange : Number → Prop
  | .int n => -(2 ^ (63 : Nat)) ≤ n ∧ n < 2 ^ (64 : Nat)
  | .float _ => True

/-- The number with a positive zero for a negative one. -/
def normalized : Number → Number
  | .float x => .float (if x.isZero then Binary64.zero false else x)
  | n => n

/-- The spelling of a number. -/
def form : Number → NumberForm
  | .int n => .ofInt n
  | .float x => .ofBinary x

theorem inRange_normalized {n : Number} (h : n.InRange) : n.normalized.InRange := by
  cases n <;> simp_all [normalized, InRange]

end Number

namespace Json

/-- The tree of a JSON value. -/
inductive Raw
  | null
  | bool (b : Bool)
  | number (n : Number)
  | string (s : String)
  | array (items : List Raw)
  | object (members : List (String × Raw))

namespace Raw

instance : Inhabited Raw := ⟨.null⟩

/-! ## Canonical trees -/

mutual

/-- Keys ascend, and integers fit 64 bits. -/
def Canonical : Raw → Prop
  | .number n => n.InRange
  | .array items => CanonicalItems items
  | .object members => (members.map Prod.fst).Pairwise (· < ·) ∧ CanonicalMembers members
  | .null => True
  | .bool _ => True
  | .string _ => True

/-- All items are canonical. -/
def CanonicalItems : List Raw → Prop
  | [] => True
  | item :: items => Canonical item ∧ CanonicalItems items

/-- The values of all members are canonical. -/
def CanonicalMembers : List (String × Raw) → Prop
  | [] => True
  | (_, value) :: members => Canonical value ∧ CanonicalMembers members

end

theorem canonicalItems_iff {items : List Raw} :
    CanonicalItems items ↔ ∀ item ∈ items, Canonical item := by
  induction items with
  | nil => simp [CanonicalItems]
  | cons item items ih => simp [CanonicalItems, ih]

theorem canonicalMembers_iff {members : List (String × Raw)} :
    CanonicalMembers members ↔ ∀ m ∈ members, Canonical m.2 := by
  induction members with
  | nil => simp [CanonicalMembers]
  | cons m members ih => simp [CanonicalMembers, ih]

/-! ## Equality -/

mutual

/-- Equal as JSON values, for canonical trees. -/
def same : Raw → Raw → Bool
  | .null, .null => true
  | .bool a, .bool b => a == b
  | .number m, .number n => m.same n
  | .string s, .string t => s == t
  | .array xs, .array ys => sameItems xs ys
  | .object xs, .object ys => sameMembers xs ys
  | _, _ => false

/-- Equal item by item. -/
def sameItems : List Raw → List Raw → Bool
  | [], [] => true
  | x :: xs, y :: ys => same x y && sameItems xs ys
  | _, _ => false

/-- Equal member by member. -/
def sameMembers : List (String × Raw) → List (String × Raw) → Bool
  | [], [] => true
  | (j, x) :: xs, (k, y) :: ys => j == k && same x y && sameMembers xs ys
  | _, _ => false

end

/-! ## Zeros -/

mutual

/-- The tree with positive zeros for negative ones. -/
def normalized : Raw → Raw
  | .number n => .number n.normalized
  | .array items => .array (normalizedItems items)
  | .object members => .object (normalizedMembers members)
  | .null => .null
  | .bool b => .bool b
  | .string s => .string s

/-- All items normalized. -/
def normalizedItems : List Raw → List Raw
  | [] => []
  | item :: items => normalized item :: normalizedItems items

/-- The values of all members normalized. -/
def normalizedMembers : List (String × Raw) → List (String × Raw)
  | [] => []
  | (key, value) :: members => (key, normalized value) :: normalizedMembers members

end

theorem keys_normalizedMembers (members : List (String × Raw)) :
    (normalizedMembers members).map Prod.fst = members.map Prod.fst := by
  induction members with
  | nil => rfl
  | cons m members ih => simp [normalizedMembers, ih]

mutual

theorem canonical_normalized : ∀ {r : Raw}, r.Canonical → r.normalized.Canonical
  | .number _, h => Number.inRange_normalized h
  | .array items, h => by
    rw [normalized, Canonical]
    exact canonicalItems_normalized (by simpa [Canonical] using h)
  | .object members, h => by
    rw [Canonical] at h
    rw [normalized, Canonical, keys_normalizedMembers]
    exact ⟨h.1, canonicalMembers_normalized h.2⟩
  | .null, _ => trivial
  | .bool _, _ => trivial
  | .string _, _ => trivial

theorem canonicalItems_normalized :
    ∀ {items : List Raw}, CanonicalItems items → CanonicalItems (normalizedItems items)
  | [], _ => trivial
  | _ :: _, h => by
    rw [CanonicalItems] at h
    rw [normalizedItems, CanonicalItems]
    exact ⟨canonical_normalized h.1, canonicalItems_normalized h.2⟩

theorem canonicalMembers_normalized :
    ∀ {members : List (String × Raw)}, CanonicalMembers members →
      CanonicalMembers (normalizedMembers members)
  | [], _ => trivial
  | (_, _) :: _, h => by
    rw [CanonicalMembers] at h
    rw [normalizedMembers, CanonicalMembers]
    exact ⟨canonical_normalized h.1, canonicalMembers_normalized h.2⟩

end

/-! ## Depth -/

mutual

/-- How deep arrays and objects nest. -/
def depth : Raw → Nat
  | .array items => depthItems items + 1
  | .object members => depthMembers members + 1
  | .null => 0
  | .bool _ => 0
  | .number _ => 0
  | .string _ => 0

/-- The greatest depth of the items. -/
def depthItems : List Raw → Nat
  | [] => 0
  | item :: items => max (depth item) (depthItems items)

/-- The greatest depth of the values. -/
def depthMembers : List (String × Raw) → Nat
  | [] => 0
  | (_, value) :: members => max (depth value) (depthMembers members)

end

/-! ## Members -/

/-- The members with one more, which takes the place of a member with the same key. -/
def insertMember (key : String) (value : Raw) : List (String × Raw) → List (String × Raw)
  | [] => [(key, value)]
  | (k, v) :: members =>
    if key < k then (key, value) :: (k, v) :: members
    else if key = k then (key, value) :: members
    else (k, v) :: insertMember key value members

theorem mem_insertMember {key : String} {value : Raw} {members : List (String × Raw)}
    {m : String × Raw} (h : m ∈ insertMember key value members) :
    m = (key, value) ∨ m ∈ members := by
  induction members with
  | nil => simpa [insertMember] using h
  | cons m' members ih =>
    obtain ⟨k, v⟩ := m'
    rw [insertMember] at h
    split at h
    · simpa using h
    · split at h
      · rcases List.mem_cons.1 h with h | h
        · exact .inl h
        · exact .inr (List.mem_cons_of_mem _ h)
      · rcases List.mem_cons.1 h with h | h
        · exact .inr (h ▸ List.mem_cons_self)
        · exact (ih h).imp_right (List.mem_cons_of_mem _)

theorem pairwise_insertMember {key : String} {value : Raw} {members : List (String × Raw)}
    (h : (members.map Prod.fst).Pairwise (· < ·)) :
    ((insertMember key value members).map Prod.fst).Pairwise (· < ·) := by
  induction members with
  | nil => simp [insertMember]
  | cons m members ih =>
    obtain ⟨k, v⟩ := m
    rw [List.map_cons, List.pairwise_cons] at h
    rw [insertMember]
    split
    · next hlt =>
      rw [List.map_cons, List.pairwise_cons]
      refine ⟨fun a ha => ?_, List.pairwise_cons.2 h⟩
      rcases List.mem_cons.1 ha with rfl | ha
      · exact hlt
      · exact String.lt_trans hlt (h.1 a ha)
    · next hnot =>
      split
      · next heq => subst heq; exact List.pairwise_cons.2 h
      · next hne =>
        rw [List.map_cons, List.pairwise_cons]
        refine ⟨fun a ha => ?_, ih h.2⟩
        obtain ⟨m, hm, rfl⟩ := List.mem_map.1 ha
        rcases mem_insertMember hm with rfl | hm
        · exact Std.lt_of_le_of_ne (String.not_lt.1 hnot) (Ne.symm hne)
        · exact h.1 _ (List.mem_map_of_mem hm)

end Raw

end Json

/-- A JSON value: a canonical tree. -/
structure Json where
  raw : Json.Raw
  canonical : raw.Canonical

/-- The members of a JSON object, by ascending keys. -/
structure Payload where
  members : List (String × Json.Raw)
  canonical : (Json.Raw.object members).Canonical

namespace Payload

/-- The object without members. -/
def empty : Payload := ⟨[], by simp [Json.Raw.Canonical, Json.Raw.CanonicalMembers]⟩

instance : Inhabited Payload := ⟨empty⟩

/-- The payload with one more member, which takes the place of a member with the same key. -/
def insert (p : Payload) (key : String) (value : Json) : Payload where
  members := Json.Raw.insertMember key value.raw p.members
  canonical := by
    have h := p.canonical
    rw [Json.Raw.Canonical] at h ⊢
    refine ⟨Json.Raw.pairwise_insertMember h.1, Json.Raw.canonicalMembers_iff.2 fun m hm => ?_⟩
    rcases Json.Raw.mem_insertMember hm with rfl | hm
    · exact value.canonical
    · exact Json.Raw.canonicalMembers_iff.1 h.2 m hm

/-- The payload of members in order of writing: of two with the same key the last one counts. -/
def ofMembers (members : List (String × Json)) : Payload :=
  members.foldl (fun p m => p.insert m.1 m.2) empty

/-- Does a member have this key? -/
def contains (p : Payload) (key : String) : Bool := p.members.any fun m => m.1 = key

/-- The members with their values. -/
def toList (p : Payload) : List (String × Json) :=
  p.members.attach.map fun m => (m.1.1, ⟨m.1.2, by
    have h := p.canonical
    rw [Json.Raw.Canonical] at h
    exact Json.Raw.canonicalMembers_iff.1 h.2 m.1 m.2⟩)

/-- The value of a key. -/
def get? (p : Payload) (key : String) : Option Json := p.toList.lookup key

/-- Equality of payloads. -/
def same (p q : Payload) : Bool := Json.Raw.sameMembers p.members q.members

instance : BEq Payload := ⟨same⟩

/-- The payload with positive zeros for negative ones. -/
def normalized (p : Payload) : Payload :=
  ⟨Json.Raw.normalizedMembers p.members, by
    have h := Json.Raw.canonical_normalized p.canonical
    rwa [Json.Raw.normalized] at h⟩

end Payload

namespace Json

/-- The value `null`. -/
def null : Json := ⟨.null, trivial⟩

instance : Inhabited Json := ⟨null⟩

/-- A text as a value. -/
def string (s : String) : Json := ⟨.string s, trivial⟩

/-- A truth value. -/
def bool (b : Bool) : Json := ⟨.bool b, trivial⟩

/-- A list of values. -/
def array (items : List Json) : Json where
  raw := .array (items.map Json.raw)
  canonical := by
    rw [Raw.Canonical, Raw.canonicalItems_iff]
    intro item h
    obtain ⟨j, -, rfl⟩ := List.mem_map.1 h
    exact j.canonical

/-- An object. -/
def object (p : Payload) : Json := ⟨.object p.members, p.canonical⟩

/-- A number, unless it is an integer beyond 64 bits. -/
def number? (n : Number) : Option Json :=
  match n with
  | .int i =>
    if h : -(2 ^ (63 : Nat)) ≤ i ∧ i < 2 ^ (64 : Nat) then some ⟨.number (.int i), h⟩ else none
  | .float x => some ⟨.number (.float x), trivial⟩

/-- Equality of JSON values. -/
def same (v w : Json) : Bool := v.raw.same w.raw

instance : BEq Json := ⟨same⟩

/-- The value with positive zeros for negative ones. -/
def normalized (v : Json) : Json := ⟨v.raw.normalized, Raw.canonical_normalized v.canonical⟩

/-- How deep arrays and objects nest. -/
def depth (v : Json) : Nat := v.raw.depth

/-- Is it `null`? -/
def isNull (v : Json) : Bool :=
  match v.raw with
  | .null => true
  | _ => false

/-! ## Views -/

/-- The members, if it is an object. -/
def payload? : Json → Option Payload
  | ⟨.object members, h⟩ => some ⟨members, h⟩
  | _ => none

/-- The items, if it is an array. -/
def items? : Json → Option (List Json)
  | ⟨.array items, h⟩ =>
    some (items.attach.map fun r => ⟨r.1, by
      rw [Raw.Canonical, Raw.canonicalItems_iff] at h
      exact h r.1 r.2⟩)
  | _ => none

/-- The integer from `low` to `high`, if it is one. -/
def int? (low high : Int) (v : Json) : Option Int :=
  match v.raw with
  | .number (.int n) => if low ≤ n ∧ n ≤ high then some n else none
  | _ => none

/-- The truth value, if it is one. -/
def bool? (v : Json) : Option Bool :=
  match v.raw with
  | .bool b => some b
  | _ => none

/-- The text, if it is one. -/
def string? (v : Json) : Option String :=
  match v.raw with
  | .string s => some s
  | _ => none

end Json

end AuditTrail
