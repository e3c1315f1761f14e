import AuditTrail.Entry.Basic

/-!
# Fresh identifiers

`IdSupply` is an endless row of identifiers, of which the first so many are used up.
`IdSupply.assign` gives an entry the next one, unless it has one of its own.
`IdSupply.timeOrdered` is a supply that ascends from a point in time.
-/

namespace AuditTrail

-- Powers of whole numbers are meant as the core library has them.
attribute [local instance (high)] instPowNat

/-- An endless row of identifiers, none of them nil. -/
structure IdSupply where
  nth : Nat → EntryId
  used : Nat
  fresh : ∀ n, (nth n).isNil = false

namespace IdSupply

/-- The next identifier. -/
def peek (s : IdSupply) : EntryId := s.nth s.used

/-- The supply without its next identifier. -/
def tail (s : IdSupply) : IdSupply := { s with used := s.used + 1 }

/-- The entry with an identifier: its own, or the next of the supply. -/
def assign (s : IdSupply) (e : Entry) : Entry × IdSupply :=
  if e.isUnassigned then (e.withId s.peek, s.tail) else (e, s)

theorem isNil_assign (s : IdSupply) (e : Entry) : (s.assign e).1.id.isNil = false := by
  unfold assign
  split
  · exact s.fresh s.used
  · next h => simpa [Entry.isUnassigned] using h

theorem assign_of_assigned (s : IdSupply) {e : Entry} (h : e.id.isNil = false) :
    s.assign e = (e, s) := by
  simp [assign, Entry.isUnassigned, h]

/-! ## Identifiers in the order of time -/

/-- The number in so many bytes, the greatest first. -/
def bytesOf (n : Nat) : Nat → List UInt8
  | 0 => []
  | k + 1 => UInt8.ofNat (n / 256 ^ k) :: bytesOf n k

theorem length_bytesOf (n k : Nat) : (bytesOf n k).length = k := by
  induction k with
  | zero => rfl
  | succ k ih => simp [bytesOf, ih]

/-- The identifier of the seventh version with a time in milliseconds and a number. -/
def timeId (millis n : Nat) : EntryId where
  bytes := bytesOf millis 6 ++ [0x70, 0x00, 0x80, 0x00] ++ bytesOf n 6
  length_eq := by simp [length_bytesOf]

theorem isNil_timeId (millis n : Nat) : (timeId millis n).isNil = false := by
  rw [EntryId.isNil, decide_eq_false_iff_not]
  intro h
  have h6 := congrArg (fun id : EntryId => id.bytes[6]?) h
  simp [timeId, bytesOf, EntryId.nil] at h6

/-- The identifiers with a time in milliseconds and the numbers from `start` on. -/
def timeOrdered (millis start : Nat) : IdSupply where
  nth n := timeId millis (start + n)
  used := 0
  fresh n := isNil_timeId millis (start + n)

instance : Inhabited IdSupply := ⟨timeOrdered 0 0⟩

end IdSupply

end AuditTrail
