import Mathlib.Data.List.Forall2

/-!
# Lists are read one by one

* `mapM_cons_eq_ok_iff`, `mapM_cons_eq_error_iff`: the first item is read before the others.
* `mapM_eq_map`, `exists_map_of_mapM`, `exists_mapM_iff`: what is read of a list is read of its
  items.
* `mapM_eq_error_iff`: a list fails as the first item that fails.
-/

namespace AuditTrail

variable {ε α β : Type}

theorem bind_eq_ok {x : Except ε α} {f : α → Except ε β} {b : β} :
    x >>= f = .ok b ↔ ∃ a, x = .ok a ∧ f a = .ok b := by
  cases x with
  | error e => simp [bind, Except.bind]
  | ok a => simp [bind, Except.bind]

theorem mapError_eq_ok {ε' : Type} {x : Except ε α} {f : ε → ε'} {a : α} :
    x.mapError f = .ok a ↔ x = .ok a := by
  cases x <;> simp [Except.mapError]

variable {read : α → Except ε β} {x : α} {xs : List α} {ys : List β} {err : ε}

/-! ## One item more -/

theorem mapM_cons_eq_ok_iff :
    (x :: xs).mapM read = .ok ys ↔ ∃ y ys', read x = .ok y ∧ xs.mapM read = .ok ys' ∧
      y :: ys' = ys := by
  simp only [List.mapM_cons, bind_eq_ok, pure, Except.pure, Except.ok.injEq, exists_and_left]

theorem mapM_cons_eq_error_iff :
    (x :: xs).mapM read = .error err ↔
      read x = .error err ∨ (∃ y, read x = .ok y) ∧ xs.mapM read = .error err := by
  rw [List.mapM_cons]
  cases read x with
  | error e => simp [bind, Except.bind]
  | ok y => cases xs.mapM read <;> simp [bind, Except.bind, pure, Except.pure]

/-! ## All items -/

theorem mapM_eq_map {f : α → β} (h : ∀ x ∈ xs, read x = .ok (f x)) :
    xs.mapM read = .ok (xs.map f) := by
  induction xs with
  | nil => rfl
  | cons x xs ih =>
    obtain ⟨hx, hxs⟩ := List.forall_mem_cons.1 h
    exact mapM_cons_eq_ok_iff.2 ⟨_, _, hx, ih hxs, rfl⟩

theorem mapM_ok (xs : List α) : xs.mapM (Except.ok : α → Except ε α) = .ok xs :=
  (mapM_eq_map fun _ _ => rfl).trans (congrArg Except.ok (List.map_id xs))

/-- The texts of items are read back if the text of every item is. -/
theorem mapM_map {γ : Type} {read : γ → Except ε α} {text : α → γ}
    (h : ∀ x ∈ xs, read (text x) = .ok x) : (xs.map text).mapM read = .ok xs := by
  rw [List.mapM_map]
  exact (mapM_eq_map h).trans (congrArg Except.ok (List.map_id xs))

/-- What is read of a list is read item by item. -/
theorem exists_map_of_mapM [Inhabited β] (h : xs.mapM read = .ok ys) :
    ∃ f : α → β, (∀ x ∈ xs, read x = .ok (f x)) ∧ ys = xs.map f := by
  refine ⟨fun x => (read x).toOption.getD default, ?_⟩
  induction xs generalizing ys with
  | nil => exact ⟨List.forall_mem_nil _, (Except.ok.inj h).symm⟩
  | cons x xs ih =>
    obtain ⟨y, ys', hy, hys, rfl⟩ := mapM_cons_eq_ok_iff.1 h
    obtain ⟨hread, rfl⟩ := ih hys
    have hvalue : (read x).toOption.getD default = y := by rw [hy]; rfl
    refine ⟨List.forall_mem_cons.2 ⟨?_, hread⟩, by rw [List.map_cons, hvalue]⟩
    exact hy.trans (congrArg Except.ok hvalue.symm)

/-- The items of a list are read one by one, each with a result that fits it. -/
theorem exists_mapM_iff {r : β → α → Prop} :
    (∃ ys, xs.mapM read = .ok ys ∧ List.Forall₂ r ys xs) ↔
      ∀ x ∈ xs, ∃ y, read x = .ok y ∧ r y x := by
  induction xs with
  | nil => simp [pure, Except.pure]
  | cons x xs ih =>
    rw [List.forall_mem_cons, ← ih]
    constructor
    · rintro ⟨_, hread, hr⟩
      obtain ⟨y, ys, hy, hys, rfl⟩ := mapM_cons_eq_ok_iff.1 hread
      obtain ⟨hr, hrs⟩ := List.forall₂_cons.1 hr
      exact ⟨⟨y, hy, hr⟩, ys, hys, hrs⟩
    · rintro ⟨⟨y, hy, hr⟩, ys, hys, hrs⟩
      exact ⟨y :: ys, mapM_cons_eq_ok_iff.2 ⟨y, ys, hy, hys, rfl⟩, .cons hr hrs⟩

/-- A list is read if every item is. -/
theorem exists_mapM_eq_ok_iff :
    (∃ ys, xs.mapM read = .ok ys) ↔ ∀ x ∈ xs, ∃ y, read x = .ok y := by
  induction xs with
  | nil => simp [pure, Except.pure]
  | cons x xs ih =>
    rw [List.forall_mem_cons, ← ih]
    constructor
    · rintro ⟨_, hread⟩
      obtain ⟨y, ys, hy, hys, -⟩ := mapM_cons_eq_ok_iff.1 hread
      exact ⟨⟨y, hy⟩, ys, hys⟩
    · rintro ⟨⟨y, hy⟩, ys, hys⟩
      exact ⟨y :: ys, mapM_cons_eq_ok_iff.2 ⟨y, ys, hy, hys, rfl⟩⟩

/-- A list fails as the first item that fails. -/
theorem mapM_eq_error_iff :
    xs.mapM read = .error err ↔
      ∃ front x back, xs = front ++ x :: back ∧ (∀ y ∈ front, ∃ b, read y = .ok b) ∧
        read x = .error err := by
  induction xs with
  | nil => simp [pure, Except.pure]
  | cons x xs ih =>
    rw [mapM_cons_eq_error_iff, ih]
    constructor
    · rintro (hx | ⟨hx, front, z, back, rfl, hfront, hz⟩)
      · exact ⟨[], x, xs, rfl, List.forall_mem_nil _, hx⟩
      · exact ⟨x :: front, z, back, rfl, List.forall_mem_cons.2 ⟨hx, hfront⟩, hz⟩
    · rintro ⟨front, z, back, heq, hfront, hz⟩
      obtain ⟨rfl, hcons⟩ | ⟨front, rfl, rfl⟩ := List.cons_eq_append_iff.1 heq
      · obtain ⟨rfl, -⟩ := List.cons.inj hcons
        exact .inl hz
      · obtain ⟨hx, hfront⟩ := List.forall_mem_cons.1 hfront
        exact .inr ⟨hx, front, z, back, rfl, hfront, hz⟩

end AuditTrail
