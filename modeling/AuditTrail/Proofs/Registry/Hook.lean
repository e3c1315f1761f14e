import AuditTrail.IdSupply
import AuditTrail.Proofs.Log.Order
import AuditTrail.Registry.Basic

/-!
# Hooks in turn

* `inTurn`: the hooks for everything, those for the type of an entry, and those for its content
  type, each in the order of registration. `applicable_eq_inTurn`: these are the hooks that run.
* `passGates_spec`: gates are consulted in turn, up to the first that refuses.
-/

namespace AuditTrail

variable {α : Type}

/-- The hooks for everything, then those for the type of the entry, then those for its content type,
each in the order of registration. -/
def inTurn (scope : α → Scope) (hooks : List α) (e : Entry) : List α :=
  hooks.filter (fun h => scope h = .everything) ++ hooks.filter (fun h => scope h = .type e.type) ++
    hooks.filter fun h => e.contentType.any fun ct => scope h = .contentType ct.key

/-- The wider scope has the greater number. -/
def Scope.width (s : Scope) : Int := -s.rank

/-- Items of one number are in the order that they had. -/
theorem Log.latest_of_forall {number : α → Int} {xs : List α} {t : Int}
    (h : ∀ a ∈ xs, number a = t) : Log.latest number xs = xs := by
  apply List.mergeSort_of_pairwise
  apply List.pairwise_of_forall_mem_list
  intro a ha b hb
  simp [h a ha, h b hb]

theorem applicable_eq_latest (scope : α → Scope) (hooks : List α) (e : Entry) :
    applicable scope hooks e =
      Log.latest (fun h => (scope h).width) (hooks.filter fun h => (scope h).covers e) := by
  have hle : (fun a b => decide ((scope a).rank ≤ (scope b).rank)) =
      fun a b => decide ((scope b).width ≤ (scope a).width) := by
    funext a b
    rw [decide_eq_decide, Scope.width, Scope.width]
    omega
  rw [applicable, hle, Log.latest]

/-- The hooks that cover an entry run in turn. -/
theorem applicable_eq_inTurn (scope : α → Scope) (hooks : List α) (e : Entry) :
    applicable scope hooks e = inTurn scope hooks e := by
  -- The scopes for a type are in the middle, and cut the order into three runs.
  have hgroup : ∀ (p : Int → Bool) (t : Int), (∀ s : Scope, p s.width = true → s.width = t) →
      (applicable scope hooks e).filter (fun h => p (scope h).width) =
        hooks.filter fun h => p (scope h).width && (scope h).covers e := by
    intro p t hp
    rw [applicable_eq_latest, Log.filter_latest, List.filter_filter]
    apply Log.latest_of_forall
    intro h hh
    have hh := (List.mem_filter.1 hh).2
    rw [Bool.and_eq_true] at hh
    exact hp _ hh.1
  have hwide := hgroup (fun n => -1 < n) 0 (by
    intro s hs
    cases s <;> simp_all [Scope.width, Scope.rank])
  have hmiddle := hgroup (fun n => n = -1) (-1) (by simp)
  have hnarrow := hgroup (fun n => n < -1) (-2) (by
    intro s hs
    cases s <;> simp_all [Scope.width, Scope.rank])
  have hcut := Log.cut_of_pairwise (Log.pairwise_latest (fun h => (scope h).width)
    (hooks.filter fun h => (scope h).covers e)) (-1)
  rw [← applicable_eq_latest, Log.cut, hwide, hmiddle, hnarrow] at hcut
  rw [← hcut, inTurn]
  congr 1
  · congr 1
    · apply List.filter_congr
      intro h _
      cases scope h <;> simp [Scope.width, Scope.rank, Scope.covers]
    · apply List.filter_congr
      intro h _
      cases scope h <;> simp [Scope.width, Scope.rank, Scope.covers, eq_comm]
  · apply List.filter_congr
    intro h _
    cases scope h <;> simp [Scope.width, Scope.rank, Scope.covers, eq_comm]

/-- The hooks for an entry do not depend on its identifier. -/
theorem inTurn_withId (scope : α → Scope) (hooks : List α) (e : Entry) (id : EntryId) :
    inTurn scope hooks (e.withId id) = inTurn scope hooks e := rfl

/-- Gates are consulted in turn: all of them if all accept the entry, and else those up to the first
that refuses it. -/
theorem passGates_spec (e : Entry) (gates : List Gate) :
    (passGates e gates = (gates, true) ∧ ∀ g ∈ gates, g.accepts e = true) ∨
      ∃ front g rest, gates = front ++ g :: rest ∧ (∀ x ∈ front, x.accepts e = true) ∧
        g.accepts e = false ∧ passGates e gates = (front ++ [g], false) := by
  induction gates with
  | nil => exact .inl ⟨rfl, by simp⟩
  | cons g gates ih =>
    cases hg : g.accepts e with
    | false => exact .inr ⟨[], g, gates, rfl, by simp, hg, by simp [passGates, hg]⟩
    | true =>
      rcases ih with ⟨hpass, hall⟩ | ⟨front, g', rest, rfl, hfront, hg', hpass⟩
      · exact .inl ⟨by simp [passGates, hg, hpass], List.forall_mem_cons.2 ⟨hg, hall⟩⟩
      · exact .inr ⟨g :: front, g', rest, rfl, List.forall_mem_cons.2 ⟨hg, hfront⟩, hg',
          by simp [passGates, hg, hpass]⟩

end AuditTrail
