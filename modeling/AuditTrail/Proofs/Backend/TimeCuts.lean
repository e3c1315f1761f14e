import AuditTrail.Proofs.Backend.Pages

/-!
# Time cuts the order of reading

* `Filter.matches_time`: at every instant an entry is after it, at it or before it, in microseconds.
* `Keeping.KeepsTime`: the order of reading is one of microseconds. In a table it always is; in
  memory it is unless a leap second runs on into the next one.
* `Workplace.CutsAt`: what is after an instant, at it and before it are three runs of the whole log.
* `Workplace.Reachable.cutsAt_iff`: after every run, the instants cut the log into such runs exactly
  if the log keeps time.
-/

namespace AuditTrail

/-! ## Leap seconds -/

namespace Instant

/-- Without leap seconds the microseconds are in the order of the instants. -/
theorem micros_le_of_le {a b : Instant} (ha : a.isLeap = false) (h : a.le b = true) :
    a.micros ≤ b.micros := by
  rw [isLeap, decide_eq_false_iff_not] at ha
  rw [le_iff] at h
  rw [micros, micros]
  omega

theorem le_antisymm {a b : Instant} (hab : a.le b = true) (hba : b.le a = true) : a = b := by
  rw [le_iff] at hab hba
  exact ext (by omega) (by omega)

end Instant

/-! ## Filters of time -/

namespace Filter

theorem matchesAll_singleton (f : Filter) : matchesAll [f] = f.matches :=
  funext fun _ => Bool.and_true _

variable (t : Instant)

theorem matches_timestampAfter :
    (timestampAfter [t]).matches = fun e => decide (t.micros < e.micros) :=
  funext fun _ => Bool.or_false _

theorem matches_timestamp : (timestamp [t]).matches = fun e => decide (e.micros = t.micros) :=
  funext fun _ => (Bool.or_false _).trans (decide_eq_decide.2 eq_comm)

theorem matches_timestampBefore :
    (timestampBefore [t]).matches = fun e => decide (e.micros < t.micros) :=
  funext fun _ => Bool.or_false _

/-- At every instant, exactly one of the filters for the time after it, the time itself and the time
before it matches an entry. -/
theorem matches_time (e : Entry) :
    ((timestampAfter [t]).matches e).toNat + ((timestamp [t]).matches e).toNat +
      ((timestampBefore [t]).matches e).toNat = 1 := by
  simp only [matches_timestampAfter, matches_timestamp, matches_timestampBefore]
  obtain hlt | heq | hgt := Int.lt_trichotomy t.micros e.micros
  · simp [hlt, hlt.ne', hlt.le.not_gt]
  · simp [heq]
  · simp [hgt, hgt.ne, hgt.le.not_gt]

end Filter

namespace Keeping

/-- The order of reading is one of microseconds: in memory, where entries are in the order of their
instants, no later instant counts fewer microseconds. -/
def KeepsTime : Keeping → List Entry → Prop
  | .memory _, es => ∀ a ∈ es, ∀ b ∈ es, a.timestamp.le b.timestamp = true → a.micros ≤ b.micros
  | .table _ _ _, _ => True

instance : (k : Keeping) → (es : List Entry) → Decidable (k.KeepsTime es)
  | .memory _, es => inferInstanceAs (Decidable (∀ a ∈ es, ∀ b ∈ es,
      a.timestamp.le b.timestamp = true → a.micros ≤ b.micros))
  | .table _ _ _, _ => .isTrue trivial

variable {k : Keeping} {es : List Entry}

theorem keepsTime_of_not_leap (h : ∀ e ∈ es, e.timestamp.isLeap = false) : k.KeepsTime es := by
  cases k with
  | memory log => exact fun a ha b _ hle => Instant.micros_le_of_le (h a ha) hle
  | table path location log => trivial

theorem keepsTime_iff :
    k.KeepsTime es ↔ (k.newestFirst es).Pairwise fun a b => b.micros ≤ a.micros := by
  cases k with
  | memory log =>
    have hsorted := Log.pairwise_newest Entry.timestamp es.reverse
    have hmem : ∀ e, e ∈ MemoryLog.newestFirst es ↔ e ∈ es :=
      fun e => (perm_newestFirst (.memory log) es).mem_iff
    constructor
    · intro h
      exact hsorted.imp_of_mem fun ha hb hle => h _ ((hmem _).1 hb) _ ((hmem _).1 ha) hle
    · intro h a ha b hb
      refine List.Pairwise.forall_of_forall_of_flip
        (R := fun a b => a.timestamp.le b.timestamp = true → a.micros ≤ b.micros)
        (fun _ _ _ => le_rfl) ?_ ?_ ((hmem a).2 ha) ((hmem b).2 hb)
      · refine hsorted.imp fun {x y} hyx hxy => ?_
        rw [Entry.micros, Entry.micros, Instant.le_antisymm hxy hyx]
      · refine List.Pairwise.imp ?_ h
        exact fun hyx _ => hyx
  | table path location log => exact iff_of_true trivial (Log.pairwise_latest _ _)

/-- The entries after an instant, at it and before it, one behind the other. -/
theorem sequence_time (k : Keeping) (es : List Entry) (t : Instant) :
    k.sequence es [.timestampAfter [t]] ++ k.sequence es [.timestamp [t]] ++
        k.sequence es [.timestampBefore [t]] =
      Log.cut Entry.micros t.micros (k.newestFirst es) := by
  simp only [sequence, ← filter_newestFirst, Filter.matchesAll_singleton,
    Filter.matches_timestampAfter, Filter.matches_timestamp, Filter.matches_timestampBefore]
  rfl

end Keeping

namespace Workplace

variable {types : ContentTypes} {w : Workplace} {es : List Entry}

/-- What is after an instant, at it and before it are three runs of the whole log. -/
def CutsAt (types : ContentTypes) (w : Workplace) (t : Instant) : Prop :=
  ∀ n amount, Backend.count.answer w = .ok n → n ≤ amount →
    (Backend.retrieveMany types amount 0).answer w = do
      let after ← (Backend.filter types [.timestampAfter [t]] amount 0).answer w
      let level ← (Backend.filter types [.timestamp [t]] amount 0).answer w
      let before ← (Backend.filter types [.timestampBefore [t]] amount 0).answer w
      return after ++ level ++ before

/-- An instant cuts a log as it cuts what the log is made of. -/
theorem cutsAt_iff_of_represents (hw : w.Sound) (h : w.current.Represents es)
    (hsize : es.length ≤ Text.maxSigned) (t : Instant) :
    w.CutsAt types t ↔
      (w.current.newestFirst es).mapM (fun e => w.current.readBack types e) =
        (Log.cut Entry.micros t.micros (w.current.newestFirst es)).mapM
          fun e => w.current.readBack types e := by
  have hslices : w.Slices types _ _ := slices_of_represents hw h hsize
  have hfilter {f : Filter} (hf : f.size ≤ 1) (amount : Nat) :=
    hslices.filter_of_comparisons (Filter.comparisons_singleton_lt hf) amount 0
  have hafter := @hfilter (.timestampAfter [t]) le_rfl
  have hlevel := @hfilter (.timestamp [t]) le_rfl
  have hbefore := @hfilter (.timestampBefore [t]) le_rfl
  have hread : ∀ filters amount, es.length ≤ amount →
      Log.page amount 0 (w.current.sequence es filters) = w.current.sequence es filters := by
    intro filters amount hamount
    have hlength := w.current.length_sequence es filters
    have hle := List.length_filter_le (Filter.matchesAll filters) es
    rw [Log.page, List.drop_zero, List.take_of_length_le (by omega)]
  have hcount : ∀ n, Backend.count.answer w = .ok n ↔ es.length = n := by
    intro n
    rw [hslices.count, Keeping.sequence_nil, (Keeping.perm_newestFirst _ _).length_eq,
      Except.ok.injEq]
  rw [← Keeping.sequence_time, List.mapM_append, List.mapM_append, ← Keeping.sequence_nil]
  simp only [bind_assoc, pure_bind]
  constructor
  · intro hcuts
    have := hcuts es.length es.length ((hcount _).2 rfl) le_rfl
    rwa [hslices.retrieveMany, hafter, hlevel, hbefore,
      hread _ _ le_rfl, hread _ _ le_rfl, hread _ _ le_rfl, hread _ _ le_rfl] at this
  · intro hcut n amount hn hamount
    obtain rfl := (hcount n).1 hn
    rwa [hslices.retrieveMany, hafter, hlevel, hbefore,
      hread _ _ hamount, hread _ _ hamount, hread _ _ hamount, hread _ _ hamount]

/-- All instants cut a log exactly if it keeps time. -/
theorem forall_cutsAt_iff (hw : w.Sound) (h : w.current.Represents es)
    (hsize : es.length ≤ Text.maxSigned) :
    (∀ t, w.CutsAt types t) ↔ w.current.KeepsTime es := by
  simp only [cutsAt_iff_of_represents hw h hsize]
  constructor
  · intro hcuts
    cases hk : w.current with
    | table path location log => trivial
    | memory log =>
      rw [Keeping.keepsTime_iff]
      refine Log.pairwise_of_cut fun a _ => ?_
      have hcut := hcuts a.timestamp
      simp only [hk, Keeping.readBack, mapM_ok, Except.ok.injEq] at hcut
      exact hcut.symm
  · intro hkeeps t
    rw [Log.cut_of_pairwise (Keeping.keepsTime_iff.1 hkeeps)]

/-- From a log without entries, after any run: every entry is after an instant, at it or before it,
and all instants cut the log into these three runs exactly if the log keeps time, as it does
without leap seconds. -/
theorem Reachable.cutsAt_iff {types₀ : ContentTypes} {w₀ : Workplace} (hw : w₀.Reachable types₀)
    (hempty : w₀.current.isEmpty = true) (cs : List Call)
    (hsize : (storedBy cs ((runAll types₀ cs).answer w₀)).length ≤ Text.maxSigned)
    (types : ContentTypes) :
    ∀ w es, (runAll types₀ cs).after w₀ = w → storedBy cs ((runAll types₀ cs).answer w₀) = es →
      (∀ e ∈ es, ∀ t, ((Filter.timestampAfter [t]).matches e).toNat +
        ((Filter.timestamp [t]).matches e).toNat +
          ((Filter.timestampBefore [t]).matches e).toNat = 1) ∧
      ((∀ t, w.CutsAt types t) ↔ w.current.KeepsTime es) ∧
      ((∀ e ∈ es, e.timestamp.isLeap = false) → ∀ t, w.CutsAt types t) := by
  rintro w es rfl rfl
  obtain ⟨hsound, hmade⟩ := hw.represents hempty cs
  have hcut := @forall_cutsAt_iff types _ _ hsound hmade hsize
  exact ⟨fun e _ t => Filter.matches_time t e, hcut,
    fun hleap => hcut.2 (Keeping.keepsTime_of_not_leap hleap)⟩

/-- An entry in the middle of a leap second, and one in the next second. -/
def aroundLeap : List Call :=
  [.store (((Entry.ofType "before" .info .epoch).withId (IdSupply.timeId 1 0)).atInstant
      ⟨1483228799, 1500000000, by decide, by decide, by decide, by decide⟩),
    .store (((Entry.ofType "after" .info .epoch).withId (IdSupply.timeId 1 1)).atInstant
      ⟨1483228800, 300000000, by decide, by decide, by decide, by decide⟩)]

/-- In memory the entry of the leap second is read behind the other, although it is at a later
microsecond. -/
theorem Reachable.cutsAt_aroundLeap :
    Reachable .empty ⟨Backend.openMemory, opened.system⟩ ∧
      ¬ ∀ t, ((runAll .empty aroundLeap).after ⟨Backend.openMemory, opened.system⟩).CutsAt
        .empty t := by
  have hreachable : Reachable .empty ⟨Backend.openMemory, opened.system⟩ := .memory _
  have hempty : Keeping.isEmpty (.memory .empty) = true := by decide +kernel
  have hsize : (storedBy aroundLeap ((runAll .empty aroundLeap).answer
      ⟨Backend.openMemory, opened.system⟩)).length ≤ Text.maxSigned := by decide +kernel
  have hslips : ¬ ((runAll .empty aroundLeap).after
      ⟨Backend.openMemory, opened.system⟩).current.KeepsTime
        (storedBy aroundLeap ((runAll .empty aroundLeap).answer
          ⟨Backend.openMemory, opened.system⟩)) := by decide +kernel
  obtain ⟨-, hcuts, -⟩ := hreachable.cutsAt_iff hempty aroundLeap hsize .empty _ _ rfl rfl
  exact ⟨hreachable, fun h => hslips (hcuts.1 h)⟩

end Workplace

end AuditTrail
