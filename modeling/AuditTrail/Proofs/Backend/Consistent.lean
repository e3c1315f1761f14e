import AuditTrail.Proofs.Backend.Contents
import AuditTrail.Proofs.Log.Consistent

/-!
# Logs in memory stay consistent

* `Keeping.InMemory`: the log is in memory and has a property.
* `Call.inMemory`, `runAll_inMemory`: a property that insertions keep is kept by calls, and by runs.
* `Workplace.consistent_runAll`: after every run from an empty log the index and the entries
  describe one log, which is made of what the run stored.
-/

namespace AuditTrail

namespace Keeping

/-- The log is in memory and has the property. -/
def InMemory (P : MemoryLog → Prop) (k : Keeping) : Prop := ∃ log, k = .memory log ∧ P log

/-- Insertions of entries that have an identifier keep the property. -/
def Kept (P : MemoryLog → Prop) : Prop :=
  ∀ ⦃log log' e⦄, P log → e.id.isNil = false → log.insert e = .ok log' → P log'

variable {P : MemoryLog → Prop}

/-- An entry that is stored has an identifier, and one that is refused changes nothing. -/
theorem inMemory_storeWith (hP : Kept P) {s : Log.Store Keeping} (h : s.log.InMemory P)
    (e : Entry) : (Log.storeWith insert s e).2.log.InMemory P := by
  obtain ⟨log, hlog, hp⟩ := h
  simp only [Log.storeWith]
  cases hins : s.log.insert (s.ids.assign e).1 with
  | error err => exact ⟨log, hlog, hp⟩
  | ok k =>
    rw [hlog] at hins
    obtain ⟨log', hlog', rfl⟩ := map_eq_ok.1 hins
    exact ⟨log', rfl, hP hp (s.ids.isNil_assign e) hlog'⟩

theorem inMemory_storeManyWith (hP : Kept P) {s : Log.Store Keeping} (h : s.log.InMemory P)
    (es : List Entry) : (Log.storeManyWith insert s es).2.log.InMemory P := by
  induction es generalizing s with
  | nil => exact h
  | cons e es ih =>
    have hstep := inMemory_storeWith hP h e
    rw [Log.storeManyWith]
    cases hs : Log.storeWith insert s e with
    | mk r s' =>
      rw [hs] at hstep
      cases r with
      | error err => exact hstep
      | ok id => exact ih hstep

theorem InMemory.of_retains {k k' : Keeping} (h : k.InMemory P) (hsame : k.Retains k') :
    k'.InMemory P := by
  obtain ⟨log, rfl, hp⟩ := h
  cases k' with
  | memory log' =>
    obtain rfl : log = log' := hsame
    exact ⟨log, rfl, hp⟩
  | table path location log' => exact hsame.elim

end Keeping

section Runs

variable {types : ContentTypes} {w : Workplace} {P : MemoryLog → Prop}

/-- One call keeps what insertions keep. -/
theorem Call.inMemory (hP : Keeping.Kept P) (hw : w.Sound) (h : w.current.InMemory P) (c : Call) :
    ((c.work types).after w).current.InMemory P := by
  rcases (@Call.current_cases types w hw c).2 with
    ⟨e, -, -, hcurrent⟩ | ⟨es, -, -, hcurrent⟩ | ⟨-, hretains⟩
  · rw [hcurrent]
    exact Keeping.inMemory_storeWith hP (s := w.state) h e
  · rw [hcurrent]
    exact Keeping.inMemory_storeManyWith hP (s := w.state) h es
  · exact h.of_retains hretains

/-- A run keeps what insertions keep. -/
theorem runAll_inMemory (hP : Keeping.Kept P) (hw : w.Sound) (h : w.current.InMemory P)
    (cs : List Call) : ((runAll types cs).after w).current.InMemory P := by
  induction cs generalizing w with
  | nil => exact h
  | cons c cs ih =>
    rw [after_runAll_cons]
    exact ih (Call.spec hw c).1 (Call.inMemory hP hw h c)

end Runs

theorem Workplace.keeping_of_current {w : Workplace} {log : MemoryLog}
    (h : w.current = .memory log) : w.backend.keeping = .memory log := by
  unfold Workplace.current at h
  cases hk : w.backend.keeping with
  | memory log' => simpa [hk] using h
  | table path location log' => simp [hk] at h

/-- After every run from an empty log in memory, failing calls included, the index and the entries
describe one log: what the run stored, with greater numbers for what was stored later. No entry is
passed over on the way along the index, and both ways of counting agree. -/
theorem Workplace.consistent_runAll (types : ContentTypes) (s : System) (cs : List Call) :
    ∃ log, ((runAll types cs).after ⟨Backend.openMemory, s⟩).backend.keeping = .memory log ∧
      log.Consistent ∧
      (∀ id e, log.find? id = some e ↔
        e ∈ storedBy cs ((runAll types cs).answer ⟨Backend.openMemory, s⟩) ∧ e.id = id) ∧
      (storedBy cs ((runAll types cs).answer ⟨Backend.openMemory, s⟩)).Pairwise log.Precedes ∧
      (log.index.map fun k => log.find? k.2) = log.ordered.map some ∧
      Backend.count.answer ((runAll types cs).after ⟨Backend.openMemory, s⟩) = .ok log.next ∧
      (Backend.countFilter []).answer ((runAll types cs).after ⟨Backend.openMemory, s⟩) =
        .ok log.next := by
  have hreachable : Reachable types ⟨Backend.openMemory, s⟩ := .memory s
  obtain ⟨hsound, hmade⟩ := hreachable.represents rfl cs
  obtain ⟨log, hcurrent, hconsistent⟩ :=
    @runAll_inMemory types _ _ (fun _ _ _ h hid hok => h.insert hid hok) hreachable.sound
      ⟨.empty, rfl, MemoryLog.consistent_empty⟩ cs
  rw [hcurrent] at hmade
  have hmade : log.Represents _ := hmade
  have hcount : log.count = log.next := hconsistent.length_entries
  refine ⟨log, keeping_of_current hcurrent, hconsistent, fun id e => hmade.find?_eq_some_iff,
    hmade.precedes, hconsistent.map_find?, ?_, ?_⟩
  · rw [(Backend.reads_count hsound.whole).answer, hcurrent, Keeping.count, hcount]
  · rw [(Backend.reads_countFilter hsound.whole []).answer, hcurrent, Keeping.countFilter,
      hconsistent.countFilter_nil]

end AuditTrail
