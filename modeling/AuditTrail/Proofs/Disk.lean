import AuditTrail.Location

/-!
# Disks that look alike

* `Disk.lookup_set`: what stands at the names after a change.
* `Disk.Alike`: two disks on which the same names lead to the same things. Paths lead to the same
  names on both, the same directories can be made, and the same databases opened.
* `Disk.Keeps`: every database of the first disk is on the second. Directories and texts that are
  added take no database away.
-/

namespace AuditTrail

theorem lookup_cons_filter {α β : Type} [BEq α] [LawfulBEq α] [DecidableEq α]
    (xs : List (α × β)) (k j : α) (v : β) :
    ((k, v) :: xs.filter fun x => x.1 ≠ k).lookup j = if j = k then some v else xs.lookup j := by
  rw [List.lookup_cons]
  by_cases hjk : j = k
  · simp [hjk]
  · rw [beq_false_of_ne hjk, if_neg hjk]
    induction xs with
    | nil => rfl
    | cons x xs ih =>
      obtain ⟨i, w⟩ := x
      by_cases hik : i = k
      · have hji : (j == i) = false := beq_false_of_ne (hik ▸ hjk)
        simpa [hik, List.lookup_cons, hik ▸ hji] using ih
      · by_cases hji : j = i
        · simp [hji, hik]
        · have hji : (j == i) = false := beq_false_of_ne hji
          simpa [hik, List.lookup_cons, hji] using ih

namespace Disk

theorem lookup_set (d : Disk) (names other : List String) (node : Node) :
    (d.set names node).lookup other =
      if other = names ∧ names ≠ [] then some node else d.lookup other := by
  unfold lookup set
  by_cases ho : other = []
  · subst ho
    by_cases hn : names = []
    · simp [hn]
    · simp [Ne.symm hn]
  · rw [if_neg ho, if_neg ho]
    refine (lookup_cons_filter d.nodes names other node).trans ?_
    by_cases hn : other = names
    · simp [hn, hn ▸ ho]
    · simp [hn]

theorem ne_nil_of_lookup {d : Disk} {names : List String} {node : Node}
    (h : d.lookup names = some node) (hnode : node ≠ .directory) : names ≠ [] := by
  rintro rfl
  exact hnode (Option.some.inj h).symm

/-! ## Databases stay -/

/-- Every database of the first disk is on the second. -/
def Keeps (d d' : Disk) : Prop :=
  ∀ names db, d.lookup names = some (.database db) → d'.lookup names = some (.database db)

namespace Keeps

variable {d d' d'' : Disk}

theorem refl (d : Disk) : d.Keeps d := fun _ _ h => h

theorem trans (h : d.Keeps d') (h' : d'.Keeps d'') : d.Keeps d'' :=
  fun names db hdb => h' names db (h names db hdb)

end Keeps

/-- What is put where no database stands takes none away. -/
theorem keeps_set {d : Disk} {names : List String} {node : Node}
    (h : ∀ db, d.lookup names ≠ some (.database db)) : d.Keeps (d.set names node) := by
  intro other db hdb
  rw [lookup_set, if_neg ?_, hdb]
  rintro ⟨rfl, -⟩
  exact h db hdb

theorem keeps_set_of_none {d : Disk} {names : List String} {node : Node}
    (h : d.lookup names = none) : d.Keeps (d.set names node) :=
  keeps_set fun db hdb => by simp [h] at hdb

theorem keeps_addText (d : Disk) (names : List String) (more : String) :
    d.Keeps (d.addText names more) := by
  unfold addText
  split
  · next old hold =>
    split
    · exact .refl d
    · exact keeps_set fun db hdb => by simp [hold] at hdb
  · exact .refl d

/-- The names of the directory that is made at a path. -/
def newNames (d : Disk) (path : String) : Except FileFault (List String) := do
  checkPath path
  match splitLastPiece path with
  | none => throw .exists
  | some (front, last) =>
    let names ← d.step (← d.walk (d.start path) front) last
    if last = "." ∨ last = ".." ∨ (d.lookup names).isSome then throw .exists
    return names

theorem makeDirectory_eq (d : Disk) (path : String) :
    d.makeDirectory path = (d.newNames path).map fun names => d.set names .directory := by
  unfold makeDirectory newNames
  cases checkPath path with
  | error e => rfl
  | ok u =>
    simp only [bind, Except.bind]
    cases splitLastPiece path with
    | none => rfl
    | some parts =>
      simp only
      cases d.walk (d.start path) parts.1 with
      | error e => rfl
      | ok spot =>
        simp only
        cases d.step spot parts.2 with
        | error e => rfl
        | ok names =>
          simp only
          split <;> rfl

theorem lookup_of_newNames {d : Disk} {path : String} {names : List String}
    (h : d.newNames path = .ok names) : d.lookup names = none := by
  unfold newNames at h
  cases hc : checkPath path with
  | error e => simp [hc, bind, Except.bind] at h
  | ok u =>
    simp only [hc, bind, Except.bind] at h
    split at h
    · cases h
    · next front last _ =>
      cases hw : d.walk (d.start path) front with
      | error e => simp [hw] at h
      | ok spot =>
        simp only [hw] at h
        cases hs : d.step spot last with
        | error e => simp [hs] at h
        | ok found =>
          simp only [hs] at h
          split at h
          · cases h
          · next hfree =>
            obtain rfl := Except.ok.inj h
            simpa using fun hn => hfree (.inr (.inr hn))

theorem keeps_makeDirectory {d d' : Disk} {path : String} (h : d.makeDirectory path = .ok d') :
    d.Keeps d' := by
  rw [makeDirectory_eq] at h
  cases hn : d.newNames path with
  | error e => simp [hn, Except.map] at h
  | ok names =>
    simp only [hn, Except.map, Except.ok.injEq] at h
    subst h
    exact keeps_set_of_none (lookup_of_newNames hn)

theorem keeps_makeAll (d : Disk) (paths : List String) : d.Keeps (d.makeAll paths).2 := by
  induction paths generalizing d with
  | nil => exact .refl d
  | cons path above ih =>
    unfold makeAll
    cases hmake : d.makeDirectory path with
    | ok d₁ => exact keeps_makeDirectory hmake
    | error e =>
      cases e with
      | missing =>
        simp only
        cases habove : d.makeAll above with
        | mk r d₁ =>
          have hkeeps : d.Keeps d₁ := by simpa [habove] using ih d
          cases r with
          | error e => exact hkeeps
          | ok u =>
            simp only
            cases hagain : d₁.makeDirectory path with
            | ok d₂ => exact hkeeps.trans (keeps_makeDirectory hagain)
            | error e =>
              simp only
              split <;> exact hkeeps
      | _ =>
        simp only
        split <;> exact .refl d

theorem keeps_createAbove (d : Disk) (path : String) : d.Keeps (d.createAbove path).2 := by
  unfold createAbove
  split
  · exact keeps_makeAll d _
  · exact .refl d

/-! ## The same names lead to the same things -/

/-- The same names lead to the same things, and paths start at the same directory. -/
structure Alike (d d' : Disk) : Prop where
  lookup : ∀ names, d.lookup names = d'.lookup names
  here : d.here = d'.here

namespace Alike

variable {d d' : Disk}

theorem refl (d : Disk) : d.Alike d := ⟨fun _ => rfl, rfl⟩

theorem trans {d'' : Disk} (h : d.Alike d') (h' : d'.Alike d'') : d.Alike d'' :=
  ⟨fun names => (h.lookup names).trans (h'.lookup names), h.here.trans h'.here⟩

theorem set (h : d.Alike d') (names : List String) (node : Node) :
    (d.set names node).Alike (d'.set names node) := by
  refine ⟨fun other => ?_, h.here⟩
  rw [lookup_set, lookup_set, h.lookup]

theorem addText (h : d.Alike d') (names : List String) (more : String) :
    (d.addText names more).Alike (d'.addText names more) := by
  unfold Disk.addText
  rw [h.lookup]
  split
  · split
    · exact h
    · exact h.set names _
  · exact h

theorem step (h : d.Alike d') (spot : List String) (piece : String) :
    d.step spot piece = d'.step spot piece := by
  unfold Disk.step
  rw [h.lookup]

theorem walk (h : d.Alike d') (spot pieces : List String) :
    d.walk spot pieces = d'.walk spot pieces := by
  induction pieces generalizing spot with
  | nil => rfl
  | cons piece pieces ih =>
    unfold Disk.walk
    rw [h.step]
    split
    · exact ih _
    · rfl

theorem start (h : d.Alike d') (path : String) : d.start path = d'.start path := by
  unfold Disk.start
  rw [h.here]

theorem isDirectory (h : d.Alike d') (path : String) :
    d.isDirectory path = d'.isDirectory path := by
  have hfind : d.find path = d'.find path := by
    simp only [find, locate, h.start, h.walk, h.lookup]
  rw [Disk.isDirectory, Disk.isDirectory, hfind]

theorem newNames (h : d.Alike d') (path : String) : d.newNames path = d'.newNames path := by
  simp only [Disk.newNames, h.start, h.walk, h.step, h.lookup]

/-- Directories are made on both disks with the same outcome. -/
theorem makeAll (h : d.Alike d') (paths : List String) :
    (d.makeAll paths).1 = (d'.makeAll paths).1 ∧
      (d.makeAll paths).2.Alike (d'.makeAll paths).2 := by
  induction paths generalizing d d' with
  | nil => exact ⟨rfl, h⟩
  | cons path above ih =>
    unfold Disk.makeAll
    simp only [makeDirectory_eq, h.newNames]
    cases d'.newNames path with
    | ok names => exact ⟨rfl, h.set names .directory⟩
    | error e =>
      cases e with
      | missing =>
        obtain ⟨hr, hd⟩ := ih h
        simp only [Except.map]
        cases ha : d.makeAll above with
        | mk r d₁ =>
          cases ha' : d'.makeAll above with
          | mk r' d₁' =>
            simp only [ha, ha'] at hr hd
            subst hr
            cases r with
            | error e => exact ⟨rfl, hd⟩
            | ok u =>
              simp only [hd.newNames, hd.isDirectory]
              cases d₁'.newNames path with
              | ok names => exact ⟨rfl, hd.set names .directory⟩
              | error e =>
                simp only
                split
                · exact ⟨rfl, hd⟩
                · exact ⟨rfl, hd⟩
      | _ =>
        simp only [Except.map, h.isDirectory]
        split
        · exact ⟨rfl, h⟩
        · exact ⟨rfl, h⟩

theorem createAbove (h : d.Alike d') (path : String) :
    (d.createAbove path).1 = (d'.createAbove path).1 ∧
      (d.createAbove path).2.Alike (d'.createAbove path).2 := by
  unfold Disk.createAbove
  split
  · exact h.makeAll _
  · exact ⟨rfl, h⟩

end Alike

end Disk

namespace Location

variable {d d' : Disk}

/-! ## Databases -/

theorem keeps_openFile? {names : List String} {access : Sql.Access} {l : Location}
    (h : openFile? d names access = some (l, d')) : d.Keeps d' := by
  unfold openFile? at h
  split at h
  · cases h
  · cases h
    exact .refl d
  · next hnone =>
    split at h
    · cases h
      exact Disk.keeps_set_of_none hnone
    · cases h

theorem keeps_open? {path : String} {l : Location} (h : open? d path = some (l, d')) :
    d.Keeps d' := by
  simp only [open?, Option.bind_eq_bind, Option.bind_eq_some_iff] at h
  obtain ⟨address, -, h⟩ := h
  cases address with
  | apart => cases h; exact .refl d
  | shared name => cases h; exact .refl d
  | file path access =>
    obtain ⟨names, -, h⟩ := Option.bind_eq_some_iff.1 h
    exact keeps_openFile? h

/-- A file that was opened stands at its names. -/
theorem lookup_of_open? {path : String} {names : List String} {writable : Bool}
    (h : open? d path = some (.file names writable, d')) :
    ∃ node, d'.lookup names = some node ∧ node ≠ .directory := by
  simp only [open?, Option.bind_eq_bind, Option.bind_eq_some_iff] at h
  obtain ⟨address, -, h⟩ := h
  cases address with
  | apart => cases h
  | shared name => cases h
  | file path access =>
    obtain ⟨spot, -, h⟩ := Option.bind_eq_some_iff.1 h
    unfold openFile? at h
    split at h
    · cases h
    · next node hnode hfound =>
      cases h
      exact ⟨node, hfound, hnode⟩
    · next hnone =>
      split at h
      · cases h
        have hne : names ≠ [] := by
          rintro rfl
          cases hnone
        exact ⟨.text "", by simp [Disk.lookup_set, hne], by simp⟩
      · cases h

theorem alike_databaseAt? (h : d.Alike d') (names : List String) :
    databaseAt? d names = databaseAt? d' names := by
  rw [databaseAt?, databaseAt?, h.lookup]

end Location

end AuditTrail
