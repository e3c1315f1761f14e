import AuditTrail.Sql.Database

/-!
# Databases only grow

* `Database.Extends`: every table is still there, with the same rows in front.
* `Database.insert_eq_ok_iff`, `Database.insert_eq_alreadyExists_iff`: a row is added exactly if no
  row of the table has its identifier.
* `Database.extends_insert`: rows are only added.
* `Database.Retains`: every table is still there as it was; `Database.retains_create`: a setup
  changes no table. `Database.isSome_table?_create`: it makes the one that was missing.
-/

namespace AuditTrail.Sql.Database

variable {db db' : Database} {name : String}

/-- Every table of the first database is in the second, with the same rows in front. -/
def Extends (db db' : Database) : Prop :=
  ∀ name t, db.table? name = some t → ∃ t', db'.table? name = some t' ∧ t.rows <+: t'.rows

namespace Extends

theorem refl (db : Database) : db.Extends db := fun _ t h => ⟨t, h, List.prefix_rfl⟩

theorem trans {db'' : Database} (h : db.Extends db') (h' : db'.Extends db'') :
    db.Extends db'' := by
  intro name t ht
  obtain ⟨t', ht', hrows⟩ := h name t ht
  obtain ⟨t'', ht'', hrows'⟩ := h' name t' ht'
  exact ⟨t'', ht'', hrows.trans hrows'⟩

end Extends

/-- Every table of the first database is in the second, as it was. -/
def Retains (db db' : Database) : Prop :=
  ∀ name t, db.table? name = some t → db'.table? name = some t

namespace Retains

theorem refl (db : Database) : db.Retains db := fun _ _ h => h

theorem trans {db'' : Database} (h : db.Retains db') (h' : db'.Retains db'') : db.Retains db'' :=
  fun name t ht => h' name t (h name t ht)

end Retains

theorem Retains.extends (h : db.Retains db') : db.Extends db' :=
  fun name t ht => ⟨t, h name t ht, List.prefix_rfl⟩

/-! ## Rows -/

theorem table?_withRows (db : Database) (name other : String)
    (f : List StoredRow → List StoredRow) :
    (db.withRows name f).table? other =
      (db.table? other).map fun t =>
        if sameName t.name name then { t with rows := f t.rows } else t := by
  rw [table?, withRows, List.find?_map]
  congr 2
  funext t
  simp only [Function.comp_apply]
  split <;> rfl

theorem sameName_of_table? {t : Table} (h : db.table? name = some t) :
    sameName t.name name = true := by
  have := List.find?_some h
  exact this

/-- A row is added exactly if the table is there and no row of it has the identifier. -/
theorem insert_eq_ok_iff {id : EntryId} {row : Row} :
    db.insert name id row = .ok db' ↔
      ∃ t, db.table? name = some t ∧ (∀ r ∈ t.rows, r .id ≠ .blob row.id) ∧
        db' = db.withRows name (· ++ [StoredRow.ofRow row]) := by
  unfold insert
  cases db.table? name with
  | none => simp
  | some t =>
    simp only [Option.some.injEq, exists_eq_left']
    split
    · next htaken =>
      obtain ⟨r, hr, hid⟩ := List.any_eq_true.1 htaken
      simp only [reduceCtorEq, false_iff, not_and]
      exact fun hfree => absurd (by simpa using hid) (hfree r hr)
    · next hfree =>
      simp only [Except.ok.injEq]
      constructor
      · rintro rfl
        exact ⟨fun r hr hid => hfree (List.any_eq_true.2 ⟨r, hr, by simpa using hid⟩), rfl⟩
      · rintro ⟨-, rfl⟩
        rfl

theorem insert_eq_alreadyExists_iff {id : EntryId} {row : Row} :
    db.insert name id row = .error (.alreadyExists id) ↔
      ∃ t, db.table? name = some t ∧ ∃ r ∈ t.rows, r .id = .blob row.id := by
  unfold insert
  cases db.table? name with
  | none => simp [missing]
  | some t =>
    simp only [Option.some.injEq, exists_eq_left']
    split
    · next htaken => simpa using htaken
    · next hfree => simpa using hfree

theorem table?_of_insert {id : EntryId} {row : Row} {t : Table} (ht : db.table? name = some t)
    (h : db.insert name id row = .ok db') :
    db'.table? name = some { t with rows := t.rows ++ [StoredRow.ofRow row] } := by
  obtain ⟨-, -, -, rfl⟩ := insert_eq_ok_iff.1 h
  rw [table?_withRows, ht, Option.map_some, if_pos (sameName_of_table? ht)]

theorem extends_insert {id : EntryId} {row : Row} (h : db.insert name id row = .ok db') :
    db.Extends db' := by
  obtain ⟨-, -, -, rfl⟩ := insert_eq_ok_iff.1 h
  intro other t ht
  refine ⟨_, by rw [table?_withRows, ht, Option.map_some], ?_⟩
  split
  · exact List.prefix_append _ _
  · exact List.prefix_rfl

/-! ## Schemas -/

theorem retains_createTable (h : db.createTable name = .ok db') : db.Retains db' := by
  unfold createTable at h
  split at h
  · cases h
  · split at h
    · cases h
      exact .refl db
    · split at h
      · cases h
      · cases h
        intro other t ht
        rw [table?, List.find?_append, ← table?, ht, Option.some_or]

theorem table?_createIndex {index table : String} (h : db.createIndex index table = .ok db') :
    db'.table? name = db.table? name := by
  unfold createIndex at h
  split at h
  · cases h
  · split at h <;> cases h <;> rfl

theorem retains_createIndex {index table : String} (h : db.createIndex index table = .ok db') :
    db.Retains db' :=
  fun _ _ ht => (table?_createIndex h).trans ht

theorem retains_create (db : Database) (table : String) : db.Retains (db.create table).2 := by
  unfold create
  split
  · exact .refl db
  · next db₁ h₁ =>
    have hdb₁ := retains_createTable h₁
    split
    · exact hdb₁
    · next db₂ h₂ =>
      have hdb₂ := hdb₁.trans (retains_createIndex h₂)
      split
      · exact hdb₂
      · next db₃ h₃ => exact hdb₂.trans (retains_createIndex h₃)

theorem sameName_self (a : String) : sameName a a = true := by simp [sameName]

theorem isSome_table?_createTable (h : db.createTable name = .ok db') :
    (db'.table? name).isSome = true := by
  unfold createTable at h
  split at h
  · cases h
  · split at h
    · next hsome =>
      cases h
      exact hsome
    · split at h
      · cases h
      · cases h
        simp [table?, sameName_self]

/-- After a setup the table is there. -/
theorem isSome_table?_create (h : (db.create name).1 = .ok ()) :
    ((db.create name).2.table? name).isSome = true := by
  unfold create at h ⊢
  cases h₁ : db.createTable name with
  | error e => simp [h₁] at h
  | ok db₁ =>
    simp only [h₁] at h ⊢
    cases h₂ : db₁.createIndex (orderIndex name) name with
    | error e => simp [h₂] at h
    | ok db₂ =>
      simp only [h₂] at h ⊢
      cases h₃ : db₂.createIndex (typeIndex name) name with
      | error e => simp [h₃] at h
      | ok db₃ =>
        simp only
        rw [table?_createIndex h₃, table?_createIndex h₂]
        exact isSome_table?_createTable h₁

end AuditTrail.Sql.Database
