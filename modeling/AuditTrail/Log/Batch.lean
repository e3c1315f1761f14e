import AuditTrail.IdSupply

/-!
# Storing entries

How every log stores entries, given how it inserts one that has an identifier, and what is reported
on a batch.

* `BatchReport`: one result for each entry that was attempted. `storedIds`, `failure?` and
  `unattempted` say what became of the entries, `isComplete` whether everything was stored, and
  `toResult` gives the identifiers or the error.
* `Log.storeWith`: an entry without an identifier gets the next of the supply.
* `Log.storeManyWith`: entries one after another, up to the first failure.
* `Log.page`: the part of a list of entries that a reader asks for.
-/

namespace AuditTrail

/-! ## Reports on batches -/

/-- What became of a batch of so many entries. -/
structure BatchReport where
  results : List (Except Error EntryId)
  submitted : Nat

namespace BatchReport

/-- Is it a success? -/
def isOk {ε α : Type} : Except ε α → Bool
  | .ok _ => true
  | .error _ => false

/-- The identifiers of the entries that were stored. -/
def storedIds (r : BatchReport) : List EntryId := r.results.filterMap Except.toOption

/-- The first error with its place, counted on from `i`. -/
def failureFrom : Nat → List (Except Error EntryId) → Option (Nat × Error)
  | _, [] => none
  | i, .error e :: _ => some (i, e)
  | i, .ok _ :: results => failureFrom (i + 1) results

/-- The first error with its place in the batch. -/
def failure? (r : BatchReport) : Option (Nat × Error) := failureFrom 0 r.results

/-- The number of entries that were not attempted. -/
def unattempted (r : BatchReport) : Nat := r.submitted - r.results.length

/-- Was every entry stored? -/
def isComplete (r : BatchReport) : Bool :=
  r.results.length = r.submitted && r.results.all isOk

/-- The identifiers of all results, or the first error. -/
def toResult (r : BatchReport) : Except Error (List EntryId) := r.results.mapM id

end BatchReport

/-! ## Entries one after another -/

namespace Log

/-- A log with the supply of its identifiers. -/
structure Store (σ : Type) where
  log : σ
  ids : IdSupply

/-- Stores an entry under its own identifier or the next of the supply. -/
def storeWith {σ : Type} (insert : σ → Entry → Except Error σ) (s : Store σ) (e : Entry) :
    Except Error EntryId × Store σ :=
  let (e, ids) := s.ids.assign e
  match insert s.log e with
  | .ok log => (.ok e.id, ⟨log, ids⟩)
  | .error err => (.error err, ⟨s.log, ids⟩)

/-- Stores entries in order; after a failure nothing more is attempted. -/
def storeManyWith {σ : Type} (insert : σ → Entry → Except Error σ) :
    Store σ → List Entry → List (Except Error EntryId) × Store σ
  | s, [] => ([], s)
  | s, e :: es =>
    match storeWith insert s e with
    | (.ok id, s) =>
      let (results, s) := storeManyWith insert s es
      (.ok id :: results, s)
    | (.error err, s) => ([.error err], s)

/-- At most `amount` of the entries behind the first `offset`. -/
def page {α : Type} (amount offset : Nat) (xs : List α) : List α := (xs.drop offset).take amount

end Log

end AuditTrail
