import AuditTrail.Proofs.Command.Meant
import AuditTrail.Proofs.Command.Readable
import AuditTrail.Proofs.Registry.Appending

/-!
# What commands answer from a log

* `Session.IsMadeOf`: the log of the session is made of the entries of a list.
* `Session.IsMadeOf.record`: if a recording printed an identifier, then the entry that it means has
  come behind the others under it.
* `Session.IsMadeOf.count`, `Session.IsMadeOf.list`, `Session.IsMadeOf.show`: what is counted and
  printed then.
-/

namespace AuditTrail

open Command

namespace Session

/-- The log of the session is made of the entries, which were stored in this order. Its file is a
database. -/
structure IsMadeOf (s : Session) (es : List Entry) : Prop where
  settled : s.workplace.Settled
  log : s.workplace.current.Represents es

variable {s s' : Session} {es : List Entry}

theorem settled_ticked (hs : s.workplace.Settled) : s.ticked.workplace.Settled := ⟨rfl, hs.file⟩

/-! ## Recording -/

theorem text_ne_rejected (id : EntryId) : "Entry rejected by filter" ≠ id.text := by
  intro h
  have hparse := id.parse_text
  rw [← h] at hparse
  have hrefused : BatchReport.isOk (EntryId.parse "Entry rejected by filter") = false := by
    decide +kernel
  rw [hparse] at hrefused
  cases hrefused

/-- An identifier is printed if the entry that is meant was recorded under it. -/
theorem exists_logged_of_record {r : Recording} {id : EntryId}
    (h : (Command.run (.record r)).run s = (.ok [id.text], s')) :
    ∃ e, r.Means s.registry.contentTypes s.system.clock.read e ∧
      ((Registry.log Registry.maxNesting e).answer s.ticked).outcome = .ok (some id) ∧
      s' = (Registry.log Registry.maxNesting e).after s.ticked := by
  rw [Command.run, runRecord_run] at h
  cases hentry : r.toEntry s.registry.contentTypes s.system.clock.read with
  | error fault =>
    rw [hentry] at h
    cases h
  | ok e =>
    rw [hentry, Prod.mk.injEq, map_eq_ok] at h
    obtain ⟨⟨outcome, houtcome, hline⟩, rfl⟩ := h
    refine ⟨e, Recording.toEntry_eq_ok_iff.1 hentry, ?_, rfl⟩
    cases hlogged : ((Registry.log Registry.maxNesting e).answer s.ticked).outcome with
    | error err =>
      rw [hlogged] at houtcome
      cases houtcome
    | ok outcome' =>
      rw [hlogged] at houtcome
      obtain rfl := Except.ok.inj houtcome
      cases outcome' with
      | none => exact absurd (List.singleton_inj.1 hline) (text_ne_rejected id)
      | some id' => rw [EntryId.text_injective (List.singleton_inj.1 hline)]

/-- If a recording printed an identifier, then the entry that it means has come right behind the
others under it. What handlers have logged comes behind it. -/
theorem IsMadeOf.record (h : s.IsMadeOf es) {r : Recording} {id : EntryId}
    (hrun : (Command.run (.record r)).run s = (.ok [id.text], s')) :
    ∃ e more, r.Means s.registry.contentTypes s.system.clock.read e ∧
      s'.IsMadeOf (es ++ e.withId id :: more) := by
  obtain ⟨e, hmeans, hlogged, rfl⟩ := exists_logged_of_record hrun
  have hticked := settled_ticked h.settled
  obtain ⟨more, hmore⟩ := Registry.represents_log hticked h.log hlogged
  exact ⟨e, more, hmeans, (Registry.tame_log _ _ hticked e).1.settled, hmore⟩

/-! ## Counting and printing -/

/-- The entries are counted that the filters of the clauses match. -/
theorem IsMadeOf.count (h : s.IsMadeOf es) {clauses : List String} {filters : List Filter}
    (hclauses : Filter.ofClauses clauses = .ok filters)
    (hfew : Filter.comparisons filters < 1000) :
    (Command.run (.count clauses)).answer s =
      .ok [Text.decimal (es.filter (Filter.matchesAll filters)).length] := by
  have hprepares : s.workplace.current.Prepares (TableLog.countQuery filters) :=
    s.workplace.current.prepares_of_comparisons rfl hfew
  have hcount : (Backend.countFilter filters).answer s.workplace = _ :=
    (h.settled.answer_countFilter filters).trans (h.log.countFilter hprepares)
  rw [Command.run, runCount, hclauses]
  exact congrArg (fun n => (ofLog n).map fun n => [Text.decimal n]) hcount

/-- What is shown is read back for the entry of the identifier. -/
theorem IsMadeOf.show (h : s.IsMadeOf es) {e : Entry} (he : e ∈ es) (json : Bool) :
    (Command.run (.show e.id.text json)).answer s =
      (ofLog (s.workplace.current.readBack s.registry.contentTypes e)).map fun x =>
        printAll json s.registry [x] := by
  have hread : (Backend.retrieve s.registry.contentTypes e.id).answer s.workplace = _ :=
    (h.settled.answer_retrieve _ _).trans (h.log.retrieve he)
  rw [Command.run, runShow, Recording.readId_text]
  change Except.map _ (ofLog (.map _ ((Backend.retrieve _ e.id).answer s.workplace))) = _
  rw [hread]
  cases s.workplace.current.readBack s.registry.contentTypes e <;> rfl

/-- What is listed is read back for the entries. -/
theorem IsMadeOf.list (h : s.IsMadeOf es) {type : Option String} {page : Page} {json : Bool}
    {lines : List String} (hlines : (Command.run (.list type page json)).answer s = .ok lines) :
    ∃ xs, lines = printAll json s.registry xs ∧ ∀ x ∈ xs, ∃ e ∈ es,
      s.workplace.current.readBack s.registry.contentTypes e = .ok x := by
  obtain ⟨xs, hxs, rfl⟩ := map_eq_ok.1 hlines
  have hxs := mapError_eq_ok.1 hxs
  refine ⟨xs, rfl, fun x hx => ?_⟩
  cases type with
  | none => exact h.log.exists_of_mem_select ((h.settled.answer_retrieveMany _ _ _).symm.trans hxs) hx
  | some type =>
    exact h.log.exists_of_mem_select ((h.settled.answer_retrieveTyped _ _ _ _).symm.trans hxs) hx

theorem isMadeOf_watched : watched.IsMadeOf [] :=
  ⟨reached_watched.spec.2.2, MemoryLog.represents_empty⟩

end Session

/-- A recording with an identifier of its own and no more than has to be given. -/
def Recording.plain : Recording where
  type := "t"
  level := "info"
  id := some (IdSupply.timeId 1 0).text
  timestamp := none
  user := none
  object := none
  contentType := none
  data := none
  fields := []

end AuditTrail
