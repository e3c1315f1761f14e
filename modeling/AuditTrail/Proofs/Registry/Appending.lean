import AuditTrail.Proofs.Backend.Contents
import AuditTrail.Proofs.Registry.Logging

/-!
# What is logged comes behind the others

* `Session.Appends`: if the log was made of the entries of a list, then it is made of them and of
  others behind them.
* `Registry.appends_log`: so it is after an entry was logged, with all that handlers have logged.
* `Registry.represents_log`: an entry that was recorded comes right behind the others.
-/

namespace AuditTrail

namespace Session

variable {s s' : Session} {es : List Entry}

/-- If the log was made of the entries of a list, then it is made of them and of others behind
them. -/
def Appends (s s' : Session) : Prop :=
  ∀ es, s.workplace.current.Represents es → ∃ more, s'.workplace.current.Represents (es ++ more)

theorem appends_of_current (h : s'.workplace.current = s.workplace.current) : s.Appends s' := by
  intro es hes
  exact ⟨[], by rwa [h, List.append_nil]⟩

theorem Appends.trans {s'' : Session} (h : s.Appends s') (h' : s'.Appends s'') :
    s.Appends s'' := by
  intro es hes
  obtain ⟨more, hmore⟩ := h es hes
  obtain ⟨more', hmore'⟩ := h' _ hmore
  exact ⟨more ++ more', by rwa [← List.append_assoc]⟩

/-- An entry that is stored comes behind the others. -/
theorem represents_stored (hs : s.workplace.Settled) (hes : s.workplace.current.Represents es)
    {e : Entry} {id : EntryId} (hstoring : s.storing e = .ok id) :
    (s.stored e).workplace.current.Represents (es ++ [e.withId id]) := by
  have hsupplied : (s.supplied e).workplace.Settled := ⟨rfl, hs.file⟩
  obtain ⟨hr, hstate, -⟩ := Backend.store_settled hsupplied (s.given e)
  have hstep := Keeping.represents_storeWith
    (s := (s.supplied e).workplace.state) hes (s.given e)
  rw [← hr, ← hstate, show (Backend.store (s.given e)).answer (s.supplied e).workplace = _ from
    hstoring] at hstep
  have hentry : (s.given e).withId id = e.withId id := by
    rw [(s.given_spec e).1]
    rfl
  rw [← hentry]
  exact hstep

theorem appends_stored (hs : s.workplace.Settled) (e : Entry) : s.Appends (s.stored e) := by
  cases hstoring : s.storing e with
  | error err =>
    have hstored := (stored_spec hs e).2.2
    rw [hstoring] at hstored
    exact appends_of_current hstored
  | ok id => exact fun es hes => ⟨_, represents_stored hs hes hstoring⟩

end Session

namespace Registry

open Session

variable {again : Entry → Duty Logged} {s : Session} {es : List Entry}

/-- What is logged comes behind what is in the log. -/
def Appending (again : Entry → Duty Logged) : Prop :=
  ∀ s : Session, s.workplace.Settled → ∀ e, s.Appends ((again e).after s)

theorem appends_followUp (htame : Tame again) (h : Appending again) (hs : s.workplace.Settled)
    (es : List Entry) : s.Appends ((followUp again es).after s) := by
  induction es generalizing s with
  | nil => exact appends_of_current rfl
  | cons e es ih => exact (h s hs e).trans (ih (htame s hs e).1.settled)

theorem appends_notify (htame : Tame again) (h : Appending again) (hs : s.workplace.Settled)
    (e : Entry) (handlers : List Handler) : s.Appends ((notify again e handlers).after s) := by
  induction handlers generalizing s with
  | nil => exact appends_of_current rfl
  | cons handler handlers ih =>
    have hfirst := appends_followUp htame h hs (handler.followUps e)
    exact hfirst.trans (ih (followUp_spec htame hs (handler.followUps e)).1.settled)

/-- An entry is refused, and the log is as it was, or it is stored, and then handlers may have
others logged. -/
theorem appends_logWith (htame : Tame again) (h : Appending again) : Appending (logWith again) := by
  intro s hs e
  cases hpass : passGates e (inTurn Gate.scope s.registry.gates e) with
  | mk consulted passed =>
    cases passed with
    | false =>
      rw [Duty.after, logWith_refused hpass]
      exact appends_of_current
        (congrArg Log.Store.log (Workplace.state_note hs .entryRejected).1)
    | true =>
      have hstored := appends_stored hs e
      rw [Duty.after, logWith_passed hpass]
      cases s.storing e with
      | error err => exact hstored
      | ok id =>
        exact hstored.trans (appends_notify htame h (stored_spec hs e).1 _ _)

theorem appends_log (depth : Nat) : Appending (log depth) := by
  induction depth with
  | zero => exact appends_logWith tame_nothing fun _ _ _ => appends_of_current rfl
  | succ depth ih => exact appends_logWith (tame_log depth) ih

/-- What an entry is logged with. -/
theorem exists_logWith (depth : Nat) :
    ∃ again, log depth = logWith again ∧ Tame again ∧ Appending again := by
  cases depth with
  | zero => exact ⟨_, rfl, tame_nothing, fun _ _ _ => appends_of_current rfl⟩
  | succ depth => exact ⟨_, rfl, tame_log depth, appends_log depth⟩

/-- An entry that was recorded comes right behind the others, and what handlers have logged comes
behind it. -/
theorem represents_log (hs : s.workplace.Settled) (hes : s.workplace.current.Represents es)
    {depth : Nat} {e : Entry} {id : EntryId}
    (hrecorded : ((log depth e).answer s).outcome = .ok (some id)) :
    ∃ more, ((log depth e).after s).workplace.current.Represents
      (es ++ e.withId id :: more) := by
  obtain ⟨again, hlog, htame, happending⟩ := exists_logWith depth
  rw [hlog] at hrecorded ⊢
  cases hpass : passGates e (inTurn Gate.scope s.registry.gates e) with
  | mk consulted passed =>
    cases passed with
    | false =>
      rw [Duty.answer, logWith_refused hpass] at hrecorded
      cases hrecorded
    | true =>
      rw [Duty.answer, logWith_passed hpass] at hrecorded
      rw [Duty.after, logWith_passed hpass]
      cases hstoring : s.storing e with
      | error err =>
        rw [hstoring] at hrecorded
        cases hrecorded
      | ok id' =>
        rw [hstoring] at hrecorded
        obtain rfl : id' = id := by simpa using hrecorded
        obtain ⟨more, hmore⟩ := appends_notify htame happending (stored_spec hs e).1 (s.given e)
          (inTurn Handler.scope s.registry.handlers e) _ (represents_stored hs hes hstoring)
        exact ⟨more, by rwa [List.append_assoc] at hmore⟩

end Registry

end AuditTrail
