import AuditTrail.Proofs.Backend.Guard
import AuditTrail.Proofs.Backend.Opening
import AuditTrail.Proofs.Registry.Hook
import AuditTrail.Registry.Basic

/-!
# Gates, one store, handlers

* `Duty.answer`, `Duty.after`: what an operation on a registry answers, and the session afterwards.
* `Session.workplace`: the log of the registry and the system, which operations on the log work
  with.
* `Registry.logWith_refused`, `Registry.logWith_passed`: what logging an entry does.
* `Session.Grows`: the log was only stored in. `Registry.Tame` says that of what handlers have
  logged; `Registry.tame_log`: and so it is.
* `Session.Refuses`, `Session.Fails`, `Session.Records`: what becomes of an entry that is logged.
* `Session.Reached`: what registrations lead to. `Session.Reached.gate_store_notify`: there an entry
  is refused by a gate, or fails to be stored, or is stored once and then told to the handlers.
-/

namespace AuditTrail

namespace Duty

/-- What an operation answers. -/
def answer {α : Type} (duty : Duty α) (s : Session) : α := (duty.run s).1

/-- The session after an operation. -/
def after {α : Type} (duty : Duty α) (s : Session) : Session := (duty.run s).2

end Duty

namespace Session

/-- The log of the registry and the system. -/
def workplace (s : Session) : Workplace := ⟨s.registry.backend, s.system⟩

/-- The session with another workplace. -/
def withWorkplace (s : Session) (w : Workplace) : Session :=
  ⟨s.registry.withBackend w.backend, w.system⟩

/-- The session with another supply of identifiers. -/
def withIds (s : Session) (ids : IdSupply) : Session := { s with system := s.system.withIds ids }

/-- The entry under its own identifier, or under the next of the supply. -/
def given (s : Session) (e : Entry) : Entry := (s.system.ids.assign e).1

/-- The session after the entry was given its identifier. -/
def supplied (s : Session) (e : Entry) : Session := s.withIds (s.system.ids.assign e).2

/-- What the store of the entry answers. -/
def storing (s : Session) (e : Entry) : Except Error EntryId :=
  (Backend.store (s.given e)).answer (s.supplied e).workplace

/-- The session after the entry was stored, which handlers find. -/
def stored (s : Session) (e : Entry) : Session :=
  (s.supplied e).withWorkplace ((Backend.store (s.given e)).after (s.supplied e).workplace)

end Session

/-! ## Logging -/

namespace Registry

/-- The gates were consulted. -/
def consultations (gates : List Gate) : List LogEvent := gates.map fun g => .consulted g.name

/-- Each handler was told about the entry, and further things came of it. -/
def told (e : Entry) (handlers : List Handler) (further : List (List LogEvent)) : List LogEvent :=
  (List.zipWith (fun h more => .handled h.name e :: more) handlers further).flatten

variable {again : Entry → Duty Logged} {s : Session} {e : Entry} {consulted : List Gate}

theorem assignId_run (e : Entry) (s : Session) :
    (assignId e).run s = (s.given e, s.supplied e) := rfl

/-- An entry that a gate refuses is noted. -/
theorem logWith_refused
    (h : passGates e (inTurn Gate.scope s.registry.gates e) = (consulted, false)) :
    (logWith again e).run s =
      (⟨.ok none, consultations consulted⟩, ⟨s.registry, s.system.note .entryRejected⟩) := by
  rw [← applicable_eq_inTurn] at h
  rw [logWith, StateT.run_bind]
  simp only [StateT.run_get, pure_bind, h]
  rfl

/-- An entry that passes the gates is stored, and handlers are told if that succeeds. -/
theorem logWith_passed
    (h : passGates e (inTurn Gate.scope s.registry.gates e) = (consulted, true)) :
    (logWith again e).run s =
      match s.storing e with
      | .error err => (⟨.error err, consultations consulted⟩, s.stored e)
      | .ok id =>
        (⟨.ok (some id), consultations consulted ++
          (notify again (s.given e) (inTurn Handler.scope s.registry.handlers e)).answer
            (s.stored e)⟩,
          (notify again (s.given e) (inTurn Handler.scope s.registry.handlers e)).after
            (s.stored e)) := by
  have hturn : applicable Handler.scope s.registry.handlers (s.given e) =
      inTurn Handler.scope s.registry.handlers e := by
    rw [applicable_eq_inTurn, Session.given, Keeping.assign_eq_withId, inTurn_withId]
  have hrun : (onBackend (Backend.store (s.given e))).run (s.supplied e) =
      (s.storing e, s.stored e) := rfl
  rw [← applicable_eq_inTurn] at h
  rw [logWith, StateT.run_bind]
  simp only [StateT.run_get, pure_bind, h, if_true]
  rw [StateT.run_bind, assignId_run]
  change (onBackend (Backend.store (s.given e)) >>= _).run (s.supplied e) = _
  rw [StateT.run_bind, hrun]
  cases s.storing e with
  | error err => rfl
  | ok id =>
    change (get >>= fun t : Session =>
      notify again (s.given e) (applicable _ t.registry.handlers _) >>= _ : Duty Logged).run _ = _
    rw [StateT.run_bind]
    simp only [StateT.run_get, pure_bind]
    rw [show (s.stored e).registry.handlers = s.registry.handlers from rfl, hturn]
    rfl

end Registry

/-! ## Storing -/

namespace Session

variable {s s' : Session} {e : Entry}

/-- The entry is as it was, under its own identifier or the next of the supply. -/
theorem given_spec (s : Session) (e : Entry) :
    s.given e = e.withId (s.given e).id ∧ (s.given e).id.isNil = false ∧
      (e.id.isNil = false → s.given e = e) ∧
      (e.id.isNil = true → (s.given e).id = s.system.ids.peek) := by
  refine ⟨Keeping.assign_eq_withId _ _, IdSupply.isNil_assign _ _, ?_, ?_⟩
  · intro h
    exact congrArg Prod.fst (s.system.ids.assign_of_assigned h)
  · intro h
    simp [given, IdSupply.assign, Entry.isUnassigned, h, Entry.withId]

/-- What storing the entry does to the log: it adds the entry, under the identifier that is
answered, or leaves the log as it is. -/
theorem stored_spec (hs : s.workplace.Settled) (e : Entry) :
    (s.stored e).workplace.Settled ∧ (s.stored e).system.stores = s.system.stores + 1 ∧
      match s.storing e with
      | .error _ => (s.stored e).workplace.current = s.workplace.current
      | .ok id => id = (s.given e).id ∧
          ∀ types, Keeping.Adds types (s.given e) s.workplace.current
            (s.stored e).workplace.current := by
  have hsupplied : (s.supplied e).workplace.Settled := ⟨rfl, hs.file⟩
  obtain ⟨hr, hstate, hsettled⟩ := Backend.store_settled hsupplied (s.given e)
  have hcurrent := congrArg Log.Store.log hstate
  refine ⟨hsettled, Backend.stores_store hsupplied _, ?_⟩
  cases hstoring : s.storing e with
  | error err => exact hcurrent.trans (Keeping.log_storeWith_of_error (hr.symm.trans hstoring))
  | ok id =>
    have hassign := IdSupply.assign_of_assigned (s.supplied e).system.ids (s.given_spec e).2.1
    have hgiven := (Keeping.adds_storeWith .empty (hr.symm.trans hstoring)).1
    have hid : id = (s.given e).id := by
      rw [show (s.supplied e).workplace.state.ids.assign (s.given e) = _ from hassign] at hgiven
      exact (congrArg Entry.id hgiven).symm
    refine ⟨hid, fun types => ?_⟩
    subst hid
    have hadds := (Keeping.adds_storeWith types (hr.symm.trans hstoring)).2.2
    rw [← hcurrent] at hadds
    exact hadds

/-- The log of the registry was only stored in, and the registry is otherwise as it was. -/
structure Grows (s s' : Session) : Prop where
  registry : s'.registry = s.registry.withBackend s'.registry.backend
  settled : s'.workplace.Settled
  log : s.workplace.current.Extends s'.workplace.current

theorem Grows.refl (hs : s.workplace.Settled) : s.Grows s := ⟨rfl, hs, .refl _⟩

theorem Grows.trans {s'' : Session} (h : s.Grows s') (h' : s'.Grows s'') : s.Grows s'' := by
  refine ⟨?_, h'.settled, h.log.trans h'.log⟩
  rw [h'.registry, h.registry]
  rfl

theorem grows_stored (hs : s.workplace.Settled) (e : Entry) : s.Grows (s.stored e) := by
  obtain ⟨hsettled, -, hstored⟩ := stored_spec hs e
  refine ⟨rfl, hsettled, ?_⟩
  cases hstoring : s.storing e with
  | error err =>
    rw [hstoring] at hstored
    rw [show (s.stored e).workplace.current = s.workplace.current from hstored]
    exact .refl _
  | ok id =>
    rw [hstoring] at hstored
    exact (hstored.2 .empty).grows

end Session

/-! ## What handlers have logged -/

namespace Registry

/-- No handler was told about an entry of the identifier. -/
def Quiet (id : EntryId) (events : List LogEvent) : Prop :=
  ∀ name e, .handled name e ∈ events → e.id ≠ id

theorem quiet_append {id : EntryId} {events more : List LogEvent} :
    Quiet id (events ++ more) ↔ Quiet id events ∧ Quiet id more := by
  simp only [Quiet, List.mem_append, or_imp, forall_and]

theorem quiet_consultations (id : EntryId) (gates : List Gate) : Quiet id (consultations gates) := by
  intro name e h
  simp [consultations] at h

/-- Logging only stores in the log, and tells no handler about an entry that was there before. -/
def Tame (again : Entry → Duty Logged) : Prop :=
  ∀ s : Session, s.workplace.Settled → ∀ e, s.Grows ((again e).after s) ∧
    ∀ id, s.workplace.current.Holds id → Quiet id ((again e).answer s).events

variable {again : Entry → Duty Logged} {s : Session}

theorem followUp_cons_run (e : Entry) (es : List Entry) (s : Session) :
    (followUp again (e :: es)).run s =
      (((again e).answer s).events ++ .followedUp ((again e).answer s).outcome ::
          (followUp again es).answer ((again e).after s),
        (followUp again es).after ((again e).after s)) := rfl

/-- The entries that a handler answers with are only stored. -/
theorem followUp_spec (h : Tame again) (hs : s.workplace.Settled) (es : List Entry) :
    s.Grows ((followUp again es).after s) ∧
      ∀ id, s.workplace.current.Holds id → Quiet id ((followUp again es).answer s) := by
  induction es generalizing s with
  | nil => exact ⟨.refl hs, fun id _ name e hmem => absurd hmem List.not_mem_nil⟩
  | cons e es ih =>
    obtain ⟨hgrows, hquiet⟩ := h s hs e
    obtain ⟨hgrows', hquiet'⟩ := ih hgrows.settled
    rw [Duty.after, Duty.answer, followUp_cons_run]
    refine ⟨hgrows.trans hgrows', fun id hid => quiet_append.2 ⟨hquiet id hid, ?_⟩⟩
    intro name x hmem
    rcases List.mem_cons.1 hmem with heq | hmem
    · cases heq
    · exact hquiet' id (hgrows.log.holds hid) name x hmem

theorem notify_cons_run (e : Entry) (h : Handler) (handlers : List Handler) (s : Session) :
    (notify again e (h :: handlers)).run s =
      (.handled h.name e :: (followUp again (h.followUps e)).answer s ++
          (notify again e handlers).answer ((followUp again (h.followUps e)).after s),
        (notify again e handlers).after ((followUp again (h.followUps e)).after s)) := rfl

/-- Each handler is told once, in turn. What comes of it tells nobody about the entries that are in
the log by then. -/
theorem notify_spec (h : Tame again) (hs : s.workplace.Settled) (e : Entry)
    (handlers : List Handler) :
    s.Grows ((notify again e handlers).after s) ∧
      ∃ further, further.length = handlers.length ∧
        (notify again e handlers).answer s = told e handlers further ∧
        ∀ id, s.workplace.current.Holds id → ∀ more ∈ further, Quiet id more := by
  induction handlers generalizing s with
  | nil => exact ⟨.refl hs, [], rfl, rfl, by simp⟩
  | cons handler handlers ih =>
    obtain ⟨hgrows, hquiet⟩ := followUp_spec h hs (handler.followUps e)
    obtain ⟨hgrows', further, hlength, htold, hquiet'⟩ := ih hgrows.settled
    rw [Duty.after, Duty.answer, notify_cons_run, htold]
    refine ⟨hgrows.trans hgrows', (followUp again (handler.followUps e)).answer s :: further,
      congrArg (· + 1) hlength, rfl, fun id hid => List.forall_mem_cons.2 ⟨hquiet id hid, ?_⟩⟩
    exact hquiet' id (hgrows.log.holds hid)

/-- Handlers that answer with no entries are told, and nothing comes of it. -/
theorem notify_run_of_alone {e : Entry} {handlers : List Handler}
    (h : ∀ handler ∈ handlers, handler.followUps e = []) (s : Session) :
    (notify again e handlers).run s = (handlers.map fun handler => .handled handler.name e, s) := by
  induction handlers with
  | nil => rfl
  | cons handler handlers ih =>
    obtain ⟨hhead, hmore⟩ := List.forall_mem_cons.1 h
    rw [notify_cons_run, hhead]
    exact congrArg (fun p : List LogEvent × Session => (.handled handler.name e :: p.1, p.2))
      (ih hmore)

end Registry

/-! ## What becomes of an entry -/

namespace Session

open Registry

/-- A gate refuses the entry: it is the last that is consulted. Nothing is stored, and no handler is
told. -/
structure Refuses (gates : List Gate) (s : Session) (e : Entry) (l : Logged) (s' : Session) :
    Prop where
  refused : ∃ front g rest, inTurn Gate.scope gates e = front ++ g :: rest ∧
    (∀ x ∈ front, x.accepts e = true) ∧ g.accepts e = false ∧
    l = ⟨.ok none, consultations (front ++ [g])⟩
  registry : s'.registry = s.registry
  settled : s'.workplace.Settled
  state : s'.workplace.state = s.workplace.state
  stores : s'.system.stores = s.system.stores

/-- All gates accept the entry, but to store it fails. The log stays as it is, and no handler is
told. -/
structure Fails (gates : List Gate) (s : Session) (e : Entry) (l : Logged) (s' : Session) :
    Prop where
  accepted : ∀ g ∈ inTurn Gate.scope gates e, g.accepts e = true
  failed : ∃ err, s.storing e = .error err ∧
    l = ⟨.error err, consultations (inTurn Gate.scope gates e)⟩
  session : s' = s.stored e
  current : s'.workplace.current = s.workplace.current
  stores : s'.system.stores = s.system.stores + 1

/-- All gates accept the entry, and it is stored. Then the log has one more entry, and each handler
is told once, in turn, about the entry as it was stored. What comes of that tells nobody about the
entries that are in the log by then. -/
structure Records (gates : List Gate) (handlers : List Handler) (s : Session) (e : Entry)
    (l : Logged) (s' : Session) : Prop where
  accepted : ∀ g ∈ inTurn Gate.scope gates e, g.accepts e = true
  stored : s.storing e = .ok (s.given e).id
  outcome : l.outcome = .ok (some (s.given e).id)
  adds : ∀ types, Keeping.Adds types (s.given e) s.workplace.current
    (s.stored e).workplace.current
  stores : (s.stored e).system.stores = s.system.stores + 1
  events : ∃ further, further.length = (inTurn Handler.scope handlers e).length ∧
    l.events = consultations (inTurn Gate.scope gates e) ++
      told (s.given e) (inTurn Handler.scope handlers e) further ∧
    ∀ id, (s.stored e).workplace.current.Holds id → ∀ more ∈ further, Quiet id more
  grows : (s.stored e).Grows s'
  alone : (∀ h ∈ inTurn Handler.scope handlers e, h.followUps (s.given e) = []) →
    s' = s.stored e ∧ l.events = consultations (inTurn Gate.scope gates e) ++
      (inTurn Handler.scope handlers e).map fun h => .handled h.name (s.given e)

end Session

namespace Registry

open Session

variable {again : Entry → Duty Logged} {s : Session}

/-- An entry is refused by a gate, or fails to be stored, or is recorded. -/
theorem logWith_spec (h : Tame again) (hs : s.workplace.Settled) (e : Entry) :
    Refuses s.registry.gates s e ((logWith again e).answer s) ((logWith again e).after s) ∨
      Fails s.registry.gates s e ((logWith again e).answer s) ((logWith again e).after s) ∨
        Records s.registry.gates s.registry.handlers s e ((logWith again e).answer s)
          ((logWith again e).after s) := by
  obtain ⟨hsettled, hstores, hstored⟩ := stored_spec hs e
  rw [Duty.answer, Duty.after]
  rcases passGates_spec e (inTurn Gate.scope s.registry.gates e) with
    ⟨hpass, haccepts⟩ | ⟨front, g, rest, hturn, hfront, hg, hpass⟩
  · rw [logWith_passed hpass]
    cases hstoring : s.storing e with
    | error err =>
      rw [hstoring] at hstored
      exact .inr (.inl ⟨haccepts, ⟨err, hstoring, rfl⟩, rfl, hstored, hstores⟩)
    | ok id =>
      rw [hstoring] at hstored
      obtain ⟨rfl, hadds⟩ := hstored
      obtain ⟨hgrows, further, hlength, htold, hquiet⟩ :=
        notify_spec h hsettled (s.given e) (inTurn Handler.scope s.registry.handlers e)
      refine .inr (.inr ⟨haccepts, hstoring, rfl, hadds, hstores, ⟨further, hlength, ?_, hquiet⟩,
        hgrows, fun halone => ?_⟩)
      · exact congrArg _ htold
      · have hrun := @notify_run_of_alone again _ _ halone (s.stored e)
        simp only [Duty.after, Duty.answer, hrun]
        exact ⟨trivial, trivial⟩
  · have hnoted := Workplace.state_note hs .entryRejected
    rw [logWith_refused hpass]
    exact .inl ⟨⟨front, g, rest, hturn, hfront, hg, rfl⟩, rfl, hnoted.2, hnoted.1, rfl⟩

theorem quiet_told {id : EntryId} {e : Entry} (hid : e.id ≠ id) {handlers : List Handler}
    {further : List (List LogEvent)} (h : ∀ more ∈ further, Quiet id more) :
    Quiet id (told e handlers further) := by
  intro name x hmem
  obtain ⟨events, hevents, hmem⟩ := List.mem_flatten.1 hmem
  obtain ⟨i, hi, rfl⟩ := List.mem_iff_getElem.1 hevents
  rw [List.getElem_zipWith] at hmem
  rcases List.mem_cons.1 hmem with heq | hmem
  · cases heq
    exact hid
  · exact h _ (List.getElem_mem _) name x hmem

/-- What is logged is only stored, if that is so of what handlers have logged. -/
theorem tame_logWith (h : Tame again) : Tame (logWith again) := by
  intro s hs e
  rcases logWith_spec h hs e with hrefuses | hfails | hrecords
  · obtain ⟨front, g, rest, -, -, -, hl⟩ := hrefuses.refused
    have hcurrent := congrArg Log.Store.log hrefuses.state
    refine ⟨⟨?_, hrefuses.settled, ?_⟩, fun id _ => ?_⟩
    · rw [hrefuses.registry]
      rfl
    · rw [show ((logWith again e).after s).workplace.current = _ from hcurrent]
      exact .refl _
    · rw [hl]
      exact quiet_consultations _ _
  · obtain ⟨err, -, hl⟩ := hfails.failed
    refine ⟨?_, fun id _ => ?_⟩
    · rw [hfails.session]
      exact grows_stored hs e
    · rw [hl]
      exact quiet_consultations _ _
  · obtain ⟨further, -, hevents, hquiet⟩ := hrecords.events
    have hgrows := grows_stored hs e
    refine ⟨hgrows.trans hrecords.grows, fun id hid => ?_⟩
    have hne : (s.given e).id ≠ id := by
      rintro rfl
      exact (hrecords.adds .empty).fresh hid
    rw [hevents]
    exact quiet_append.2 ⟨quiet_consultations _ _,
      quiet_told hne (hquiet id (hgrows.log.holds hid))⟩

theorem tame_nothing : Tame fun _ => return ⟨.ok none, []⟩ :=
  fun _ hs _ => ⟨.refl hs, fun _ _ _ _ hmem => absurd hmem List.not_mem_nil⟩

/-- What is logged is only stored, however deep the entries of handlers nest. -/
theorem tame_log (depth : Nat) : Tame (log depth) := by
  induction depth with
  | zero => exact tame_logWith tame_nothing
  | succ depth ih => exact tame_logWith ih

theorem log_spec (hs : s.workplace.Settled) (depth : Nat) (e : Entry) :
    Refuses s.registry.gates s e ((log depth e).answer s) ((log depth e).after s) ∨
      Fails s.registry.gates s e ((log depth e).answer s) ((log depth e).after s) ∨
        Records s.registry.gates s.registry.handlers s e ((log depth e).answer s)
          ((log depth e).after s) := by
  cases depth with
  | zero => exact logWith_spec tame_nothing hs e
  | succ depth => exact logWith_spec (tame_log depth) hs e

end Registry

/-! ## Registration -/

namespace Session

/-- What registrations lead to, from a registry around a log: the gates and the handlers that were
added, in order, around the log that was put in place last. Each log may have been used before, and
may be used meanwhile. -/
inductive Reached : List Gate → List Handler → Session → Prop
  | around {b : Backend} {system : System} (types : ContentTypes)
      (h : Workplace.Settled ⟨b, system⟩) : Reached [] [] ⟨.around b types, system⟩
  | addGate {gates : List Gate} {handlers : List Handler} {s : Session}
      (h : Reached gates handlers s) (g : Gate) :
      Reached (gates ++ [g]) handlers ⟨s.registry.addGate g, s.system⟩
  | addHandler {gates : List Gate} {handlers : List Handler} {s : Session}
      (h : Reached gates handlers s) (handler : Handler) :
      Reached gates (handlers ++ [handler]) ⟨s.registry.addHandler handler, s.system⟩
  | used {gates : List Gate} {handlers : List Handler} {s : Session}
      (h : Reached gates handlers s) {w : Workplace} (hw : w.Settled) :
      Reached gates handlers (s.withWorkplace w)
  | replaceBackend {gates : List Gate} {handlers : List Handler} {s : Session}
      (h : Reached gates handlers s) {b : Backend} (hb : Workplace.Settled ⟨b, s.system⟩) :
      Reached gates handlers ((Registry.replaceBackend b).after s)

variable {gates : List Gate} {handlers : List Handler} {s : Session}

/-- Registrations put hooks behind the others, and leave the file of the log a database. -/
theorem Reached.spec (h : s.Reached gates handlers) :
    s.registry.gates = gates ∧ s.registry.handlers = handlers ∧ s.workplace.Settled := by
  induction h with
  | around types h => exact ⟨rfl, rfl, h⟩
  | addGate _ g ih => exact ⟨congrArg (· ++ [g]) ih.1, ih.2⟩
  | addHandler _ handler ih => exact ⟨ih.1, congrArg (· ++ [handler]) ih.2.1, ih.2.2⟩
  | used _ hw ih => exact ⟨ih.1, ih.2.1, hw⟩
  | replaceBackend _ hb ih =>
    exact ⟨ih.1, ih.2.1, Workplace.settled_of_keeps hb (Workplace.keeps_note _ _)⟩

/-- Entries may be logged meanwhile. -/
theorem Reached.logged (h : s.Reached gates handlers) (depth : Nat) (e : Entry) :
    ((Registry.log depth e).after s).Reached gates handlers := by
  obtain ⟨hgrows, -⟩ := Registry.tame_log depth s h.spec.2.2 e
  have hsame : (Registry.log depth e).after s =
      s.withWorkplace ((Registry.log depth e).after s).workplace := by
    have hregistry := hgrows.registry
    cases hafter : (Registry.log depth e).after s
    rw [hafter] at hregistry
    exact congrArg (Session.mk · _) hregistry
  rw [hsame]
  exact h.used hgrows.settled

/-- Whatever was registered before, an entry is refused by the first gate in turn that does not
accept it, or it fails to be stored and handlers do not come to know, or it is stored once, under
its own identifier or the next of the supply, and then all handlers whose scope covers it are told
in turn. -/
theorem Reached.gate_store_notify (h : s.Reached gates handlers) (depth : Nat) (e : Entry) :
    (s.given e = e.withId (s.given e).id ∧ (s.given e).id.isNil = false ∧
      (e.id.isNil = false → s.given e = e) ∧
      (e.id.isNil = true → (s.given e).id = s.system.ids.peek)) ∧
    (Refuses gates s e ((Registry.log depth e).answer s) ((Registry.log depth e).after s) ∨
      Fails gates s e ((Registry.log depth e).answer s) ((Registry.log depth e).after s) ∨
        Records gates handlers s e ((Registry.log depth e).answer s)
          ((Registry.log depth e).after s)) := by
  obtain ⟨rfl, rfl, hs⟩ := h.spec
  exact ⟨s.given_spec e, Registry.log_spec hs depth e⟩

/-- Lets in what is more than debugging. -/
def attentive : Gate := ⟨"attentive", .everything, fun e => .debug < e.level⟩

/-- Takes note of messages. -/
def listener : Handler := ⟨"listener", .type "message", fun _ => []⟩

/-- A new log in memory with a gate and a handler. -/
def watched : Session where
  registry := (Registry.new.addGate attentive).addHandler listener
  system := .start .empty default default

/-- An entry with an identifier of its own. -/
def message : Entry := (Entry.ofType "message" .info .epoch).withId (IdSupply.timeId 1 0)

theorem reached_watched : watched.Reached [attentive] [listener] :=
  .addHandler (.addGate (.around .empty (Backend.sound_openMemory _).settled) attentive) listener

theorem Reached.gate_store_notify_watched :
    watched.Reached [attentive] [listener] ∧
      ((Registry.log 0 message).answer watched).outcome = .ok (some message.id) ∧
      ((Registry.log 0 message).answer watched).events =
        [.consulted "attentive", .handled "listener" message] := by
  obtain ⟨⟨-, -, hown, -⟩, hlogged⟩ := Reached.gate_store_notify reached_watched 0 message
  have hgiven : watched.given message = message := hown (by decide)
  have hstored : BatchReport.isOk (watched.storing message) = true := by decide +kernel
  rcases hlogged with hrefuses | hfails | hrecords
  · obtain ⟨front, g, rest, hturn, -, hg, -⟩ := hrefuses.refused
    have hmem : g ∈ [attentive] := by
      rw [show [attentive] = _ from hturn]
      simp
    rw [List.mem_singleton.1 hmem] at hg
    exact absurd hg (by decide)
  · obtain ⟨err, herr, -⟩ := hfails.failed
    rw [herr] at hstored
    cases hstored
  · have hevents := (hrecords.alone fun h hmem => by
      rw [List.mem_singleton.1 (show h ∈ [listener] from hmem)]
      rfl).2
    refine ⟨reached_watched, ?_, ?_⟩
    · rw [hrecords.outcome, hgiven]
    · rw [hevents, hgiven]
      rfl

end Session

end AuditTrail
