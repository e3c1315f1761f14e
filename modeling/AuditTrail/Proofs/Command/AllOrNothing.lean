import AuditTrail.Proofs.Command.Answers

/-!
# To record is to store one entry or nothing

* `Session.recordEvents`: what happens to hooks while a recording is carried out.
* `Session.Abandons`, `Session.Rejects`, `Session.Enters`: what becomes of a recording. It fails, or
  a gate refuses the entry that is meant, and then the log is as it was and no handler is told; or
  the entry that is meant is stored under the identifier that is printed.
* `Session.record_all_or_nothing`: it is one of the three.
-/

namespace AuditTrail

open Command

namespace Session

/-! ## What becomes of a recording -/

/-- What happens to hooks while a recording is carried out: nothing, if it means no entry. -/
def recordEvents (s : Session) (r : Recording) : List LogEvent :=
  match r.toEntry s.registry.contentTypes s.system.clock.read with
  | .error _ => []
  | .ok e => ((Registry.log Registry.maxNesting e).answer s.ticked).events

/-- No handler is told about anything. -/
def Unheard (events : List LogEvent) : Prop := ∀ name e, .handled name e ∉ events

/-- The command fails: no entry is meant, or the one that is cannot be stored. It prints nothing,
tells no handler, and leaves the log as it is. -/
structure Abandons (s : Session) (r : Recording) (answer : Answer) (s' : Session) : Prop where
  failed : ∃ fault, answer = .error fault ∧
    ((∀ e, ¬ r.Means s.registry.contentTypes s.system.clock.read e) ∨
      ∃ e err, r.Means s.registry.contentTypes s.system.clock.read e ∧
        s.ticked.storing e = .error err ∧ fault = .during "record entry" (.log err))
  unheard : Unheard (s.recordEvents r)
  current : s'.workplace.current = s.workplace.current
  registry : s'.registry = s.registry.withBackend s'.registry.backend

/-- A gate refuses the entry that is meant. No handler is told, and the log and the supply of
identifiers are as they were. -/
structure Rejects (s : Session) (r : Recording) (answer : Answer) (s' : Session) : Prop where
  refused : ∃ e, r.Means s.registry.contentTypes s.system.clock.read e ∧
    ∃ g ∈ inTurn Gate.scope s.registry.gates e, g.accepts e = false
  printed : answer = .ok ["Entry rejected by filter"]
  unheard : Unheard (s.recordEvents r)
  state : s'.workplace.state = s.workplace.state
  registry : s'.registry = s.registry

/-- The entry that is meant is stored under the identifier that is printed: its own, unless it is
nil. Only what handlers have logged comes after it. -/
structure Enters (s : Session) (r : Recording) (answer : Answer) (s' : Session) (e : Entry)
    (id : EntryId) : Prop where
  means : r.Means s.registry.contentTypes s.system.clock.read e
  own : id.isNil = false ∧ (e.id.isNil = false → id = e.id)
  printed : answer = .ok [id.text]
  parsed : EntryId.parse id.text = .ok id
  handed : s.ticked.given e = e.withId id
  adds : ∀ types, Keeping.Adds types (e.withId id) s.workplace.current
    (s.ticked.stored e).workplace.current
  grows : (s.ticked.stored e).Grows s'
  alone : (∀ h ∈ inTurn Handler.scope s.registry.handlers e, h.followUps (e.withId id) = []) →
    s' = s.ticked.stored e

theorem unheard_consultations (gates : List Gate) : Unheard (Registry.consultations gates) := by
  intro name e h
  simp [Registry.consultations] at h

variable {s : Session}

/-- A recording fails, or a gate refuses the entry that it means, or the entry is stored. -/
theorem record_all_or_nothing (hs : s.workplace.Settled) (r : Recording) :
    s.Abandons r ((Command.run (.record r)).answer s) ((Command.run (.record r)).after s) ∨
      s.Rejects r ((Command.run (.record r)).answer s) ((Command.run (.record r)).after s) ∨
        ∃ e id, s.Enters r ((Command.run (.record r)).answer s)
          ((Command.run (.record r)).after s) e id := by
  rw [Command.run, Duty.answer, Duty.after, runRecord_run]
  cases hentry : r.toEntry s.registry.contentTypes s.system.clock.read with
  | error fault =>
    have hevents : s.recordEvents r = [] := by rw [recordEvents, hentry]
    refine .inl ⟨⟨fault, rfl, .inl fun e hmeans => ?_⟩, ?_, rfl, rfl⟩
    · rw [Recording.toEntry_eq_ok_iff.2 hmeans] at hentry
      cases hentry
    · rw [hevents]
      exact fun _ _ => List.not_mem_nil
  | ok e =>
    have hmeans := Recording.toEntry_eq_ok_iff.1 hentry
    have hevents : s.recordEvents r =
        ((Registry.log Registry.maxNesting e).answer s.ticked).events := by
      rw [recordEvents, hentry]
    rcases Registry.log_spec (settled_ticked hs) Registry.maxNesting e with
      hrefuses | hfails | hrecords
    · obtain ⟨front, g, rest, hturn, -, hg, hl⟩ := hrefuses.refused
      refine .inr (.inl ⟨⟨e, hmeans, g, ?_, hg⟩, ?_, ?_, hrefuses.state, hrefuses.registry⟩)
      · exact (show inTurn Gate.scope s.registry.gates e = _ from hturn) ▸ by simp
      · simp only [hl]
        rfl
      · rw [hevents, hl]
        exact unheard_consultations _
    · obtain ⟨err, hstoring, hl⟩ := hfails.failed
      refine .inl ⟨?_, ?_, hfails.current, ?_⟩
      · simp only [hl]
        exact ⟨_, rfl, .inr ⟨e, err, hmeans, hstoring, rfl⟩⟩
      · rw [hevents, hl]
        exact unheard_consultations _
      · simp only [hfails.session]
        rfl
    · obtain ⟨hgiven, hnil, hown, -⟩ := s.ticked.given_spec e
      refine .inr (.inr ⟨e, (s.ticked.given e).id, hmeans, ⟨hnil, fun h => by rw [hown h]⟩, ?_,
        EntryId.parse_text _, hgiven, fun types => ?_, hrecords.grows, fun h => ?_⟩)
      · simp only [hrecords.outcome]
        rfl
      · rw [← hgiven]
        exact hrecords.adds types
      · rw [← hgiven] at h
        exact (hrecords.alone h).1

/-- A recording with everything in it, of an entry with an identifier of its own. -/
def payment : Recording where
  type := "payment"
  level := "WARN"
  id := some (IdSupply.timeId 1 0).text
  timestamp := some "2016-12-31T23:59:60.1234567+01:00"
  user := some " \x7b\"id\": 7\x7d "
  object := some "null"
  contentType := none
  data := some "\x7b\"a\": 1, \"b\": 2\x7d"
  fields := ["b=x=y", "c=", "b=[]"]

theorem record_all_or_nothing_watched :
    watched.workplace.Settled ∧
      ∃ e, watched.Enters payment (.ok [(IdSupply.timeId 1 0).text])
        ((Command.run (.record payment)).after watched) e (IdSupply.timeId 1 0) := by
  have hs : watched.workplace.Settled := reached_watched.spec.2.2
  have hanswer : (Command.run (.record payment)).answer watched =
      .ok [(IdSupply.timeId 1 0).text] := by decide +kernel
  refine ⟨hs, ?_⟩
  rcases record_all_or_nothing hs payment with habandons | hrejects | ⟨e, id, henters⟩
  · obtain ⟨fault, hfault, -⟩ := habandons.failed
    cases hanswer.symm.trans hfault
  · exact absurd (hanswer.symm.trans hrejects.printed) (by decide +kernel)
  · have htext : (IdSupply.timeId 1 0).text = id.text := by
      simpa using hanswer.symm.trans henters.printed
    obtain rfl := EntryId.text_injective htext
    exact ⟨e, hanswer ▸ henters⟩

/-- Has an entry of its own logged whenever it is told about another. -/
def echo : Handler :=
  ⟨"echo", .everything, fun e =>
    if e.type = "echo" then [] else [Entry.ofType "echo" e.level e.timestamp]⟩

/-- A new log in memory with a handler that has entries logged. -/
def echoing : Session where
  registry := Registry.new.addHandler echo
  system := .start .empty default default

/-- What handlers have logged is added too. -/
theorem not_forall_record_adds_one :
    ¬ ∀ (s : Session) (r : Recording) (id : EntryId) (n : Nat), s.workplace.Settled →
      (Command.run (.record r)).answer s = .ok [id.text] → s.workplace.current.count = .ok n →
        ((Command.run (.record r)).after s).workplace.current.count = .ok (n + 1) := by
  intro h
  have htwo := h echoing payment (IdSupply.timeId 1 0) 0 (Backend.sound_openMemory _).settled
    (by decide +kernel) rfl
  exact absurd htwo (by decide +kernel)

end Session

end AuditTrail
