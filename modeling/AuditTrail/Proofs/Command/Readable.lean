import AuditTrail.Proofs.Command.Recording
import AuditTrail.Proofs.Command.Session
import AuditTrail.Proofs.EntryId

/-!
# What was recorded can be read

* `Session.Readable`: every identifier that was printed can be shown, and every page can be listed
  and filtered. `Session.Keeps.readable_iff`: so it is exactly if every row can be read.
* `Command.recordAll`: recordings, carried out one after another.
* `Recorded`: the entries of the recordings that were accepted, as the answers tell.
  `Session.Keeps.record` is the step, `Session.Keeps.recordAll` the run.
* `Session.readable_recordAll_iff`: in a new table everything stays readable exactly if no payload
  that was accepted nests too deep. A recording is accepted no matter how deep it nests.
-/

namespace AuditTrail

namespace Command

/-- What a command answers: the lines that it prints, or why it fails. -/
abbrev Answer : Type := Except CommandFault (List String)

/-- Carries out recordings, one after another. -/
def recordAll : List Recording → Duty (List Answer)
  | [] => return []
  | r :: rs => return (← run (.record r)) :: (← recordAll rs)

/-- The lines that were printed. -/
def printed (answers : List Answer) : List String := (answers.filterMap Except.toOption).flatten

theorem recordAll_cons_run (r : Recording) (rs : List Recording) (s : Session) :
    (recordAll (r :: rs)).answer s =
        (run (.record r)).answer s :: (recordAll rs).answer ((run (.record r)).after s) ∧
      (recordAll (r :: rs)).after s = (recordAll rs).after ((run (.record r)).after s) := by
  rw [recordAll]
  generalize run (.record r) = first
  generalize recordAll rs = others
  exact ⟨rfl, rfl⟩

theorem answer_printing (json : Bool) (work : Registry → Work (Except Error (List Entry)))
    (s : Session) :
    (printing json work).answer s =
      (ofLog ((work s.registry).answer s.workplace)).map (printAll json s.registry) := rfl

theorem exists_map_ofLog {α β : Type} {r : Except Error α} {f : α → β} :
    (∃ b, (ofLog r).map f = .ok b) ↔ ∃ a, r = .ok a := by
  cases r <;> simp [ofLog, Except.mapError, Except.map]

end Command

theorem Recording.readId_text (id : EntryId) : readId id.text = .ok id := by
  simp [readId, Filter.readId, EntryId.parse_text, Except.mapError]

open Command

namespace Session

/-! ## Reading -/

/-- Every identifier that was printed can be shown, and every page can be listed. It can be filtered
by all that a table can be asked, so by fewer than a thousand values, and nothing else is refused. -/
structure Readable (s : Session) (identifiers : List String) : Prop where
  shown : ∀ id ∈ identifiers, ∀ json, ∃ lines, (Command.run (.show id json)).answer s = .ok lines
  listed : ∀ type page json, ∃ lines, (Command.run (.list type page json)).answer s = .ok lines
  filtered : ∀ clauses page json filters, Filter.ofClauses clauses = .ok filters →
    (TableLog.pageQuery filters page.amount page.offset).Fits →
      ∃ lines, (Command.run (.filter clauses page json)).answer s = .ok lines
  filtered_few : ∀ clauses page json filters, Filter.ofClauses clauses = .ok filters →
    Filter.comparisons filters < 1000 →
      ∃ lines, (Command.run (.filter clauses page json)).answer s = .ok lines
  filtered_refused : ∀ clauses page json filters, Filter.ofClauses clauses = .ok filters →
    ¬ (TableLog.pageQuery filters page.amount page.offset).Fits →
      (Command.run (.filter clauses page json)).answer s =
        .error (.log (TableLog.tooLarge .prepareSelect))

variable {types : ContentTypes} {shown : Nat → Instant} {s : Session} {es : List Entry}

/-- Everything can be read exactly if the row of every entry can be read. -/
theorem Keeps.readable_iff (h : s.Keeps types shown es) :
    s.Readable (es.map fun e => e.id.text) ↔
      ∀ e ∈ es, ∃ e', (Row.ofEntry e).toEntry types = .ok e' := by
  have hwhole := h.sound.whole
  have hshow : ∀ e ∈ es, ∀ json,
      (∃ lines, (Command.run (.show e.id.text json)).answer s = .ok lines) ↔
        ∃ e', (Row.ofEntry e).toEntry types = .ok e' := by
    intro e he json
    have hanswer : (Backend.retrieve types e.id).answer s.workplace =
        (Row.ofEntry e).toEntry types := by
      rw [(Backend.reads_retrieve hwhole types e.id).answer, h.log.retrieve he, h.table.readBack]
    rw [Command.run, runShow, Recording.readId_text]
    refine exists_map_ofLog.trans ?_
    change (∃ xs, ((Backend.retrieve s.registry.contentTypes e.id).answer s.workplace).map _ =
      .ok xs) ↔ _
    rw [h.contentTypes, hanswer]
    cases (Row.ofEntry e).toEntry types <;> simp [Except.map]
  have hselect : (∀ e ∈ es, ∃ e', (Row.ofEntry e).toEntry types = .ok e') →
      ∀ {filters amount offset}, (TableLog.pageQuery filters amount offset).Fits →
        ∃ xs, s.workplace.current.select types filters amount offset = .ok xs := by
    intro hall filters amount offset hfits
    refine h.log.exists_select (fun e he => ?_) ((h.table.prepares_iff _).2 hfits)
    rw [h.table.readBack]
    exact hall e he
  have hfilter : ∀ clauses page json filters, Filter.ofClauses clauses = .ok filters →
      (Command.run (.filter clauses page json)).answer s =
        (ofLog (s.workplace.current.select types filters page.amount page.offset)).map
          (printAll json s.registry) := by
    intro clauses page json filters hfilters
    rw [Command.run, runFilter, hfilters]
    simp only
    rw [answer_printing, h.contentTypes,
      (Backend.reads_filter hwhole types filters page.amount page.offset).answer]
  constructor
  · intro hreadable e he
    exact (hshow e he false).1 (hreadable.shown _ (List.mem_map_of_mem he) false)
  · intro hall
    refine ⟨?_, ?_, ?_, ?_, ?_⟩
    · intro id hid json
      obtain ⟨e, he, rfl⟩ := List.mem_map.1 hid
      exact (hshow e he json).2 (hall e he)
    · intro type page json
      cases type with
      | none =>
        have hanswer : (Command.run (.list none page json)).answer s = _ :=
          answer_printing json _ s
        rw [hanswer, exists_map_ofLog, h.contentTypes,
          (Backend.reads_retrieveMany hwhole types page.amount page.offset).answer]
        exact hselect hall (TableLog.fits_pageQuery (by decide) _ _)
      | some type =>
        have hanswer : (Command.run (.list (some type) page json)).answer s = _ :=
          answer_printing json _ s
        rw [hanswer, exists_map_ofLog, h.contentTypes,
          (Backend.reads_retrieveTyped hwhole types type page.amount page.offset).answer]
        exact hselect hall
          (TableLog.fits_pageQuery (Filter.comparisons_singleton_lt le_rfl) _ _)
    · intro clauses page json filters hfilters hfits
      rw [hfilter _ _ _ _ hfilters, exists_map_ofLog]
      exact hselect hall hfits
    · intro clauses page json filters hfilters hfew
      rw [hfilter _ _ _ _ hfilters, exists_map_ofLog]
      exact hselect hall (TableLog.fits_pageQuery hfew _ _)
    · intro clauses page json filters hfilters hfits
      rw [hfilter _ _ _ _ hfilters,
        Keeping.select_of_not_prepares fun h' => hfits ((h.table.prepares_iff _).1 h')]
      rfl

/-! ## Recording -/

/-- The session after a look at the clock. -/
def ticked (s : Session) : Session :=
  { s with system := { s.system with clock := s.system.clock.tick } }

theorem Keeps.ticked (h : s.Keeps types shown es) : s.ticked.Keeps types shown es :=
  ⟨h.contentTypes, h.gates, h.handlers, h.clock, ⟨h.sound.whole, h.sound.file⟩, h.table, h.log⟩

theorem now_run (s : Session) : Command.now.run s = (s.system.clock.read, s.ticked) := rfl

theorem runRecord_run (r : Recording) (s : Session) :
    (runRecord r).run s =
      match r.toEntry s.registry.contentTypes s.system.clock.read with
      | .error fault => (.error fault, s.ticked)
      | .ok e =>
        (((ofLog ((Registry.log Registry.maxNesting e).answer s.ticked).outcome).mapError
            (.during "record entry")).map fun
              | some id => [id.text]
              | none => ["Entry rejected by filter"],
          (Registry.log Registry.maxNesting e).after s.ticked) := by
  have htypes : s.ticked.registry.contentTypes = s.registry.contentTypes := rfl
  rw [runRecord, StateT.run_bind, now_run]
  change StateT.run (get >>= _) s.ticked = _
  simp only [StateT.run_bind, StateT.run_get, pure_bind, htypes]
  cases r.toEntry s.registry.contentTypes s.system.clock.read with
  | error fault => rfl
  | ok e => rfl

/-- A recording is refused, and the log is as it was, or the entry that is meant comes behind the
others under the identifier that is printed. -/
theorem Keeps.record (h : s.Keeps types shown es) (hclock : ∀ n, ¬ (shown n).IsBeyondLast)
    (r : Recording) :
    (∃ (id : EntryId) (e : Entry), (Command.run (.record r)).answer s = .ok [id.text] ∧
        r.payload = .ok e.data ∧ e.Admissible types ∧
        ((Command.run (.record r)).after s).Keeps types shown (es ++ [e.withId id])) ∨
      ∃ fault, (Command.run (.record r)).answer s = .error fault ∧
        ((Command.run (.record r)).after s).Keeps types shown es := by
  have hnow : ¬ s.system.clock.read.IsBeyondLast := by
    rw [Clock.read, h.clock]
    exact hclock _
  rw [Command.run, Duty.answer, Duty.after, runRecord_run, h.contentTypes]
  cases hentry : r.toEntry types s.system.clock.read with
  | error fault => exact .inr ⟨fault, rfl, h.ticked⟩
  | ok e =>
    have hpayload := Recording.payload_of_toEntry hentry
    have hadmissible := Recording.admissible_of_toEntry hnow hentry
    obtain ⟨id, hid, hkeeps⟩ | ⟨err, herr, hkeeps⟩ := h.ticked.logged Registry.maxNesting e
    · simp only [hid]
      exact .inl ⟨id, e, rfl, hpayload, hadmissible, hkeeps⟩
    · simp only [herr]
      exact .inr ⟨_, rfl, hkeeps⟩

/-- A recording that means an entry is accepted if the log can be written and no other entry has its
identifier. How deep its values nest is not looked at. -/
theorem Keeps.accepts (h : s.Keeps types shown es)
    (hwritable : s.workplace.current.isWritable = true) {r : Recording} {e : Entry}
    (hentry : r.toEntry types s.system.clock.read = .ok e)
    (hfresh : ∀ x ∈ es, x.id ≠ (s.system.ids.assign e).1.id) :
    (Command.run (.record r)).answer s = .ok [(s.system.ids.assign e).1.id.text] := by
  have hlogged := h.ticked.logged_of_fresh hwritable Registry.maxNesting hfresh
  rw [Command.run, Duty.answer, runRecord_run, h.contentTypes, hentry]
  simp only [hlogged]
  rfl

end Session

/-- The entries of the recordings that were accepted, as the answers tell. -/
inductive Recorded (types : ContentTypes) : List Recording → List Answer → List Entry → Prop
  | nil : Recorded types [] [] []
  | refused {r : Recording} {rs : List Recording} {answers : List Answer} {es : List Entry}
      (fault : CommandFault) (h : Recorded types rs answers es) :
      Recorded types (r :: rs) (.error fault :: answers) es
  | accepted {r : Recording} {rs : List Recording} {answers : List Answer} {es : List Entry}
      {e : Entry} (id : EntryId) (hpayload : r.payload = .ok e.data)
      (hadmissible : e.Admissible types) (h : Recorded types rs answers es) :
      Recorded types (r :: rs) (.ok [id.text] :: answers) (e.withId id :: es)

namespace Recorded

variable {types : ContentTypes} {rs : List Recording} {answers : List Answer} {es : List Entry}

theorem printed (h : Recorded types rs answers es) :
    Command.printed answers = es.map fun e => e.id.text := by
  induction h with
  | nil => rfl
  | refused fault _ ih => exact ih
  | accepted id _ _ _ ih => exact congrArg (id.text :: ·) ih

/-- The rows of the entries can be read exactly if no payload that was accepted nests too deep. -/
theorem readable_iff (h : Recorded types rs answers es) :
    (∀ e ∈ es, ∃ e', (Row.ofEntry e).toEntry types = .ok e') ↔
      ∀ r lines, (r, .ok lines) ∈ rs.zip answers → ∀ p, r.payload = .ok p →
        (Json.object p).depth ≤ Json.maxDepth := by
  induction h with
  | nil => simp
  | refused fault _ ih => simp [ih]
  | accepted id hpayload hadmissible _ ih =>
    rw [List.forall_mem_cons, ih, (hadmissible.withId id).exists_toEntry_iff]
    simp only [List.zip_cons_cons, List.mem_cons, Prod.mk.injEq]
    constructor
    · rintro ⟨hdepth, htail⟩ r' lines (⟨rfl, -⟩ | hmem) p hp
      · obtain rfl := Except.ok.inj (hpayload.symm.trans hp)
        exact hdepth
      · exact htail r' lines hmem p hp
    · intro hall
      exact ⟨hall _ _ (.inl ⟨rfl, rfl⟩) _ hpayload,
        fun r' lines hmem => hall r' lines (.inr hmem)⟩

end Recorded

/-! ## Nested fields -/

namespace Json

/-- So many arrays, one in the other. -/
def nested : Nat → Json
  | 0 => .null
  | n + 1 => .array [nested n]

theorem depth_nested (n : Nat) : (nested n).depth = n := by
  induction n with
  | zero => rfl
  | succ n ih =>
    have hdepth : (nested (n + 1)).depth = max (nested n).depth 0 + 1 := rfl
    rw [hdepth, ih, Nat.max_zero]

theorem floats_nested (n : Nat) : (nested n).floats = [] := by
  induction n with
  | zero => rfl
  | succ n ih =>
    have hfloats : (nested (n + 1)).floats = (nested n).floats ++ [] := rfl
    rw [hfloats, ih, List.append_nil]

theorem loose_text_nested {n : Nat} (h : n ≤ maxDepth) : loose (nested n).text = nested n := by
  have hparse := parse?_text ((depth_nested n).trans_le h) (by simp [floats_nested])
  rw [loose, hparse]
  rfl

theorem depth_object_insert (key : String) (v : Json) :
    (object (Payload.empty.insert key v)).depth = v.depth + 1 := by
  have hdepth : (object (Payload.empty.insert key v)).depth = max v.depth 0 + 1 := rfl
  rw [hdepth, Nat.max_zero]

end Json

namespace Recording

/-- A recording with a field of so many arrays, one in the other. -/
def nesting (n : Nat) : Recording where
  type := "t"
  level := "info"
  id := none
  timestamp := none
  user := none
  object := none
  contentType := none
  data := none
  fields := ["k=" ++ (Json.nested n).text]

theorem readField_nested {n : Nat} (h : n ≤ Json.maxDepth) :
    readField ("k=" ++ (Json.nested n).text) = .ok ("k", Json.nested n) := by
  have hsplit : Text.splitFirst '=' ("k=" ++ (Json.nested n).text).toList =
      some (['k'], (Json.nested n).text.toList) := by
    rw [String.toList_append]
    rfl
  rw [readField, hsplit]
  simp only [String.ofList_toList, Json.loose_text_nested h]

theorem payload_nesting {n : Nat} (h : n ≤ Json.maxDepth) :
    (nesting n).payload = .ok (Payload.empty.insert "k" (Json.nested n)) := by
  have hfields : insertFields (nesting n).fields .empty =
      (readField ("k=" ++ (Json.nested n).text) >>= fun m => .ok (Payload.empty.insert m.1 m.2)) :=
    rfl
  refine Eq.trans hfields ?_
  rw [readField_nested h]
  rfl

theorem toEntry_nesting {types : ContentTypes} {now : Instant} {n : Nat} (h : n ≤ Json.maxDepth) :
    (nesting n).toEntry types now =
      .ok ((Entry.ofType "t" .info now).withField "k" (Json.nested n)) := by
  have hlevel : readLevel "info" = .ok .info := rfl
  simp only [toEntry, nesting, hlevel, given, withFields, readField_nested h]
  rfl

end Recording

namespace Session

variable {types : ContentTypes} {shown : Nat → Instant} {s : Session} {es : List Entry}

/-- After recordings the log is made of what it was made of and of what was accepted. -/
theorem Keeps.recordAll (h : s.Keeps types shown es) (hclock : ∀ n, ¬ (shown n).IsBeyondLast)
    (rs : List Recording) :
    ∃ new, Recorded types rs ((Command.recordAll rs).answer s) new ∧
      ((Command.recordAll rs).after s).Keeps types shown (es ++ new) := by
  induction rs generalizing s es with
  | nil => exact ⟨[], .nil, (List.append_nil es).symm ▸ h⟩
  | cons r rs ih =>
    obtain ⟨hanswers, hlast⟩ := recordAll_cons_run r rs s
    rw [hanswers, hlast]
    obtain ⟨id, e, hanswer, hpayload, hadmissible, hkeeps⟩ | ⟨fault, hanswer, hkeeps⟩ :=
      h.record hclock r
    · obtain ⟨new, hnew, hafter⟩ := ih hkeeps
      rw [List.append_assoc] at hafter
      refine ⟨e.withId id :: new, ?_, hafter⟩
      rw [hanswer]
      exact .accepted id hpayload hadmissible hnew
    · obtain ⟨new, hnew, hafter⟩ := ih hkeeps
      refine ⟨new, ?_, hafter⟩
      rw [hanswer]
      exact .refused fault hnew

/-! ## A new table -/

/-- The usual settings with a table in a new file. -/
def inFile : Config := (Config.initial "a.db").withKind .sqlite

/-- The session that the settings open in a system without files. -/
@[irreducible] def opened : Session := (open? inFile (.start .empty default default)).getD default

/-- The session is a new one in an empty table that can be written. -/
theorem opened_spec :
    open? inFile (.start .empty default default) = some opened ∧
      opened.workplace.current.isEmpty = true ∧ opened.workplace.current.isWritable = true := by
  have hsome : (open? inFile (.start .empty default default)).isSome = true := by decide +kernel
  refine ⟨?_, ?_, ?_⟩
  · unfold opened
    obtain ⟨s, hs⟩ := Option.isSome_iff_exists.1 hsome
    rw [hs]
    rfl
  · unfold opened
    decide +kernel
  · unfold opened
    decide +kernel

/-- A clock that counts microseconds shows no leap second. -/
theorem not_isBeyondLast_startingAt (micros : Int) (n : Nat) :
    ¬ ((Clock.startingAt micros).shown n).IsBeyondLast := by
  rintro ⟨hleap, -⟩
  simp only [Clock.startingAt] at hleap
  cases ht : Instant.ofMicros? (micros + n) with
  | none =>
    rw [ht] at hleap
    cases hleap
  | some t =>
    rw [ht, Option.getD_some, (Instant.ofMicros?_eq_some_iff.1 ht).2.2] at hleap
    cases hleap

/-! ## What stays readable -/

/-- In a new table everything stays readable exactly if no payload that was accepted nests too
deep. -/
theorem readable_recordAll_iff {c : Config} {system : System} {opened : Session}
    (hopen : open? c system = some opened) (hkind : c.storage.kind = .sqlite)
    (hempty : opened.workplace.current.isEmpty = true)
    (hclock : ∀ n, ¬ (system.clock.shown n).IsBeyondLast) (rs : List Recording) :
    ((Command.recordAll rs).after opened).Readable
        (Command.printed ((Command.recordAll rs).answer opened)) ↔
      ∀ r lines, (r, .ok lines) ∈ rs.zip ((Command.recordAll rs).answer opened) →
        ∀ p, r.payload = .ok p → (Json.object p).depth ≤ Json.maxDepth := by
  obtain ⟨es, hrecorded, hkeeps⟩ := (keeps_of_open? hopen hkind hempty).recordAll hclock rs
  rw [hrecorded.printed, ← hrecorded.readable_iff]
  exact hkeeps.readable_iff

/-- A field of 126 arrays, one in the other, can be read in its payload. One more is accepted, and
then nothing can be read. -/
theorem readable_recordAll_iff_nesting :
    ((recordAll [.nesting 126]).after opened).Readable
        (printed ((recordAll [.nesting 126]).answer opened)) ∧
      (∃ id, (recordAll [.nesting 127]).answer opened = [.ok [id]]) ∧
      ¬ ((recordAll [.nesting 127]).after opened).Readable
        (printed ((recordAll [.nesting 127]).answer opened)) := by
  obtain ⟨hopen, hempty, hwritable⟩ := opened_spec
  have haccepted := (keeps_of_open? hopen rfl hempty).accepts hwritable
    (Recording.toEntry_nesting (show 127 ≤ Json.maxDepth by decide)) (List.forall_mem_nil _)
  have hanswer := (recordAll_cons_run (.nesting 127) [] opened).1
  rw [haccepted] at hanswer
  refine ⟨?_, ⟨_, hanswer⟩, ?_⟩
  · refine (readable_recordAll_iff hopen rfl hempty (not_isBeyondLast_startingAt 0) _).2 ?_
    intro r lines hmem p hp
    obtain rfl := List.mem_singleton.1 (List.of_mem_zip hmem).1
    rw [Recording.payload_nesting (by decide)] at hp
    obtain rfl := Except.ok.inj hp
    exact (Json.depth_object_insert _ _).trans_le (by rw [Json.depth_nested]; decide)
  · intro hreadable
    have hdepths :=
      (readable_recordAll_iff hopen rfl hempty (not_isBeyondLast_startingAt 0) _).1 hreadable
    have hdepth := hdepths (.nesting 127) _ (by rw [hanswer]; exact List.mem_cons_self) _
      (Recording.payload_nesting (by decide))
    rw [Json.depth_object_insert, Json.depth_nested] at hdepth
    exact absurd hdepth (by decide)

end Session

end AuditTrail
