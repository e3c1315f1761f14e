import AuditTrail.Proofs.Backend.TimeCuts
import AuditTrail.Proofs.Command.Answers
import AuditTrail.Proofs.Filter.Clause
import AuditTrail.Proofs.ReadBack

/-!
# Asking for a time that was printed

* `Instant.clause`: the clause that asks for an instant as it is printed.
  `Filter.exists_ofClauses_instant_iff`: it is read exactly if the year has four digits.
* `Keeping.parts_of_readBack`: what is read back is at the same microsecond.
* `Command.AsksFor`: lines that start with an instant whose clause finds an entry, if it is read.
* `Session.printed_timestamp_asksFor`: the lines that are printed for an entry that was recorded are
  such.
-/

namespace AuditTrail

open Command

/-! ## Clauses of instants -/

/-- The clause that asks for an instant as it is printed. -/
def Instant.clause (t : Instant) : String := "timestamp=" ++ t.text .zero

namespace Filter

variable {t : Instant}

theorem clause_timestamp (t : Instant) : (timestamp [t]).clause = t.clause := rfl

theorem ofClauses_instant (h : HasFourDigitYear t) : ofClauses [t.clause] = .ok [.timestamp [t]] := by
  have hexpressible : (timestamp [t]).Expressible := ⟨List.cons_ne_nil _ _, by simpa using h⟩
  obtain ⟨f, hread, -, hback⟩ := exists_ofClause_clause hexpressible
  obtain rfl := hback (List.forall_mem_nil _)
  rw [← clause_timestamp]
  exact ofClauses_singleton hread

/-- The clause of an instant is read exactly if the year has four digits. -/
theorem exists_ofClauses_instant_iff :
    (∃ fs, ofClauses [t.clause] = .ok fs) ↔ HasFourDigitYear t := by
  refine ⟨fun ⟨fs, hfs⟩ => ?_, fun h => ⟨_, ofClauses_instant h⟩⟩
  obtain ⟨f, -, hf, -, -⟩ := mapM_cons_eq_ok_iff.1 hfs
  have hparse : parseClause t.clause .timestamp (commaSeparated (t.text .zero).toList) = .ok f := by
    rw [← ofNamed_of_ne (by decide)]
    exact (ofClause_clause (timestamp [t])).symm.trans hf
  rw [commaSeparated_of_not_mem t.isItem_text.1, t.isItem_text.2, parseClause, mapError_eq_ok,
    parseValues] at hparse
  obtain ⟨ts, hts, -⟩ := map_eq_ok.1 hparse
  rw [readEach, mapError_eq_ok] at hts
  obtain ⟨u, -, hu, -, -⟩ := mapM_cons_eq_ok_iff.1 hts
  rw [readInstant, mapError_eq_ok, t.isItem_text.2] at hu
  exact Instant.exists_parse_text_iff.1 ⟨u, hu⟩

end Filter

/-! ## Reading back -/

/-- What is read back is at the same microsecond, and under the same identifier. -/
theorem Keeping.parts_of_readBack {types : ContentTypes} {k : Keeping} {e x : Entry}
    (h : k.readBack types e = .ok x) :
    x.timestamp.micros = e.timestamp.micros ∧ x.id = e.id := by
  cases k with
  | memory log =>
    obtain rfl := Except.ok.inj h
    exact ⟨rfl, rfl⟩
  | table path location log =>
    obtain ⟨hmicros, hid, -⟩ := Row.parts_of_toEntry h
    exact ⟨hmicros, hid⟩

namespace Command

/-- The lines start with the instant of the entry, up to less than a microsecond. Its clause is read
exactly if the year has four digits, and finds the entry. -/
structure AsksFor (lines : List String) (t : Instant) (e : Entry) : Prop where
  front : ∃ rest more, lines = (t.text .zero ++ "  " ++ rest) :: more
  micros : t.micros = e.timestamp.micros
  read : (∃ fs, Filter.ofClauses [t.clause] = .ok fs) ↔ Filter.HasFourDigitYear t
  found : ∀ fs, Filter.ofClauses [t.clause] = .ok fs → Filter.matchesAll fs e = true

/-- The first line of an entry starts with its instant. -/
theorem exists_printAll_singleton (registry : Registry) (x : Entry) :
    ∃ rest more, printAll false registry [x] = (x.timestamp.text .zero ++ "  " ++ rest) :: more := by
  have hlines : printAll false registry [x] = textLines (registry.define .empty x) :=
    List.append_nil _
  rw [hlines, textLines]
  split
  · exact ⟨_, _, congrArg (· :: []) (by simp only [String.append_assoc]; rfl)⟩
  · exact ⟨_, _, congrArg (· :: _) (by simp only [String.append_assoc]; rfl)⟩

theorem asksFor_of_readBack {types : ContentTypes} {k : Keeping} {e x : Entry}
    (h : k.readBack types e = .ok x) (registry : Registry) :
    AsksFor (printAll false registry [x]) x.timestamp e := by
  obtain ⟨hmicros, -⟩ := Keeping.parts_of_readBack h
  refine ⟨exists_printAll_singleton registry x, hmicros, Filter.exists_ofClauses_instant_iff,
    fun fs hfs => ?_⟩
  rw [Filter.ofClauses_instant (Filter.exists_ofClauses_instant_iff.1 ⟨fs, hfs⟩)] at hfs
  obtain rfl := Except.ok.inj hfs
  rw [Filter.matchesAll_singleton, Filter.matches_timestamp]
  exact decide_eq_true hmicros.symm

end Command

namespace Session

variable {s s' : Session} {es : List Entry}

/-- Whatever is printed for an entry that was recorded is read back for it, and starts with an
instant whose clause finds the entry. The clause is read exactly if the year of the instant has four
digits. -/
theorem printed_timestamp_asksFor (hs : s.IsMadeOf es) {r : Recording} {id : EntryId}
    (hrun : (Command.run (.record r)).run s = (.ok [id.text], s')) :
    ∃ e more, r.Means s.registry.contentTypes s.system.clock.read e ∧
      s'.IsMadeOf (es ++ e.withId id :: more) ∧
      (Command.run (.show id.text false)).answer s' =
        (ofLog (s'.workplace.current.readBack s'.registry.contentTypes (e.withId id))).map
          (fun x => printAll false s'.registry [x]) ∧
      (∀ type page lines, (Command.run (.list type page false)).answer s' = .ok lines →
        ∃ xs, lines = printAll false s'.registry xs ∧ ∀ x ∈ xs, x.id = id →
          s'.workplace.current.readBack s'.registry.contentTypes (e.withId id) = .ok x) ∧
      ∀ x, s'.workplace.current.readBack s'.registry.contentTypes (e.withId id) = .ok x →
        AsksFor (printAll false s'.registry [x]) x.timestamp (e.withId id) := by
  obtain ⟨e, more, hmeans, hafter⟩ := hs.record hrun
  have hmem : e.withId id ∈ es ++ e.withId id :: more := by simp
  refine ⟨e, more, hmeans, hafter, hafter.show hmem false, fun type page lines hlines => ?_,
    fun x hx => asksFor_of_readBack hx _⟩
  obtain ⟨xs, rfl, hxs⟩ := hafter.list hlines
  refine ⟨xs, rfl, fun x hx hid => ?_⟩
  obtain ⟨e', he', hback⟩ := hxs x hx
  have hsame : e'.id = (e.withId id).id := (Keeping.parts_of_readBack hback).2.symm.trans hid
  rwa [List.inj_on_of_nodup_map hafter.log.nodup he' hmem hsame] at hback

/-- A recording at a time. -/
def stamped (text : String) : Recording := { Recording.plain with timestamp := some text }

/-- What is printed behind the time of such a recording. -/
def behindTime : String :=
  "info  " ++ (IdSupply.timeId 1 0).text ++ "  t (" ++ (IdSupply.timeId 1 0).text ++ ")"

/-- A leap second at an offset is printed in universal time, and asks for its entry. -/
theorem printed_timestamp_asksFor_watched :
    watched.IsMadeOf [] ∧ ∃ s', (Command.run (.record
        (stamped "2016-12-31T23:59:60.1234567+01:00"))).run watched =
          (.ok [(IdSupply.timeId 1 0).text], s') ∧
      (Command.run (.show (IdSupply.timeId 1 0).text false)).answer s' =
        .ok ["2016-12-31T22:59:60.123456+00:00  " ++ behindTime] ∧
      ∃ t e, AsksFor ["2016-12-31T22:59:60.123456+00:00  " ++ behindTime] t e := by
  have hrun : (Command.run (.record (stamped "2016-12-31T23:59:60.1234567+01:00"))).run watched =
      (.ok [(IdSupply.timeId 1 0).text], (Command.run (.record
        (stamped "2016-12-31T23:59:60.1234567+01:00"))).after watched) :=
    Prod.ext (by decide +kernel) rfl
  have hshown : (Command.run (.show (IdSupply.timeId 1 0).text false)).answer
      ((Command.run (.record (stamped "2016-12-31T23:59:60.1234567+01:00"))).after watched) =
        .ok ["2016-12-31T22:59:60.123456+00:00  " ++ behindTime] := by decide +kernel
  obtain ⟨e, more, -, -, hshow, -, hasks⟩ := printed_timestamp_asksFor isMadeOf_watched hrun
  obtain ⟨x, hx, hlines⟩ := map_eq_ok.1 (hshow.symm.trans hshown)
  exact ⟨isMadeOf_watched, _, hrun, hshown, x.timestamp, _,
    hlines ▸ hasks x (mapError_eq_ok.1 hx)⟩

/-- An offset may lead out of the years of four digits. Then what is printed is refused. -/
theorem not_forall_printed_timestamp_read :
    ¬ ∀ (s s' : Session) (es : List Entry) (r : Recording) (id : EntryId) (t rest : String)
        (more : List String), s.IsMadeOf es →
      (Command.run (.record r)).run s = (.ok [id.text], s') →
        (Command.run (.show id.text false)).answer s' = .ok ((t ++ "  " ++ rest) :: more) →
          ' ' ∉ t.toList → ∃ fs, Filter.ofClauses ["timestamp=" ++ t] = .ok fs := by
  intro h
  obtain ⟨fs, hfs⟩ := h watched _ [] (stamped "9999-12-31T23:59:59-01:00") (IdSupply.timeId 1 0)
    "+10000-01-01T00:59:59+00:00" behindTime [] isMadeOf_watched
    (Prod.ext (by decide +kernel) rfl) (by decide +kernel) (by decide)
  have hrefused : BatchReport.isOk
      (Filter.ofClauses ["timestamp=" ++ "+10000-01-01T00:59:59+00:00"]) = false := by
    decide +kernel
  rw [hfs] at hrefused
  cases hrefused

end Session

end AuditTrail
