import AuditTrail.Proofs.Backend.TimeCuts
import AuditTrail.Proofs.Command.Answers
import AuditTrail.Proofs.Filter.Loose

/-!
# Finding what was recorded by its text

* `Recording.Gives`: the text that a recording gives for the type, the user or the object.
* `Recording.Means.carries`: the entry that is meant carries it.
* `Session.found_by_text_iff`: the clause of the text is read, and finds the entry exactly if white
  space at the ends of the text does not count.
-/

namespace AuditTrail

open Command

/-- The text that a recording gives for a type, a user or an object. -/
def Recording.Gives (r : Recording) : FilterName → String → Prop
  | .type, s => r.type = s
  | .user, s => r.user = some s
  | .object, s => r.object = some s
  | _, _ => False

namespace Recording

variable {types : ContentTypes} {now : Instant} {r : Recording} {e : Entry} {name : FilterName}
  {s : String}

theorem Gives.name_eq (h : r.Gives name s) : name = .type ∨ name = .user ∨ name = .object := by
  cases name <;> first | exact h.elim | simp

/-- The entry that is meant carries the texts that are given. -/
theorem Means.carries (h : r.Means types now e) (hgives : r.Gives name s) : e.Carries name s := by
  rcases hgives.name_eq with rfl | rfl | rfl
  · exact h.type.trans hgives
  · exact h.user.trans (congrArg (Option.bind · _) hgives)
  · exact h.object.trans (congrArg (Option.bind · _) hgives)

end Recording

theorem Entry.Carries.withId {e : Entry} {name : FilterName} {s : String} (h : e.Carries name s)
    (id : EntryId) : (e.withId id).Carries name s := by
  cases name <;> exact h

namespace Session

variable {s s' : Session} {es : List Entry}

/-- An entry that was recorded with a text is found by the clause of the text exactly if there is no
white space at the ends of the text, or the text is JSON and does not stand for a type. -/
theorem found_by_text_iff (hs : s.IsMadeOf es) {r : Recording} {name : FilterName} {text : String}
    (hgives : r.Gives name text) (hcomma : ',' ∉ text.toList)
    (harray : ∀ vs, Json.parse? text ≠ some (.array vs)) {id : EntryId}
    (hrun : (Command.run (.record r)).run s = (.ok [id.text], s')) :
    ∃ f e more, Filter.ofClauses [name.text ++ "=" ++ text] = .ok [f] ∧
      r.Means s.registry.contentTypes s.system.clock.read e ∧
      s'.IsMadeOf (es ++ e.withId id :: more) ∧
      (f.matches (e.withId id) = true ↔
        Text.trim text = text ∨ name ≠ .type ∧ (Json.parse? text).isSome = true) ∧
      (Command.run (.count [name.text ++ "=" ++ text])).answer s' =
        .ok [Text.decimal ((es ++ e.withId id :: more).filter f.matches).length] := by
  obtain ⟨e, more, hmeans, hafter⟩ := hs.record hrun
  obtain ⟨f, hclause, hsize, hmatches⟩ := Filter.ofClause_text hgives.name_eq hcomma harray
  have hclauses := Filter.ofClauses_singleton hclause
  refine ⟨f, e, more, hclauses, hmeans, hafter,
    hmatches _ ((hmeans.carries hgives).withId id), ?_⟩
  rw [hafter.count hclauses (Filter.comparisons_singleton_lt hsize.le),
    Filter.matchesAll_singleton]

/-- A recording of something that a user did. -/
def byUser (text : String) : Recording := { Recording.plain with user := some text }

/-- A number between blanks is JSON, and finds its user. -/
theorem found_by_text_watched :
    watched.IsMadeOf [] ∧ ∃ s', (Command.run (.record (byUser " 7 "))).run watched =
        (.ok [(IdSupply.timeId 1 0).text], s') ∧
      ∃ n, (Command.run (.count ["user_id= 7 "])).answer s' = .ok [Text.decimal (n + 1)] := by
  have harray : ∀ vs, Json.parse? " 7 " ≠ some (.array vs) := by
    intro vs h
    have hitems : (Json.parse? " 7 ").bind Json.items? = none := by decide +kernel
    rw [h, Option.bind_some, Json.items?_array] at hitems
    cases hitems
  have hgives : (byUser " 7 ").Gives .user " 7 " := rfl
  have hrun : (Command.run (.record (byUser " 7 "))).run watched =
      (.ok [(IdSupply.timeId 1 0).text],
        (Command.run (.record (byUser " 7 "))).after watched) :=
    Prod.ext (by decide +kernel) rfl
  obtain ⟨f, e, more, -, -, -, hfound, hcount⟩ :=
    found_by_text_iff isMadeOf_watched hgives (by decide) harray hrun
  have hmatches : f.matches (e.withId (IdSupply.timeId 1 0)) = true :=
    hfound.2 (.inr ⟨by decide, by decide +kernel⟩)
  rw [List.nil_append, List.filter_cons_of_pos hmatches] at hcount
  exact ⟨isMadeOf_watched, _, hrun, (more.filter f.matches).length, hcount⟩

/-- A text with blanks at its ends that is no JSON does not find its user. -/
theorem not_forall_found_by_text :
    ¬ ∀ (s s' : Session) (es : List Entry) (r : Recording) (text : String) (id : EntryId),
      s.IsMadeOf es → r.Gives .user text → ',' ∉ text.toList →
        (∀ vs, Json.parse? text ≠ some (.array vs)) →
          (Command.run (.record r)).run s = (.ok [id.text], s') →
            (Command.run (.count ["user_id=" ++ text])).answer s' ≠ .ok ["0"] := by
  intro h
  have hparse : Json.parse? " alice " = none := by decide +kernel
  refine h watched _ [] (byUser " alice ") " alice " (IdSupply.timeId 1 0) isMadeOf_watched rfl
    (by decide) (fun vs => ?_) (Prod.ext (by decide +kernel) rfl) (by decide +kernel)
  rw [hparse]
  exact nofun

end Session

end AuditTrail
