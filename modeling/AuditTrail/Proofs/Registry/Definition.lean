import AuditTrail.Registry.Basic
import Mathlib.Data.List.Basic

/-!
# Parts are computed once

* `Definition.answer`: what a definition answers for a part of an entry.
* `Binding.Told`: what a binding keeps of the looks at it. `Binding.Told.read` is one look, and
  `Binding.Told.readAll` a row of them.
* `Viewing`: a registry with the bindings that it handed out, and `Viewing.Step` what may happen
  next: a registration, entries to bind, a look at a part.
* `Viewing.definition_runAll`: the last registration for a type counts, `Viewing.latest`.
* `Viewing.Keeps.runAll`: what a run leaves of a binding.
* `Viewing.AsksOnce`, `Viewing.computed_once`: a binding keeps the definition that its type had, and
  asks it for a part at the first look only.
-/

namespace AuditTrail

/-- What a definition answers for a part of an entry. -/
def Definition.answer (d : Definition) (moment : Nat) (context : Context) (e : Entry) :
    Part → PartValue
  | .label => .text (d.label moment context e)
  | .message => .text (d.message moment context e)
  | .actions => .links (d.actions moment context e)

/-! ## Looks at one binding -/

namespace Binding

/-- The binding of a definition to an entry, where a part was first looked at at the moment
`first`. -/
structure Told (d : Definition) (context : Context) (e : Entry) (first : Part → Option Nat)
    (b : Binding) : Prop where
  computed : ∀ part, b.computed? part = (first part).map (d.answer · context e part)
  definition : b.definition = d
  context : b.context = context
  entry : b.entry = e

variable {d : Definition} {context : Context} {e : Entry} {b : Binding}
  {first : Part → Option Nat}

theorem told_new (d : Definition) (context : Context) (e : Entry) :
    Told d context e (fun _ => none) (.new d context e) where
  computed part := by cases part <;> rfl
  definition := rfl
  context := rfl
  entry := rfl

theorem Told.answer (h : Told d context e first b) (moment : Nat) (part : Part) :
    b.answer moment part = d.answer moment context e part := by
  cases part <;> simp only [Binding.answer, Definition.answer, h.definition, h.context, h.entry]

theorem computed?_compute (b : Binding) (moment : Nat) (part q : Part) :
    (b.compute moment part).computed? q =
      if q = part then some (b.answer moment part) else b.computed? q := by
  cases part <;> cases q <;> rfl

/-- The moments of the first looks, after one more. -/
def looked (first : Part → Option Nat) (moment : Nat) (part q : Part) : Option Nat :=
  (first q).or (if q = part then some moment else none)

/-- A look gives what the definition answered at the first look, and asks if this is the first. -/
theorem Told.read (h : Told d context e first b) (moment : Nat) (part : Part) :
    (b.read moment part).1 = d.answer ((first part).getD moment) context e part ∧
      (b.read moment part).2.1 = (if (first part).isSome then [] else [part]) ∧
      Told d context e (looked first moment part) (b.read moment part).2.2 := by
  have hpart := h.computed part
  cases hfirst : first part with
  | some m =>
    rw [hfirst, Option.map_some] at hpart
    rw [Binding.read, hpart]
    refine ⟨rfl, rfl, fun q => ?_, h.definition, h.context, h.entry⟩
    rw [h.computed q, looked]
    split
    · next hq => rw [hq, hfirst, Option.or_some]; rfl
    · rw [Option.or_none]
  | none =>
    rw [hfirst, Option.map_none] at hpart
    rw [Binding.read, hpart]
    refine ⟨h.answer moment part, rfl, ?_⟩
    refine ⟨fun q => ?_, by cases part <;> exact h.definition,
      by cases part <;> exact h.context, by cases part <;> exact h.entry⟩
    rw [computed?_compute, h.computed q, looked, h.answer]
    split
    · next hq => rw [hq, hfirst]; rfl
    · rw [Option.or_none]

theorem readAll_cons (b : Binding) (moment : Nat) (part : Part) (parts : List Part) :
    b.readAll moment (part :: parts) =
      ((b.read moment part).1 :: ((b.read moment part).2.2.readAll (moment + 1) parts).1,
        (b.read moment part).2.1 ++ ((b.read moment part).2.2.readAll (moment + 1) parts).2.1,
        ((b.read moment part).2.2.readAll (moment + 1) parts).2.2) :=
  rfl

/-- A row of looks: each gives the first answer, and the definition is asked for what was looked at
and not known before. -/
theorem Told.readAll (h : Told d context e first b) (moment : Nat) (parts : List Part) :
    (b.readAll moment parts).1 =
        parts.map (fun p => d.answer ((first p).getD (moment + parts.idxOf p)) context e p) ∧
      ∀ p, (b.readAll moment parts).2.1.count p =
        if p ∈ parts ∧ first p = none then 1 else 0 := by
  induction parts generalizing b first moment with
  | nil => simp [Binding.readAll]
  | cons part parts ih =>
    obtain ⟨hvalue, hasked, htold⟩ := h.read moment part
    obtain ⟨hvalues, hmore⟩ := ih htold (moment + 1)
    rw [readAll_cons]
    constructor
    · rw [hvalue, hvalues, List.map_cons, List.idxOf_cons_self, Nat.add_zero]
      refine congrArg (List.cons _) ?_
      apply List.map_congr_left
      intro p _
      rw [looked]
      by_cases hp : p = part
      · cases first p <;> simp [hp]
      · rw [List.idxOf_cons_ne _ (Ne.symm hp), if_neg hp, Option.or_none]
        congr 2
        omega
    · intro p
      rw [List.count_append, hasked, hmore p, looked]
      by_cases hp : p = part
      · subst hp
        cases first p <;> simp
      · cases hknown : first part <;> simp [hp, Ne.symm hp]

end Binding

/-! ## Registrations, bindings and looks in any order -/

/-- A registry and the bindings that it handed out, at a moment. -/
structure Viewing where
  registry : Registry
  bindings : List Binding
  moment : Nat

namespace Viewing

/-- What may happen next. -/
inductive Step
  | register (type : String) (d : Definition)
  | bind (context : Context) (entries : List Entry)
  | look (i : Nat) (part : Part)

/-- Nothing was bound so far. -/
def start (r : Registry) : Viewing := ⟨r, [], 0⟩

/-- What a look at a binding gives: the value, and the parts that the definition is asked for. -/
def look (v : Viewing) (i : Nat) (part : Part) : Option (PartValue × List Part) :=
  v.bindings[i]?.map fun b => ((b.read v.moment part).1, (b.read v.moment part).2.1)

/-- One step, which takes a moment. -/
def step (v : Viewing) : Step → Viewing
  | .register type d => ⟨v.registry.register type d, v.bindings, v.moment + 1⟩
  | .bind context es =>
    ⟨v.registry, v.bindings ++ v.registry.defineMany context es, v.moment + 1⟩
  | .look i part =>
    ⟨v.registry, v.bindings.modify i fun b => (b.read v.moment part).2.2, v.moment + 1⟩

/-- One step after the other. -/
def runAll (v : Viewing) (steps : List Step) : Viewing := steps.foldl step v

/-- The parts that the definition of a binding is asked for in a step. -/
def asked (v : Viewing) (i : Nat) : Step → List Part
  | .look j part => if j = i then ((v.look j part).map Prod.snd).getD [] else []
  | _ => []

/-- The parts that the definition of a binding is asked for in a run. -/
def askedAll (v : Viewing) (i : Nat) : List Step → List Part
  | [] => []
  | s :: steps => v.asked i s ++ (v.step s).askedAll i steps

/-- What steps register. -/
def registrations (steps : List Step) : List (String × Definition) := steps.filterMap fun
  | .register type d => some (type, d)
  | _ => none

/-- The definition that was registered last for just this type. -/
def latest (steps : List Step) (type : String) : Definition :=
  ((registrations steps).reverse.lookup type).getD .usual

/-- The step is a look at a part of a binding. -/
def Step.isLook (i : Nat) (part : Part) : Step → Bool
  | .look j q => j = i ∧ q = part
  | _ => false

/-- The moment of the first look at a part of a binding. -/
def firstLook (i : Nat) (part : Part) (moment : Nat) (steps : List Step) : Option Nat :=
  (steps.findIdx? (Step.isLook i part)).map (moment + ·)

variable {v : Viewing} {i : Nat} {d : Definition} {context : Context} {e : Entry}
  {first : Part → Option Nat}

theorem moment_step (v : Viewing) (s : Step) : (v.step s).moment = v.moment + 1 := by
  cases s <;> rfl

theorem moment_runAll (v : Viewing) (steps : List Step) :
    (v.runAll steps).moment = v.moment + steps.length := by
  induction steps generalizing v with
  | nil => rfl
  | cons s steps ih =>
    rw [runAll, List.foldl_cons, ← runAll, ih, moment_step, List.length_cons]
    omega

/-- The last registration of a type counts. -/
theorem definitions_runAll (v : Viewing) (steps : List Step) :
    (v.runAll steps).registry.definitions =
      (registrations steps).reverse ++ v.registry.definitions := by
  induction steps generalizing v with
  | nil => rfl
  | cons s steps ih =>
    rw [runAll, List.foldl_cons, ← runAll, ih]
    cases s with
    | register type d => simp [registrations, step, Registry.register]
    | bind context es => rfl
    | look j part => rfl

theorem definition_runAll (backend : Backend) (types : ContentTypes) (steps : List Step)
    (type : String) :
    ((start (.around backend types)).runAll steps).registry.definition type =
      latest steps type := by
  rw [Registry.definition, definitions_runAll, latest]
  congr 2
  exact List.append_nil _

/-- The binding at a place is one of the definition to the entry, with these first looks. -/
def Keeps (v : Viewing) (i : Nat) (d : Definition) (context : Context) (e : Entry)
    (first : Part → Option Nat) : Prop :=
  ∃ b, v.bindings[i]? = some b ∧ Binding.Told d context e first b

theorem Keeps.look (h : v.Keeps i d context e first) (part : Part) :
    v.look i part = some (d.answer ((first part).getD v.moment) context e part,
      if (first part).isSome then [] else [part]) := by
  obtain ⟨b, hb, htold⟩ := h
  obtain ⟨hvalue, hasked, -⟩ := htold.read v.moment part
  rw [Viewing.look, hb, Option.map_some, hvalue, hasked]

/-- The moments of the first looks at a binding, after one more step. -/
def after (first : Part → Option Nat) (i moment : Nat) (s : Step) (part : Part) : Option Nat :=
  (first part).or (if s.isLook i part then some moment else none)

theorem after_eq_self {s : Step} (hs : ∀ part, s.isLook i part = false)
    (first : Part → Option Nat) (moment : Nat) : after first i moment s = first := by
  funext part
  rw [after, hs part, if_neg Bool.false_ne_true, Option.or_none]

theorem Keeps.step (h : v.Keeps i d context e first) (s : Step) :
    (v.step s).Keeps i d context e (after first i v.moment s) := by
  obtain ⟨b, hb, htold⟩ := h
  cases s with
  | register type d =>
    rw [after_eq_self fun _ => rfl]
    exact ⟨b, hb, htold⟩
  | bind context es =>
    rw [after_eq_self fun _ => rfl]
    refine ⟨b, ?_, htold⟩
    rw [Viewing.step, List.getElem?_append_left (List.getElem?_eq_some_iff.1 hb).1, hb]
  | look j part =>
    rw [Keeps, Viewing.step, List.getElem?_modify, hb]
    by_cases hj : j = i
    · refine ⟨(b.read v.moment part).2.2, by simp [hj], ?_⟩
      have hfirst : after first i v.moment (.look j part) =
          Binding.looked first v.moment part := by
        funext q
        simp [after, Step.isLook, Binding.looked, hj, eq_comm]
      rw [hfirst]
      exact (htold.read v.moment part).2.2
    · refine ⟨b, by simp [hj], ?_⟩
      rwa [after_eq_self fun _ => by simp [Step.isLook, hj]]

/-- The definition is asked at the first look. -/
theorem Keeps.count_asked (h : v.Keeps i d context e first) (s : Step) (part : Part) :
    (v.asked i s).count part = if s.isLook i part ∧ first part = none then 1 else 0 := by
  cases s with
  | register type d => simp [asked, Step.isLook]
  | bind context es => simp [asked, Step.isLook]
  | look j q =>
    by_cases hj : j = i
    · subst hj
      rw [asked, if_pos rfl, h.look q, Option.map_some, Option.getD_some]
      by_cases hq : q = part
      · subst hq
        cases first q <;> simp [Step.isLook]
      · cases first q <;> simp [Step.isLook, hq]
    · simp [asked, Step.isLook, hj]

/-- The moments of the first looks, after a run. -/
theorem after_firstLook (first : Part → Option Nat) (i moment : Nat) (s : Step)
    (steps : List Step) (part : Part) :
    (after first i moment s part).or (firstLook i part (moment + 1) steps) =
      (first part).or (firstLook i part moment (s :: steps)) := by
  rw [after, Option.or_assoc, firstLook, firstLook, List.findIdx?_cons]
  congr 1
  by_cases hs : s.isLook i part
  · simp [hs]
  · rw [if_neg hs, if_neg hs, Option.none_or, Option.map_map]
    congr 1
    funext n
    exact (Nat.add_assoc _ _ _).trans (congrArg _ (Nat.add_comm _ _))

theorem Keeps.runAll (h : v.Keeps i d context e first) (steps : List Step) :
    (v.runAll steps).Keeps i d context e
      fun part => (first part).or (firstLook i part v.moment steps) := by
  induction steps generalizing v first with
  | nil => simpa [Viewing.runAll, firstLook] using h
  | cons s steps ih =>
    have hrest := ih (h.step s)
    simp only [moment_step, after_firstLook] at hrest
    exact hrest

theorem Keeps.count_askedAll (h : v.Keeps i d context e first) (steps : List Step) (part : Part) :
    (v.askedAll i steps).count part =
      if steps.any (Step.isLook i part) ∧ first part = none then 1 else 0 := by
  induction steps generalizing v first with
  | nil => simp [askedAll]
  | cons s steps ih =>
    rw [askedAll, List.count_append, h.count_asked s part, ih (h.step s), List.any_cons, after]
    cases s.isLook i part <;> cases first part <;> simp

/-- What is bound keeps the definition that was registered last for its type. -/
theorem keeps_bind (backend : Backend) (types : ContentTypes) (past : List Step)
    (context : Context) {entries : List Entry} {e : Entry} (he : entries[i]? = some e) :
    let before := (start (.around backend types)).runAll past
    (before.step (.bind context entries)).Keeps (before.bindings.length + i)
      (latest past e.type) context e fun _ => none := by
  intro before
  refine ⟨.new (latest past e.type) context e, ?_, Binding.told_new _ _ _⟩
  rw [step, List.getElem?_append_right (Nat.le_add_right _ _), Nat.add_sub_cancel_left,
    Registry.defineMany, List.getElem?_map, he, Option.map_some, Registry.define,
    definition_runAll]

theorem latest_eq_usual {steps : List Step} {type : String}
    (h : type ∉ (registrations steps).map Prod.fst) : latest steps type = .usual := by
  have hnone : (registrations steps).reverse.lookup type = none := by
    rw [List.lookup_eq_none_iff]
    intro p hp
    simp only [bne_iff_ne, ne_eq]
    rintro rfl
    exact h (List.mem_map_of_mem (List.mem_reverse.1 hp))
  rw [latest, hnone, Option.getD_none]

/-- Whatever happens later, entries that are bound now are asked about once for each part. -/
structure AsksOnce (before : Viewing) (past : List Step) (context : Context)
    (entries : List Entry) (later : List Step) : Prop where
  /-- Each entry is bound in order, to the definition that was registered last for just its
  type. -/
  bound : (before.registry.defineMany context entries).map
      (fun b => (b.definition, b.context, b.entry)) =
    entries.map fun e => (latest past e.type, context, e)
  /-- The new bindings come behind those that were there. -/
  handed : (before.step (.bind context entries)).bindings =
    before.bindings ++ before.registry.defineMany context entries
  /-- A type that was not registered has a label of its own and nothing else. -/
  usual : ∀ type, type ∉ (registrations past).map Prod.fst → ∀ moment context (e : Entry),
    (latest past type).label moment context e = e.type ++ " (" ++ e.id.text ++ ")" ∧
      (latest past type).message moment context e = "" ∧
      (latest past type).actions moment context e = []
  /-- A look gives what the definition answered at the first look, which is this one if there was
  none. -/
  look : ∀ (i : Nat) e, entries[i]? = some e → ∀ part,
    let bound := before.step (.bind context entries)
    let place := before.bindings.length + i
    (bound.runAll later).look place part = some
      (match firstLook place part bound.moment later with
      | some moment => ((latest past e.type).answer moment context e part, [])
      | none =>
        ((latest past e.type).answer (bound.moment + later.length) context e part, [part]))
  /-- The definition is asked for a part once if there is a look at it, and else not at all. -/
  asked : ∀ (i : Nat) e, entries[i]? = some e → ∀ part,
    let bound := before.step (.bind context entries)
    let place := before.bindings.length + i
    (bound.askedAll place later).count part = if later.any (Step.isLook place part) then 1 else 0
  /-- The same holds of a row of looks at one binding. -/
  row : ∀ (i : Nat) e (b : Binding), entries[i]? = some e →
    (before.registry.defineMany context entries)[i]? = some b →
    ∀ moment (parts : List Part),
    (b.readAll moment parts).1 =
        parts.map (fun p => (latest past e.type).answer (moment + parts.idxOf p) context e p) ∧
      ∀ part, (b.readAll moment parts).2.1.count part = if part ∈ parts then 1 else 0

/-- In a registry that is around a log and had any past, every part of what is bound is computed at
its first look and kept. -/
theorem computed_once (backend : Backend) (types : ContentTypes) (past : List Step)
    (context : Context) (entries : List Entry) (later : List Step) :
    AsksOnce ((start (.around backend types)).runAll past) past context entries later where
  bound := by
    rw [Registry.defineMany, List.map_map]
    refine List.map_congr_left fun e _ => ?_
    rw [← definition_runAll backend types past e.type]
    rfl
  handed := rfl
  usual type hunregistered moment context e := by
    rw [latest_eq_usual hunregistered]
    exact ⟨rfl, rfl, rfl⟩
  look i e he part := by
    intro bound place
    have hbound := keeps_bind backend types past context he
    rw [(hbound.runAll later).look part, moment_runAll]
    cases firstLook place part bound.moment later <;> rfl
  asked i e he part := by
    intro bound place
    rw [(keeps_bind backend types past context he).count_askedAll later part]
    simp only [and_true, place]
  row i e b he hb moment parts := by
    have hnew : b = .new (latest past e.type) context e := by
      rw [Registry.defineMany, List.getElem?_map, he, Option.map_some, Registry.define,
        definition_runAll] at hb
      exact (Option.some.inj hb).symm
    obtain ⟨hvalues, hasked⟩ :=
      (hnew ▸ Binding.told_new (latest past e.type) context e).readAll moment parts
    refine ⟨hvalues, fun part => ?_⟩
    rw [hasked part]
    simp

/-- A label that tells the moment is shown as it was at the first look. An entry of a type that
differs in case only has the usual label. -/
theorem computed_once_moment :
    let d : Definition := ⟨fun moment _ _ => toString moment, fun _ _ _ => "", fun _ _ _ => []⟩
    let bound := ((start (.around .openMemory .empty)).runAll [.register "Login" d]).step
      (.bind .empty [.ofType "login" .info .epoch, .ofType "Login" .info .epoch])
    let later := bound.runAll [.look 0 .label, .look 1 .label, .look 1 .label]
    later.look 0 .label =
        some (.text "login (00000000-0000-0000-0000-000000000000)", []) ∧
      later.look 1 .label = some (.text "3", []) ∧
      later.look 1 .message = some (.text "", [.message]) := by
  intro d bound later
  have h := computed_once .openMemory .empty [.register "Login" d] .empty
    [.ofType "login" .info .epoch, .ofType "Login" .info .epoch]
    [.look 0 .label, .look 1 .label, .look 1 .label]
  exact ⟨(h.look 0 _ rfl .label).trans (by decide), (h.look 1 _ rfl .label).trans (by decide),
    (h.look 1 _ rfl .message).trans (by decide)⟩

end Viewing

end AuditTrail
