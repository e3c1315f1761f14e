import AuditTrail.Entry.Basic

/-!
# Definitions

A definition says how entries of one type are shown: a label, a message and actions. Its answers
may change from one moment to the next.

* `Definition`: the three functions, and `Definition.usual` for types without one.
* `Binding`: a definition bound to an entry. Each part is computed when it is first asked for and
  kept from then on.
* `Binding.read`: one look at a part; `Binding.readAll`: a row of them.
-/

namespace AuditTrail

/-- What an entry is shown for: a language and further attributes, the last of a name counting. -/
structure Context where
  locale : Option String
  attributes : List (String × String)
  deriving DecidableEq, Repr, Inhabited

namespace Context

/-- The context without a language or attributes. -/
def empty : Context := ⟨none, []⟩

/-- The value of an attribute. -/
def attribute? (c : Context) (name : String) : Option String := c.attributes.reverse.lookup name

end Context

/-- A link next to an entry. -/
structure Action where
  label : String
  url : String
  icon : Option String
  deriving DecidableEq, Repr

namespace Action

open Json in
/-- How an action is spelt in JSON; an absent icon is left out. -/
def form (a : Action) : Form :=
  let member (key value : String) : List Piece × Form := (piecesOf key, .string (piecesOf value))
  .object ([member "label" a.label, member "url" a.url] ++ (a.icon.map (member "icon")).toList)

/-- The JSON text of actions. -/
def listText (actions : List Action) : String :=
  String.ofList (Json.Form.array (actions.map form)).chars

end Action

/-- How entries of one type are shown. The first argument is the moment of asking. -/
structure Definition where
  label : Nat → Context → Entry → String
  message : Nat → Context → Entry → String
  actions : Nat → Context → Entry → List Action

namespace Definition

/-- The definition for types without one: the type and the identifier. -/
def usual : Definition where
  label _ _ e := e.type ++ " (" ++ e.id.text ++ ")"
  message _ _ _ := ""
  actions _ _ _ := []

instance : Inhabited Definition := ⟨usual⟩

end Definition

/-- A part of what is shown. -/
inductive Part
  | label
  | message
  | actions
  deriving DecidableEq, Repr

/-- The value of a part. -/
inductive PartValue
  | text (s : String)
  | links (actions : List Action)
  deriving DecidableEq, Repr

/-- A definition bound to an entry, with the parts that were computed so far. -/
structure Binding where
  definition : Definition
  context : Context
  entry : Entry
  label : Option String
  message : Option String
  actions : Option (List Action)
  deriving Inhabited

namespace Binding

/-- A binding of which nothing was asked so far. -/
def new (definition : Definition) (context : Context) (entry : Entry) : Binding :=
  ⟨definition, context, entry, none, none, none⟩

/-- What was computed of a part. -/
def computed? (b : Binding) : Part → Option PartValue
  | .label => b.label.map .text
  | .message => b.message.map .text
  | .actions => b.actions.map .links

/-- The binding after its definition was asked for a part. -/
def compute (b : Binding) (moment : Nat) : Part → Binding
  | .label => { b with label := some (b.definition.label moment b.context b.entry) }
  | .message => { b with message := some (b.definition.message moment b.context b.entry) }
  | .actions => { b with actions := some (b.definition.actions moment b.context b.entry) }

/-- What the definition answers for a part. -/
def answer (b : Binding) (moment : Nat) : Part → PartValue
  | .label => .text (b.definition.label moment b.context b.entry)
  | .message => .text (b.definition.message moment b.context b.entry)
  | .actions => .links (b.definition.actions moment b.context b.entry)

/-- A look at a part: its value, the parts that the definition was asked for, and the binding
afterwards. -/
def read (b : Binding) (moment : Nat) (part : Part) : PartValue × List Part × Binding :=
  match b.computed? part with
  | some v => (v, [], b)
  | none => (b.answer moment part, [part], b.compute moment part)

/-- Looks at parts at one moment after another. -/
def readAll (b : Binding) (moment : Nat) : List Part → List PartValue × List Part × Binding
  | [] => ([], [], b)
  | part :: parts =>
    let (v, asked, b) := b.read moment part
    let (vs, more, b) := b.readAll (moment + 1) parts
    (v :: vs, asked ++ more, b)

/-- The label. -/
def labelText (b : Binding) : String := b.label.getD (b.definition.label 0 b.context b.entry)

/-- The message. -/
def messageText (b : Binding) : String :=
  b.message.getD (b.definition.message 0 b.context b.entry)

end Binding

end AuditTrail
