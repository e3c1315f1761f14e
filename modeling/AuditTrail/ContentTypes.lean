import AuditTrail.Error
import AuditTrail.Json.Basic
import AuditTrail.Text.Blank

/-!
# Content types

A content type says what an entry is about: a name in a namespace.

* `ContentType.key`: its text, `namespace.Name`.
* `ContentType.parse?`: the content type of a key, cut at the last dot.
* `ContentTypes`: the registered content types, one for each key; the last registration of a key
  counts.
* `ContentTypes.register`, `registerKey`, `registerKeys`: more registrations.
* `ContentTypes.resolve`: the content type of a key.
* `Fresh`: a fresh value of a registered content type.
-/

namespace AuditTrail

/-- What an entry is about: a name in a namespace. -/
structure ContentType where
  namespaceName : String
  name : String
  deriving DecidableEq, Repr, Inhabited

namespace ContentType

/-- The key: the namespace, a dot, the name. -/
def key (ct : ContentType) : String := ct.namespaceName ++ "." ++ ct.name

/-- The content type of a key: both parts around the last dot have to be there. -/
def parse? (key : String) : Option ContentType :=
  match Text.splitLast '.' key.toList with
  | some (a, b) => if a = [] ∨ b = [] then none else some ⟨String.ofList a, String.ofList b⟩
  | none => none

end ContentType

/-! ## The table of content types -/

/-- A fresh value of a content type: an empty object, or the default of a type of its own. -/
inductive Fresh
  | untyped (value : Payload)
  | typed (value : Json)

/-- A content type and the value that a fresh instance starts from. -/
structure Registration where
  contentType : ContentType
  fresh : Fresh

namespace Registration

/-- The key under which a content type is registered. -/
def key (r : Registration) : String := r.contentType.key

end Registration

/-- The registered content types. No key is registered twice. -/
structure ContentTypes where
  registrations : List Registration
  nodup : (registrations.map Registration.key).Nodup

namespace ContentTypes

/-- The empty table. -/
def empty : ContentTypes := ⟨[], by simp⟩

instance : Inhabited ContentTypes := ⟨empty⟩

/-- The table with one more registration, which replaces one of the same key. -/
def insert (t : ContentTypes) (r : Registration) : ContentTypes where
  registrations := t.registrations.filter (fun q => q.key ≠ r.key) ++ [r]
  nodup := by
    rw [List.map_append, List.map_singleton, List.nodup_append]
    refine ⟨t.nodup.sublist (List.filter_sublist.map _), by simp, ?_⟩
    intro a ha b hb
    obtain ⟨q, hq, rfl⟩ := List.mem_map.1 ha
    obtain rfl := List.mem_singleton.1 hb
    simpa using (List.mem_filter.1 hq).2

/-- Registers a content type whose fresh instances are `value`. -/
def register (t : ContentTypes) (ct : ContentType) (value : Json) : ContentTypes :=
  t.insert ⟨ct, .typed value⟩

/-- Registers a content type whose fresh instances are empty objects. -/
def registerKey (t : ContentTypes) (ct : ContentType) : ContentTypes :=
  t.insert ⟨ct, .untyped .empty⟩

/-- Registers content types by their keys, up to the first text that is no key. -/
def registerKeys (t : ContentTypes) : List String → Except Error Unit × ContentTypes
  | [] => (.ok (), t)
  | key :: keys =>
    match ContentType.parse? key with
    | some ct => (t.registerKey ct).registerKeys keys
    | none => (.error (.invalidInput (.malformedKey key)), t)

/-- The registration of a key. -/
def find? (t : ContentTypes) (key : String) : Option Registration :=
  t.registrations.find? fun r => r.key = key

/-- The content type of a key. -/
def resolve (t : ContentTypes) (key : String) : Option ContentType :=
  (t.find? key).map Registration.contentType

/-- Is the key registered? -/
def contains (t : ContentTypes) (key : String) : Bool := (t.find? key).isSome

/-- A fresh instance of the content type of a key. -/
def fresh? (t : ContentTypes) (key : String) : Option Fresh :=
  (t.find? key).map Registration.fresh

/-- The registered keys. -/
def keys (t : ContentTypes) : List String := t.registrations.map Registration.key

/-- The registered keys in ascending order. -/
def sortedKeys (t : ContentTypes) : List String := t.keys.mergeSort fun a b => a ≤ b

/-- The number of registered keys. -/
def size (t : ContentTypes) : Nat := t.registrations.length

theorem key_of_find? {t : ContentTypes} {key : String} {r : Registration}
    (h : t.find? key = some r) : r.key = key := by
  simpa using List.find?_some h

end ContentTypes

end AuditTrail
