import AuditTrail.Text.Digits
import AuditTrail.Text.LowerCase

/-!
# Severity

* `Level`: the five levels, from `debug` to `critical`; `Level.rank` numbers them from 0.
* `Level.name`, `Level.ofName?`: the name of a level, and back.
* `Level.ofRank?`: the level of a number.
* `Level.parse?`: the level that a person writes: a number or a name, in any case.
-/

namespace AuditTrail

/-- How severe an entry is. -/
inductive Level
  | debug
  | info
  | warn
  | error
  | critical
  deriving DecidableEq, Repr, Inhabited

namespace Level

/-- The levels in rising order. -/
def all : List Level := [.debug, .info, .warn, .error, .critical]

/-- The number of a level. -/
def rank : Level → Nat
  | .debug => 0
  | .info => 1
  | .warn => 2
  | .error => 3
  | .critical => 4

/-- The level of a number, if it is one of the five. -/
def ofRank? (n : Int) : Option Level := all.find? fun level => (level.rank : Int) = n

instance : Ord Level := ⟨fun a b => compare a.rank b.rank⟩

instance : LT Level := ⟨fun a b => a.rank < b.rank⟩

instance (a b : Level) : Decidable (a < b) := inferInstanceAs (Decidable (a.rank < b.rank))

/-- The name of a level. -/
def name : Level → String
  | .debug => "debug"
  | .info => "info"
  | .warn => "warn"
  | .error => "error"
  | .critical => "critical"

/-- The level of a name. -/
def ofName? (s : String) : Option Level := all.find? fun level => level.name = s

/-- The level of a name in small letters; `warning` is `warn`. -/
def ofWord? (s : String) : Option Level := if s = "warning" then some .warn else ofName? s

/-- The level that a text means: a number, or else a name in any case. -/
def parse? (s : String) : Option Level :=
  let word := Text.trim s
  match Text.readInteger word.toList with
  | .ok n => ofRank? n
  | .error _ => ofWord? (Text.lowerCase word)

theorem ofRank?_rank (level : Level) : ofRank? level.rank = some level := by
  cases level <;> rfl

theorem ofName?_name (level : Level) : ofName? level.name = some level := by
  cases level <;> rfl

end Level

end AuditTrail
