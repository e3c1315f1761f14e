import AuditTrail.Registry.Basic
import AuditTrail.Text.InvisibleTable

/-!
# Summaries for developers

* `quote`: a text in quotation marks in which everything can be seen. Quotation marks, backslashes
  and the common control characters have a letter behind a backslash; other characters that cannot
  be seen alone stand as their numbers.
* `ContentTypes.summary`, `Registry.summary`: which log and which content types there are.
* `Binding.summary`: which entry is bound, and the label if it was computed.
-/

namespace AuditTrail

/-! ## Quoted texts -/

namespace Text

/-- Can the character be seen alone? -/
def isVisible (c : Char) : Bool :=
  0x20 ≤ c.toNat && (c.toNat < 0x7F || !inRanges invisibleRanges c)

/-- A character in a quoted text. -/
def quoteChar (c : Char) : List Char :=
  if c = '"' then ['\\', '"']
  else if c = '\\' then ['\\', '\\']
  else if c = '\n' then ['\\', 'n']
  else if c = '\r' then ['\\', 'r']
  else if c = '\t' then ['\\', 't']
  else if c.toNat = 0 then ['\\', '0']
  else if isVisible c then [c]
  else '\\' :: 'u' :: '\x7b' :: Nat.toDigits 16 c.toNat ++ ['\x7d']

/-- The text in quotation marks. -/
def quote (s : String) : String :=
  String.ofList ('"' :: s.toList.flatMap quoteChar ++ ['"'])

/-- The texts in quotation marks, as a list in brackets. -/
def quoteList (ss : List String) : String := "[" ++ joinWith ", " (ss.map quote) ++ "]"

end Text

/-! ## Summaries -/

open Text

/-- A name with members in braces. -/
def summaryOf (name : String) (members : List String) : String :=
  name ++ " \x7b " ++ joinWith ", " members ++ " \x7d"

/-- The registered keys. -/
def ContentTypes.summary (t : ContentTypes) : String :=
  summaryOf "ContentTypes" ["keys: " ++ quoteList t.sortedKeys]

/-- The log and the content types. -/
def Registry.summary (r : Registry) : String :=
  summaryOf "Registry"
    ["backend: " ++ quote r.backend.name, "content_types: " ++ r.contentTypes.summary, ".."]

/-- The entry, and the label if it was computed. -/
def Binding.summary (b : Binding) : String :=
  let label :=
    match b.label with
    | some s => "Some(" ++ quote s ++ ")"
    | none => "None"
  summaryOf "BoundDefinition" ["entry: EntryId(" ++ b.entry.id.text ++ ")", "label: " ++ label, ".."]

end AuditTrail
