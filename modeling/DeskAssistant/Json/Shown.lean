import DeskAssistant.Fault
import DeskAssistant.Json.Value
import DeskAssistant.Log.Record

/-!
# Showing JSON values

A value as one line for a reader, other than the document that holds it: words for nothing and the
truth values, texts between quotes, and a comma and a space between items and between members. An
integer with too many digits cannot be shown, nor can a value that holds one.
-/

set_option autoImplicit false
set_option relaxedAutoImplicit false

namespace DeskAssistant.Json

/-- An integer in decimal digits. -/
def shownInteger (value : Int) : Except Fault String :=
  if Nat.pow 10 Text.digitLimit ≤ value.natAbs then .error .integerTooLong else .ok (toString value)

/-- Code units between quotes. -/
def shownText (units : List Text.CodeUnit) : String := Text.quotedPoints (Text.codePoints units)

mutual

def shown : Value → Except Fault String
  | .null => .ok "None"
  | .truth value => .ok (Log.shownTruth value)
  | .integer value => shownInteger value
  | .real value => .ok value.text
  | .text units => .ok (shownText units)
  | .array items => do
    let shown ← shownItems items
    return "[" ++ String.intercalate ", " shown ++ "]"
  | .object members => do
    let shown ← shownMembers members
    return "\x7b" ++ String.intercalate ", " shown ++ "\x7d"

def shownItems : List Value → Except Fault (List String)
  | [] => .ok []
  | item :: items => do
    let first ← shown item
    let rest ← shownItems items
    return first :: rest

def shownMembers : List (List Text.CodeUnit × Value) → Except Fault (List String)
  | [] => .ok []
  | (key, value) :: members => do
    let first ← shown value
    let rest ← shownMembers members
    return (shownText key ++ ": " ++ first) :: rest

end

end DeskAssistant.Json
