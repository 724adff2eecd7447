import DeskAssistant.Json.Value
import DeskAssistant.Text.Quoted

/-!
# Writing JSON

A document is written in ASCII, with two spaces for each level and every item and member on a line
of its own; an empty array or object takes no line break, and none stands at the end.
-/

set_option autoImplicit false
set_option relaxedAutoImplicit false

namespace DeskAssistant.Json

/-- A code unit between quotes. -/
def unitText (unit : Text.CodeUnit) : List Char :=
  if unit = 0x22 then ['\\', '"']
  else if unit = 0x5c then ['\\', '\\']
  else if unit = 0x0a then ['\\', 'n']
  else if unit = 0x0d then ['\\', 'r']
  else if unit = 0x09 then ['\\', 't']
  else if unit = 0x0c then ['\\', 'f']
  else if unit = 0x08 then ['\\', 'b']
  else if 0x20 ≤ unit && unit < 0x7f then [Char.ofNat unit.toNat]
  else '\\' :: 'u' :: Text.hexDigits 4 unit.toNat

def quotedUnits (units : List Text.CodeUnit) : List Char :=
  '"' :: (units.flatMap unitText ++ ['"'])

/-- A real number as it is written in a document. -/
def realText : Decimal.Binary64 → String
  | .notANumber => "NaN"
  | .infinite negative => if negative then "-Infinity" else "Infinity"
  | value => value.text

/-- The start of a line at a level. -/
def lineStart (level : Nat) : List Char := '\n' :: List.replicate (2 * level) ' '

mutual

/-- A value whose first line has begun at a level. -/
def valueText (level : Nat) : Value → List Char
  | .null => "null".toList
  | .truth value => (if value then "true" else "false").toList
  | .integer value => (toString value).toList
  | .real value => (realText value).toList
  | .text units => quotedUnits units
  | .array [] => ['[', ']']
  | .array (item :: items) =>
    '[' :: lineStart (level + 1) ++ valueText (level + 1) item ++ itemsText (level + 1) items ++
      lineStart level ++ [']']
  | .object [] => ['\x7b', '\x7d']
  | .object ((key, value) :: members) =>
    '\x7b' :: lineStart (level + 1) ++ quotedUnits key ++ [':', ' '] ++
      valueText (level + 1) value ++ membersText (level + 1) members ++ lineStart level ++ ['\x7d']

/-- The items behind the first one. -/
def itemsText (level : Nat) : List Value → List Char
  | [] => []
  | item :: items => ',' :: lineStart level ++ valueText level item ++ itemsText level items

/-- The members behind the first one. -/
def membersText (level : Nat) : List (List Text.CodeUnit × Value) → List Char
  | [] => []
  | (key, value) :: members =>
    ',' :: lineStart level ++ quotedUnits key ++ [':', ' '] ++ valueText level value ++
      membersText level members

end

/-- The document of a value. -/
def write (value : Value) : String := String.ofList (valueText 0 value)

end DeskAssistant.Json
