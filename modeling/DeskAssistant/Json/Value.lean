import DeskAssistant.Decimal.Binary64
import DeskAssistant.Text.CodeUnit

/-!
# JSON values

A value of a JSON document. Integers and real numbers are kept apart, and texts are sequences of
code units. The members of an object are in the order of their keys, and each key has one member;
`putMember` keeps them so.
-/

set_option autoImplicit false
set_option relaxedAutoImplicit false

namespace DeskAssistant.Json

inductive Value where
  | null
  | truth (value : Bool)
  | integer (value : Int)
  | real (value : Decimal.Binary64)
  | text (units : List Text.CodeUnit)
  | array (items : List Value)
  | object (members : List (List Text.CodeUnit × Value))
  deriving Repr, Inhabited

/-- The members of an object, in the order of their keys. -/
abbrev Members := List (List Text.CodeUnit × Value)

/-- Keys are ordered by their code points. -/
def keyBefore (left right : List Text.CodeUnit) : Bool :=
  Text.codePoints left < Text.codePoints right

/-- The members with a value under a key, in place of the one that was there. -/
def putMember (key : List Text.CodeUnit) (value : Value) : Members → Members
  | [] => [(key, value)]
  | (other, present) :: rest =>
    if key = other then (key, value) :: rest
    else if keyBefore key other then (key, value) :: (other, present) :: rest
    else (other, present) :: putMember key value rest

def Members.ofList (members : List (String × Value)) : Members :=
  members.foldl (fun members (key, value) ↦ putMember (Text.codeUnits key) value members) []

def Members.get? (members : Members) (key : String) : Option Value :=
  members.lookup (Text.codeUnits key)

namespace Value

/-- The text of a string. -/
def ofString (text : String) : Value := .text (Text.codeUnits text)

mutual

/-- How deep arrays and objects lie in one another. -/
def levels : Value → Nat
  | array items => itemLevels items + 1
  | object members => memberLevels members + 1
  | _ => 0

def itemLevels : List Value → Nat
  | [] => 0
  | item :: items => max item.levels (itemLevels items)

def memberLevels : List (List Text.CodeUnit × Value) → Nat
  | [] => 0
  | (_, value) :: members => max value.levels (memberLevels members)

end

/-- The value counts as the integer `number`: the integer itself, the real number equal to it, or,
for one and zero, a truth value. -/
def isInteger (number : Int) : Value → Bool
  | integer value => value = number
  | truth value => (if value then 1 else 0) = number
  | real (.finite negative significand exponent) =>
    let magnitude := Decimal.Binary64.quotient significand exponent
    (if negative then -(magnitude.1 : Int) else magnitude.1) = number * magnitude.2
  | _ => false

/-- The truth of a value: nothing, zero and the empty ones are false. -/
def isTrue : Value → Bool
  | null => false
  | truth value => value
  | integer value => value ≠ 0
  | real (.finite _ significand _) => significand ≠ 0
  | real _ => true
  | text units => !units.isEmpty
  | array items => !items.isEmpty
  | object members => !members.isEmpty

end Value

end DeskAssistant.Json
