import DeskAssistant.Text.Search
import DeskAssistant.Fragment.Literal
import DeskAssistant.Fragment.Bracket

/-!
# Fields in a fragment

A field is looked up by its text: the first place where its name stands between quotes with a colon
behind it, blanks allowed on both sides of the colon. The lookup is not structural, so that the
same characters inside another value are found as well. `value?` returns the text from the value
on, `string?` decodes a string value, and `span?` cuts out a bracketed one.
-/

set_option autoImplicit false
set_option relaxedAutoImplicit false

namespace DeskAssistant.Fragment.Field

/-- A field's name between quotes. -/
def quotedName (name : String) : List Char := '"' :: (name.toList ++ ['"'])

/-- What follows the quoted name and its colon at the beginning of a text, after blanks. -/
def valueHere? (pattern text : List Char) : Option (List Char) :=
  match Text.afterStart? pattern text with
  | none => none
  | some rest =>
    match Text.skipBlanks rest with
    | ':' :: value => some (Text.skipBlanks value)
    | _ => none

/-- The text behind the first occurrence of a quoted name that has a colon after it. -/
def valueAnywhere? (pattern : List Char) : List Char → Option (List Char)
  | [] => none
  | c :: rest =>
    match valueHere? pattern (c :: rest) with
    | some value => some value
    | none => valueAnywhere? pattern rest

/-- The text from the value of the first field called `name` on. The empty name has no field. -/
def value? (text : List Char) (name : String) : Option (List Char) :=
  if name.isEmpty then none else valueAnywhere? (quotedName name) text

/-- The index in `text` of the value that `value?` finds. -/
def valueIndex? (text : List Char) (name : String) : Option Nat :=
  (value? text name).map (fun value ↦ text.length - value.length)

/-- The decoded value of a field that holds a string. -/
def string? (text : List Char) (name : String) : Option String := do
  let value ← value? text name
  let (decoded, _) ← Literal.read value
  pure (String.ofList decoded)

/-- The bracketed value of a field, from its opening bracket through the closing one. -/
def span? (text : List Char) (name : String) (opening closing : Char) : Option (List Char) := do
  Bracket.span? opening closing (← value? text name)

/-- The indices in `text` of the two brackets around a field's value. -/
def spanIndices? (text : List Char) (name : String) (opening closing : Char) :
    Option (Nat × Nat) := do
  let value ← value? text name
  let offset ← Bracket.closing? opening closing value
  let start := text.length - value.length
  pure (start, start + offset)

end DeskAssistant.Fragment.Field
