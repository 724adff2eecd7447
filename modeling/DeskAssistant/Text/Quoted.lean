import DeskAssistant.Text.Printable

/-!
# Quoted texts

A text named in a message stands between single quotes, or between double quotes when it holds a
single quote and no double one. The quote in use, backslashes and characters without a visible
form are escaped.
-/

set_option autoImplicit false
set_option relaxedAutoImplicit false

namespace DeskAssistant.Text

/-- A hexadecimal digit in lower case. -/
def hexDigit (value : Nat) : Char :=
  Char.ofNat (if value < 10 then 48 + value else 87 + value)

/-- A number in exactly `width` hexadecimal digits. -/
def hexDigits : Nat → Nat → List Char
  | 0, _ => []
  | width + 1, value => hexDigits width (value / 16) ++ [hexDigit (value % 16)]

/-- The character between quotes `quote`. -/
def quoteChar (quote c : Char) : List Char :=
  if c = quote ∨ c = '\\' then ['\\', c]
  else if c = '\n' then ['\\', 'n']
  else if c = '\r' then ['\\', 'r']
  else if c = '\t' then ['\\', 't']
  else if isPrintable c then [c]
  else if c.toNat ≤ 0xff then '\\' :: 'x' :: hexDigits 2 c.toNat
  else if c.toNat ≤ 0xffff then '\\' :: 'u' :: hexDigits 4 c.toNat
  else '\\' :: 'U' :: hexDigits 8 c.toNat

/-- The character of a code point between quotes `quote`; a surrogate, which is none, is escaped. -/
def quotePoint (quote : Char) (point : Nat) : List Char :=
  if 0xd800 ≤ point ∧ point ≤ 0xdfff then '\\' :: 'u' :: hexDigits 4 point
  else quoteChar quote (Char.ofNat point)

/-- Code points between quotes. -/
def quotedPoints (points : List Nat) : String :=
  let quote := if points.contains '\''.toNat && !points.contains '"'.toNat then '"' else '\''
  String.ofList (quote :: (points.flatMap (quotePoint quote) ++ [quote]))

/-- A text between quotes. -/
def quoted (text : String) : String := quotedPoints (text.toList.map Char.toNat)

end DeskAssistant.Text
