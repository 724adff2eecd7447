/-!
# Units of UTF-16

A text of a JSON document is a sequence of UTF-16 code units, because an escape can name any single
unit, also one half of a surrogate pair. `codeUnits` splits a string into units, `codePoints` joins
the pairs again and leaves a lone half as it is, and `ofCodeUnits?` gives the string back.
-/

set_option autoImplicit false
set_option relaxedAutoImplicit false

namespace DeskAssistant.Text

abbrev CodeUnit := UInt16

/-- The units of a character: a pair of surrogates above U+FFFF, else one. -/
def charUnits (c : Char) : List CodeUnit :=
  let code := c.toNat
  if code < 0x10000 then [code.toUInt16]
  else
    let offset := code - 0x10000
    [(0xd800 + offset / 0x400).toUInt16, (0xdc00 + offset % 0x400).toUInt16]

def codeUnits (text : String) : List CodeUnit := text.toList.flatMap charUnits

def isHighSurrogate (unit : CodeUnit) : Bool := 0xd800 ≤ unit && unit < 0xdc00

def isLowSurrogate (unit : CodeUnit) : Bool := 0xdc00 ≤ unit && unit < 0xe000

/-- The code points of units, behind those in `points`, which stand backwards. -/
def codePointsOnto (points : List Nat) : List CodeUnit → List Nat
  | high :: low :: rest =>
    if isHighSurrogate high && isLowSurrogate low then
      codePointsOnto
        ((0x10000 + (high.toNat - 0xd800) * 0x400 + (low.toNat - 0xdc00)) :: points) rest
    else codePointsOnto (high.toNat :: points) (low :: rest)
  | [unit] => (unit.toNat :: points).reverse
  | [] => points.reverse

/-- The code points of units; a surrogate that is not part of a pair stands for itself. -/
def codePoints (units : List CodeUnit) : List Nat := codePointsOnto [] units

/-- The string of units; `none` when a surrogate is not part of a pair. -/
def ofCodeUnits? (units : List CodeUnit) : Option String :=
  let points := codePoints units
  if points.all (fun point ↦ point < 0xd800 || 0xe000 ≤ point) then
    some (String.ofList (points.map Char.ofNat))
  else none

end DeskAssistant.Text
