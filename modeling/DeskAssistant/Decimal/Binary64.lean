/-!
# Binary floating point and decimal text

A double is a sign and a magnitude: a finite `significand · 2 ^ exponent`, an infinity, or no
number. `ofDecimal` rounds a decimal to the nearest double, ties to even. `text` writes the fewest
digits that read back as the same double, and among those the nearest to it; it is positional from
`1e-4` up to below `1e16` and has an exponent of at least two digits elsewhere.
-/

set_option autoImplicit false
set_option relaxedAutoImplicit false

namespace DeskAssistant.Decimal

inductive Binary64 where
  /-- A finite value; the significand is below `2 ^ 53`, and at least `2 ^ 52` unless the exponent
  is the smallest one. -/
  | finite (negative : Bool) (significand : Nat) (exponent : Int)
  | infinite (negative : Bool)
  | notANumber
  deriving Repr, DecidableEq, Inhabited

namespace Binary64

/-! ### Rounding -/

/-- The smallest exponent of a finite double. -/
def minExponent : Int := -1074

/-- The largest exponent of a finite double. -/
def maxExponent : Int := 971

/-- The natural number nearest to a quotient, a tie going to the even one. -/
def roundQuotient (numerator denominator : Nat) : Nat :=
  let quotient := numerator / denominator
  let twice := 2 * (numerator % denominator)
  if denominator < twice || (twice == denominator && quotient % 2 == 1) then quotient + 1
  else quotient

/-- The double nearest to a positive quotient. -/
def ofQuotient (negative : Bool) (numerator denominator : Nat) : Binary64 :=
  let estimate : Int := (numerator.log2 : Int) - denominator.log2 - 53
  let scaled := fun (exponent : Int) ↦
    if 0 ≤ exponent then roundQuotient numerator (denominator * Nat.pow 2 exponent.toNat)
    else roundQuotient (numerator * Nat.pow 2 (-exponent).toNat) denominator
  let first := max minExponent estimate
  let exponent :=
    if scaled first < Nat.pow 2 53 then first
    else if scaled (first + 1) < Nat.pow 2 53 then first + 1
    else first + 2
  let significand := scaled exponent
  if maxExponent < exponent then .infinite negative else .finite negative significand exponent

/-- The double nearest to `digits · 10 ^ power`. -/
def ofDecimal (negative : Bool) (digits : Nat) (power : Int) : Binary64 :=
  let magnitude : Int := (Nat.toDigits 10 digits).length + power
  if digits = 0 || magnitude < -330 then .finite negative 0 minExponent
  else if 330 < magnitude then .infinite negative
  else if 0 ≤ power then ofQuotient negative (digits * Nat.pow 10 power.toNat) 1
  else ofQuotient negative digits (Nat.pow 10 (-power).toNat)

/-- How many digits, behind leading zeros, can decide to which double a decimal is rounded. -/
def decisiveDigits : Nat := 800

/-- The double nearest to the number that `digits` write, the most significant first, times
`10 ^ power`. One digit stands for all that are cut off, because only whether they are zero can
matter. -/
def ofDigits (negative : Bool) (digits : List Nat) (power : Int) : Binary64 :=
  let significant := digits.dropWhile (· = 0)
  let cut := significant.drop decisiveDigits
  let last := if cut.isEmpty then [] else [if cut.all (· = 0) then 0 else 1]
  let kept := significant.take decisiveDigits ++ last
  ofDecimal negative (kept.foldl (fun value digit ↦ value * 10 + digit) 0)
    (power + cut.length - last.length)

/-! ### The shortest text -/

/-- The value of a finite double as a quotient. -/
def quotient (significand : Nat) (exponent : Int) : Nat × Nat :=
  if 0 ≤ exponent then (significand * Nat.pow 2 exponent.toNat, 1)
  else (significand, Nat.pow 2 (-exponent).toNat)

/-- `digits · 10 ^ power` reads back as the positive double. -/
def readsBack (significand : Nat) (exponent : Int) (digits : Nat) (power : Int) : Bool :=
  ofDecimal false digits power == finite false significand exponent

/-- The position of the first digit of a positive quotient: the power of ten it stands at. -/
def leadingPower (numerator denominator : Nat) : Int :=
  let estimate : Int :=
    ((Nat.toDigits 10 numerator).length : Int) - (Nat.toDigits 10 denominator).length
  let reaches := fun (power : Int) ↦
    if 0 ≤ power then denominator * Nat.pow 10 power.toNat ≤ numerator
    else denominator ≤ numerator * Nat.pow 10 (-power).toNat
  if reaches estimate then estimate else estimate - 1

/-- The multiple of `10 ^ power` nearest to a quotient, and the multiples on both sides of it. -/
def neighbours (numerator denominator : Nat) (power : Int) : Nat × Nat × Nat :=
  let scaled :=
    if 0 ≤ power then (numerator, denominator * Nat.pow 10 power.toNat)
    else (numerator * Nat.pow 10 (-power).toNat, denominator)
  let below := scaled.1 / scaled.2
  (roundQuotient scaled.1 scaled.2, below, below + 1)

/-- The shortest decimal that reads back, looked for among decimals of `count` digits and then of
more, `fuel` times. -/
def shortest (significand : Nat) (exponent first : Int) : Nat → Nat → Nat × Int
  | 0, _ => (significand, exponent)
  | fuel + 1, count =>
    let power := first - count + 1
    let (numerator, denominator) := quotient significand exponent
    let (nearest, below, above) := neighbours numerator denominator power
    if readsBack significand exponent nearest power then (nearest, power)
    else if readsBack significand exponent below power then (below, power)
    else if readsBack significand exponent above power then (above, power)
    else shortest significand exponent first fuel (count + 1)

/-- A list of digits without the zeros at its end, and how many those are. -/
def dropTrailingZeros (digits : List Char) : List Char × Nat :=
  let kept := (digits.reverse.dropWhile (· = '0')).reverse
  (kept, digits.length - kept.length)

/-- An exponent with its sign and at least two digits. -/
def exponentText (power : Int) : String :=
  let digits := toString power.natAbs
  (if power < 0 then "e-" else "e+") ++ (if digits.length < 2 then "0" ++ digits else digits)

/-- Significant digits whose first one stands at the power `first` of ten. -/
def layout (digits : List Char) (first : Int) : String :=
  if -4 ≤ first && first < 16 then
    if first < 0 then
      "0." ++ String.ofList (List.replicate (-first - 1).toNat '0' ++ digits)
    else
      let whole := digits.take (first.toNat + 1)
      let zeros := List.replicate (first.toNat + 1 - whole.length) '0'
      let fraction := digits.drop (first.toNat + 1)
      String.ofList (whole ++ zeros ++ '.' :: (if fraction.isEmpty then ['0'] else fraction))
  else
    let fraction := digits.drop 1
    String.ofList (digits.take 1 ++ (if fraction.isEmpty then [] else '.' :: fraction)) ++
      exponentText first

/-- The shortest text of a double. -/
def text : Binary64 → String
  | notANumber => "nan"
  | infinite negative => if negative then "-inf" else "inf"
  | finite negative significand exponent =>
    let sign := if negative then "-" else ""
    if significand = 0 then sign ++ "0.0"
    else
      let (numerator, denominator) := quotient significand exponent
      let first := leadingPower numerator denominator
      let (value, power) := shortest significand exponent first 17 1
      let (digits, zeros) := dropTrailingZeros (Nat.toDigits 10 value)
      sign ++ layout digits (power + zeros + digits.length - 1)

end Binary64

end DeskAssistant.Decimal
