/-!
# Texts cut to a limit

A text longer than its limit is cut and marked. `capHead` keeps the beginning and puts the marker
behind it, `capTail` keeps the end and puts the marker, without its leading line feed, in front.
Limits are integers: a negative limit counts from the other end of the text, so that a head of
`-1` is everything but the last character, and a tail of `0` is the whole text behind the marker.
-/

set_option autoImplicit false
set_option relaxedAutoImplicit false

namespace DeskAssistant.Text

/-- The line that stands where a text was cut. -/
def truncationMarker : String := "\n...[truncated]...\n"

/-- The marker in front of a text whose beginning was cut. -/
def leadingMarker : String := "...[truncated]...\n"

/-- The first `limit` characters; for a negative limit, all but the last `-limit`. -/
def headPart (text : List Char) (limit : Int) : List Char :=
  if 0 ≤ limit then text.take limit.toNat else text.take (text.length - (-limit).toNat)

/-- The last `limit` characters. The tail of length zero is the whole text, and for a negative
limit the first `-limit` characters are left out. -/
def tailPart (text : List Char) (limit : Int) : List Char :=
  if 0 < limit then text.drop (text.length - limit.toNat) else text.drop (-limit).toNat

/-- The beginning of a text that is longer than `limit`, with the marker behind it. -/
def capHead (text : String) (limit : Int) : String :=
  if (text.length : Int) ≤ limit then text
  else String.ofList (headPart text.toList limit) ++ truncationMarker

/-- The end of a text that is longer than `limit`, with the marker in front of it. -/
def capTail (text : String) (limit : Int) : String :=
  if (text.length : Int) ≤ limit then text
  else leadingMarker ++ String.ofList (tailPart text.toList limit)

/-- A text that ends in a line feed, added when it is missing. -/
def endLine (text : String) : String :=
  if text.toList.getLast? = some '\n' then text else text ++ "\n"

theorem capHead_of_length_le (text : String) (limit : Int) (h : (text.length : Int) ≤ limit) :
    capHead text limit = text := if_pos h

theorem capHead_natCast (text : String) (limit : Nat) :
    capHead text limit =
      if text.length ≤ limit then text
      else String.ofList (text.toList.take limit) ++ truncationMarker := by
  unfold capHead headPart
  by_cases hshort : text.length ≤ limit
  · rw [if_pos hshort, if_pos (Int.ofNat_le.mpr hshort)]
  · rw [if_neg hshort, if_neg (mt Int.ofNat_le.mp hshort), if_pos (Int.natCast_nonneg limit)]
    rfl

theorem capTail_natCast (text : String) {limit : Nat} (hlimit : 0 < limit) :
    capTail text limit =
      if text.length ≤ limit then text
      else leadingMarker ++ String.ofList (text.toList.drop (text.length - limit)) := by
  unfold capTail tailPart
  by_cases hshort : text.length ≤ limit
  · rw [if_pos hshort, if_pos (Int.ofNat_le.mpr hshort)]
  · rw [if_neg hshort, if_neg (mt Int.ofNat_le.mp hshort), if_pos (Int.natCast_pos.mpr hlimit),
      String.length_toList]
    rfl

end DeskAssistant.Text
