/-!
# Searching a text

Substring search on lists of characters. `after?` returns what follows the first occurrence of a
pattern, and `occurs` says whether there is one; both look at every starting place in turn.
-/

set_option autoImplicit false
set_option relaxedAutoImplicit false

namespace DeskAssistant.Text

/-- What follows `pattern` at the beginning of `text`, if `text` begins with it. -/
def afterStart? : List Char → List Char → Option (List Char)
  | [], text => some text
  | _ :: _, [] => none
  | p :: pattern, c :: text => if p = c then afterStart? pattern text else none

/-- What follows the first occurrence of `pattern` in `text`. -/
def after? (pattern : List Char) : List Char → Option (List Char)
  | [] => afterStart? pattern []
  | c :: text =>
    match afterStart? pattern (c :: text) with
    | some rest => some rest
    | none => after? pattern text

/-- `pattern` stands somewhere in `text`. -/
def occurs (pattern text : List Char) : Bool := (after? pattern text).isSome

/-- `text` contains `pattern`. -/
def contains (text pattern : String) : Bool := occurs pattern.toList text.toList

/-- `text` ends with `ending`. -/
def endsWith (text ending : List Char) : Bool :=
  (afterStart? ending.reverse text.reverse).isSome

theorem afterStart?_eq_some_iff (pattern text rest : List Char) :
    afterStart? pattern text = some rest ↔ text = pattern ++ rest := by
  induction pattern generalizing text with
  | nil => simp [afterStart?, eq_comm]
  | cons p pattern ih =>
    cases text with
    | nil => simp [afterStart?]
    | cons c text =>
      by_cases h : p = c
      · simp [afterStart?, h, ih]
      · simp only [afterStart?, if_neg h, List.cons_append, List.cons.injEq]
        exact ⟨fun h' ↦ by simp at h', fun h' ↦ absurd h'.1.symm h⟩

end DeskAssistant.Text
