import DeskAssistant.Fragment.Bracket
import DeskAssistant.Fragment.Literal
import Mathlib.Algebra.Group.Nat.Even
import Mathlib.Data.List.DropRight
import Mathlib.Order.Bounds.Basic
import Mathlib.Tactic.Common

/-!
# Where a string literal ends

Two scanners read string literals: `Literal.read` decodes them, with escapes of two and of six
characters, and `Bracket.closing?` passes them with a flag for the character behind a backslash.
Both go to the same closing quote, `closingQuote?` (`map_snd_readBody`, `closingFrom_quoted`). It is
the first quote with an even number of backslashes directly in front of it
(`isFirst_closingQuote?`): an escape of two characters leaves the parity of what follows as it is.
-/

set_option autoImplicit false
set_option relaxedAutoImplicit false

namespace DeskAssistant.Fragment

/-! ### The first index of a kind -/

/-- The index is the least one with a property, or there is none. -/
def IsFirst (property : Nat → Prop) : Option Nat → Prop
  | none => ∀ index, ¬ property index
  | some index => IsLeast {index | property index} index

section IsFirst

variable {property other : Nat → Prop} {found : Option Nat}

theorem IsFirst.eq_some_iff (h : IsFirst property found) (index : Nat) :
    found = some index ↔ IsLeast {index | property index} index := by
  constructor
  · rintro rfl
    exact h
  · intro hleast
    cases found with
    | none => exact absurd hleast.1 (h index)
    | some first => rw [IsLeast.unique h hleast]

theorem IsFirst.eq_none_iff (h : IsFirst property found) :
    found = none ↔ ∀ index, ¬ property index := by
  constructor
  · rintro rfl
    exact h
  · intro hnone
    cases found with
    | none => rfl
    | some first => exact absurd h.1 (hnone first)

/-- What is first behind the first `count` indices is first, if none of these has the property. -/
theorem IsFirst.shift (h : IsFirst property found) (count : Nat)
    (hfront : ∀ index < count, ¬ other index)
    (hbehind : ∀ index, other (count + index) ↔ property index) :
    IsFirst other (found.map (count + ·)) := by
  have hcases : ∀ index, other index → ∃ more, index = count + more ∧ property more := by
    intro index hother
    obtain ⟨more, rfl⟩ := Nat.exists_eq_add_of_le
      (Nat.le_of_not_lt fun hlt ↦ hfront index hlt hother)
    exact ⟨more, rfl, (hbehind more).mp hother⟩
  cases found with
  | none =>
    intro index hother
    obtain ⟨more, -, hmore⟩ := hcases index hother
    exact h more hmore
  | some first =>
    refine ⟨(hbehind first).mpr h.1, ?_⟩
    intro index hother
    obtain ⟨more, rfl, hmore⟩ := hcases index hother
    exact Nat.add_le_add_left (h.2 hmore) count

theorem IsFirst.congr (h : IsFirst property found) (hsame : ∀ index, other index ↔ property index) :
    IsFirst other found := by
  have hset : other = property := funext fun index ↦ propext (hsame index)
  rw [hset]
  exact h

end IsFirst

/-! ### The closing quote -/

/-- The index of the closing quote in a text behind an opening one. A backslash takes the next
character along. -/
def closingQuote? : List Char → Option Nat
  | [] => none
  | c :: rest =>
    if c = '"' then some 0
    else if c = '\\' then
      match rest with
      | [] => none
      | _ :: rest => (closingQuote? rest).map (2 + ·)
    else (closingQuote? rest).map (1 + ·)

/-- The number of backslashes in a row at the end of a text. -/
def backslashes (text : List Char) : Nat := (text.rtakeWhile (· = '\\')).length

theorem even_backslashes_append {first : List Char} (hfirst : Even (backslashes first))
    (second : List Char) : Even (backslashes (first ++ second)) ↔ Even (backslashes second) := by
  unfold backslashes List.rtakeWhile at hfirst ⊢
  simp only [List.length_reverse] at hfirst ⊢
  rw [List.reverse_append, List.takeWhile_append]
  split_ifs with hall
  · rw [List.length_append, ← hall, Nat.even_add]
    exact iff_true_right hfirst
  · exact Iff.rfl

/-- At the index stands a quote with an even number of backslashes directly in front of it. -/
def IsEnd (text : List Char) (index : Nat) : Prop :=
  text[index]? = some '"' ∧ Even (backslashes (text.take index))

theorem isEnd_append {first : List Char} (hfirst : Even (backslashes first)) (rest : List Char)
    (index : Nat) : IsEnd (first ++ rest) (first.length + index) ↔ IsEnd rest index := by
  unfold IsEnd
  rw [List.getElem?_append_right (Nat.le_add_right _ _), Nat.add_sub_cancel_left,
    List.take_length_add_append, even_backslashes_append hfirst]

theorem not_isEnd_zero {c : Char} (hc : c ≠ '"') (rest : List Char) : ¬ IsEnd (c :: rest) 0 := by
  rintro ⟨hquote, -⟩
  rw [List.getElem?_cons_zero, Option.some.injEq] at hquote
  exact hc hquote

theorem not_isEnd_escaped (rest : List Char) : ¬ IsEnd ('\\' :: rest) 1 := by
  rintro ⟨-, heven⟩
  rw [List.take_succ_cons, List.take_zero] at heven
  exact absurd heven (by decide)

theorem even_backslashes_concat (text : List Char) {c : Char} (hc : c ≠ '\\') :
    Even (backslashes (text ++ [c])) := by
  have hnone : (text ++ [c]).rtakeWhile (· = '\\') = [] :=
    List.rtakeWhile_concat_neg _ text c (by simpa using hc)
  rw [backslashes, hnone]
  exact Even.zero

theorem even_backslashes_pair (letter : Char) : Even (backslashes ['\\', letter]) := by
  by_cases hletter : letter = '\\'
  · rw [hletter]
    decide
  · exact even_backslashes_concat ['\\'] hletter

/-- The closing quote is the first one that is not escaped. -/
theorem isFirst_closingQuote? (text : List Char) : IsFirst (IsEnd text) (closingQuote? text) := by
  fun_induction closingQuote? text with
  | case1 =>
    intro index hend
    cases hend.1
  | case2 rest =>
    constructor
    · exact ⟨rfl, Even.zero⟩
    · intro index _
      exact Nat.zero_le index
  | case3 hquote =>
    intro index hend
    cases index with
    | zero => exact not_isEnd_zero hquote [] hend
    | succ index => cases hend.1
  | case4 letter rest hquote ih =>
    refine ih.shift 2 ?_ ?_
    · intro index hindex
      obtain rfl | rfl : index = 0 ∨ index = 1 := by omega
      · exact not_isEnd_zero hquote (letter :: rest)
      · exact not_isEnd_escaped (letter :: rest)
    · intro index
      exact isEnd_append (even_backslashes_pair letter) rest index
  | case5 c rest hquote hbackslash ih =>
    refine ih.shift 1 ?_ ?_
    · intro index hindex
      obtain rfl : index = 0 := by omega
      exact not_isEnd_zero hquote rest
    · intro index
      exact isEnd_append (even_backslashes_concat [] hbackslash) rest index

theorem lt_length_of_closingQuote? {text : List Char} {index : Nat}
    (h : closingQuote? text = some index) : index < text.length := by
  have hend := ((isFirst_closingQuote? text).eq_some_iff index).mp h
  exact (List.getElem?_eq_some_iff.mp hend.1.1).1

/-! ### Two scanners -/

/-- What stands behind the closing quote. -/
def behindQuote? (text : List Char) : Option (List Char) :=
  (closingQuote? text).map fun index ↦ text.drop (index + 1)

theorem closingQuote?_cons {c : Char} (hquote : c ≠ '"') (hbackslash : c ≠ '\\')
    (rest : List Char) : closingQuote? (c :: rest) = (closingQuote? rest).map (1 + ·) := by
  rw [closingQuote?.eq_def]
  simp only [if_neg hquote, if_neg hbackslash]

/-- A scanner that goes on behind the closing quote, at an offset it counts, may skip a front of
the text the quote does not stand in. -/
theorem bind_closingQuote?_append {α : Type} (next : Nat → List Char → Option α)
    (first rest : List Char) (offset : Nat)
    (h : closingQuote? (first ++ rest) = (closingQuote? rest).map (first.length + ·)) :
    ((closingQuote? (first ++ rest)).bind fun index ↦
        next (offset + (index + 1)) ((first ++ rest).drop (index + 1))) =
      (closingQuote? rest).bind fun index ↦
        next (offset + first.length + (index + 1)) (rest.drop (index + 1)) := by
  rw [h, Option.bind_map]
  refine congrArg (Option.bind (closingQuote? rest)) (funext fun index ↦ ?_)
  rw [Function.comp_apply, Nat.add_assoc first.length, List.drop_length_add_append,
    Nat.add_assoc offset]

theorem behindQuote?_append (first rest : List Char)
    (h : closingQuote? (first ++ rest) = (closingQuote? rest).map (first.length + ·)) :
    behindQuote? (first ++ rest) = behindQuote? rest := by
  have hnext := bind_closingQuote?_append (fun _ behind ↦ some behind) first rest 0 h
  unfold behindQuote?
  rw [Option.map_eq_bind, Option.map_eq_bind]
  exact hnext

theorem behindQuote?_cons {c : Char} (hquote : c ≠ '"') (hbackslash : c ≠ '\\')
    (rest : List Char) : behindQuote? (c :: rest) = behindQuote? rest :=
  behindQuote?_append [c] rest (closingQuote?_cons hquote hbackslash rest)

theorem behindQuote?_escape (letter : Char) (rest : List Char) :
    behindQuote? ('\\' :: letter :: rest) = behindQuote? rest :=
  behindQuote?_append ['\\', letter] rest rfl

theorem ne_of_hexValue? {c : Char} {value : Nat} (h : Literal.hexValue? c = some value) :
    c ≠ '"' ∧ c ≠ '\\' := by
  constructor <;> rintro rfl <;> cases h

/-- No digit of a code is a quote or a backslash. -/
theorem behindQuote?_of_hexCode? {text rest : List Char} {code : Nat}
    (h : Literal.hexCode? text = some (code, rest)) : behindQuote? text = behindQuote? rest := by
  unfold Literal.hexCode? at h
  split at h
  · rename_i first second third fourth behind
    simp only [Option.bind_eq_bind, Option.bind_eq_some_iff, Option.pure_def, Option.some.injEq,
      Prod.mk.injEq] at h
    obtain ⟨_, hfirst, _, hsecond, _, hthird, _, hfourth, _, rfl⟩ := h
    rw [behindQuote?_cons (ne_of_hexValue? hfirst).1 (ne_of_hexValue? hfirst).2,
      behindQuote?_cons (ne_of_hexValue? hsecond).1 (ne_of_hexValue? hsecond).2,
      behindQuote?_cons (ne_of_hexValue? hthird).1 (ne_of_hexValue? hthird).2,
      behindQuote?_cons (ne_of_hexValue? hfourth).1 (ne_of_hexValue? hfourth).2]
  · cases h

/-- An escape of six characters ends where one of two characters does, as far as the closing quote
is concerned. -/
theorem behindQuote?_unescape (letter : Char) (rest : List Char) :
    behindQuote? (Literal.unescape letter rest).2 = behindQuote? rest := by
  unfold Literal.unescape
  split
  · split
    · rename_i hcode
      exact (behindQuote?_of_hexCode? hcode).symm
    · rfl
  · rfl

/-- Decoding ends behind the closing quote. -/
theorem map_snd_readBody (value text : List Char) :
    (Literal.readBody value text).map Prod.snd = behindQuote? text := by
  fun_induction Literal.readBody value text with
  | case1 value => rfl
  | case2 value rest =>
    rw [behindQuote?, closingQuote?.eq_def]
    rfl
  | case3 value => rfl
  | case4 value letter rest _ ih => rw [ih, behindQuote?_unescape, behindQuote?_escape]
  | case5 value c rest hquote hbackslash ih => rw [ih, behindQuote?_cons hquote hbackslash]

/-- Passing a literal in search of a bracket ends behind the closing quote as well. -/
theorem closingFrom_quoted (opening closing : Char) (depth : Int) (offset : Nat)
    (text : List Char) :
    Bracket.closingFrom opening closing .quoted depth offset text =
      (closingQuote? text).bind fun index ↦
        Bracket.closingFrom opening closing .plain depth (offset + (index + 1))
          (text.drop (index + 1)) := by
  induction text using closingQuote?.induct generalizing offset with
  | case1 => rfl
  | case2 rest =>
    rw [closingQuote?.eq_def]
    rfl
  | case3 hquote => rfl
  | case4 letter rest hquote ih =>
    have hpass : Bracket.closingFrom opening closing .quoted depth offset ('\\' :: letter :: rest) =
        Bracket.closingFrom opening closing .quoted depth (offset + 2) rest := rfl
    rw [hpass, ih]
    exact (bind_closingQuote?_append _ ['\\', letter] rest offset rfl).symm
  | case5 c rest hquote hbackslash ih =>
    have hpass : Bracket.closingFrom opening closing .quoted depth offset (c :: rest) =
        Bracket.closingFrom opening closing .quoted depth (offset + 1) rest := by
      rw [Bracket.closingFrom]
      simp only [if_neg hquote, if_neg hbackslash]
    rw [hpass, ih]
    exact (bind_closingQuote?_append _ [c] rest offset
      (closingQuote?_cons hquote hbackslash rest)).symm

/-! ### Literals by index -/

theorem drop_eq_cons_of_getElem? {text : List Char} {index : Nat} {c : Char}
    (h : text[index]? = some c) : text.drop index = c :: text.drop (index + 1) := by
  obtain ⟨hlt, rfl⟩ := List.getElem?_eq_some_iff.mp h
  exact List.drop_eq_getElem_cons hlt

/-- The literal that begins at a quote ends behind its closing quote. -/
theorem map_snd_readAt {text : List Char} {start : Nat} (h : text[start]? = some '"') :
    (Literal.readAt text start).map Prod.snd =
      (closingQuote? (text.drop (start + 1))).map fun index ↦ start + 1 + (index + 1) := by
  have hread : Literal.read (text.drop start) = Literal.readBody [] (text.drop (start + 1)) := by
    rw [drop_eq_cons_of_getElem? h]
    rfl
  have hbody := map_snd_readBody [] (text.drop (start + 1))
  have hmap : (Literal.readAt text start).map Prod.snd =
      (behindQuote? (text.drop (start + 1))).map fun rest ↦ text.length - rest.length := by
    rw [← hbody, Literal.readAt, hread, Option.map_map, Option.map_map]
    rfl
  rw [hmap, behindQuote?, Option.map_map]
  cases hquote : closingQuote? (text.drop (start + 1)) with
  | none => rfl
  | some index =>
    have hlt := lt_length_of_closingQuote? hquote
    rw [List.length_drop] at hlt
    simp only [Option.map_some, Function.comp_apply, List.length_drop]
    congr 1
    omega

/-- In a text whose literal opens at `start`, a quote stands at the index that ends the literal if
none before it does: behind the opening quote and directly in front of the index, the number of
backslashes in a row is even. -/
structure IsEndIn (text : List Char) (start index : Nat) : Prop where
  behind : start < index
  quote : text[index]? = some '"'
  even : Even (backslashes ((text.take index).drop (start + 1)))

theorem isEndIn_iff (text : List Char) (start index : Nat) :
    IsEndIn text start (start + 1 + index) ↔ IsEnd (text.drop (start + 1)) index := by
  have hquote : (text.drop (start + 1))[index]? = text[start + 1 + index]? := List.getElem?_drop
  have hfront : (text.take (start + 1 + index)).drop (start + 1) =
      (text.drop (start + 1)).take index := by
    rw [List.drop_take, Nat.add_sub_cancel_left]
  constructor
  · rintro ⟨-, hend, heven⟩
    exact ⟨hquote.trans hend, hfront ▸ heven⟩
  · rintro ⟨hend, heven⟩
    exact ⟨by omega, hquote.symm.trans hend, hfront ▸ heven⟩

/-- The literal that begins at a quote ends behind the first quote that is not escaped. -/
theorem isFirst_readAt {text : List Char} {start : Nat} (h : text[start]? = some '"') :
    IsFirst (IsEndIn text start)
      ((Literal.readAt text start).map fun (_, behind) ↦ behind - 1) := by
  have hend : (Literal.readAt text start).map (fun (_, behind) ↦ behind - 1) =
      (closingQuote? (text.drop (start + 1))).map (start + 1 + ·) := by
    have hread := congrArg (Option.map (· - 1)) (map_snd_readAt h)
    rw [Option.map_map, Option.map_map] at hread
    exact hread
  rw [hend]
  refine (isFirst_closingQuote? (text.drop (start + 1))).shift (start + 1) ?_ ?_
  · intro index hindex hends
    have hbehind := hends.behind
    omega
  · exact isEndIn_iff text start

end DeskAssistant.Fragment
