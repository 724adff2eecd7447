import DeskAssistant.Json.Reader
import DeskAssistant.Text.Line
import Mathlib.Data.List.Find
import Mathlib.Tactic.Common

/-!
# Line ends in a JSON document

A document that was edited with other line ends has the same value (`Json.read_unifyLineEnds`).
Between tokens a line end is a blank, inside a text it has to be escaped, and no other token holds
one. `Text.SameLines` relates a text to the one with unified line ends. Every function of the
scanner reads the same from two such texts and leaves two such texts (`SameRead`), so the tokens
are the same (`tokens_eq_of_sameLines`).
-/

set_option autoImplicit false
set_option relaxedAutoImplicit false

namespace DeskAssistant

namespace Text

/-! ### Texts with the same lines -/

/-- The second text is the first with line feeds for its line ends. -/
inductive SameLines : List Char → List Char → Prop
  | nil : SameLines [] []
  | same {c : Char} {text other : List Char} (hc : c ≠ '\r') (h : SameLines text other) :
    SameLines (c :: text) (c :: other)
  | lone {text other : List Char} (h : SameLines text other) :
    SameLines ('\r' :: text) ('\n' :: other)
  | pair {text other : List Char} (h : SameLines text other) :
    SameLines ('\r' :: '\n' :: text) ('\n' :: other)

/-- What is written behind `written` has the lines of the text. -/
theorem exists_sameLines (written text : List Char) :
    ∃ other, unifyLineEndsOnto written text = written.reverse ++ other ∧ SameLines text other := by
  fun_induction unifyLineEndsOnto written text with
  | case1 written => exact ⟨[], (List.append_nil _).symm, .nil⟩
  | case2 written rest ih =>
    obtain ⟨other, hother, hsame⟩ := ih
    exact ⟨'\n' :: other, by simpa using hother, hsame.pair⟩
  | case3 written rest _ ih =>
    obtain ⟨other, hother, hsame⟩ := ih
    exact ⟨'\n' :: other, by simpa using hother, hsame.lone⟩
  | case4 written c rest _ hc ih =>
    obtain ⟨other, hother, hsame⟩ := ih
    exact ⟨c :: other, by simpa using hother, hsame.same hc⟩

theorem sameLines_unifyLineEnds (text : String) :
    SameLines text.toList (unifyLineEnds text).toList := by
  obtain ⟨other, hother, hsame⟩ := exists_sameLines [] text.toList
  rw [unifyLineEnds, String.toList_ofList, hother]
  exact hsame

namespace SameLines

variable {text other : List Char}

/-- One of the characters of a line end. -/
def isLineEnd (c : Char) : Bool := c = '\r' || c = '\n'

theorem isLineEnd_iff {c : Char} : isLineEnd c = true ↔ c = '\r' ∨ c = '\n' := by
  simp [isLineEnd]

theorem isLineEnd_eq_false_iff {c : Char} : isLineEnd c = false ↔ c ≠ '\r' ∧ c ≠ '\n' := by
  simp [isLineEnd]

theorem cons_left {c : Char} (hc : isLineEnd c = false) (h : SameLines (c :: text) other) :
    ∃ rest, other = c :: rest ∧ SameLines text rest := by
  cases h with
  | same _ h => exact ⟨_, rfl, h⟩
  | lone h => cases hc
  | pair h => cases hc

/-- A run of characters among which there is no line end is the same in both texts. -/
theorem takeWhile_eq (h : SameLines text other) {p : Char → Bool} (hreturn : p '\r' = false)
    (hfeed : p '\n' = false) :
    text.takeWhile p = other.takeWhile p ∧ SameLines (text.dropWhile p) (other.dropWhile p) := by
  induction h with
  | nil => exact ⟨rfl, .nil⟩
  | @same c text other hc h ih =>
    cases hpc : p c with
    | true => simpa [List.takeWhile_cons, List.dropWhile_cons, hpc] using ih
    | false => simpa [List.takeWhile_cons, List.dropWhile_cons, hpc] using h.same hc
  | lone h => simpa [List.takeWhile_cons, List.dropWhile_cons, hreturn, hfeed] using h.lone
  | pair h => simpa [List.takeWhile_cons, List.dropWhile_cons, hreturn, hfeed] using h.pair

/-- Line ends may be skipped in both texts. -/
theorem dropWhile (h : SameLines text other) {p : Char → Bool} (hreturn : p '\r' = true)
    (hfeed : p '\n' = true) : SameLines (text.dropWhile p) (other.dropWhile p) := by
  induction h with
  | nil => exact .nil
  | @same c text other hc h ih =>
    cases hpc : p c with
    | true => simpa [List.dropWhile_cons, hpc] using ih
    | false => simpa [List.dropWhile_cons, hpc] using h.same hc
  | lone h ih => simpa [List.dropWhile_cons, hreturn, hfeed] using ih
  | pair h ih => simpa [List.dropWhile_cons, hreturn, hfeed] using ih

/-- Either both texts begin with the same `count` characters, or a line end is among these in
both. -/
theorem split (h : SameLines text other) (count : Nat) :
    (text.take count = other.take count ∧ SameLines (text.drop count) (other.drop count)) ∨
      ((∃ c ∈ text.take count, isLineEnd c = true) ∧
        ∃ c ∈ other.take count, isLineEnd c = true) := by
  induction count generalizing text other with
  | zero => exact Or.inl ⟨rfl, h⟩
  | succ count ih =>
    cases h with
    | nil => exact Or.inl ⟨rfl, .nil⟩
    | same _ h =>
      rcases ih h with ⟨htake, hdrop⟩ | ⟨⟨c, hmem, hc⟩, d, hmem', hd⟩
      · exact Or.inl ⟨congrArg (List.cons _) htake, hdrop⟩
      · exact Or.inr ⟨⟨c, List.mem_cons_of_mem _ hmem, hc⟩, d, List.mem_cons_of_mem _ hmem', hd⟩
    | lone h | pair h => exact Or.inr ⟨⟨_, List.mem_cons_self, rfl⟩, _, List.mem_cons_self, rfl⟩

theorem isPrefixOf (h : SameLines text other) {word : List Char}
    (hword : ∀ c ∈ word, isLineEnd c = false) : word.isPrefixOf text = word.isPrefixOf other := by
  rw [Bool.eq_iff_iff, List.isPrefixOf_iff_prefix, List.isPrefixOf_iff_prefix,
    List.prefix_iff_eq_take, List.prefix_iff_eq_take]
  rcases h.split word.length with ⟨htake, _⟩ | ⟨⟨c, hmem, hc⟩, d, hmem', hd⟩
  · rw [htake]
  · refine iff_of_false (fun heq ↦ ?_) fun heq ↦ ?_
    · exact Bool.false_ne_true ((hword c (heq ▸ hmem)).symm.trans hc)
    · exact Bool.false_ne_true ((hword d (heq ▸ hmem')).symm.trans hd)

theorem drop_of_isPrefixOf (h : SameLines text other) {word : List Char}
    (hword : ∀ c ∈ word, isLineEnd c = false) (hstarts : word.isPrefixOf text = true) :
    SameLines (text.drop word.length) (other.drop word.length) := by
  rcases h.split word.length with ⟨_, hdrop⟩ | ⟨⟨c, hmem, hc⟩, _⟩
  · exact hdrop
  · rw [← List.prefix_iff_eq_take.mp (List.isPrefixOf_iff_prefix.mp hstarts)] at hmem
    exact absurd ((hword c hmem).symm.trans hc) Bool.false_ne_true

end SameLines

end Text

namespace Json.Scan

open Text (SameLines)

/-- The same was read from two texts, and what is left of them differs in line ends at most. -/
def SameRead {α : Type} (read other : α × List Char) : Prop :=
  read.1 = other.1 ∧ SameLines read.2 other.2

section Option

variable {α β : Type} {read other : Option (α × List Char)}

theorem rel_map (h : Option.Rel SameRead read other) (f : α → β) :
    Option.Rel SameRead (read.map fun (value, rest) ↦ (f value, rest))
      (other.map fun (value, rest) ↦ (f value, rest)) := by
  cases h with
  | none => exact .none
  | some hread => exact .some ⟨congrArg f hread.1, hread.2⟩

theorem eq_none_of_rel (h : Option.Rel SameRead read other) (hread : read = none) :
    other = none := by
  subst hread
  cases h
  rfl

theorem exists_eq_some_of_rel (h : Option.Rel SameRead read other) {value : α}
    {rest : List Char} (hread : read = some (value, rest)) :
    ∃ after, other = some (value, after) ∧ SameLines rest after := by
  subst hread
  rcases other with _ | ⟨value, after⟩
  · cases h
  · obtain ⟨rfl, hrest⟩ := Option.rel_some_some.mp h
    exact ⟨after, rfl, hrest⟩

end Option

variable {text other : List Char} (h : SameLines text other)
include h

/-! ### Texts -/

omit h in
/-- Only the first four characters decide. -/
theorem hexCode?_eq (text : List Char) : Fragment.Literal.hexCode? text =
    (Fragment.Literal.hexCode? (text.take 4)).map fun read ↦ (read.1, text.drop 4) := by
  rcases text with _ | ⟨a, _ | ⟨b, _ | ⟨c, _ | ⟨d, rest⟩⟩⟩⟩
  case cons.cons.cons.cons =>
    cases ha : Fragment.Literal.hexValue? a <;> cases hb : Fragment.Literal.hexValue? b <;>
      cases hc : Fragment.Literal.hexValue? c <;> cases hd : Fragment.Literal.hexValue? d <;>
        simp [Fragment.Literal.hexCode?, ha, hb, hc, hd]
  all_goals rfl

omit h in
theorem hexCode?_eq_none {text : List Char}
    (h : ∃ c ∈ text.take 4, SameLines.isLineEnd c = true) :
    Fragment.Literal.hexCode? text = none := by
  obtain ⟨c, hmem, hc⟩ := h
  have hvalue : Fragment.Literal.hexValue? c = none := by
    rcases SameLines.isLineEnd_iff.mp hc with rfl | rfl <;> rfl
  rcases text with _ | ⟨first, _ | ⟨second, _ | ⟨third, _ | ⟨fourth, rest⟩⟩⟩⟩
  case cons.cons.cons.cons =>
    simp only [List.take, List.mem_cons, List.not_mem_nil, or_false] at hmem
    rcases hmem with rfl | rfl | rfl | rfl <;> simp [Fragment.Literal.hexCode?, hvalue]
  all_goals rfl

theorem sameRead_hexCode? :
    Option.Rel SameRead (Fragment.Literal.hexCode? text) (Fragment.Literal.hexCode? other) := by
  rcases h.split 4 with ⟨htake, hdrop⟩ | ⟨hleft, hright⟩
  · rw [hexCode?_eq text, hexCode?_eq other, htake]
    cases Fragment.Literal.hexCode? (other.take 4) with
    | none => exact .none
    | some read => exact .some ⟨rfl, hdrop⟩
  · rw [hexCode?_eq_none hleft, hexCode?_eq_none hright]
    exact .none

theorem sameRead_escaped? : Option.Rel SameRead (escaped? text) (escaped? other) := by
  cases h with
  | nil => exact .none
  | @same letter text other _ h =>
    rw [escaped?, escaped?]
    split_ifs
    · exact rel_map (sameRead_hexCode? h) Nat.toUInt16
    · cases shortEscapes.lookup letter with
      | none => exact .none
      | some c => exact .some ⟨rfl, h⟩
  | lone _ | pair _ => exact .none

theorem sameRead_textBody (units : List Text.CodeUnit) :
    Option.Rel SameRead (textBody units text) (textBody units other) := by
  fun_induction textBody units text generalizing other with
  | case1 =>
    cases h
    rw [textBody]
    exact .none
  | case2 units rest =>
    obtain ⟨other, rfl, hrest⟩ := h.cons_left rfl
    rw [textBody, if_pos rfl]
    exact .some ⟨rfl, hrest⟩
  | case3 units rest hread hne =>
    obtain ⟨other, rfl, hrest⟩ := h.cons_left rfl
    have hother := eq_none_of_rel (sameRead_escaped? hrest) hread
    rw [textBody, if_neg hne, if_pos rfl]
    split
    · exact .none
    · next hsome => cases hother.symm.trans hsome
  | case4 units rest unit after hread hne ih =>
    obtain ⟨other, rfl, hrest⟩ := h.cons_left rfl
    obtain ⟨behind, hother, hbehind⟩ := exists_eq_some_of_rel (sameRead_escaped? hrest) hread
    rw [textBody, if_neg hne, if_pos rfl]
    split
    · next hnone => cases hother.symm.trans hnone
    · next hsome =>
      cases hother.symm.trans hsome
      exact ih hbehind
  | case5 units c rest hquote hbackslash hcontrol =>
    cases h with
    | same _ _ =>
      rw [textBody, if_neg hquote, if_neg hbackslash, if_pos hcontrol]
      exact .none
    | lone _ | pair _ =>
      rw [textBody, if_neg (by decide), if_neg (by decide), if_pos (by decide)]
      exact .none
  | case6 units c rest hquote hbackslash hcontrol ih =>
    have hc : SameLines.isLineEnd c = false := SameLines.isLineEnd_eq_false_iff.mpr
      ⟨(by rintro rfl; exact hcontrol (by decide)), (by rintro rfl; exact hcontrol (by decide))⟩
    obtain ⟨other, rfl, hrest⟩ := h.cons_left hc
    rw [textBody, if_neg hquote, if_neg hbackslash, if_neg hcontrol]
    exact ih hrest

/-! ### Numbers -/

theorem sameRead_digits : SameRead (digits text) (digits other) := by
  obtain ⟨htake, hdrop⟩ := h.takeWhile_eq (p := isDigit) rfl rfl
  exact ⟨congrArg (List.filterMap Text.asciiDigitValue?) htake, hdrop⟩

theorem sameRead_wholePart (c : Char) : SameRead (wholePart c text) (wholePart c other) := by
  obtain ⟨hdigits, hrest⟩ := sameRead_digits h
  unfold wholePart
  split_ifs
  · exact ⟨rfl, h⟩
  · exact ⟨congrArg ((Text.asciiDigitValue? c).toList ++ ·) hdigits, hrest⟩

theorem sameRead_splitSign : SameRead (Text.splitSign text) (Text.splitSign other) := by
  cases h with
  | nil => exact ⟨rfl, .nil⟩
  | @same c text other hc h =>
    by_cases hminus : c = '-'
    · subst hminus
      exact ⟨rfl, h⟩
    by_cases hplus : c = '+'
    · subst hplus
      exact ⟨rfl, h⟩
    rw [Text.splitSign_cons_of_ne hminus hplus, Text.splitSign_cons_of_ne hminus hplus]
    exact ⟨rfl, h.same hc⟩
  | lone h => exact ⟨rfl, h.lone⟩
  | pair h => exact ⟨rfl, h.pair⟩

theorem sameRead_places : SameRead (places text) (places other) := by
  cases h with
  | nil => exact ⟨rfl, .nil⟩
  | @same c text other hc h =>
    by_cases hpoint : c = '.'
    · subst hpoint
      obtain ⟨hdigits, hrest⟩ := sameRead_digits h
      simp only [places, hdigits]
      split_ifs
      · exact ⟨rfl, h.same hc⟩
      · exact ⟨hdigits, hrest⟩
    · have hnone (rest : List Char) : places (c :: rest) = ([], c :: rest) := by
        unfold places
        split <;> simp_all
      rw [hnone, hnone]
      exact ⟨rfl, h.same hc⟩
  | lone h => exact ⟨rfl, h.lone⟩
  | pair h => exact ⟨rfl, h.pair⟩

theorem sameRead_power? : SameRead (power? text) (power? other) := by
  cases h with
  | nil => exact ⟨rfl, .nil⟩
  | @same mark text other hc h =>
    obtain ⟨hsign, hbody⟩ := sameRead_splitSign h
    obtain ⟨hdigits, hrest⟩ := sameRead_digits hbody
    simp only [power?, hsign, hdigits]
    split_ifs
    · exact ⟨rfl, hrest⟩
    · exact ⟨rfl, hrest⟩
    · exact ⟨rfl, h.same hc⟩
  | lone h => exact ⟨rfl, h.lone⟩
  | pair h => exact ⟨rfl, h.pair⟩

theorem sameRead_number (negative : Bool) (c : Char) :
    SameRead (number negative c text) (number negative c other) := by
  obtain ⟨hwhole, hbehindWhole⟩ := sameRead_wholePart h c
  obtain ⟨hplaces, hbehindPlaces⟩ := sameRead_places hbehindWhole
  obtain ⟨hpower, hrest⟩ := sameRead_power? hbehindPlaces
  simp only [number, hwhole, hplaces, hpower]
  split_ifs
  · exact ⟨rfl, hrest⟩
  · exact ⟨rfl, hrest⟩

/-! ### Tokens -/

omit h in
theorem not_isLineEnd_of_mem_words {word : List Char × Value} (hword : word ∈ words) :
    word.1 ≠ [] ∧ ∀ c ∈ word.1, SameLines.isLineEnd c = false := by
  simp only [words, List.mem_cons, List.not_mem_nil, or_false] at hword
  rcases hword with rfl | rfl | rfl | rfl | rfl | rfl <;> simp [SameLines.isLineEnd]

theorem sameRead_next {c : Char} (hc : isBlank c = false) :
    SameRead (next c text) (next c other) := by
  have hboth : SameLines (c :: text) (c :: other) := h.same (by rintro rfl; cases hc)
  unfold next
  split
  · exact ⟨rfl, h⟩
  by_cases hquote : c = '"'
  · rw [if_pos hquote, if_pos hquote]
    have hbody := sameRead_textBody h []
    generalize textBody [] text = read, textBody [] other = read' at hbody
    cases hbody with
    | none => exact ⟨rfl, h⟩
    | some hread => exact ⟨congrArg Token.text hread.1, hread.2⟩
  rw [if_neg hquote, if_neg hquote,
    List.find?_congr fun word hword ↦ hboth.isPrefixOf (not_isLineEnd_of_mem_words hword).2]
  cases hfind : words.find? (fun word ↦ word.1.isPrefixOf (c :: other)) with
  | some found =>
    obtain ⟨hne, hword⟩ := not_isLineEnd_of_mem_words (List.mem_of_find?_eq_some hfind)
    have hstarts := List.find?_some hfind
    have hdrop := hboth.drop_of_isPrefixOf hword ((hboth.isPrefixOf hword).trans hstarts)
    rw [List.drop_cons (List.length_pos_iff.mpr hne), List.drop_cons (List.length_pos_iff.mpr hne)]
      at hdrop
    exact ⟨rfl, hdrop⟩
  | none =>
    have hunsigned : SameRead (if isDigit c then number false c text else (.malformed, text))
        (if isDigit c then number false c other else (.malformed, other)) := by
      split_ifs
      · exact sameRead_number h false c
      · exact ⟨rfl, h⟩
    have hreturn : isDigit '\r' = false := rfl
    have hfeed : isDigit '\n' = false := rfl
    cases h with
    | nil => exact hunsigned
    | @same digit text other hdigit h =>
      dsimp only
      split_ifs with hsigned
      · exact sameRead_number h true digit
      · exact sameRead_number (h.same hdigit) false c
      · exact ⟨rfl, h.same hdigit⟩
    | lone h | pair h => simpa [hreturn, hfeed] using hunsigned

omit h in
theorem tokens_of_skipped_nil {text : List Char} (h : text.dropWhile isBlank = []) :
    tokens text = [] := by
  rw [tokens]
  split <;> simp_all

omit h in
theorem tokens_of_skipped_cons {text rest : List Char} {c : Char}
    (h : text.dropWhile isBlank = c :: rest) : tokens text =
      (next c rest).1 :: if (next c rest).1.isMalformed then [] else tokens (next c rest).2 := by
  rw [tokens]
  split <;> simp_all

theorem tokens_eq_of_sameLines : tokens text = tokens other := by
  fun_induction tokens text generalizing other with
  | case1 text hskipped =>
    have hblanks := h.dropWhile (p := isBlank) rfl rfl
    rw [hskipped] at hblanks
    generalize hother : other.dropWhile isBlank = skipped at hblanks
    cases hblanks
    exact (tokens_of_skipped_nil hother).symm
  | case2 text c rest hskipped ih =>
    have hblanks := h.dropWhile (p := isBlank) rfl rfl
    rw [hskipped] at hblanks
    have hc : isBlank c = false := by
      have hhead := List.head?_dropWhile_not isBlank text
      rwa [hskipped] at hhead
    have hend : SameLines.isLineEnd c = false :=
      SameLines.isLineEnd_eq_false_iff.mpr ⟨(by rintro rfl; cases hc), (by rintro rfl; cases hc)⟩
    obtain ⟨other, hother, hrest⟩ := hblanks.cons_left hend
    obtain ⟨htoken, hafter⟩ := sameRead_next hrest hc
    rw [tokens_of_skipped_cons hother, htoken]
    split_ifs with hmalformed
    · rfl
    · rw [ih hafter]

end Json.Scan

/-- Line ends make no difference to the value of a document. -/
theorem Json.read_unifyLineEnds (document : String) :
    Json.read (Text.unifyLineEnds document) = Json.read document := by
  rw [read, read, Scan.tokens_eq_of_sameLines (Text.sameLines_unifyLineEnds document)]

end DeskAssistant
