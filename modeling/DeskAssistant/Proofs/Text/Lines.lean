import DeskAssistant.Text.Line
import Mathlib.Data.List.DropRight
import Mathlib.Tactic.Common

/-!
# The last lines of a text

A text is its lines one after another, each with the line feed at its end (`flatten_lines`), and
only these pieces of it are lines (`areLines_iff`). `Text.lastLines` counts line feeds and never
forms a line; `lines_dropLines` and `lines_lastLines` say that it keeps whole lines nevertheless. A
text that is open at its end has one line more than line feeds (`length_lines_eq`), and one line
more is kept of it. Of a text that ends in a line feed the last lines are kept
(`lastLines_eq_flatten_rtake`).

What it keeps does not depend on what stands in front of the line feed before it
(`lastLines_append`), so that it is the same for a text whose beginning was cut off, as long as
that line feed was not (`lastLines_capTail`).
-/

set_option autoImplicit false
set_option relaxedAutoImplicit false

namespace DeskAssistant.Text

/-! ### Lines -/

/-- The lines of a text, each with the line feed at its end. What is left behind the last line feed
is a line without one. -/
def lines : List Char → List (List Char)
  | [] => []
  | c :: rest =>
    if c = '\n' then [c] :: lines rest
    else
      match lines rest with
      | [] => [[c]]
      | line :: more => (c :: line) :: more

/-- The text ends in a line feed. -/
def IsTerminated (text : List Char) : Prop := text.getLast? = some '\n'

/-- The pieces are the lines of the text: runs without a line feed, each with the line feed behind
it, and what is left behind the last line feed, if anything is. -/
inductive AreLines : List (List Char) → List Char → Prop where
  | nil : AreLines [] []
  | last {body : List Char} (hbody : '\n' ∉ body) (hne : body ≠ []) : AreLines [body] body
  | cons {body : List Char} (hbody : '\n' ∉ body) {pieces : List (List Char)} {rest : List Char}
      (hrest : AreLines pieces rest) :
      AreLines ((body ++ ['\n']) :: pieces) (body ++ '\n' :: rest)

theorem lines_append {body : List Char} (hbody : '\n' ∉ body) (rest : List Char) :
    lines (body ++ '\n' :: rest) = (body ++ ['\n']) :: lines rest := by
  induction body with
  | nil => simp [lines]
  | cons c body ih =>
    obtain ⟨hc, hbody⟩ := not_or.mp (mt List.mem_cons.mpr hbody)
    rw [List.cons_append, lines, if_neg (Ne.symm hc), ih hbody]
    rfl

theorem lines_of_not_mem {body : List Char} (hbody : '\n' ∉ body) (hne : body ≠ []) :
    lines body = [body] := by
  induction body with
  | nil => exact absurd rfl hne
  | cons c body ih =>
    obtain ⟨hc, hbody⟩ := not_or.mp (mt List.mem_cons.mpr hbody)
    rw [lines, if_neg (Ne.symm hc)]
    cases body with
    | nil => rfl
    | cons d body => rw [ih hbody (List.cons_ne_nil _ _)]

theorem areLines_lines (text : List Char) : AreLines (lines text) text := by
  induction text with
  | nil => exact .nil
  | cons c rest ih =>
    unfold lines
    split_ifs with hfeed
    · subst hfeed
      exact .cons List.not_mem_nil ih
    · have hcons {body : List Char} (hbody : '\n' ∉ body) : '\n' ∉ c :: body :=
        fun hmem ↦ (List.mem_cons.mp hmem).elim (Ne.symm hfeed) hbody
      generalize lines rest = pieces at ih
      cases ih with
      | nil => exact .last (hcons List.not_mem_nil) (List.cons_ne_nil _ _)
      | last hbody hne => exact .last (hcons hbody) (List.cons_ne_nil _ _)
      | cons hbody hrest => exact .cons (hcons hbody) hrest

/-- Every text has exactly one list of lines. -/
theorem areLines_iff {pieces : List (List Char)} {text : List Char} :
    AreLines pieces text ↔ pieces = lines text := by
  constructor
  · intro h
    induction h with
    | nil => rfl
    | last hbody hne => exact (lines_of_not_mem hbody hne).symm
    | cons hbody hrest ih => rw [lines_append hbody, ih]
  · rintro rfl
    exact areLines_lines text

theorem AreLines.flatten_eq {pieces : List (List Char)} {text : List Char}
    (h : AreLines pieces text) : pieces.flatten = text := by
  induction h with
  | nil => rfl
  | last hbody hne => simp
  | cons hbody hrest ih => simp [ih]

theorem flatten_lines (text : List Char) : (lines text).flatten = text :=
  (areLines_lines text).flatten_eq

theorem lineFeeds_append (front behind : List Char) :
    lineFeeds (front ++ behind) = lineFeeds front + lineFeeds behind :=
  List.countP_append

/-- Something stands behind the last line feed of the text. -/
def IsOpen (text : List Char) : Prop := text ≠ [] ∧ ¬ IsTerminated text

instance (text : List Char) : Decidable (IsTerminated text) := inferInstanceAs (Decidable (_ = _))

instance (text : List Char) : Decidable (IsOpen text) := inferInstanceAs (Decidable (_ ∧ _))

/-- The number of lines that no line feed ends. -/
def openLines (text : List Char) : Nat := if IsOpen text then 1 else 0

theorem isOpen_of_not_mem {body : List Char} (hbody : '\n' ∉ body) (hne : body ≠ []) :
    IsOpen body :=
  ⟨hne, fun hlast ↦ hbody (List.mem_of_getLast? hlast)⟩

theorem isOpen_append_iff (body rest : List Char) :
    IsOpen (body ++ '\n' :: rest) ↔ IsOpen rest := by
  cases rest with
  | nil => simp [IsOpen, IsTerminated]
  | cons c rest => simp [IsOpen, IsTerminated, List.getLast?_append]

/-- A line that no line feed ends is not counted by the line feeds. -/
theorem AreLines.length_eq {pieces : List (List Char)} {text : List Char}
    (h : AreLines pieces text) : pieces.length = lineFeeds text + openLines text := by
  induction h with
  | nil => rfl
  | last hbody hne =>
    have hnone : lineFeeds _ = 0 := List.count_eq_zero_of_not_mem hbody
    rw [hnone, openLines, if_pos (isOpen_of_not_mem hbody hne)]
    rfl
  | @cons body hbody pieces rest hrest ih =>
    have hnone : lineFeeds body = 0 := List.count_eq_zero_of_not_mem hbody
    have hfeed : lineFeeds ('\n' :: rest) = lineFeeds rest + 1 := List.countP_cons_of_pos rfl
    have hopen : openLines (body ++ '\n' :: rest) = openLines rest := by
      simp only [openLines, isOpen_append_iff]
    rw [List.length_cons, ih, lineFeeds_append, hnone, hfeed, hopen]
    omega

theorem length_lines_eq (text : List Char) :
    (lines text).length = lineFeeds text + openLines text :=
  (areLines_lines text).length_eq

theorem length_lines {text : List Char} (h : IsTerminated text) :
    (lines text).length = lineFeeds text := by
  have hopen : ¬ IsOpen text := fun hopen ↦ hopen.2 h
  rw [length_lines_eq, openLines, if_neg hopen, Nat.add_zero]

/-! ### The last lines -/

theorem lines_dropLines (count : Nat) (text : List Char) :
    lines (dropLines count text) = (lines text).drop count := by
  induction text generalizing count with
  | nil => cases count <;> rfl
  | cons c rest ih =>
    cases count with
    | zero => rfl
    | succ count =>
      by_cases hfeed : c = '\n'
      · simp only [dropLines, lines, if_pos hfeed, ih count, List.drop_succ_cons]
      · simp only [dropLines, lines, if_neg hfeed, ih (count + 1)]
        cases lines rest with
        | nil => simp
        | cons line more => rfl

theorem dropLines_eq_flatten_drop (count : Nat) (text : List Char) :
    dropLines count text = ((lines text).drop count).flatten := by
  rw [← lines_dropLines, flatten_lines]

/-- A text that is open at its end keeps one line more than asked for. -/
theorem lines_lastLines (text : List Char) (count : Nat) :
    lines (lastLines text count) = (lines text).rtake (count + openLines text) := by
  rw [lastLines, lines_dropLines, List.rtake, length_lines_eq, Nat.add_sub_add_right]

theorem lines_flatten_rtake (text : List Char) (count : Nat) :
    lines ((lines text).rtake count).flatten = (lines text).rtake count := by
  rw [List.rtake, ← dropLines_eq_flatten_drop, lines_dropLines]

theorem lastLines_eq_flatten_rtake {text : List Char} (h : IsTerminated text) (count : Nat) :
    lastLines text count = ((lines text).rtake count).flatten := by
  rw [lastLines, dropLines_eq_flatten_drop, List.rtake, length_lines h]

theorem lastLines_of_le {text : List Char} {count : Nat} (h : lineFeeds text ≤ count) :
    lastLines text count = text := by
  rw [lastLines, Nat.sub_eq_zero_of_le h, dropLines]

theorem dropLines_append (front behind : List Char) :
    dropLines (lineFeeds front + 1) (front ++ '\n' :: behind) = behind := by
  induction front with
  | nil => simp [lineFeeds, dropLines]
  | cons c front ih =>
    by_cases hfeed : c = '\n'
    · subst hfeed
      simpa [lineFeeds, dropLines] using ih
    · simpa [lineFeeds, dropLines, hfeed] using ih

/-- The text behind a line feed is kept, whatever stands in front of it. -/
theorem lastLines_append (front behind : List Char) :
    lastLines (front ++ '\n' :: behind) (lineFeeds behind) = behind := by
  have hfeeds : lineFeeds (front ++ '\n' :: behind) - lineFeeds behind = lineFeeds front + 1 := by
    have hfeed : lineFeeds ('\n' :: behind) = lineFeeds behind + 1 := List.countP_cons_of_pos rfl
    rw [lineFeeds_append, hfeed]
    omega
  rw [lastLines, hfeeds, dropLines_append]

theorem exists_append_of_lt {text : List Char} {count : Nat} (h : count < lineFeeds text) :
    ∃ front behind, text = front ++ '\n' :: behind ∧ lineFeeds behind = count := by
  induction text with
  | nil => cases h
  | cons c rest ih =>
    have hcons : lineFeeds (c :: rest) = lineFeeds rest + if c = '\n' then 1 else 0 := by
      simp [lineFeeds, List.countP_cons]
    by_cases hrest : count < lineFeeds rest
    · obtain ⟨front, behind, rfl, hbehind⟩ := ih hrest
      exact ⟨c :: front, behind, rfl, hbehind⟩
    · -- The first character is then the line feed that is looked for.
      have hfeed : c = '\n' := by
        by_contra hne
        rw [if_neg hne] at hcons
        omega
      rw [if_pos hfeed] at hcons
      exact ⟨[], rest, by rw [hfeed]; rfl, by omega⟩

/-- The last lines of a text end as the text does. -/
theorem isTerminated_lastLines {text : List Char} (h : IsTerminated text) {count : Nat}
    (hcount : 0 < count) : IsTerminated (lastLines text count) := by
  by_cases hmore : count < lineFeeds text
  · obtain ⟨front, behind, rfl, rfl⟩ := exists_append_of_lt hmore
    rw [lastLines_append]
    cases behind with
    | nil => cases hcount
    | cons c behind => simpa [IsTerminated, List.getLast?_append] using h
  · rwa [lastLines_of_le (Nat.le_of_not_lt hmore)]

/-- A text of which only the end is left still has its last lines, with the line feed in front of
them. -/
theorem lastLines_capTail {text : String} {limit count : Nat}
    (hshort : (lastLines text.toList count).length < limit) :
    lastLines (capTail text limit).toList count = lastLines text.toList count := by
  unfold capTail
  split_ifs with hlength
  · rfl
  · have hmore : count < lineFeeds text.toList := by
      by_contra hfew
      rw [lastLines_of_le (Nat.le_of_not_lt hfew), String.length_toList] at hshort
      omega
    obtain ⟨front, behind, htext, rfl⟩ := exists_append_of_lt hmore
    rw [htext, lastLines_append] at hshort ⊢
    have hcut : tailPart (front ++ '\n' :: behind) limit =
        front.drop ((front ++ '\n' :: behind).length - limit) ++ '\n' :: behind := by
      rw [tailPart, if_pos (by omega), Int.toNat_natCast, List.drop_append_of_le_length]
      simp only [List.length_append, List.length_cons]
      omega
    rw [String.toList_append, String.toList_ofList, hcut, ← List.append_assoc, lastLines_append]

end DeskAssistant.Text
