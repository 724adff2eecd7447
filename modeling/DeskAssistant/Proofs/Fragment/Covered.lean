import DeskAssistant.Proofs.Fragment.Quote

/-!
# Brackets outside literals

What the scan for a closing bracket finds in a text of any kind. The literals of the text are those
that `Literal.readAt` reads from left to right, and `uncovered` lists the characters between them.
The bracket that is found is the first one up to which the list has as many closing brackets as
opening ones (`isFirst_closingFrom`): the depth at which the scan stands is their difference, and
it leaves a literal where the reading of the literal ends.
-/

set_option autoImplicit false
set_option relaxedAutoImplicit false

namespace DeskAssistant.Fragment

/-! ### Characters between literals -/

theorem lt_of_readAt {text value : List Char} {index behind : Nat}
    (hquote : text[index]? = some '"')
    (hread : Literal.readAt text index = some (value, behind)) : index + 1 < behind := by
  have hend := map_snd_readAt hquote
  rw [hread, Option.map_some] at hend
  obtain ⟨more, -, hmore⟩ := Option.map_eq_some_iff.mp hend.symm
  dsimp only at hmore
  omega

/-- The characters of a text from an index on that stand in no string literal, with their indices.
Literals are read from left to right; one that is not closed covers all that follows. -/
def uncovered (text : List Char) (index : Nat) : List (Nat × Char) :=
  match _found : text[index]? with
  | none => []
  | some c =>
    if _quote : c = '"' then
      match _read : Literal.readAt text index with
      | none => []
      | some (_, behind) => uncovered text behind
    else (index, c) :: uncovered text (index + 1)
  termination_by text.length - index
  decreasing_by
    · have hlength := (List.getElem?_eq_some_iff.mp _found).1
      have hbehind := lt_of_readAt (_quote ▸ _found) _read
      omega
    · have hlength := (List.getElem?_eq_some_iff.mp _found).1
      omega

theorem le_of_mem_uncovered {text : List Char} {index : Nat} {place : Nat × Char}
    (h : place ∈ uncovered text index) : index ≤ place.1 := by
  fun_induction uncovered text index with
  | case1 => cases h
  | case2 => cases h
  | case3 index value behind hread hfound ih =>
    have hlt := lt_of_readAt hfound hread
    have hle := ih h
    omega
  | case4 index c hfound hquote ih =>
    rcases List.mem_cons.mp h with rfl | hmem
    · exact Nat.le_refl _
    · have hle := ih hmem
      omega

theorem uncovered_eq_cons {text : List Char} {index : Nat} {c : Char}
    (hfound : text[index]? = some c) (hquote : c ≠ '"') :
    uncovered text index = (index, c) :: uncovered text (index + 1) := by
  rw [uncovered]
  split
  · rename_i hnone
    cases hfound.symm.trans hnone
  · rename_i other hother
    obtain rfl : c = other := Option.some.inj (hfound.symm.trans hother)
    rw [dif_neg hquote]

/-- How often a character stands at the places up to an index. -/
def occurrences (c : Char) (last : Nat) (places : List (Nat × Char)) : Nat :=
  places.countP fun place ↦ place.1 ≤ last ∧ place.2 = c

theorem occurrences_cons (c other : Char) (last index : Nat) (places : List (Nat × Char)) :
    occurrences c last ((index, other) :: places) =
      occurrences c last places + if index ≤ last ∧ other = c then 1 else 0 := by
  simp only [occurrences, List.countP_cons, decide_eq_true_eq]

theorem occurrences_eq_zero {c : Char} {last : Nat} {places : List (Nat × Char)}
    (h : ∀ place ∈ places, last < place.1) : occurrences c last places = 0 := by
  refine List.countP_eq_zero.mpr fun place hplace ↦ ?_
  have hlt := h place hplace
  simp only [decide_eq_true_eq]
  omega

/-! ### Depth -/

/-- From a depth on, the places up to an index have as many closing brackets as opening ones and
the depth together. -/
def IsLevel (opening closing : Char) (depth : Int) (places : List (Nat × Char)) (last : Nat) :
    Prop :=
  depth + occurrences opening last places = occurrences closing last places

variable {opening closing : Char} {depth : Int} {index : Nat} {places : List (Nat × Char)}

theorem not_isLevel_of_lt (hdepth : 1 ≤ depth) {last : Nat}
    (h : ∀ place ∈ places, last < place.1) : ¬ IsLevel opening closing depth places last := by
  unfold IsLevel
  rw [occurrences_eq_zero h, occurrences_eq_zero h]
  omega

theorem forall_lt_cons {last : Nat} (hplaces : ∀ place ∈ places, index < place.1)
    (hlast : last < index) (c : Char) : ∀ place ∈ (index, c) :: places, last < place.1 := by
  intro place hplace
  rcases List.mem_cons.mp hplace with rfl | hmem
  · exact hlast
  · exact Nat.lt_trans hlast (hplaces place hmem)

/-- A character changes the depth for what follows it. -/
theorem isLevel_cons_iff (hplaces : ∀ place ∈ places, index < place.1) {c : Char} {next : Int}
    (hdepth : 1 ≤ depth) (hnext : 1 ≤ next)
    (hstep : depth + (if c = opening then 1 else 0 : Nat) =
      next + (if c = closing then 1 else 0 : Nat)) (last : Nat) :
    IsLevel opening closing depth ((index, c) :: places) last ↔
      IsLevel opening closing next places last := by
  by_cases hlast : index ≤ last
  · simp only [IsLevel, occurrences_cons, hlast, true_and]
    constructor <;> intro h <;> omega
  · have hlt := Nat.lt_of_not_le hlast
    refine iff_of_false (not_isLevel_of_lt hdepth (forall_lt_cons hplaces hlt c))
      (not_isLevel_of_lt hnext fun place hplace ↦ ?_)
    exact Nat.lt_trans hlt (hplaces place hplace)

/-- At depth one a closing bracket is the first place where the brackets are level. -/
theorem isLeast_isLevel (hplaces : ∀ place ∈ places, index < place.1) (hne : opening ≠ closing) :
    IsLeast {last | IsLevel opening closing 1 ((index, closing) :: places) last} index := by
  constructor
  · have hnone (c : Char) : occurrences c index places = 0 := occurrences_eq_zero hplaces
    have hlevel : IsLevel opening closing 1 ((index, closing) :: places) index := by
      simp [IsLevel, occurrences_cons, hnone, hne.symm]
    exact hlevel
  · intro last hlevel
    by_contra hlast
    exact not_isLevel_of_lt (Int.le_refl 1)
      (forall_lt_cons hplaces (Nat.lt_of_not_le hlast) closing) hlevel

/-! ### The scan -/

theorem closingFrom_plain_quote (depth : Int) (offset : Nat) (rest : List Char) :
    Bracket.closingFrom opening closing .plain depth offset ('"' :: rest) =
      Bracket.closingFrom opening closing .quoted depth (offset + 1) rest := rfl

/-- The scan finds the first index up to which the brackets outside literals are level. -/
theorem isFirst_closingFrom (hne : opening ≠ closing) (hdepth : 1 ≤ depth) (text : List Char)
    (index : Nat) :
    IsFirst (IsLevel opening closing depth (uncovered text index))
      (Bracket.closingFrom opening closing .plain depth index (text.drop index)) := by
  fun_induction uncovered text index generalizing depth with
  | case1 index hfound =>
    rw [List.drop_eq_nil_of_le (List.getElem?_eq_none_iff.mp hfound)]
    exact fun _ ↦ not_isLevel_of_lt hdepth (List.forall_mem_nil _)
  | case2 index hread hfound =>
    have hend := map_snd_readAt hfound
    rw [hread, Option.map_none, eq_comm, Option.map_eq_none_iff] at hend
    rw [drop_eq_cons_of_getElem? hfound, closingFrom_plain_quote, closingFrom_quoted, hend]
    exact fun _ ↦ not_isLevel_of_lt hdepth (List.forall_mem_nil _)
  | case3 index value behind hread hfound ih =>
    have hend := map_snd_readAt hfound
    rw [hread, Option.map_some] at hend
    obtain ⟨more, hmore, hbehind⟩ := Option.map_eq_some_iff.mp hend.symm
    rw [drop_eq_cons_of_getElem? hfound, closingFrom_plain_quote, closingFrom_quoted, hmore,
      Option.bind_some, List.drop_drop, hbehind]
    exact ih hdepth
  | case4 index c hfound hquote ih =>
    have hplaces : ∀ place ∈ uncovered text (index + 1), index < place.1 :=
      fun _ hplace ↦ le_of_mem_uncovered hplace
    rw [drop_eq_cons_of_getElem? hfound, Bracket.closingFrom]
    simp only [if_neg hquote]
    by_cases hopening : c = opening
    · have hdeeper : 1 ≤ depth + 1 := by omega
      rw [if_pos hopening]
      exact (ih hdeeper).congr
        (isLevel_cons_iff hplaces hdepth hdeeper (by simp [hopening, hne]))
    · rw [if_neg hopening]
      by_cases hclosing : c = closing
      · rw [if_pos hclosing]
        by_cases hone : depth = 1
        · rw [if_pos hone, hone, hclosing]
          exact isLeast_isLevel hplaces hne
        · have hnext : 1 ≤ depth - 1 := by omega
          rw [if_neg hone]
          exact (ih hnext).congr
            (isLevel_cons_iff hplaces hdepth hnext (by simp [hclosing, hne.symm]))
      · rw [if_neg hclosing]
        exact (ih hdepth).congr
          (isLevel_cons_iff hplaces hdepth hdepth (by simp [hopening, hclosing]))

theorem closingFrom_add (mode : Bracket.Mode) (depth : Int) (base offset : Nat)
    (text : List Char) :
    Bracket.closingFrom opening closing mode depth (base + offset) text =
      (Bracket.closingFrom opening closing mode depth offset text).map (base + ·) := by
  induction text generalizing mode depth offset with
  | nil => rfl
  | cons c rest ih =>
    have hnext (mode : Bracket.Mode) (depth : Int) :
        Bracket.closingFrom opening closing mode depth (base + offset + 1) rest =
          (Bracket.closingFrom opening closing mode depth (offset + 1) rest).map (base + ·) :=
      ih mode depth (offset + 1)
    cases mode with
    | escaped => exact hnext .quoted depth
    | quoted => exact hnext _ depth
    | plain =>
      simp only [Bracket.closingFrom, hnext]
      split_ifs <;> rfl

/-! ### The closing bracket -/

/-- From `start` through `last` as many closing brackets as opening ones stand outside literals. -/
structure IsLevelIn (opening closing : Char) (text : List Char) (start last : Nat) : Prop where
  behind : start ≤ last
  level : occurrences opening last (uncovered text start) =
    occurrences closing last (uncovered text start)

theorem isLevelIn_iff (hne : opening ≠ closing) (hquote : opening ≠ '"') {text : List Char}
    {start : Nat} (hstart : text[start]? = some opening) (last : Nat) :
    IsLevelIn opening closing text start last ↔
      IsLevel opening closing 1 (uncovered text (start + 1)) last := by
  have hplaces : ∀ place ∈ uncovered text (start + 1), start < place.1 :=
    fun _ hplace ↦ le_of_mem_uncovered hplace
  have hcons := uncovered_eq_cons hstart hquote
  by_cases hlast : start ≤ last
  · have hopening : occurrences opening last (uncovered text start) =
        occurrences opening last (uncovered text (start + 1)) + 1 := by
      rw [hcons, occurrences_cons, if_pos ⟨hlast, rfl⟩]
    have hclosing : occurrences closing last (uncovered text start) =
        occurrences closing last (uncovered text (start + 1)) := by
      rw [hcons, occurrences_cons, if_neg fun h ↦ hne h.2, Nat.add_zero]
    constructor
    · rintro ⟨-, hlevel⟩
      unfold IsLevel
      omega
    · intro hlevel
      unfold IsLevel at hlevel
      exact ⟨hlast, by omega⟩
  · have hlt := Nat.lt_of_not_le hlast
    refine iff_of_false (fun h ↦ hlast h.behind) (not_isLevel_of_lt (Int.le_refl 1) ?_)
    exact fun place hplace ↦ Nat.lt_trans hlt (hplaces place hplace)

/-- The bracket that closes the one at `start` is the first one up to which they are level. -/
theorem isFirst_closingIndex? (hne : opening ≠ closing) (hquote : opening ≠ '"')
    {text : List Char} {start : Nat} (hstart : text[start]? = some opening) :
    IsFirst (IsLevelIn opening closing text start)
      (Bracket.closingIndex? opening closing text start) := by
  have hscan : Bracket.closingIndex? opening closing text start =
      Bracket.closingFrom opening closing .plain 1 (start + 1) (text.drop (start + 1)) := by
    rw [Bracket.closingIndex?, drop_eq_cons_of_getElem? hstart, Bracket.closing?]
    simp only [if_true]
    rw [← closingFrom_add, Bracket.closingFrom]
    simp only [if_neg hquote, if_true]
    rfl
  rw [hscan]
  exact (isFirst_closingFrom hne (Int.le_refl 1) text (start + 1)).congr
    (isLevelIn_iff hne hquote hstart)

/-- What the two scanners find in a text of any kind. -/
structure ScansAlike (text : List Char) : Prop where
  /-- A literal ends behind the first quote with an even number of backslashes in front of it. -/
  literal : ∀ start, text[start]? = some '"' →
    (∀ behind, (∃ value, Literal.readAt text start = some (value, behind)) ↔
      IsLeast {index | IsEndIn text start index} (behind - 1)) ∧
    (Literal.readAt text start = none ↔ ∀ index, ¬ IsEndIn text start index)
  /-- A bracket is closed by the first one up to which the brackets outside literals are level. -/
  bracket : ∀ start opening closing, opening ≠ closing → opening ≠ '"' →
    text[start]? = some opening →
      (∀ last, Bracket.closingIndex? opening closing text start = some last ↔
        IsLeast {last | IsLevelIn opening closing text start last} last) ∧
      (Bracket.closingIndex? opening closing text start = none ↔
        ∀ last, ¬ IsLevelIn opening closing text start last)

theorem exists_readAt_iff {text : List Char} {start : Nat} (h : text[start]? = some '"')
    (behind : Nat) :
    (∃ value, Literal.readAt text start = some (value, behind)) ↔
      IsLeast {index | IsEndIn text start index} (behind - 1) := by
  rw [← (isFirst_readAt h).eq_some_iff]
  constructor
  · rintro ⟨value, hread⟩
    rw [hread]
    rfl
  · intro hend
    obtain ⟨⟨value, other⟩, hread, hother⟩ := Option.map_eq_some_iff.mp hend
    dsimp only at hother
    have hlt := lt_of_readAt h hread
    have hsame : other = behind := by omega
    exact ⟨value, hsame ▸ hread⟩

/-- The literals that are passed in search of a bracket are those that are read. -/
theorem scansAlike (text : List Char) : ScansAlike text where
  literal := by
    intro start hquote
    refine ⟨exists_readAt_iff hquote, ?_⟩
    rw [← (isFirst_readAt hquote).eq_none_iff, Option.map_eq_none_iff]
  bracket := by
    intro start opening closing hne hquote hstart
    have hfirst := isFirst_closingIndex? hne hquote hstart
    exact ⟨hfirst.eq_some_iff, hfirst.eq_none_iff⟩

/-- A literal with a row of three backslashes, a bracket and a code that is cut short, between
brackets, and a quote that opens a literal without end. -/
def rowOfThree : List Char := "[\"\\\\\\\"]\\u12\", []] \"]".toList

/-- The literal at the index 1 ends at the index 11, the bracket at 0 is closed at 16, and the
literal at 18 is not closed. -/
theorem scansAlike_rowOfThree :
    IsLeast {index | IsEndIn rowOfThree 1 index} 11 ∧
      IsLeast {last | IsLevelIn '[' ']' rowOfThree 0 last} 16 ∧
      ∀ index, ¬ IsEndIn rowOfThree 18 index := by
  have hscans := scansAlike rowOfThree
  have hread : Literal.readAt rowOfThree 1 = some ("\\\"]?12".toList, 12) := by decide +kernel
  have hclosing : Bracket.closingIndex? '[' ']' rowOfThree 0 = some 16 := by decide +kernel
  have hopen : Literal.readAt rowOfThree 18 = none := by decide +kernel
  exact ⟨((hscans.literal 1 rfl).1 12).mp ⟨_, hread⟩,
    ((hscans.bracket 0 '[' ']' (by decide) (by decide) rfl).1 16).mp hclosing,
    (hscans.literal 18 rfl).2.mp hopen⟩

end DeskAssistant.Fragment
