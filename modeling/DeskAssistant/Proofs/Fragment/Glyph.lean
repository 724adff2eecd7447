import DeskAssistant.Proofs.Fragment.Scan

/-!
# Characters of a literal

A string literal read as the characters of its string. A `Glyph` is a character with the pieces that
write it: itself, a short escape, its code, or the codes of its two surrogates. Every literal that
means a string is a row of glyphs of its characters (`exists_glyphs`), and reading shows each of
them as it is or as one question mark for each code above U+00FF (`Glyph.decoded_pieces`). In a text
of any kind, what is read is shorter than the literal and the literal lies in the text
(`within_readAt`).
-/

set_option autoImplicit false
set_option relaxedAutoImplicit false

namespace DeskAssistant.Fragment

open Json.Document

/-! ### Glyphs -/

/-- The pieces write the character. -/
inductive IsWrittenBy (c : Char) : Spelling → Prop
  | plain (hcontrol : 0x20 ≤ c.toNat) (hquote : c ≠ '"') (hbackslash : c ≠ '\\') :
    IsWrittenBy c [.plain c hcontrol hquote hbackslash]
  | short (letter : Char) (hescape : (letter, c) ∈ Json.Scan.shortEscapes) :
    IsWrittenBy c [.short letter c hescape]
  | code (first second third fourth : HexDigit)
    (hcode : Piece.codeOf first second third fourth = c.toNat) :
    IsWrittenBy c [.code first second third fourth]
  | pair (first second third fourth fifth sixth seventh eighth : HexDigit)
    (hhigh : Piece.codeOf first second third fourth = 0xd800 + (c.toNat - 0x10000) / 0x400)
    (hlow : Piece.codeOf fifth sixth seventh eighth = 0xdc00 + (c.toNat - 0x10000) % 0x400)
    (hplane : 0x10000 ≤ c.toNat) :
    IsWrittenBy c [.code first second third fourth, .code fifth sixth seventh eighth]

/-- A character and the pieces that write it. -/
structure Glyph where
  char : Char
  pieces : Spelling
  isWrittenBy : IsWrittenBy char pieces

namespace Glyph

/-- What is read for the character: the character, or a question mark for each code above U+00FF. -/
def shown (glyph : Glyph) : List Char :=
  if glyph.pieces.all Piece.isExact then [glyph.char]
  else List.replicate glyph.pieces.length '?'

theorem decoded_pieces (glyph : Glyph) : glyph.pieces.decoded = glyph.shown := by
  obtain ⟨c, pieces, hwritten⟩ := glyph
  cases hwritten with
  | plain _ _ _ => rfl
  | short _ _ => rfl
  | code first second third fourth hcode =>
    by_cases hexact : Piece.codeOf first second third fourth ≤ 0xff
    · simp [Spelling.decoded, shown, Piece.decoded, Piece.isExact, hcode, hcode ▸ hexact,
        Char.ofNat_toNat]
    · simp [Spelling.decoded, shown, Piece.decoded, Piece.isExact, hexact]
  | pair first second third fourth fifth sixth seventh eighth hhigh hlow =>
    have hhigh' : ¬ Piece.codeOf first second third fourth ≤ 0xff := by omega
    have hlow' : ¬ Piece.codeOf fifth sixth seventh eighth ≤ 0xff := by omega
    simp [Spelling.decoded, shown, Piece.decoded, Piece.isExact, hhigh', hlow', List.replicate]

end Glyph

theorem decoded_flatMap (glyphs : List Glyph) :
    Spelling.decoded (glyphs.flatMap Glyph.pieces) = glyphs.flatMap Glyph.shown := by
  induction glyphs with
  | nil => rfl
  | cons glyph glyphs ih =>
    rw [List.flatMap_cons, List.flatMap_cons, Spelling.decoded, List.map_append]
    exact congrArg₂ (· ++ ·) glyph.decoded_pieces ih

/-! ### A literal as a row of glyphs -/

/-- The first pieces of a literal write the first character of what it means. -/
theorem exists_glyph {c : Char} {rest : List Text.CodeUnit} {spelling : Spelling}
    (h : spelling.units = Text.charUnits c ++ rest) :
    ∃ (glyph : Glyph) (behind : Spelling), glyph.char = c ∧ spelling = glyph.pieces ++ behind ∧
      behind.units = rest := by
  cases spelling with
  | nil => exact absurd (List.append_eq_nil_iff.mp h.symm).1 (Text.charUnits_ne_nil c)
  | cons piece pieces =>
    rw [Spelling.units_cons] at h
    cases piece with
    | plain other hcontrol hquote hbackslash =>
      obtain ⟨rfl, hrest⟩ := Text.charUnits_append_inj h
      exact ⟨⟨_, _, .plain hcontrol hquote hbackslash⟩, pieces, rfl, rfl, hrest⟩
    | short letter other hescape =>
      rw [Piece.units_eq rfl] at h
      obtain ⟨rfl, hrest⟩ := Text.charUnits_append_inj h
      exact ⟨⟨_, _, .short letter hescape⟩, pieces, rfl, rfl, hrest⟩
    | code first second third fourth =>
      have hfirst := Piece.codeOf_lt first second third fourth
      have hvalid : c.toNat < 0xd800 ∨ (0xdfff < c.toNat ∧ c.toNat < 0x110000) := c.valid
      unfold Text.charUnits at h
      dsimp only [Piece.units] at h
      split_ifs at h with hplane
      · obtain ⟨hunit, hrest⟩ := List.cons.inj h
        have hcode := Text.toUInt16_inj hfirst hplane hunit
        exact ⟨⟨c, _, .code first second third fourth hcode⟩, pieces, rfl, rfl, hrest⟩
      · simp only [List.cons_append, List.nil_append, List.cons.injEq] at h
        obtain ⟨hunit, hpieces⟩ := h
        have hhigh := Text.toUInt16_inj hfirst (by omega) hunit
        have hoffset : (c.toNat - 0x10000) % 0x400 < 0x400 := Nat.mod_lt _ (by decide)
        -- Only a code can stand for the second surrogate.
        cases pieces with
        | nil => cases hpieces
        | cons piece behind =>
          rw [Spelling.units_cons] at hpieces
          cases piece with
          | plain other _ _ _ => exact absurd hpieces (Text.charUnits_append_ne other hoffset _ _)
          | short letter other hescape =>
            rw [Piece.units_eq rfl] at hpieces
            exact absurd hpieces (Text.charUnits_append_ne _ hoffset _ _)
          | code fifth sixth seventh eighth =>
            obtain ⟨hunit, hrest⟩ := List.cons.inj hpieces
            have hlow := Text.toUInt16_inj (Piece.codeOf_lt fifth sixth seventh eighth) (by omega)
              hunit
            exact ⟨⟨c, _, .pair first second third fourth fifth sixth seventh eighth hhigh hlow
              (Nat.le_of_not_lt hplane)⟩, behind, rfl, rfl, hrest⟩

/-- A literal that means a string is a row of glyphs of its characters. -/
theorem exists_glyphs {chars : List Char} {spelling : Spelling}
    (h : spelling.units = chars.flatMap Text.charUnits) :
    ∃ glyphs : List Glyph, glyphs.map Glyph.char = chars ∧
      glyphs.flatMap Glyph.pieces = spelling := by
  induction chars generalizing spelling with
  | nil =>
    cases spelling with
    | nil => exact ⟨[], rfl, rfl⟩
    | cons piece pieces =>
      rw [Spelling.units_cons] at h
      exact absurd (List.append_eq_nil_iff.mp h).1 piece.units_ne_nil
  | cons c chars ih =>
    obtain ⟨glyph, behind, hchar, rfl, hbehind⟩ := exists_glyph (h.trans List.flatMap_cons)
    obtain ⟨glyphs, hchars, rfl⟩ := ih hbehind
    exact ⟨glyph :: glyphs, by rw [List.map_cons, hchar, hchars], List.flatMap_cons⟩

/-! ### Reading a literal -/

theorem readAt_append {blanks : List Char} (h : ∀ c ∈ blanks, Text.isBlank c = true)
    (spelling : Spelling) (rest : List Char) :
    Literal.readAt (blanks ++ spelling.text ++ rest) 0 =
      some (spelling.decoded, blanks.length + spelling.text.length) := by
  have hblanks : Text.skipBlanks (blanks ++ (spelling.text ++ rest)) =
      Text.skipBlanks (spelling.text ++ rest) := List.dropWhile_append_of_pos h
  have hread : Literal.read (blanks ++ spelling.text ++ rest) = some (spelling.decoded, rest) := by
    rw [← read_append spelling rest, Literal.read, Literal.read, List.append_assoc, hblanks]
  rw [Literal.readAt, List.drop_zero, hread, Option.map_some]
  simp only [List.length_append, Nat.add_sub_cancel]

theorem drop_skipBlanksFrom (text : List Char) (start : Nat) :
    text.drop (Text.skipBlanksFrom text start) = Text.skipBlanks (text.drop start) := by
  have hsplit : (text.drop start).takeWhile Text.isBlank ++ Text.skipBlanks (text.drop start) =
      text.drop start := List.takeWhile_append_dropWhile
  calc text.drop (start + ((text.drop start).takeWhile Text.isBlank).length)
      = (text.drop start).drop ((text.drop start).takeWhile Text.isBlank).length :=
        List.drop_drop.symm
    _ = ((text.drop start).takeWhile Text.isBlank ++ Text.skipBlanks (text.drop start)).drop
          ((text.drop start).takeWhile Text.isBlank).length := by rw [hsplit]
    _ = Text.skipBlanks (text.drop start) := List.drop_left

/-- Each character that is read takes one of the literal at least, and the closing quote one
more. -/
theorem length_readBody {value text decoded rest : List Char}
    (h : Literal.readBody value text = some (decoded, rest)) :
    decoded.length + rest.length + 1 ≤ value.length + text.length := by
  fun_induction Literal.readBody value text with
  | case1 value => cases h
  | case2 value rest =>
    cases h
    simp only [List.length_reverse, List.length_cons]
    omega
  | case3 value => cases h
  | case4 value letter rest _ ih =>
    have hlength := ih h
    have hescape := Literal.length_unescape_le letter rest
    simp only [List.length_cons] at hlength ⊢
    omega
  | case5 value c rest _ _ ih =>
    have hlength := ih h
    simp only [List.length_cons] at hlength ⊢
    omega

/-- A literal that is read at an index of a text lies in the text and is longer than its value. -/
structure IsWithin (text : List Char) (start : Nat) (value : List Char) (behind : Nat) : Prop where
  /-- The literal opens at the first character that is no blank. -/
  quote : text[Text.skipBlanksFrom text start]? = some '"'
  length_value : value.length + (Text.skipBlanksFrom text start + 2) ≤ behind
  behind_le : behind ≤ text.length

theorem isWithin_of_readAt {text value : List Char} {start behind : Nat}
    (h : Literal.readAt text start = some (value, behind)) : IsWithin text start value behind := by
  obtain ⟨⟨decoded, rest⟩, hread, hbehind⟩ := Option.map_eq_some_iff.mp h
  simp only [Prod.mk.injEq] at hbehind
  obtain ⟨rfl, rfl⟩ := hbehind
  rw [Literal.read, ← drop_skipBlanksFrom] at hread
  split at hread
  · rename_i body hopen
    have hlength := length_readBody hread
    have hbody := congrArg List.length hopen
    simp only [List.length_drop, List.length_cons, List.length_nil] at hlength hbody
    refine ⟨?_, by omega, Nat.sub_le _ _⟩
    have hhead := congrArg List.head? hopen
    rw [List.head?_drop, List.head?_cons] at hhead
    exact hhead
  · cases hread

/-- What is read of a literal that means a string, behind blanks and in front of anything. -/
structure ReadsBack (string : String) (spelling : Spelling) : Prop where
  /-- Each character of the string is read as it is shown. -/
  shown : ∃ glyphs : List Glyph, glyphs.map Glyph.char = string.toList ∧
    glyphs.flatMap Glyph.pieces = spelling ∧
      ∀ blanks rest : List Char, (∀ c ∈ blanks, Text.isBlank c = true) →
        Literal.readAt (blanks ++ spelling.text ++ rest) 0 =
          some (glyphs.flatMap Glyph.shown, blanks.length + spelling.text.length)
  /-- The string itself is read if no code above U+00FF is escaped. -/
  unchanged : (∀ piece ∈ spelling, piece.isExact = true) →
    ∀ blanks rest : List Char, (∀ c ∈ blanks, Text.isBlank c = true) →
      Literal.readAt (blanks ++ spelling.text ++ rest) 0 =
        some (string.toList, blanks.length + spelling.text.length)

theorem readsBack_of_units {string : String} {spelling : Spelling}
    (h : spelling.units = Text.codeUnits string) : ReadsBack string spelling where
  shown := by
    obtain ⟨glyphs, hchars, rfl⟩ := exists_glyphs h
    refine ⟨glyphs, hchars, rfl, fun blanks rest hblanks ↦ ?_⟩
    rw [readAt_append hblanks, decoded_flatMap]
  unchanged := by
    intro hexact blanks rest hblanks
    have hdecoded := congrArg String.toList (Spelling.ofList_decoded_eq hexact h)
    rw [String.toList_ofList] at hdecoded
    rw [readAt_append hblanks, hdecoded]

/-- Reading gives back the string that a literal means, but for codes above U+00FF, and never leaves
the text. -/
theorem readsBack_and_isWithin :
    (∀ (string : String) (spelling : Spelling), spelling.units = Text.codeUnits string →
      ReadsBack string spelling) ∧
    ∀ (text value : List Char) (start behind : Nat),
      Literal.readAt text start = some (value, behind) → IsWithin text start value behind :=
  ⟨fun _ _ h ↦ readsBack_of_units h, fun _ _ _ _ h ↦ isWithin_of_readAt h⟩

/-- A literal with a code up to U+00FF, a surrogate pair, a short escape and a character as it is:
two question marks are read for the pair. -/
theorem readsBack_mixed :
    ∃ spelling : Spelling, spelling.units = Text.codeUnits "é😀\n!" ∧
      Literal.readAt (['\x0b', ' '] ++ spelling.text ++ ['"']) 0 =
        some ("é??\n!".toList, 25) ∧
      IsWithin (['\x0b', ' '] ++ spelling.text ++ ['"']) 0 "é??\n!".toList 25 := by
  let zero : HexDigit := ⟨'0', 0, rfl⟩
  let three : HexDigit := ⟨'3', 3, rfl⟩
  let eight : HexDigit := ⟨'8', 8, rfl⟩
  let spelling : Spelling := [.code zero zero ⟨'e', 14, rfl⟩ ⟨'9', 9, rfl⟩,
    .code ⟨'D', 13, rfl⟩ eight three ⟨'d', 13, rfl⟩,
    .code ⟨'d', 13, rfl⟩ ⟨'E', 14, rfl⟩ zero zero,
    .short 'n' '\n' (by decide), .plain '!' (by decide) (by decide) (by decide)]
  have hunits : spelling.units = Text.codeUnits "é😀\n!" := by decide
  obtain ⟨glyphs, -, hpieces, hshown⟩ := (readsBack_and_isWithin.1 _ _ hunits).shown
  have hvalue : glyphs.flatMap Glyph.shown = "é??\n!".toList := by
    rw [← decoded_flatMap, hpieces]
    decide
  have hread := hshown ['\x0b', ' '] ['"'] (by simp [Text.isBlank])
  rw [hvalue] at hread
  exact ⟨spelling, hunits, hread, readsBack_and_isWithin.2 _ _ _ _ hread⟩

end DeskAssistant.Fragment
