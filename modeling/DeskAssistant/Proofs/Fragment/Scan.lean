import DeskAssistant.Fragment.Field
import DeskAssistant.Proofs.Json.Document

/-!
# Strings and names in fragments

A fragment reader knows nothing of the structure around it, so that each of its lookups goes
through all strings of a document. The string literal at its beginning is decoded as spelled
(`read_append`), and a lookup passes every string that is no key (`passes_string`): an escaped
quote in it is preceded by a backslash, which no name contains, and its closing quote is followed
by no colon. `Ends` says what follows a value in a document, which is all that this needs to know
of the rest.
-/

set_option autoImplicit false
set_option relaxedAutoImplicit false

namespace DeskAssistant.Fragment

open Json.Document

/-! ### String literals -/

section Strings

theorem unescape_of_mem {letter c : Char} (h : (letter, c) ∈ Json.Scan.shortEscapes)
    (rest : List Char) : Literal.unescape letter rest = (c, rest) := by
  have hall : ∀ pair ∈ Json.Scan.shortEscapes,
      pair.1 ≠ 'u' ∧ Literal.shortEscape pair.1 = pair.2 := by decide
  obtain ⟨hne, hshort⟩ := hall _ h
  rw [Literal.unescape, if_neg hne, hshort]

theorem hexCode?_append (first second third fourth : HexDigit) (rest : List Char) :
    Literal.hexCode? (first.char :: second.char :: third.char :: fourth.char :: rest) =
      some (Piece.codeOf first second third fourth, rest) := by
  simp [Literal.hexCode?, first.value_eq, second.value_eq, third.value_eq, fourth.value_eq,
    Piece.codeOf]

theorem readBody_append (spelling : Spelling) (value rest : List Char) :
    Literal.readBody value (spelling.body ++ '"' :: rest) =
      some (value.reverse ++ spelling.decoded, rest) := by
  induction spelling generalizing value with
  | nil =>
    rw [Literal.readBody.eq_def]
    simp [Spelling.body, Spelling.decoded]
  | cons piece pieces ih =>
    rw [Spelling.body_cons, List.append_assoc, Literal.readBody.eq_def]
    have hnext := ih (piece.decoded :: value)
    rw [List.reverse_cons, List.append_assoc] at hnext
    cases piece with
    | plain c _ hquote hbackslash =>
      simp only [Piece.text, List.cons_append, List.nil_append, if_neg hquote,
        if_neg hbackslash]
      exact hnext
    | short letter c hescape =>
      simp only [Piece.text, List.cons_append, List.nil_append, unescape_of_mem hescape]
      exact hnext
    | code first second third fourth =>
      simp only [Piece.text, List.cons_append, List.nil_append, Literal.unescape,
        hexCode?_append]
      exact hnext

theorem read_append (spelling : Spelling) (rest : List Char) :
    Literal.read (spelling.text ++ rest) = some (spelling.decoded, rest) := by
  have htext : spelling.text ++ rest = '"' :: (spelling.body ++ '"' :: rest) := by
    simp [Spelling.text]
  rw [htext, Literal.read]
  exact readBody_append spelling [] rest

end Strings

/-! ### Characters between tokens -/

section Boundaries

/-- A name that a field may have: letters and underscores. -/
def IsName (name : String) : Prop :=
  name ≠ "" ∧ ∀ c ∈ name.toList, c.isAlpha = true ∨ c = '_'

instance (name : String) : Decidable (IsName name) :=
  @instDecidableAnd _ _ inferInstance (List.decidableBAll _ _)

/-- What may stand behind a value: space, and then a comma or a closing bracket. -/
def Ends (rest : List Char) : Prop :=
  ∃ (gap : Gap) (c : Char) (behind : List Char),
    rest = gap.text ++ c :: behind ∧ (c = ',' ∨ c = ']' ∨ c = '\x7d')

theorem isBlank_of_isGap {c : Char} (h : isGap c = true) : Text.isBlank c = true := by
  simp only [isGap, Bool.or_eq_true, decide_eq_true_eq] at h
  rcases h with ((rfl | rfl) | rfl) | rfl <;> rfl

theorem isGap_of_mem_gap {gap : Gap} {c : Char} (h : c ∈ gap.text) : isGap c = true :=
  gap.isGap_of_mem c h

theorem skipBlanks_gap_append (gap : Gap) (rest : List Char) :
    Text.skipBlanks (gap.text ++ rest) = Text.skipBlanks rest :=
  List.dropWhile_append_of_pos fun _ hc ↦ isBlank_of_isGap (isGap_of_mem_gap hc)

theorem skipBlanks_cons {c : Char} (h : Text.isBlank c = false) (rest : List Char) :
    Text.skipBlanks (c :: rest) = c :: rest :=
  List.dropWhile_cons_of_neg (by simp [h])

theorem ends_cons {c : Char} (h : c = ',' ∨ c = ']' ∨ c = '\x7d') (behind : List Char) :
    Ends (c :: behind) :=
  ⟨⟨[], by simp⟩, c, behind, rfl, h⟩

theorem Ends.gap_append {rest : List Char} (h : Ends rest) (gap : Gap) :
    Ends (gap.text ++ rest) := by
  obtain ⟨other, c, behind, rfl, hc⟩ := h
  refine ⟨⟨gap.text ++ other.text, ?_⟩, c, behind, by simp, hc⟩
  intro space hspace
  exact (List.mem_append.mp hspace).elim isGap_of_mem_gap isGap_of_mem_gap

theorem Ends.skipBlanks_ne {rest : List Char} (h : Ends rest) (after : List Char) :
    Text.skipBlanks rest ≠ ':' :: after := by
  obtain ⟨gap, c, behind, rfl, hc⟩ := h
  rw [skipBlanks_gap_append]
  rcases hc with rfl | rfl | rfl <;> rw [skipBlanks_cons (by decide)] <;> simp

/-- The text begins with a character that no name has. -/
def Apart (rest : List Char) : Prop :=
  ∃ (c : Char) (behind : List Char), rest = c :: behind ∧ c.isAlpha = false ∧ c ≠ '_'

theorem apart_gap_append (gap : Gap) {c : Char} (halpha : c.isAlpha = false) (hline : c ≠ '_')
    (behind : List Char) : Apart (gap.text ++ c :: behind) := by
  cases htext : gap.text with
  | nil => exact ⟨c, behind, rfl, halpha, hline⟩
  | cons space rest =>
    refine ⟨space, rest ++ c :: behind, rfl, ?_⟩
    have hspace : isGap space = true := isGap_of_mem_gap (htext ▸ List.mem_cons_self)
    simp only [isGap, Bool.or_eq_true, decide_eq_true_eq] at hspace
    rcases hspace with ((rfl | rfl) | rfl) | rfl <;> decide

theorem Ends.apart {rest : List Char} (h : Ends rest) : Apart rest := by
  obtain ⟨gap, c, behind, rfl, hc⟩ := h
  rcases hc with rfl | rfl | rfl <;> exact apart_gap_append gap (by decide) (by decide) behind

end Boundaries

/-! ### Looking a name up -/

section Names

variable {name : String}

theorem IsName.ne_quote (hname : IsName name) {c : Char} (hc : c ∈ name.toList) :
    c ≠ '"' ∧ c ≠ '\\' := by
  refine ⟨?_, ?_⟩ <;> rintro rfl <;> exact absurd (hname.2 _ hc) (by decide)

theorem IsName.not_apart (hname : IsName name) {rest : List Char} (h : Apart rest)
    (behind : List Char) : rest ≠ name.toList ++ '"' :: behind := by
  obtain ⟨c, after, rfl, halpha, hline⟩ := h
  cases htext : name.toList with
  | nil => exact absurd (String.toList_eq_nil_iff.mp htext) hname.1
  | cons first letters =>
    rintro heq
    cases heq
    rcases hname.2 c (htext ▸ List.mem_cons_self) with hletter | hunder
    · rw [halpha] at hletter
      cases hletter
    · exact hline hunder

/-- A quote behind a name, where the name may stand in a string, can only be the closing one. -/
theorem IsName.body_eq (hname : IsName name) (spelling : Spelling) {rest behind : List Char}
    (h : spelling.body ++ '"' :: rest = name.toList ++ '"' :: behind) :
    spelling.body = name.toList ∧ rest = behind := by
  have hletters : ∀ c ∈ name.toList, c ≠ '"' ∧ c ≠ '\\' := fun c hc ↦ hname.ne_quote hc
  generalize name.toList = letters at h hletters
  induction spelling generalizing letters with
  | nil =>
    cases letters with
    | nil => exact ⟨rfl, by simpa using h⟩
    | cons letter letters =>
      simp only [Spelling.body_nil, List.nil_append, List.cons_append, List.cons.injEq] at h
      exact absurd h.1.symm (hletters letter List.mem_cons_self).1
  | cons piece pieces ih =>
    cases piece with
    | plain c _ hquote _ =>
      simp only [Spelling.body_cons, Piece.text, List.cons_append, List.nil_append] at h ⊢
      cases letters with
      | nil =>
        simp only [List.nil_append, List.cons.injEq] at h
        exact absurd h.1 hquote
      | cons letter letters =>
        simp only [List.cons_append, List.cons.injEq] at h
        obtain ⟨hbody, hrest⟩ := ih letters h.2 fun c hc ↦ hletters c (List.mem_cons_of_mem _ hc)
        exact ⟨by rw [h.1, hbody], hrest⟩
    | short _ _ _ | code _ _ _ _ =>
      simp only [Spelling.body_cons, Piece.text, List.cons_append, List.nil_append] at h
      cases letters with
      | nil =>
        simp only [List.nil_append, List.cons.injEq] at h
        exact absurd h.1 (by decide)
      | cons letter letters =>
        simp only [List.cons_append, List.cons.injEq] at h
        exact absurd h.1.symm (hletters letter List.mem_cons_self).2

theorem Field.suffix_of_valueHere? {pattern text value : List Char}
    (h : valueHere? pattern text = some value) : value <:+ text := by
  unfold valueHere? at h
  split at h
  · cases h
  · next rest hrest =>
    have hbehind : rest <:+ text :=
      ⟨pattern, ((Text.afterStart?_eq_some_iff pattern text rest).mp hrest).symm⟩
    split at h
    · next found hcolon =>
      cases h
      have hskipped : ':' :: found <:+ rest := hcolon ▸ List.dropWhile_suffix Text.isBlank
      exact (List.dropWhile_suffix Text.isBlank).trans
        ((List.suffix_cons ':' found).trans (hskipped.trans hbehind))
    · cases h

theorem Field.suffix_of_valueAnywhere? {pattern text value : List Char}
    (h : valueAnywhere? pattern text = some value) : value <:+ text := by
  induction text with
  | nil => cases h
  | cons c rest ih =>
    unfold valueAnywhere? at h
    split at h
    · next found hfound =>
      cases h
      exact suffix_of_valueHere? hfound
    · exact (ih h).trans (List.suffix_cons c rest)

theorem Field.suffix_of_value? {text value : List Char} (h : value? text name = some value) :
    value <:+ text := by
  unfold value? at h
  split_ifs at h
  exact suffix_of_valueAnywhere? h

theorem valueHere?_quotedName (name : String) {rest after : List Char}
    (hcolon : Text.skipBlanks rest = ':' :: after) :
    Field.valueHere? (Field.quotedName name) (Field.quotedName name ++ rest) =
      some (Text.skipBlanks after) := by
  have hstart : Text.afterStart? (Field.quotedName name) (Field.quotedName name ++ rest) =
      some rest := (Text.afterStart?_eq_some_iff _ _ _).mpr rfl
  rw [Field.valueHere?, hstart]
  dsimp only
  rw [hcolon]
  rfl

theorem valueHere?_eq_none {text : List Char}
    (h : ∀ rest, text = Field.quotedName name ++ rest →
      ∀ after, Text.skipBlanks rest ≠ ':' :: after) :
    Field.valueHere? (Field.quotedName name) text = none := by
  unfold Field.valueHere?
  split
  · rfl
  · rename_i rest hstart
    have htext := (Text.afterStart?_eq_some_iff _ _ _).mp hstart
    split
    · rename_i value hcolon
      exact absurd hcolon (h rest htext value)
    · rfl

theorem valueHere?_cons_of_ne {c : Char} (hc : c ≠ '"') (rest : List Char) :
    Field.valueHere? (Field.quotedName name) (c :: rest) = none :=
  valueHere?_eq_none fun _ heq ↦ absurd (List.cons.inj heq).1 hc

end Names

/-! ### Going on past a text -/

section Passing

variable {name : String}

/-- The lookup of a name in `text` and what follows goes on with what follows. -/
def Passes (name : String) (text rest : List Char) : Prop :=
  Field.valueAnywhere? (Field.quotedName name) (text ++ rest) =
    Field.valueAnywhere? (Field.quotedName name) rest

theorem passes_nil (rest : List Char) : Passes name [] rest := rfl

theorem passes_cons {c : Char} {text rest : List Char}
    (hhere : Field.valueHere? (Field.quotedName name) (c :: (text ++ rest)) = none)
    (htext : Passes name text rest) : Passes name (c :: text) rest := by
  rw [Passes, List.cons_append, Field.valueAnywhere?, hhere]
  exact htext

theorem Passes.append {first second rest : List Char} (hfirst : Passes name first (second ++ rest))
    (hsecond : Passes name second rest) : Passes name (first ++ second) rest := by
  rw [Passes, List.append_assoc]
  exact hfirst.trans hsecond

theorem passes_of_not_mem {text : List Char} (h : '"' ∉ text) (rest : List Char) :
    Passes name text rest := by
  induction text with
  | nil => exact passes_nil rest
  | cons c text ih =>
    have hc : c ≠ '"' := fun heq ↦ h (heq ▸ List.mem_cons_self)
    exact passes_cons (valueHere?_cons_of_ne hc _) (ih fun hmem ↦ h (List.mem_cons_of_mem _ hmem))

theorem passes_gap (gap : Gap) (rest : List Char) : Passes name gap.text rest := by
  refine passes_of_not_mem (fun hmem ↦ ?_) rest
  exact absurd (isGap_of_mem_gap hmem) (by decide)

theorem passes_separator (isFirst : Bool) (rest : List Char) :
    Passes name (separator isFirst) rest :=
  passes_of_not_mem (by cases isFirst <;> decide) rest

/-- A string is passed up to its closing quote, and past it, when no quote in it can be taken for
the one in front of a name. -/
theorem passes_body (hname : IsName name) (spelling : Spelling) {rest : List Char}
    (hrest : ∀ behind, rest ≠ name.toList ++ '"' :: behind)
    (hquotes : spelling.escapesQuote = true → ∀ after, Text.skipBlanks rest ≠ ':' :: after) :
    Passes name (spelling.body ++ ['"']) rest := by
  induction spelling with
  | nil =>
    refine passes_cons (valueHere?_eq_none fun behind heq ↦ ?_) (passes_nil rest)
    rw [Field.quotedName, List.cons_append, List.cons.injEq, List.append_assoc] at heq
    exact absurd heq.2 (hrest behind)
  | cons piece pieces ih =>
    have hpieces : Passes name (Spelling.body pieces ++ ['"']) rest := by
      refine ih fun hescapes ↦ hquotes ?_
      rw [Spelling.escapesQuote, List.any_cons, Bool.or_eq_true]
      exact Or.inr hescapes
    rw [Spelling.body_cons, List.append_assoc]
    refine Passes.append ?_ hpieces
    cases piece with
    | plain c _ hquote _ =>
      exact passes_of_not_mem (by simpa [Piece.text] using hquote.symm) _
    | code first second third fourth =>
      refine passes_of_not_mem ?_ _
      simp [Piece.text, (HexDigit.char_ne _).1.symm]
    | short letter c hescape =>
      refine passes_cons (valueHere?_cons_of_ne (by decide) _) (passes_cons ?_ (passes_nil _))
      by_cases hletter : letter = '"'
      · subst hletter
        refine valueHere?_eq_none fun behind heq ↦ ?_
        have hbody : Spelling.body pieces ++ '"' :: rest = name.toList ++ '"' :: behind := by
          simpa [Field.quotedName] using heq
        rw [← (hname.body_eq pieces hbody).2]
        refine hquotes ?_
        simp [Spelling.escapesQuote, Piece.isQuote]
      · exact valueHere?_cons_of_ne hletter _

theorem passes_string (hname : IsName name) (spelling : Spelling) {rest : List Char}
    (hrest : ∀ behind, rest ≠ name.toList ++ '"' :: behind)
    (hquotes : spelling.escapesQuote = true → ∀ after, Text.skipBlanks rest ≠ ':' :: after)
    (hbody : spelling.body = name.toList → ∀ after, Text.skipBlanks rest ≠ ':' :: after) :
    Passes name spelling.text rest := by
  refine passes_cons (valueHere?_eq_none fun behind heq ↦ ?_)
    (passes_body hname spelling hrest hquotes)
  have hspelled : spelling.body ++ '"' :: rest = name.toList ++ '"' :: behind := by
    simpa [Field.quotedName] using heq
  obtain ⟨hsame, hbehind⟩ := hname.body_eq spelling hspelled
  rw [← hbehind]
  exact hbody hsame

end Passing

end DeskAssistant.Fragment
