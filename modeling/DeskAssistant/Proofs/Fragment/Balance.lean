import DeskAssistant.Fragment.Bracket
import DeskAssistant.Proofs.Json.Document

/-!
# Brackets in documents

A scan for the bracket that closes an array or an object goes past every value inside it and comes
out at the depth at which it went in, because brackets in strings do not count and the others
come in pairs (`balanced_node`). The bracket that it finds is therefore the one that belongs to
the opening one (`closing?_node`).
-/

set_option autoImplicit false
set_option relaxedAutoImplicit false

namespace DeskAssistant.Fragment

open Json.Document

/-- The brackets of arrays, or those of objects. -/
inductive IsPair : Char → Char → Prop
  | square : IsPair '[' ']'
  | curly : IsPair '\x7b' '\x7d'

/-- A scan at some depth goes past the text and comes out at that depth. -/
def Balanced (opening closing : Char) (text : List Char) : Prop :=
  ∀ (depth : Int) (offset : Nat) (rest : List Char), 1 ≤ depth →
    Bracket.closingFrom opening closing .plain depth offset (text ++ rest) =
      Bracket.closingFrom opening closing .plain depth (offset + text.length) rest

variable {opening closing : Char}

/-! ### Texts put together -/

theorem balanced_nil : Balanced opening closing [] := fun _ _ _ _ ↦ rfl

theorem Balanced.append {first second : List Char} (hfirst : Balanced opening closing first)
    (hsecond : Balanced opening closing second) : Balanced opening closing (first ++ second) := by
  intro depth offset rest hdepth
  rw [List.append_assoc, hfirst depth offset _ hdepth, hsecond depth _ rest hdepth,
    List.length_append, Nat.add_assoc]

theorem Balanced.cons {c : Char} (hquote : c ≠ '"') (hopening : c ≠ opening)
    (hclosing : c ≠ closing) {text : List Char} (htext : Balanced opening closing text) :
    Balanced opening closing (c :: text) := by
  intro depth offset rest hdepth
  rw [List.cons_append, Bracket.closingFrom]
  simp only [if_neg hquote, if_neg hopening, if_neg hclosing]
  rw [htext depth _ rest hdepth, List.length_cons]
  congr 1
  omega

theorem balanced_of_forall_mem {text : List Char}
    (h : ∀ c ∈ text, c ≠ '"' ∧ c ≠ opening ∧ c ≠ closing) : Balanced opening closing text := by
  induction text with
  | nil => exact balanced_nil
  | cons c text ih =>
    obtain ⟨hquote, hopening, hclosing⟩ := h c List.mem_cons_self
    exact (ih fun d hd ↦ h d (List.mem_cons_of_mem _ hd)).cons hquote hopening hclosing

/-- A balanced text between the brackets that are looked for is balanced with them. -/
theorem Balanced.bracketed (hopening : opening ≠ '"') (hclosing : closing ≠ '"')
    (hne : opening ≠ closing) {text : List Char} (htext : Balanced opening closing text) :
    Balanced opening closing (opening :: (text ++ [closing])) := by
  intro depth offset rest hdepth
  rw [List.cons_append, List.append_assoc, Bracket.closingFrom]
  simp only [if_neg hopening, if_true]
  rw [htext (depth + 1) _ _ (by omega), List.cons_append, List.nil_append, Bracket.closingFrom]
  simp only [if_neg hclosing, if_neg hne.symm, if_true]
  rw [if_neg (by omega : ¬ depth + 1 = 1)]
  congr 1
  · omega
  · simp only [List.length_cons, List.length_append, List.length_nil]
    omega

/-! ### Tokens -/

theorem closingFrom_body (spelling : Spelling) (depth : Int) (offset : Nat) (rest : List Char) :
    Bracket.closingFrom opening closing .quoted depth offset (spelling.body ++ '"' :: rest) =
      Bracket.closingFrom opening closing .plain depth (offset + spelling.body.length + 1)
        rest := by
  induction spelling generalizing offset with
  | nil =>
    rw [Spelling.body_nil, List.nil_append, Bracket.closingFrom]
    simp
  | cons piece pieces ih =>
    rw [Spelling.body_cons, List.append_assoc]
    cases piece with
    | plain c _ hquote hbackslash =>
      simp only [Piece.text, List.cons_append, List.nil_append, Bracket.closingFrom,
        if_neg hquote, if_neg hbackslash]
      rw [ih]
      congr 1
      simp only [List.length_cons]
      omega
    | short letter c _ =>
      simp only [Piece.text, List.cons_append, List.nil_append, Bracket.closingFrom, if_true]
      rw [ih]
      congr 1
      simp only [List.length_cons]
      omega
    | code first second third fourth =>
      simp only [Piece.text, List.cons_append, List.nil_append, Bracket.closingFrom, if_true,
        if_neg (HexDigit.char_ne _).1, if_neg (HexDigit.char_ne _).2]
      rw [ih]
      congr 1
      simp only [List.length_cons]
      omega

theorem balanced_string (spelling : Spelling) :
    Balanced opening closing spelling.text := by
  intro depth offset rest _
  have htext : spelling.text ++ rest = '"' :: (spelling.body ++ '"' :: rest) := by
    simp [Spelling.text]
  rw [htext, Bracket.closingFrom]
  simp only [if_true]
  rw [closingFrom_body]
  congr 1
  simp only [Spelling.text, List.length_cons, List.length_append, List.length_nil]
  omega

/-! ### Documents -/

/-- Neither a quote nor a bracket stands in the text. -/
def IsFlat (text : List Char) : Prop := ∀ c ∈ text, c ≠ '"' ∧ c ∉ ['[', ']', '\x7b', '\x7d']

instance (text : List Char) : Decidable (IsFlat text) := List.decidableBAll _ _

namespace IsPair

theorem ne (hpair : IsPair opening closing) :
    opening ≠ '"' ∧ closing ≠ '"' ∧ opening ≠ closing := by
  cases hpair <;> decide

theorem balanced_of_isFlat (hpair : IsPair opening closing) {text : List Char}
    (h : IsFlat text) : Balanced opening closing text := by
  refine Fragment.balanced_of_forall_mem fun c hc ↦ ⟨(h c hc).1, ?_, ?_⟩
  · rintro rfl
    cases hpair <;> exact (h _ hc).2 (by decide)
  · rintro rfl
    cases hpair <;> exact (h _ hc).2 (by decide)

theorem balanced_gap (hpair : IsPair opening closing) (gap : Gap) :
    Balanced opening closing gap.text := by
  refine hpair.balanced_of_isFlat fun c hc ↦ ?_
  have hgap := gap.isGap_of_mem c hc
  simp only [isGap, Bool.or_eq_true, decide_eq_true_eq] at hgap
  rcases hgap with ((rfl | rfl) | rfl) | rfl <;> decide

theorem balanced_separator (hpair : IsPair opening closing) (isFirst : Bool) :
    Balanced opening closing (separator isFirst) :=
  hpair.balanced_of_isFlat (by cases isFirst <;> decide)

theorem balanced_numeral (hpair : IsPair opening closing) (numeral : Numeral) :
    Balanced opening closing numeral.text := by
  refine hpair.balanced_of_isFlat fun c hc ↦ ?_
  have hnumeric := numeral.isNumeric_of_mem hc
  constructor
  · rintro rfl
    exact absurd hnumeric (by decide)
  · intro hbracket
    simp only [List.mem_cons, List.not_mem_nil, or_false] at hbracket
    rcases hbracket with rfl | rfl | rfl | rfl <;> exact absurd hnumeric (by decide)

theorem balanced_word (hpair : IsPair opening closing) (word : Word) :
    Balanced opening closing word.text :=
  hpair.balanced_of_isFlat (by rcases word with (_ | _) | _ <;> decide)

/-- The brackets of arrays do not count for those of objects, nor the other way around. -/
theorem balanced_bracketed (hpair : IsPair opening closing) {first last : Char}
    (hother : IsPair first last) {text : List Char} (htext : Balanced opening closing text) :
    Balanced opening closing (first :: (text ++ [last])) := by
  have hlast (h : last ≠ '"' ∧ last ≠ opening ∧ last ≠ closing) :
      Balanced opening closing (text ++ [last]) :=
    htext.append (balanced_nil.cons h.1 h.2.1 h.2.2)
  cases hpair with
  | square =>
    cases hother with
    | square => exact htext.bracketed (by decide) (by decide) (by decide)
    | curly => exact (hlast (by decide)).cons (by decide) (by decide) (by decide)
  | curly =>
    cases hother with
    | square => exact (hlast (by decide)).cons (by decide) (by decide) (by decide)
    | curly => exact htext.bracketed (by decide) (by decide) (by decide)

mutual

theorem balanced_node (hpair : IsPair opening closing) (node : Node) :
    Balanced opening closing node.text := by
  cases node with
  | string spelling => exact balanced_string spelling
  | numeral numeral => exact hpair.balanced_numeral numeral
  | word word => exact hpair.balanced_word word
  | array gap items =>
    have hinner := (hpair.balanced_gap gap).append (hpair.balanced_items items true)
    have hbracketed := hpair.balanced_bracketed .square hinner
    rw [List.append_assoc] at hbracketed
    exact hbracketed
  | object gap members =>
    have hinner := (hpair.balanced_gap gap).append (hpair.balanced_members members true)
    have hbracketed := hpair.balanced_bracketed .curly hinner
    rw [List.append_assoc] at hbracketed
    exact hbracketed

theorem balanced_items (hpair : IsPair opening closing) (items : Items) (isFirst : Bool) :
    Balanced opening closing (items.text isFirst) := by
  cases items with
  | nil => exact balanced_nil
  | cons before node after items =>
    exact (hpair.balanced_separator isFirst).append ((hpair.balanced_gap before).append
      ((hpair.balanced_node node).append ((hpair.balanced_gap after).append
        (hpair.balanced_items items false))))

theorem balanced_members (hpair : IsPair opening closing) (members : Members) (isFirst : Bool) :
    Balanced opening closing (members.text isFirst) := by
  cases members with
  | nil => exact balanced_nil
  | cons before key beforeColon afterColon node after members =>
    have hkey : Balanced opening closing key.text := balanced_string key
    have hvalue := (hpair.balanced_node node).append ((hpair.balanced_gap after).append
      (hpair.balanced_members members false))
    have hcolon : ':' ≠ opening ∧ ':' ≠ closing := by
      cases hpair <;> decide
    exact (hpair.balanced_separator isFirst).append ((hpair.balanced_gap before).append
      (hkey.append ((hpair.balanced_gap beforeColon).append
        (((hpair.balanced_gap afterColon).append hvalue).cons (by decide) hcolon.1 hcolon.2))))

end

end IsPair

/-! ### The closing bracket -/

theorem closing?_bracketed (hpair : IsPair opening closing) {text : List Char}
    (htext : Balanced opening closing text) (rest : List Char) :
    Bracket.closing? opening closing (opening :: (text ++ [closing]) ++ rest) =
      some (text.length + 1) := by
  obtain ⟨hopening, hclosing, hne⟩ := hpair.ne
  rw [List.cons_append, List.append_assoc, Bracket.closing?]
  simp only [if_true]
  rw [Bracket.closingFrom]
  simp only [if_neg hopening, if_true]
  rw [htext (0 + 1) _ _ (by decide), List.cons_append, List.nil_append, Bracket.closingFrom]
  simp only [if_neg hclosing, if_neg hne.symm, if_true]
  rw [if_pos (by decide)]
  congr 1
  omega

/-- What stands between the brackets of a value is balanced. -/
theorem exists_balanced_of_brackets? {node : Node} (h : node.brackets? = some (opening, closing)) :
    IsPair opening closing ∧
      ∃ inner, Balanced opening closing inner ∧ node.text = opening :: (inner ++ [closing]) := by
  cases node with
  | string _ | numeral _ | word _ => cases h
  | array gap items =>
    cases h
    refine ⟨.square, gap.text ++ items.text true, ?_, by simp only [Node.text, List.append_assoc]⟩
    exact (IsPair.square.balanced_gap gap).append (IsPair.square.balanced_items items true)
  | object gap members =>
    cases h
    refine ⟨.curly, gap.text ++ members.text true, ?_, by simp only [Node.text, List.append_assoc]⟩
    exact (IsPair.curly.balanced_gap gap).append (IsPair.curly.balanced_members members true)

/-- The bracket that closes a value is its last character. -/
theorem closing?_node {node : Node} (h : node.brackets? = some (opening, closing))
    (rest : List Char) :
    Bracket.closing? opening closing (node.text ++ rest) = some (node.text.length - 1) := by
  obtain ⟨hpair, inner, hinner, htext⟩ := exists_balanced_of_brackets? h
  rw [htext, closing?_bracketed hpair hinner]
  congr 1
  simp

theorem span?_node {node : Node} (h : node.brackets? = some (opening, closing))
    (rest : List Char) :
    Bracket.span? opening closing (node.text ++ rest) = some node.text := by
  have hlength : node.text.length - 1 + 1 = node.text.length := by
    obtain ⟨c, text, htext, _⟩ := node.exists_text_eq_cons
    rw [htext]
    rfl
  rw [Bracket.span?, closing?_node h, Option.map_some, hlength, List.take_left]

end DeskAssistant.Fragment
