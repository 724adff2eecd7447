import DeskAssistant.Json.Writer
import DeskAssistant.Proofs.Json.LineEnds
import Mathlib.Data.List.Basic
import Mathlib.Tactic.IntervalCases

/-!
# Tokens of a written document

`Value.tokens` are the tokens that a value is written with, without the line breaks and blanks
between them. Each piece of a written value is read as one token and leaves what follows it: a text
with its escapes (`textBody_quoted`), an integer up to its last digit (`number_toDigits`), a word, a
bracket. So a written value is read as its tokens (`tokens_valueText`). Real numbers are left out.
-/

set_option autoImplicit false
set_option relaxedAutoImplicit false

namespace DeskAssistant.Json

/-! ### Values without real numbers -/

namespace Value

mutual

/-- A real number is somewhere in the value. -/
def holdsReal : Value → Bool
  | real _ => true
  | array items => itemsHoldReal items
  | object members => membersHoldReal members
  | _ => false

def itemsHoldReal : List Value → Bool
  | [] => false
  | item :: items => item.holdsReal || itemsHoldReal items

def membersHoldReal : Members → Bool
  | [] => false
  | (_, value) :: members => value.holdsReal || membersHoldReal members

end

theorem membersHoldReal_eq_false_iff {members : Members} :
    membersHoldReal members = false ↔ ∀ member ∈ members, member.2.holdsReal = false := by
  induction members with
  | nil => exact iff_of_true rfl nofun
  | cons first members ih =>
    rw [membersHoldReal, Bool.or_eq_false_iff, ih, List.forall_mem_cons]

/-! ### Tokens -/

/-- The decimal digits of a number, the first one first. -/
def digitsOf (number : Nat) : List Nat := (Nat.toDigits 10 number).map (·.toNat - 48)

mutual

/-- The tokens that a value is written with. -/
def tokens : Value → List Token
  | null => [.literal null]
  | truth value => [.literal (truth value)]
  | integer value => [.whole (value < 0) (digitsOf value.natAbs)]
  | real value => [.literal (real value)]
  | text units => [.text units]
  | array [] => [.arrayOpen, .arrayClose]
  | array (item :: items) => .arrayOpen :: (item.tokens ++ itemTokens items ++ [.arrayClose])
  | object [] => [.objectOpen, .objectClose]
  | object ((key, value) :: members) =>
    .objectOpen :: .text key :: .colon ::
      (value.tokens ++ memberTokens members ++ [.objectClose])

/-- The tokens of the items behind the first one. -/
def itemTokens : List Value → List Token
  | [] => []
  | item :: items => .comma :: (item.tokens ++ itemTokens items)

/-- The tokens of the members behind the first one. -/
def memberTokens : Members → List Token
  | [] => []
  | (key, value) :: members =>
    .comma :: .text key :: .colon :: (value.tokens ++ memberTokens members)

end

end Value

namespace Scan

variable {c : Char} {rest after : List Char} {token : Token}

/-! ### One token after the other -/

theorem tokens_of_next (hblank : isBlank c = false) (hnext : next c rest = (token, after))
    (htoken : token.isMalformed = false) : tokens (c :: rest) = token :: tokens after := by
  have hskipped : (c :: rest).dropWhile isBlank = c :: rest := by
    rw [List.dropWhile_cons_of_neg]
    rw [hblank]
    exact Bool.false_ne_true
  rw [tokens_of_skipped_cons hskipped, hnext, htoken]
  rfl

/-- Punctuation is a token by itself. -/
theorem tokens_cons_punctuation (hmark : punctuation? c = some token) (rest : List Char) :
    tokens (c :: rest) = token :: tokens rest := by
  unfold punctuation? at hmark
  split at hmark <;> cases hmark <;> exact tokens_of_next rfl rfl rfl

theorem tokens_cons_of_isBlank (hblank : isBlank c = true) (rest : List Char) :
    tokens (c :: rest) = tokens rest := by
  have hskipped : (c :: rest).dropWhile isBlank = rest.dropWhile isBlank :=
    List.dropWhile_cons_of_pos hblank
  cases hrest : rest.dropWhile isBlank with
  | nil => rw [tokens_of_skipped_nil hrest, tokens_of_skipped_nil (hskipped.trans hrest)]
  | cons d behind =>
    rw [tokens_of_skipped_cons hrest, tokens_of_skipped_cons (hskipped.trans hrest)]

theorem tokens_append_of_isBlank {blanks : List Char} (hblanks : ∀ c ∈ blanks, isBlank c = true)
    (rest : List Char) : tokens (blanks ++ rest) = tokens rest := by
  induction blanks with
  | nil => rfl
  | cons c blanks ih =>
    rw [List.cons_append, tokens_cons_of_isBlank (hblanks c List.mem_cons_self),
      ih fun d hd ↦ hblanks d (List.mem_cons_of_mem _ hd)]

theorem tokens_lineStart (level : Nat) (rest : List Char) :
    tokens (lineStart level ++ rest) = tokens rest := by
  refine tokens_append_of_isBlank (fun c hc ↦ ?_) rest
  rcases List.mem_cons.mp hc with rfl | hspace
  · rfl
  · rw [List.eq_of_mem_replicate hspace]
    rfl

/-! ### Texts -/

variable {units : List Text.CodeUnit}

theorem textBody_escape {text : List Char} {unit : Text.CodeUnit}
    (hread : escaped? text = some (unit, after)) :
    textBody units ('\\' :: text) = textBody (unit :: units) after := by
  rw [textBody, if_neg (by decide), if_pos rfl]
  split
  · next hnone => cases hread.symm.trans hnone
  · next hsome =>
    cases hread.symm.trans hsome
    rfl

theorem textBody_plain (hquote : c ≠ '"') (hbackslash : c ≠ '\\') (hcontrol : 0x20 ≤ c.toNat)
    (rest : List Char) :
    textBody units (c :: rest) = textBody ((Text.charUnits c).reverse ++ units) rest := by
  rw [textBody, if_neg hquote, if_neg hbackslash, if_neg (Nat.not_lt.mpr hcontrol)]

theorem hexValue?_hexDigit {value : Nat} (h : value < 16) :
    Fragment.Literal.hexValue? (Text.hexDigit value) = some value := by
  interval_cases value <;> rfl

/-- A unit in four digits is read back. -/
theorem hexCode?_hexDigits (unit : Text.CodeUnit) (rest : List Char) :
    Fragment.Literal.hexCode? (Text.hexDigits 4 unit.toNat ++ rest) = some (unit.toNat, rest) := by
  have hbound : unit.toNat < 65536 := unit.toNat_lt
  have hdigits : Text.hexDigits 4 unit.toNat ++ rest =
      Text.hexDigit (unit.toNat / 16 / 16 / 16 % 16) ::
        Text.hexDigit (unit.toNat / 16 / 16 % 16) :: Text.hexDigit (unit.toNat / 16 % 16) ::
          Text.hexDigit (unit.toNat % 16) :: rest := rfl
  rw [hdigits, Fragment.Literal.hexCode?, hexValue?_hexDigit (Nat.mod_lt _ (by decide)),
    hexValue?_hexDigit (Nat.mod_lt _ (by decide)), hexValue?_hexDigit (Nat.mod_lt _ (by decide)),
    hexValue?_hexDigit (Nat.mod_lt _ (by decide))]
  simp only [Option.bind_eq_bind, Option.bind_some, Option.pure_def, Option.some.injEq,
    Prod.mk.injEq, and_true]
  omega

/-- A printable unit is a character, which has no other unit. -/
theorem toNat_ofNat_of_isPrintable {unit : Text.CodeUnit}
    (h : (0x20 ≤ unit && unit < 0x7f) = true) :
    (Char.ofNat unit.toNat).toNat = unit.toNat ∧ 0x20 ≤ unit.toNat ∧ unit.toNat < 0x7f := by
  rw [Bool.and_eq_true, decide_eq_true_eq, decide_eq_true_eq] at h
  have hleast : 0x20 ≤ unit.toNat := UInt16.le_iff_toNat_le.mp h.1
  have hbound : unit.toNat < 0x7f := UInt16.lt_iff_toNat_lt.mp h.2
  refine ⟨?_, hleast, hbound⟩
  rw [Char.ofNat, dif_pos (Or.inl (by omega))]
  rfl

/-- What is written for a unit is read as the unit. -/
theorem textBody_unitText (unit : Text.CodeUnit) (rest : List Char) :
    textBody units (unitText unit ++ rest) = textBody (unit :: units) rest := by
  unfold unitText
  split_ifs with hquote hbackslash hfeed hreturn htab hform hback hprintable
  · rw [hquote]
    exact textBody_escape rfl
  · rw [hbackslash]
    exact textBody_escape rfl
  · rw [hfeed]
    exact textBody_escape rfl
  · rw [hreturn]
    exact textBody_escape rfl
  · rw [htab]
    exact textBody_escape rfl
  · rw [hform]
    exact textBody_escape rfl
  · rw [hback]
    exact textBody_escape rfl
  · obtain ⟨hcode, hleast, hbound⟩ := toNat_ofNat_of_isPrintable hprintable
    have hunit : unit.toNat.toUInt16 = unit := UInt16.ofNat_toNat
    have hunits : Text.charUnits (Char.ofNat unit.toNat) = [unit] := by
      rw [Text.charUnits, hcode]
      dsimp only
      rw [if_pos (by omega), hunit]
    have hne : ∀ {other : Char}, Char.ofNat unit.toNat = other → unit = other.toNat.toUInt16 := by
      rintro other rfl
      rw [hcode, hunit]
    rw [List.singleton_append, textBody_plain (fun h ↦ hquote (hne h))
      (fun h ↦ hbackslash (hne h)) (by rw [hcode]; exact hleast), hunits]
    rfl
  · refine textBody_escape ?_
    change escaped? ('u' :: (Text.hexDigits 4 unit.toNat ++ rest)) = some (unit, rest)
    rw [escaped?, if_pos rfl, hexCode?_hexDigits]
    simp

theorem textBody_quoted (written : List Text.CodeUnit) (rest : List Char) :
    textBody units (written.flatMap unitText ++ '"' :: rest) =
      some (units.reverse ++ written, rest) := by
  induction written generalizing units with
  | nil => rw [List.flatMap_nil, List.nil_append, textBody, if_pos rfl, List.append_nil]
  | cons unit written ih =>
    rw [List.flatMap_cons, List.append_assoc, textBody_unitText, ih, List.reverse_cons,
      List.append_assoc, List.singleton_append]

theorem tokens_quotedUnits (written : List Text.CodeUnit) (rest : List Char) :
    tokens (quotedUnits written ++ rest) = .text written :: tokens rest := by
  rw [quotedUnits, List.cons_append, List.append_assoc, List.singleton_append]
  have hbody : textBody [] (written.flatMap unitText ++ '"' :: rest) = some (written, rest) :=
    textBody_quoted written rest
  have hquote : punctuation? '"' = none := rfl
  refine tokens_of_next rfl ?_ rfl
  unfold next
  rw [hquote]
  dsimp only
  rw [if_pos rfl, hbody]

/-! ### Numbers -/

/-- No digit of a number follows, and nothing that would make it a real one. -/
def EndsNumber (rest : List Char) : Prop :=
  ∀ c ∈ rest.head?, isDigit c = false ∧ c ≠ '.' ∧ c ≠ 'e' ∧ c ≠ 'E'

theorem isDigit_of_isDigit {c : Char} (h : c.isDigit = true) : isDigit c = true := by
  rw [isDigit, Text.isSome_asciiDigitValue?, h]

/-- Digits are read up to the last one. -/
theorem digits_append {written : List Char} (hwritten : ∀ c ∈ written, c.isDigit = true)
    (hrest : EndsNumber rest) :
    digits (written ++ rest) = (written.map (·.toNat - 48), rest) := by
  have hdigit : ∀ c ∈ written, isDigit c = true := fun c hc ↦ isDigit_of_isDigit (hwritten c hc)
  have hnone : rest.takeWhile isDigit = [] ∧ rest.dropWhile isDigit = rest := by
    cases rest with
    | nil => exact ⟨rfl, rfl⟩
    | cons c rest =>
      have hc : isDigit c = false := (hrest c rfl).1
      simp [hc]
  have hvalues : written.filterMap Text.asciiDigitValue? = written.map (·.toNat - 48) :=
    List.filterMap_eq_map_iff_forall_eq_some.mpr fun c hc ↦
      Text.asciiDigitValue?_of_isDigit (hwritten c hc)
  rw [digits, List.takeWhile_append_of_pos hdigit, List.dropWhile_append_of_pos hdigit, hnone.1,
    hnone.2, List.append_nil, hvalues]

theorem places_of_endsNumber (hrest : EndsNumber rest) : places rest = ([], rest) := by
  unfold places
  split
  · exact absurd rfl (hrest '.' rfl).2.1
  · rfl

theorem power?_of_endsNumber (hrest : EndsNumber rest) : power? rest = (none, rest) := by
  unfold power?
  split
  · rfl
  · next mark rest =>
    obtain ⟨-, -, hlower, hupper⟩ := hrest mark rfl
    simp [hlower, hupper]

/-- No other number than zero is written with a leading zero. -/
theorem eq_zero_of_toDigits {number : Nat} {behind : List Char}
    (h : Nat.toDigits 10 number = '0' :: behind) : number = 0 := by
  induction number using Nat.strong_induction_on generalizing behind with
  | _ number ih =>
    by_cases hsmall : number < 10
    · rw [Nat.toDigits_of_lt_base hsmall] at h
      have hdigit := (List.cons.inj h).1
      interval_cases number <;> first | rfl | cases hdigit
    · rw [Nat.toDigits_of_base_le (by decide) (by omega)] at h
      cases hhigher : Nat.toDigits 10 (number / 10) with
      | nil => exact absurd hhigher Nat.toDigits_ne_nil
      | cons c higher =>
        rw [hhigher, List.cons_append] at h
        obtain rfl := (List.cons.inj h).1
        have hzero := ih (number / 10) (by omega) hhigher
        omega

/-- The digits of a number are read as a whole. -/
theorem number_toDigits {value : Nat} {behind : List Char} (negative : Bool)
    (hdigits : Nat.toDigits 10 value = c :: behind) (hrest : EndsNumber rest) :
    number negative c (behind ++ rest) = (.whole negative (Value.digitsOf value), rest) := by
  have hwritten : ∀ d ∈ c :: behind, d.isDigit = true := fun d hd ↦
    Nat.isDigit_of_mem_toDigits (by decide) (by decide) (hdigits ▸ hd)
  have hwhole : wholePart c (behind ++ rest) = (Value.digitsOf value, rest) := by
    rw [Value.digitsOf, hdigits, wholePart]
    split_ifs with hzero
    · subst hzero
      obtain rfl := eq_zero_of_toDigits hdigits
      rw [Nat.toDigits_zero] at hdigits
      obtain rfl := (List.cons.inj hdigits).2
      rfl
    · rw [digits_append (fun d hd ↦ hwritten d (List.mem_cons_of_mem _ hd)) hrest,
        Text.asciiDigitValue?_of_isDigit (hwritten c List.mem_cons_self)]
      rfl
  rw [number, hwhole]
  dsimp only
  rw [places_of_endsNumber hrest]
  dsimp only
  rw [power?_of_endsNumber hrest]
  rfl

theorem forall_ne_of_isDigit {marks : List Char} (hmarks : marks.any Char.isDigit = false)
    (hc : c.isDigit = true) : ∀ mark ∈ marks, mark ≠ c := by
  rintro mark hmark rfl
  exact List.any_eq_false.mp hmarks mark hmark hc

/-- No word begins with a digit, or with a digit behind a minus. -/
theorem find?_words_of_isDigit (hc : c.isDigit = true) (rest : List Char) :
    words.find? (fun word ↦ word.1.isPrefixOf (c :: rest)) = none ∧
      words.find? (fun word ↦ word.1.isPrefixOf ('-' :: c :: rest)) = none := by
  have hne : ∀ letter ∈ ['n', 't', 'f', 'N', 'I', '-'], letter ≠ c := forall_ne_of_isDigit rfl hc
  simp only [List.mem_cons, List.not_mem_nil, or_false, forall_eq_or_imp, forall_eq] at hne
  constructor <;> simp [words, List.isPrefixOf, hne]

theorem punctuation?_of_isDigit (hc : c.isDigit = true) :
    punctuation? c = none ∧ c ≠ '"' ∧ c ≠ '-' ∧ isBlank c = false := by
  have hne : ∀ mark ∈ ['[', ']', '\x7b', '\x7d', ',', ':', '"', '-', ' ', '\t', '\n', '\r'],
      c ≠ mark := fun mark hmark ↦ (forall_ne_of_isDigit rfl hc mark hmark).symm
  simp only [List.mem_cons, List.not_mem_nil, or_false, forall_eq_or_imp, forall_eq] at hne
  refine ⟨?_, hne.2.2.2.2.2.2.1, hne.2.2.2.2.2.2.2.1, ?_⟩
  · unfold punctuation?
    split <;> simp_all
  · simp [isBlank, hne]

theorem next_of_isDigit (hc : c.isDigit = true) (rest : List Char) :
    next c rest = number false c rest := by
  obtain ⟨hmark, hquote, hminus, -⟩ := punctuation?_of_isDigit hc
  unfold next
  rw [hmark]
  dsimp only
  rw [if_neg hquote, (find?_words_of_isDigit hc rest).1]
  cases rest with
  | nil => simp [isDigit_of_isDigit hc]
  | cons digit rest => simp [hminus, isDigit_of_isDigit hc]

theorem next_minus_of_isDigit (hc : c.isDigit = true) (rest : List Char) :
    next '-' (c :: rest) = number true c rest := by
  have hmark : punctuation? '-' = none := rfl
  unfold next
  rw [hmark]
  dsimp only
  rw [if_neg (by decide), (find?_words_of_isDigit hc rest).2]
  simp [isDigit_of_isDigit hc]

theorem toList_repr (value : Nat) : (Nat.repr value).toList = Nat.toDigits 10 value := by
  rw [Nat.repr_eq_ofList_toDigits, String.toList_ofList]

theorem tokens_integer (value : Int) (hrest : EndsNumber rest) :
    tokens ((toString value).toList ++ rest) =
      .whole (value < 0) (Value.digitsOf value.natAbs) :: tokens rest := by
  obtain ⟨c, behind, hdigits⟩ : ∃ c behind, Nat.toDigits 10 value.natAbs = c :: behind :=
    List.exists_cons_of_ne_nil Nat.toDigits_ne_nil
  have hc : c.isDigit = true := Nat.isDigit_of_mem_toDigits (b := 10) (by decide) (by decide)
    (hdigits ▸ List.mem_cons_self)
  cases value with
  | ofNat value =>
    have htext : (toString (Int.ofNat value)).toList = c :: behind :=
      (toList_repr value).trans hdigits
    rw [htext, List.cons_append]
    exact tokens_of_next (punctuation?_of_isDigit hc).2.2.2
      ((next_of_isDigit hc _).trans (number_toDigits false hdigits hrest)) rfl
  | negSucc value =>
    have htext : (toString (Int.negSucc value)).toList = '-' :: c :: behind := by
      rw [← hdigits]
      change ("-" ++ Nat.repr (value + 1)).toList = _
      rw [String.toList_append, toList_repr]
      rfl
    have hnegative : decide (Int.negSucc value < 0) = true :=
      decide_eq_true (Int.negSucc_lt_zero value)
    rw [htext, hnegative, List.cons_append, List.cons_append]
    exact tokens_of_next rfl
      ((next_minus_of_isDigit hc _).trans (number_toDigits true hdigits hrest)) rfl

/-! ### Values -/

/-- A line break or a comma ends a number. -/
theorem endsNumber_lineStart (level : Nat) (rest : List Char) :
    EndsNumber (lineStart level ++ rest) := by
  rintro c ⟨⟩
  decide

theorem endsNumber_itemsText (level level' : Nat) (items : List Value) (rest : List Char) :
    EndsNumber (itemsText level items ++ (lineStart level' ++ rest)) := by
  cases items with
  | nil => exact endsNumber_lineStart level' rest
  | cons item items =>
    rintro c ⟨⟩
    decide

theorem endsNumber_membersText (level level' : Nat) (members : Members) (rest : List Char) :
    EndsNumber (membersText level members ++ (lineStart level' ++ rest)) := by
  cases members with
  | nil => exact endsNumber_lineStart level' rest
  | cons member members =>
    rintro c ⟨⟩
    decide

mutual

/-- A written value is read as its tokens. -/
theorem tokens_valueText (level : Nat) : ∀ (value : Value) {rest : List Char},
    value.holdsReal = false → EndsNumber rest →
      tokens (valueText level value ++ rest) = value.tokens ++ tokens rest
  | .null, _, _, _ => tokens_of_next rfl rfl rfl
  | .truth true, _, _, _ => tokens_of_next rfl rfl rfl
  | .truth false, _, _, _ => tokens_of_next rfl rfl rfl
  | .integer value, _, _, hrest => tokens_integer value hrest
  | .text units, rest, _, _ => tokens_quotedUnits units rest
  | .array [], rest, _, _ => by
    change tokens ('[' :: ']' :: rest) = .arrayOpen :: .arrayClose :: tokens rest
    rw [tokens_cons_punctuation (c := '[') rfl, tokens_cons_punctuation (c := ']') rfl]
  | .array (item :: items), rest, hreal, _ => by
    obtain ⟨hitem, hitems⟩ := Bool.or_eq_false_iff.mp hreal
    have hbehind := tokens_itemsText (level + 1) level items (']' :: rest) hitems
    have hfirst := tokens_valueText (level + 1) item hitem
      (endsNumber_itemsText (level + 1) level items (']' :: rest))
    have htext : valueText level (.array (item :: items)) ++ rest =
        '[' :: (lineStart (level + 1) ++ (valueText (level + 1) item ++
          (itemsText (level + 1) items ++ (lineStart level ++ ']' :: rest)))) := by
      simp [valueText]
    rw [htext, tokens_cons_punctuation (c := '[') rfl, tokens_lineStart, hfirst, hbehind,
      tokens_cons_punctuation (c := ']') rfl]
    simp [Value.tokens]
  | .object [], rest, _, _ => by
    change tokens ('\x7b' :: '\x7d' :: rest) = .objectOpen :: .objectClose :: tokens rest
    rw [tokens_cons_punctuation (c := '\x7b') rfl, tokens_cons_punctuation (c := '\x7d') rfl]
  | .object ((key, value) :: members), rest, hreal, _ => by
    obtain ⟨hvalue, hmembers⟩ := Bool.or_eq_false_iff.mp hreal
    have hbehind := tokens_membersText (level + 1) level members ('\x7d' :: rest) hmembers
    have hfirst := tokens_valueText (level + 1) value hvalue
      (endsNumber_membersText (level + 1) level members ('\x7d' :: rest))
    have htext : valueText level (.object ((key, value) :: members)) ++ rest =
        '\x7b' :: (lineStart (level + 1) ++ (quotedUnits key ++ (':' :: ' ' ::
          (valueText (level + 1) value ++ (membersText (level + 1) members ++
            (lineStart level ++ '\x7d' :: rest)))))) := by
      simp [valueText]
    rw [htext, tokens_cons_punctuation (c := '\x7b') rfl, tokens_lineStart, tokens_quotedUnits,
      tokens_cons_punctuation (c := ':') rfl, tokens_cons_of_isBlank rfl, hfirst, hbehind,
      tokens_cons_punctuation (c := '\x7d') rfl]
    simp [Value.tokens]

theorem tokens_itemsText (level level' : Nat) : ∀ (items : List Value) (rest : List Char),
    Value.itemsHoldReal items = false →
      tokens (itemsText level items ++ (lineStart level' ++ rest)) =
        Value.itemTokens items ++ tokens rest
  | [], rest, _ => by
    rw [itemsText, List.nil_append, tokens_lineStart]
    rfl
  | item :: items, rest, hreal => by
    obtain ⟨hitem, hitems⟩ := Bool.or_eq_false_iff.mp hreal
    have hbehind := tokens_itemsText level level' items rest hitems
    have hfirst := tokens_valueText level item hitem (endsNumber_itemsText level level' items rest)
    have htext : itemsText level (item :: items) ++ (lineStart level' ++ rest) =
        ',' :: (lineStart level ++ (valueText level item ++
          (itemsText level items ++ (lineStart level' ++ rest)))) := by
      simp [itemsText]
    rw [htext, tokens_cons_punctuation (c := ',') rfl, tokens_lineStart, hfirst, hbehind]
    simp [Value.itemTokens]

theorem tokens_membersText (level level' : Nat) : ∀ (members : Members) (rest : List Char),
    Value.membersHoldReal members = false →
      tokens (membersText level members ++ (lineStart level' ++ rest)) =
        Value.memberTokens members ++ tokens rest
  | [], rest, _ => by
    rw [membersText, List.nil_append, tokens_lineStart]
    rfl
  | (key, value) :: members, rest, hreal => by
    obtain ⟨hvalue, hmembers⟩ := Bool.or_eq_false_iff.mp hreal
    have hbehind := tokens_membersText level level' members rest hmembers
    have hfirst := tokens_valueText level value hvalue
      (endsNumber_membersText level level' members rest)
    have htext : membersText level ((key, value) :: members) ++ (lineStart level' ++ rest) =
        ',' :: (lineStart level ++ (quotedUnits key ++ (':' :: ' ' ::
          (valueText level value ++ (membersText level members ++
            (lineStart level' ++ rest)))))) := by
      simp [membersText]
    rw [htext, tokens_cons_punctuation (c := ',') rfl, tokens_lineStart, tokens_quotedUnits,
      tokens_cons_punctuation (c := ':') rfl, tokens_cons_of_isBlank rfl, hfirst, hbehind]
    simp [Value.memberTokens]

end

end Scan

/-- The tokens of a document are those of its value. -/
theorem tokens_write {value : Value} (hreal : value.holdsReal = false) :
    Scan.tokens (write value).toList = value.tokens := by
  have hends : Scan.EndsNumber [] := nofun
  have htokens := Scan.tokens_valueText 0 value hreal hends
  have hend : Scan.tokens [] = [] := Scan.tokens_of_skipped_nil rfl
  rw [List.append_nil, hend, List.append_nil] at htokens
  rw [write, String.toList_ofList, htokens]

end DeskAssistant.Json
