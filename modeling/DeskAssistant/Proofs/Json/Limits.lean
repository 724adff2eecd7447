import DeskAssistant.Proofs.Json.LineEnds

/-!
# Documents beyond a limit

Two documents of the same grammar are refused for their size: one opens too many arrays and objects
inside one another, the other has an integer with too many digits. `HitsLimit` says it of the
tokens: where a value may begin, one comes that goes beyond a limit. What is in front of it was read
as usual, and what is wrong behind it is never seen. A reader knows how many levels are open,
because it has a frame for each of them (`length_frames`). A limit that is met stays met, and a step
meets one exactly when its token goes beyond it (`metLimit_step_iff`), so that `HitsLimit` is what
makes `Json.read` refuse a document that is not malformed (`read_refuses_iff`). A short document is
never refused so (`not_hitsLimit_of_length_le`).
-/

set_option autoImplicit false
set_option relaxedAutoImplicit false

namespace DeskAssistant.Json

/-! ### Tokens -/

namespace Token

/-- The token opens an array or an object. -/
def opens : Token → Bool
  | arrayOpen | objectOpen => true
  | _ => false

/-- The token closes an array or an object. -/
def closes : Token → Bool
  | arrayClose | objectClose => true
  | _ => false

/-- The token has too many digits, or opens one more array or object than may be open, where
`levels` are. -/
def IsBeyond (levels : Nat) : Token → Prop
  | whole _ digits => Text.digitLimit < digits.length
  | arrayOpen | objectOpen => Reader.levelLimit ≤ levels
  | _ => False

end Token

/-- How many arrays and objects tokens leave open. -/
def openLevels (tokens : List Token) : Nat :=
  tokens.countP Token.opens - tokens.countP Token.closes

namespace Reader

/-- A reader in front of a document. -/
def State.start : State := .reading .value []

/-- A value may begin. -/
def State.AwaitsValue : State → Prop
  | reading .value _ | reading .itemOrEnd _ => True
  | _ => False

/-- The document was refused for a limit. -/
def State.MetLimit : State → Prop
  | refused refusal => refusal ≠ .malformed
  | _ => False

end Reader

/-- Where a value may begin, a token of the document goes beyond a limit. -/
def HitsLimit (document : String) : Prop :=
  ∃ before token after, Scan.tokens document.toList = before ++ token :: after ∧
    (before.foldl Reader.step .start).AwaitsValue ∧ token.IsBeyond (openLevels before)

namespace Reader

/-! ### Open levels -/

variable {expected expected' : Expected} {frames frames' : List Frame} {token : Token}
  {tokens : List Token} {state : State}

theorem length_of_place {value : Value} (h : place value frames = .reading expected frames') :
    frames'.length = frames.length := by
  unfold place at h
  split at h <;> cases h <;> rfl

theorem length_of_openFrame {isObject : Bool}
    (h : openFrame isObject frames = .reading expected frames') :
    frames'.length = frames.length + 1 := by
  unfold openFrame at h
  split_ifs at h <;> cases h <;> rfl

theorem length_of_beginValue (h : beginValue frames token = .reading expected frames') :
    frames'.length + token.closes.toNat = frames.length + token.opens.toNat := by
  cases token with
  | arrayOpen | objectOpen => exact length_of_openFrame h
  | literal _ | text _ => exact length_of_place h
  | whole negative digits =>
    unfold beginValue at h
    dsimp only at h
    split at h
    · exact length_of_place h
    · cases h
  | _ => cases h

/-- A step opens and closes what its token does. -/
theorem length_of_step (h : step (.reading expected frames) token = .reading expected' frames') :
    frames'.length + token.closes.toNat = frames.length + token.opens.toNat := by
  generalize hstate : State.reading expected frames = state at h
  unfold step at h
  split at h <;> cases hstate
  case h_1 | h_3 => exact length_of_beginValue h
  case h_2 | h_4 | h_9 | h_11 => exact congrArg (· + 1) (length_of_place h)
  all_goals cases h <;> rfl

/-- What was refused stays refused. -/
theorem foldl_step_refused (refusal : Refusal) (tokens : List Token) :
    tokens.foldl step (.refused refusal) = .refused refusal := by
  induction tokens with
  | nil => rfl
  | cons token tokens ih => exact ih

/-- Nothing may follow a value. -/
theorem foldl_step_finished (value : Value) (token : Token) (tokens : List Token) :
    (token :: tokens).foldl step (.finished value) = .refused .malformed :=
  foldl_step_refused .malformed tokens

theorem countP_cons_toNat (p : Token → Bool) (token : Token) (tokens : List Token) :
    (token :: tokens).countP p = tokens.countP p + (p token).toNat := by
  rw [List.countP_cons]
  cases p token <;> rfl

/-- A run opens and closes what its tokens do. -/
theorem length_of_foldl
    (h : tokens.foldl step (.reading expected frames) = .reading expected' frames') :
    frames'.length + tokens.countP Token.closes = frames.length + tokens.countP Token.opens := by
  induction tokens generalizing expected frames with
  | nil =>
    cases h
    rfl
  | cons token tokens ih =>
    rw [List.foldl_cons] at h
    cases hstep : step (.reading expected frames) token with
    | reading _ between =>
      rw [hstep] at h
      have htoken := length_of_step hstep
      have htokens := ih h
      rw [countP_cons_toNat, countP_cons_toNat]
      omega
    | finished value =>
      rw [hstep] at h
      cases tokens with
      | nil => cases h
      | cons next tokens => cases (foldl_step_finished value next tokens).symm.trans h
    | refused refusal =>
      rw [hstep] at h
      cases (foldl_step_refused refusal tokens).symm.trans h

/-- A reader has a frame for each level that is open. -/
theorem length_frames (h : tokens.foldl step .start = .reading expected frames) :
    frames.length = openLevels tokens := by
  have hlevels := length_of_foldl h
  rw [List.length_nil] at hlevels
  unfold openLevels
  omega

/-! ### Limits -/

/-- The token goes beyond a limit where a value may begin. -/
def State.Oversteps : State → Token → Prop
  | reading .value frames, token | reading .itemOrEnd frames, token =>
    token.IsBeyond frames.length
  | _, _ => False

theorem not_metLimit_place (value : Value) (frames : List Frame) :
    ¬ (place value frames).MetLimit := by
  unfold place
  split <;> simp [State.MetLimit]

theorem metLimit_openFrame_iff {isObject : Bool} :
    (openFrame isObject frames).MetLimit ↔ levelLimit ≤ frames.length := by
  unfold openFrame
  split_ifs with hlevels
  · simp [State.MetLimit, hlevels]
  · simp [State.MetLimit, hlevels]
  · simp [State.MetLimit, hlevels]

theorem metLimit_beginValue_iff :
    (beginValue frames token).MetLimit ↔ token.IsBeyond frames.length := by
  cases token with
  | literal _ | text _ => exact iff_of_false (not_metLimit_place _ _) id
  | whole negative digits =>
    unfold beginValue Text.signed
    by_cases hdigits : Text.digitLimit < digits.length
    · simp [State.MetLimit, Token.IsBeyond, hdigits]
    · simp [not_metLimit_place, Token.IsBeyond, hdigits]
  | arrayOpen | objectOpen => exact metLimit_openFrame_iff
  | _ => exact iff_of_false (· rfl) id

theorem step_itemOrEnd (frames : List Frame) (h : token ≠ .arrayClose) :
    step (.reading .itemOrEnd frames) token = beginValue frames token := by
  rcases frames with _ | ⟨_ | _ | _, frames⟩ <;> cases token <;>
    first | rfl | exact absurd rfl h

/-- Only a token where a value may begin meets a limit. -/
theorem metLimit_step_iff :
    (step state token).MetLimit ↔ state.MetLimit ∨ state.Oversteps token := by
  cases state with
  | refused refusal => exact (or_iff_left id).symm
  | finished value => exact iff_of_false (· rfl) (by simp [State.MetLimit, State.Oversteps])
  | reading expected frames =>
    rw [or_iff_right (id : ¬ (State.reading expected frames).MetLimit)]
    cases expected with
    | value => exact metLimit_beginValue_iff
    | itemOrEnd =>
      cases token with
      | arrayClose =>
        refine iff_of_false ?_ id
        rcases frames with _ | ⟨_ | _ | _, frames⟩
        case cons.array => exact not_metLimit_place _ _
        all_goals exact (· rfl)
      | _ =>
        rw [step_itemOrEnd frames (by rintro ⟨⟩)]
        exact metLimit_beginValue_iff
    | keyOrEnd | key | colon | separator =>
      refine iff_of_false ?_ id
      unfold step
      split <;> first | exact not_metLimit_place _ _ | exact (· rfl) | exact id | simp_all

/-- A limit that is met stays met, and some token met it. -/
theorem metLimit_foldl_iff (tokens : List Token) (state : State) :
    (tokens.foldl step state).MetLimit ↔ state.MetLimit ∨
      ∃ before token after, tokens = before ++ token :: after ∧
        (before.foldl step state).Oversteps token := by
  induction tokens generalizing state with
  | nil => simp
  | cons first tokens ih =>
    rw [List.foldl_cons, ih, metLimit_step_iff]
    constructor
    · rintro ((hmet | hoversteps) | ⟨before, token, after, rfl, hoversteps⟩)
      · exact Or.inl hmet
      · exact Or.inr ⟨[], first, tokens, rfl, hoversteps⟩
      · exact Or.inr ⟨first :: before, token, after, rfl, hoversteps⟩
    · rintro (hmet | ⟨_ | ⟨_, before⟩, token, after, htokens, hoversteps⟩)
      · exact Or.inl (Or.inl hmet)
      · obtain ⟨rfl, rfl⟩ := List.cons.inj htokens
        exact Or.inl (Or.inr hoversteps)
      · obtain ⟨rfl, rfl⟩ := List.cons.inj htokens
        exact Or.inr ⟨before, token, after, rfl, hoversteps⟩

theorem oversteps_foldl_iff : (tokens.foldl step .start).Oversteps token ↔
    (tokens.foldl step .start).AwaitsValue ∧ token.IsBeyond (openLevels tokens) := by
  cases hread : tokens.foldl step .start with
  | reading expected frames =>
    rw [← length_frames hread]
    cases expected <;> simp [State.Oversteps, State.AwaitsValue]
  | finished _ | refused _ => simp [State.Oversteps, State.AwaitsValue]

end Reader

/-- A limit is why a document that is not malformed is refused. -/
theorem read_refuses_iff (document : String) :
    (∃ refusal, refusal ≠ .malformed ∧ read document = .error refusal) ↔
      HitsLimit document := by
  have hmet := Reader.metLimit_foldl_iff (Scan.tokens document.toList) .start
  rw [or_iff_right (id : ¬ Reader.State.start.MetLimit)] at hmet
  simp only [HitsLimit, ← Reader.oversteps_foldl_iff, ← hmet]
  change (∃ refusal, _ ∧ ((Scan.tokens document.toList).foldl Reader.step .start).result = _) ↔ _
  cases (Scan.tokens document.toList).foldl Reader.step .start <;>
    simp [Reader.State.result, Reader.State.MetLimit]

/-- Line ends make no difference to the limits. -/
theorem hitsLimit_unifyLineEnds {document : String} :
    HitsLimit (Text.unifyLineEnds document) ↔ HitsLimit document := by
  unfold HitsLimit
  rw [Scan.tokens_eq_of_sameLines (Text.sameLines_unifyLineEnds document)]

/-! ### Short documents -/

namespace Scan

theorem length_fst_digits_le (text : List Char) : (digits text).1.length ≤ text.length :=
  Nat.le_trans (List.length_filterMap_le _ _) (List.takeWhile_prefix _).length_le

theorem length_fst_wholePart_le (c : Char) (rest : List Char) :
    (wholePart c rest).1.length ≤ rest.length + 1 := by
  have hdigits := length_fst_digits_le rest
  unfold wholePart
  split_ifs
  · exact Nat.le_add_left _ _
  · have hfirst : (Text.asciiDigitValue? c).toList.length ≤ 1 := Option.length_toList_le
    rw [List.length_append]
    omega

/-- A whole number has no more digits than the text has characters. -/
theorem length_le_of_number {negative negative' : Bool} {c : Char} {rest : List Char}
    {digits : List Nat} (h : (number negative c rest).1 = .whole negative' digits) :
    digits.length ≤ rest.length + 1 := by
  have hwhole := length_fst_wholePart_le c rest
  unfold number at h
  dsimp only at h
  split_ifs at h
  · cases h
    exact hwhole

theorem length_le_of_next {c : Char} {rest : List Char} {negative : Bool} {digits : List Nat}
    (h : (next c rest).1 = .whole negative digits) : digits.length ≤ rest.length + 1 := by
  unfold next at h
  split at h
  · next token hpunctuation =>
    dsimp only at h
    subst h
    unfold punctuation? at hpunctuation
    split at hpunctuation <;> cases hpunctuation
  by_cases hquote : c = '"'
  · rw [if_pos hquote] at h
    split at h <;> cases h
  rw [if_neg hquote] at h
  split at h
  · cases h
  · split_ifs at h
    · exact Nat.le_succ_of_le (length_le_of_number h)
    · exact length_le_of_number h
  · split_ifs at h
    exact length_le_of_number h

/-- Each token takes at least one character. -/
theorem length_tokens_le (text : List Char) : (tokens text).length ≤ text.length := by
  fun_induction tokens text with
  | case1 => exact Nat.zero_le _
  | case2 text c rest hskipped ih =>
    have hskip := length_dropWhile_le isBlank text
    have hnext := length_next_le c rest
    rw [hskipped, List.length_cons] at hskip
    rw [List.length_cons]
    split_ifs
    · exact Nat.le_trans (Nat.le_add_left _ _) hskip
    · omega

theorem length_le_of_mem_tokens {text : List Char} {negative : Bool} {digits : List Nat}
    (h : .whole negative digits ∈ tokens text) : digits.length ≤ text.length := by
  fun_induction tokens text with
  | case1 => cases h
  | case2 text c rest hskipped ih =>
    have hskip := length_dropWhile_le isBlank text
    have hnext := length_next_le c rest
    rw [hskipped, List.length_cons] at hskip
    rcases List.mem_cons.mp h with hfirst | hbehind
    · exact Nat.le_trans (length_le_of_next hfirst.symm) hskip
    · split_ifs at hbehind
      · cases hbehind
      · have hrest := ih hbehind
        omega

end Scan

/-- A document with no more characters than levels may be open is within the limits. -/
theorem not_hitsLimit_of_length_le {document : String} (h : document.length ≤ Reader.levelLimit) :
    ¬ HitsLimit document := by
  rintro ⟨before, token, after, htokens, -, hbeyond⟩
  have hlength : before.length < document.length := by
    have htotal := Scan.length_tokens_le document.toList
    rw [htokens, List.length_append, List.length_cons, String.length_toList] at htotal
    omega
  have hlevels : openLevels before ≤ before.length :=
    Nat.le_trans (Nat.sub_le _ _) List.countP_le_length
  cases token with
  | arrayOpen | objectOpen =>
    have hbeyond : Reader.levelLimit ≤ openLevels before := hbeyond
    omega
  | whole negative digits =>
    have hmem : .whole negative digits ∈ Scan.tokens document.toList := by simp [htokens]
    have hdigits := Scan.length_le_of_mem_tokens hmem
    have hbeyond : Text.digitLimit < digits.length := hbeyond
    rw [String.length_toList] at hdigits
    unfold Reader.levelLimit at h
    unfold Text.digitLimit at hbeyond
    omega
  | _ => exact hbeyond

end DeskAssistant.Json
