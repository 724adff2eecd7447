import DeskAssistant.Json.Reader
import Mathlib.Algebra.Group.Nat.Defs
import Mathlib.Data.List.Lex
import Mathlib.Tactic.Common

/-!
# Orderly values

The members of an object are in the order of their keys, and each key has one member. An integer has
few enough digits to be read. A value in which this holds throughout is orderly. A reader keeps all
that it has read so, token by token (`isOrderly_step`), and so every value that is read is orderly
(`isOrderly_of_read`).
-/

set_option autoImplicit false
set_option relaxedAutoImplicit false

namespace DeskAssistant.Json

/-! ### Members in order -/

section Order

variable {key : List Text.CodeUnit} {value : Value} {members : Members}

theorem not_keyBefore_self (key : List Text.CodeUnit) : keyBefore key key = false :=
  decide_eq_false (lt_irrefl (Text.codePoints key))

theorem keyBefore_trans {first second third : List Text.CodeUnit}
    (hfirst : keyBefore first second = true) (hsecond : keyBefore second third = true) :
    keyBefore first third = true :=
  decide_eq_true ((of_decide_eq_true hfirst).trans (of_decide_eq_true hsecond))

/-- Each key has one member, and no key comes before an earlier one. -/
def Members.AreOrdered (members : Members) : Prop :=
  members.Pairwise fun first second ↦
    first.1 ≠ second.1 ∧ keyBefore second.1 first.1 = false

theorem mem_putMember {member : List Text.CodeUnit × Value}
    (h : member ∈ putMember key value members) : member = (key, value) ∨ member ∈ members := by
  induction members with
  | nil => exact Or.inl (List.mem_singleton.mp h)
  | cons first rest ih =>
    obtain ⟨other, present⟩ := first
    rw [putMember] at h
    split_ifs at h
    · exact (List.mem_cons.mp h).imp_right fun h ↦ List.mem_cons_of_mem _ h
    · exact List.mem_cons.mp h
    · rcases List.mem_cons.mp h with hfirst | hrest
      · exact Or.inr (List.mem_cons.mpr (Or.inl hfirst))
      · exact (ih hrest).imp_right fun h ↦ List.mem_cons_of_mem _ h

/-- A member whose key comes behind the others is put at the end. -/
theorem putMember_of_areOrdered (h : Members.AreOrdered (members ++ [(key, value)])) :
    putMember key value members = members ++ [(key, value)] := by
  induction members with
  | nil => rfl
  | cons first rest ih =>
    obtain ⟨other, present⟩ := first
    obtain ⟨hfirst, hrest⟩ := List.pairwise_cons.mp h
    obtain ⟨hne, hbefore⟩ :=
      hfirst (key, value) (List.mem_append_right _ (List.mem_singleton_self _))
    rw [putMember, if_neg (Ne.symm hne), hbefore, if_neg Bool.false_ne_true, ih hrest,
      List.cons_append]

theorem Members.AreOrdered.putMember (h : members.AreOrdered) :
    Members.AreOrdered (putMember key value members) := by
  induction members with
  | nil => exact List.pairwise_singleton _ _
  | cons first rest ih =>
    obtain ⟨other, present⟩ := first
    obtain ⟨hfirst, hrest⟩ := List.pairwise_cons.mp h
    rw [Json.putMember]
    split_ifs with hsame hbefore
    · rw [hsame]
      exact List.pairwise_cons.mpr ⟨hfirst, hrest⟩
    · refine List.pairwise_cons.mpr ⟨fun member hmember ↦ ?_, h⟩
      rcases List.mem_cons.mp hmember with rfl | hmember
      · refine ⟨hsame, Bool.eq_false_iff.mpr fun hback ↦ ?_⟩
        exact Bool.eq_false_iff.mp (not_keyBefore_self key) (keyBefore_trans hbefore hback)
      · have hback := (hfirst member hmember).2
        refine ⟨?_, Bool.eq_false_iff.mpr fun hmemberBefore ↦ ?_⟩
        · rintro rfl
          exact Bool.eq_false_iff.mp hback hbefore
        · exact Bool.eq_false_iff.mp hback (keyBefore_trans hmemberBefore hbefore)
    · refine List.pairwise_cons.mpr ⟨fun member hmember ↦ ?_, ih hrest⟩
      rcases mem_putMember hmember with rfl | hmember
      · exact ⟨Ne.symm hsame, Bool.eq_false_iff.mpr hbefore⟩
      · exact hfirst member hmember

theorem lookup_cons_eq (key other : List Text.CodeUnit) (value : Value) (members : Members) :
    List.lookup other ((key, value) :: members) =
      if other = key then some value else members.lookup other := by
  rw [List.lookup_cons]
  by_cases hother : other = key
  · rw [hother, if_pos rfl, beq_self_eq_true]
  · rw [if_neg hother, beq_false_of_ne hother]

/-- The member that was put is found, and the others are found as before. -/
theorem lookup_putMember (other : List Text.CodeUnit) :
    (putMember key value members).lookup other =
      if other = key then some value else members.lookup other := by
  induction members with
  | nil => exact lookup_cons_eq key other value []
  | cons first rest ih =>
    obtain ⟨present, held⟩ := first
    rw [putMember]
    by_cases hsame : key = present
    · rw [if_pos hsame, lookup_cons_eq, lookup_cons_eq, hsame]
      split_ifs <;> rfl
    rw [if_neg hsame]
    by_cases hbefore : keyBefore key present = true
    · rw [if_pos hbefore, lookup_cons_eq]
    rw [if_neg hbefore, lookup_cons_eq, lookup_cons_eq, ih]
    by_cases hother : other = present
    · have hne : other ≠ key := fun h ↦ hsame (h.symm.trans hother)
      rw [if_pos hother, if_pos hother, if_neg hne]
    · rw [if_neg hother, if_neg hother]

/-! Members that are given in any order. -/

theorem areOrdered_foldl_putMember (given : List (String × Value)) {members : Members}
    (h : members.AreOrdered) : Members.AreOrdered
      (given.foldl (fun members (key, value) ↦ putMember (Text.codeUnits key) value members)
        members) := by
  induction given generalizing members with
  | nil => exact h
  | cons first given ih => exact ih h.putMember

theorem Members.areOrdered_ofList (given : List (String × Value)) :
    (Members.ofList given).AreOrdered := areOrdered_foldl_putMember given .nil

theorem mem_foldl_putMember (given : List (String × Value)) {members : Members}
    {member : List Text.CodeUnit × Value} (h : member ∈
      given.foldl (fun members (key, value) ↦ putMember (Text.codeUnits key) value members)
        members) : member ∈ members ∨ ∃ item ∈ given, item.2 = member.2 := by
  induction given generalizing members with
  | nil => exact Or.inl h
  | cons first given ih =>
    obtain hput | ⟨item, hitem, hvalue⟩ := ih h
    · obtain rfl | hmember := mem_putMember hput
      · exact Or.inr ⟨first, List.mem_cons_self, rfl⟩
      · exact Or.inl hmember
    · exact Or.inr ⟨item, List.mem_cons_of_mem _ hitem, hvalue⟩

/-- No value comes from elsewhere. -/
theorem Members.exists_of_mem_ofList {given : List (String × Value)}
    {member : List Text.CodeUnit × Value} (h : member ∈ Members.ofList given) :
    ∃ item ∈ given, item.2 = member.2 :=
  (mem_foldl_putMember given h).resolve_left (List.not_mem_nil)

end Order

/-! ### Orderly values -/

/-- The integers of the value can be read, and its members are in order. -/
inductive Value.IsOrderly : Value → Prop
  | null : IsOrderly null
  | truth (value : Bool) : IsOrderly (truth value)
  | integer {value : Int} (h : value.natAbs < 10 ^ Text.digitLimit) : IsOrderly (integer value)
  | real (value : Decimal.Binary64) : IsOrderly (real value)
  | text (units : List Text.CodeUnit) : IsOrderly (text units)
  | array {items : List Value} (h : ∀ item ∈ items, item.IsOrderly) : IsOrderly (array items)
  | object {members : Members} (hordered : members.AreOrdered)
      (h : ∀ member ∈ members, member.2.IsOrderly) : IsOrderly (object members)

/-! ### Values that are read -/

/-- The digits of the token are digits, and its value is orderly. -/
def Token.IsOrderly : Token → Prop
  | whole _ digits => ∀ digit ∈ digits, digit < 10
  | literal value => value.IsOrderly
  | _ => True

namespace Scan

theorem lt_ten_of_asciiDigitValue? {c : Char} {digit : Nat}
    (h : Text.asciiDigitValue? c = some digit) : digit < 10 := by
  rw [Text.asciiDigitValue?, Option.ite_none_right_eq_some, Option.some.injEq] at h
  obtain ⟨⟨-, hnine⟩, rfl⟩ := h
  have hbound : c.toNat ≤ 57 := hnine
  omega

theorem lt_ten_of_mem_digits {text : List Char} {digit : Nat} (h : digit ∈ (digits text).1) :
    digit < 10 := by
  obtain ⟨c, -, hc⟩ := List.mem_filterMap.mp h
  exact lt_ten_of_asciiDigitValue? hc

theorem lt_ten_of_mem_wholePart {c : Char} {rest : List Char} {digit : Nat}
    (h : digit ∈ (wholePart c rest).1) : digit < 10 := by
  unfold wholePart at h
  split_ifs at h
  · rw [List.mem_singleton.mp h]
    decide
  · rcases List.mem_append.mp h with hfirst | hrest
    · exact lt_ten_of_asciiDigitValue? (Option.mem_toList.mp hfirst)
    · exact lt_ten_of_mem_digits hrest

theorem isOrderly_number (negative : Bool) (c : Char) (rest : List Char) :
    (number negative c rest).1.IsOrderly := by
  unfold number
  dsimp only
  split_ifs
  · exact fun digit hdigit ↦ lt_ten_of_mem_wholePart hdigit
  · exact .real _

theorem isOrderly_of_mem_words {word : List Char × Value} (h : word ∈ words) :
    word.2.IsOrderly := by
  simp only [words, List.mem_cons, List.not_mem_nil, or_false] at h
  rcases h with rfl | rfl | rfl | rfl | rfl | rfl
  · exact .null
  · exact .truth true
  · exact .truth false
  · exact .real _
  · exact .real _
  · exact .real _

theorem isOrderly_next (c : Char) (rest : List Char) : (next c rest).1.IsOrderly := by
  unfold next
  split
  · next token hmark =>
    unfold punctuation? at hmark
    split at hmark <;> cases hmark <;> exact trivial
  by_cases hquote : c = '"'
  · rw [if_pos hquote]
    split <;> exact trivial
  rw [if_neg hquote]
  split
  · next hfound => exact isOrderly_of_mem_words (List.mem_of_find?_eq_some hfound)
  · split_ifs
    · exact isOrderly_number _ _ _
    · exact isOrderly_number _ _ _
    · exact trivial
  · split_ifs
    · exact isOrderly_number _ _ _
    · exact trivial

theorem isOrderly_of_mem_tokens {text : List Char} {token : Token} (h : token ∈ tokens text) :
    token.IsOrderly := by
  fun_induction tokens text with
  | case1 => cases h
  | case2 text c rest _ ih =>
    rcases List.mem_cons.mp h with rfl | hbehind
    · exact isOrderly_next c rest
    · split_ifs at hbehind
      · cases hbehind
      · exact ih hbehind

end Scan

namespace Reader

/-- What was read of an array or an object is orderly. -/
def Frame.IsOrderly : Frame → Prop
  | array items => ∀ item ∈ items, item.IsOrderly
  | object members | member _ members =>
    members.AreOrdered ∧ ∀ member ∈ members, member.2.IsOrderly

def State.IsOrderly : State → Prop
  | reading _ frames => ∀ frame ∈ frames, frame.IsOrderly
  | finished value => value.IsOrderly
  | refused _ => True

variable {state : State} {token : Token} {frames : List Frame} {value : Value}

theorem isOrderly_place (hvalue : value.IsOrderly) (hframes : ∀ frame ∈ frames, frame.IsOrderly) :
    (place value frames).IsOrderly := by
  rcases frames with _ | ⟨items | members | ⟨key, members⟩, frames⟩
  · exact hvalue
  · obtain ⟨hitems, hframes⟩ := List.forall_mem_cons.mp hframes
    exact List.forall_mem_cons.mpr ⟨List.forall_mem_cons.mpr ⟨hvalue, hitems⟩, hframes⟩
  · exact trivial
  · obtain ⟨⟨hordered, hmembers⟩, hframes⟩ := List.forall_mem_cons.mp hframes
    refine List.forall_mem_cons.mpr ⟨⟨hordered.putMember, fun member hmember ↦ ?_⟩, hframes⟩
    rcases mem_putMember hmember with rfl | hmember
    · exact hvalue
    · exact hmembers member hmember

theorem isOrderly_openFrame (isObject : Bool) (hframes : ∀ frame ∈ frames, frame.IsOrderly) :
    (openFrame isObject frames).IsOrderly := by
  unfold openFrame
  split_ifs
  · exact trivial
  · exact List.forall_mem_cons.mpr ⟨⟨.nil, nofun⟩, hframes⟩
  · exact List.forall_mem_cons.mpr ⟨nofun, hframes⟩

theorem valueOnto_lt (value : Nat) {digits : List Nat} (h : ∀ digit ∈ digits, digit < 10) :
    Text.valueOnto value digits < (value + 1) * 10 ^ digits.length := by
  induction digits generalizing value with
  | nil => simp [Text.valueOnto]
  | cons digit digits ih =>
    obtain ⟨hdigit, hdigits⟩ := List.forall_mem_cons.mp h
    calc Text.valueOnto (value * 10 + digit) digits
        < (value * 10 + digit + 1) * 10 ^ digits.length := ih _ hdigits
      _ ≤ (value + 1) * 10 * 10 ^ digits.length := Nat.mul_le_mul_right _ (by omega)
      _ = (value + 1) * 10 ^ (digit :: digits).length := by
        rw [List.length_cons, Nat.pow_succ', Nat.mul_assoc]

/-- An integer with few enough digits can be read again. -/
theorem natAbs_lt_of_signed {negative : Bool} {digits : List Nat} {number : Int}
    (h : Text.signed negative digits = .ok number) (hdigits : ∀ digit ∈ digits, digit < 10) :
    number.natAbs < 10 ^ Text.digitLimit := by
  have hlimit : ¬ Text.digitLimit < digits.length := fun hlong ↦ by
    rw [Text.signed, if_pos hlong] at h
    cases h
  have hnumber : number.natAbs = Text.valueOnto 0 digits := by
    rw [Text.signed, if_neg hlimit] at h
    rw [← Except.ok.inj h]
    cases negative with
    | true => exact (Int.natAbs_neg _).trans (Int.natAbs_natCast _)
    | false => exact Int.natAbs_natCast _
  calc number.natAbs = Text.valueOnto 0 digits := hnumber
    _ < (0 + 1) * 10 ^ digits.length := valueOnto_lt 0 hdigits
    _ = 10 ^ digits.length := by rw [Nat.zero_add, Nat.one_mul]
    _ ≤ 10 ^ Text.digitLimit := Nat.pow_le_pow_right (by decide) (Nat.not_lt.mp hlimit)

theorem isOrderly_beginValue (htoken : token.IsOrderly)
    (hframes : ∀ frame ∈ frames, frame.IsOrderly) : (beginValue frames token).IsOrderly := by
  cases token with
  | literal value => exact isOrderly_place htoken hframes
  | text units => exact isOrderly_place (.text units) hframes
  | whole negative digits =>
    unfold beginValue
    dsimp only
    split
    · next number hnumber =>
      exact isOrderly_place (.integer (natAbs_lt_of_signed hnumber htoken)) hframes
    · exact trivial
  | arrayOpen | objectOpen => exact isOrderly_openFrame _ hframes
  | _ => exact trivial

/-- What a step preserves. -/
theorem isOrderly_step (hstate : state.IsOrderly) (htoken : token.IsOrderly) :
    (step state token).IsOrderly := by
  unfold step
  split
  case h_1 | h_3 => exact isOrderly_beginValue htoken hstate
  case h_2 | h_9 =>
    obtain ⟨hitems, hframes⟩ := List.forall_mem_cons.mp hstate
    exact isOrderly_place (.array fun item hitem ↦ hitems item (List.mem_reverse.mp hitem)) hframes
  case h_4 | h_11 =>
    obtain ⟨⟨hordered, hmembers⟩, hframes⟩ := List.forall_mem_cons.mp hstate
    exact isOrderly_place (.object hordered hmembers) hframes
  case h_5 | h_6 =>
    obtain ⟨hmembers, hframes⟩ := List.forall_mem_cons.mp hstate
    exact List.forall_mem_cons.mpr ⟨hmembers, hframes⟩
  all_goals first | exact hstate | exact trivial

theorem isOrderly_foldl (tokens : List Token) (hstate : state.IsOrderly)
    (htokens : ∀ token ∈ tokens, token.IsOrderly) : (tokens.foldl step state).IsOrderly := by
  induction tokens generalizing state with
  | nil => exact hstate
  | cons token tokens ih =>
    obtain ⟨htoken, htokens⟩ := List.forall_mem_cons.mp htokens
    exact ih (isOrderly_step hstate htoken) htokens

end Reader

theorem isOrderly_of_read {document : String} {value : Value} (h : read document = .ok value) :
    value.IsOrderly := by
  have hstart : (Reader.State.reading .value []).IsOrderly := nofun
  have horderly := Reader.isOrderly_foldl (Scan.tokens document.toList) hstart
    fun token htoken ↦ Scan.isOrderly_of_mem_tokens htoken
  unfold read at h
  cases hstate : (Scan.tokens document.toList).foldl Reader.step (.reading .value []) with
  | reading expected frames =>
    rw [hstate] at h
    cases h
  | refused refusal =>
    rw [hstate] at h
    cases h
  | finished result =>
    rw [hstate] at h horderly
    rw [← Except.ok.inj h]
    exact horderly

end DeskAssistant.Json
