import DeskAssistant.Proofs.Json.Limits
import DeskAssistant.Proofs.Json.Orderly
import DeskAssistant.Proofs.Json.Written

/-!
# Reading back what was written

The tokens of a value are read as the value, wherever a value may come (`foldl_tokens`): its items
and members come back in the order in which they were written, because the members of an orderly
value are in the order of their keys. So an orderly value without real numbers, whose levels are
within the limit, is read back from what is written for it (`read_write`). Every value that a
document can have is orderly.
-/

set_option autoImplicit false
set_option relaxedAutoImplicit false

namespace DeskAssistant.Json

theorem Value.memberLevels_le_iff {members : Members} {bound : Nat} :
    memberLevels members ≤ bound ↔ ∀ member ∈ members, member.2.levels ≤ bound := by
  induction members with
  | nil => exact iff_of_true (Nat.zero_le _) nofun
  | cons first members ih => rw [memberLevels, Nat.max_le, ih, List.forall_mem_cons]

/-! ### Reading the tokens of a value -/

namespace Reader

open Value

theorem valueOnto_digitsOf (number : Nat) : Text.valueOnto 0 (digitsOf number) = number := by
  have hvalue : Nat.ofDigitChars 10 (Nat.toDigits 10 number) 0 = number :=
    Nat.ofDigitChars_ten_toDigits
  rw [Nat.ofDigitChars_eq_foldl] at hvalue
  simp only [Nat.mul_comm 10] at hvalue
  rw [Text.valueOnto, digitsOf, List.foldl_map]
  exact hvalue

theorem signed_digitsOf {value : Int} (h : value.natAbs < 10 ^ Text.digitLimit) :
    Text.signed (value < 0) (digitsOf value.natAbs) = .ok value := by
  have hlength : (digitsOf value.natAbs).length ≤ Text.digitLimit := by
    rw [digitsOf, List.length_map]
    exact (Nat.length_toDigits_le_iff (by decide) (by decide)).mpr h
  rw [Text.signed, if_neg (Nat.not_lt.mpr hlength), valueOnto_digitsOf]
  by_cases hnegative : value < 0
  · simp only [hnegative, decide_true, if_true]
    congr 1
    omega
  · simp only [hnegative, decide_false, Bool.false_eq_true, if_false]
    congr 1
    omega

theorem openFrame_of_lt (isObject : Bool) {frames : List Frame} (h : frames.length < levelLimit) :
    openFrame isObject frames =
      if isObject then .reading .keyOrEnd (.object [] :: frames)
      else .reading .itemOrEnd (.array [] :: frames) := by
  rw [openFrame, if_neg (Nat.not_le.mpr h)]

/-- No value begins with the end of an array. -/
theorem foldl_tokens_itemOrEnd (value : Value) (frames : List Frame) :
    value.tokens.foldl step (.reading .itemOrEnd frames) =
      value.tokens.foldl step (.reading .value frames) := by
  have hbegins : ∃ token behind, value.tokens = token :: behind ∧ token ≠ .arrayClose := by
    cases value with
    | array items => cases items <;> exact ⟨_, _, rfl, by rintro ⟨⟩⟩
    | object members => cases members <;> exact ⟨_, _, rfl, by rintro ⟨⟩⟩
    | _ => exact ⟨_, _, rfl, by rintro ⟨⟩⟩
  obtain ⟨token, behind, htokens, hne⟩ := hbegins
  rw [htokens, List.foldl_cons, List.foldl_cons, step_itemOrEnd frames hne]
  rfl

mutual

/-- The tokens of a value are read as the value. -/
theorem foldl_tokens : ∀ (value : Value) (frames : List Frame), value.IsOrderly →
    frames.length + value.levels ≤ levelLimit →
      value.tokens.foldl step (.reading .value frames) = place value frames
  | .null, _, _, _ => rfl
  | .truth _, _, _, _ => rfl
  | .integer value, frames, horderly, _ => by
    cases horderly with
    | integer hvalue =>
      change beginValue frames (.whole _ _) = _
      rw [beginValue, signed_digitsOf hvalue]
  | .real _, _, _, _ => rfl
  | .text _, _, _, _ => rfl
  | .array [], frames, _, hlevels => by
    have hopen : openFrame false frames = .reading .itemOrEnd (.array [] :: frames) :=
      openFrame_of_lt false (Nat.lt_of_succ_le hlevels)
    change step (openFrame false frames) .arrayClose = _
    rw [hopen]
    rfl
  | .array (item :: items), frames, horderly, hlevels => by
    cases horderly with
    | array horderly =>
      obtain ⟨hitem, hitems⟩ := List.forall_mem_cons.mp horderly
      have hdeep : (array (item :: items)).levels = max item.levels (itemLevels items) + 1 := rfl
      have hopen : step (.reading .value frames) .arrayOpen =
          .reading .itemOrEnd (.array [] :: frames) := openFrame_of_lt false (by omega)
      have hfirst := foldl_tokens item (.array [] :: frames) hitem
        (by rw [List.length_cons]; omega)
      have hbehind := foldl_itemTokens items [item] frames hitems (by omega)
      rw [tokens, List.foldl_cons, hopen, List.foldl_append, List.foldl_append,
        foldl_tokens_itemOrEnd, hfirst, place, hbehind]
      change place (array (items.reverse ++ [item]).reverse) frames = _
      rw [List.reverse_append, List.reverse_reverse, List.reverse_singleton, List.singleton_append]
  | .object [], frames, _, hlevels => by
    have hopen : openFrame true frames = .reading .keyOrEnd (.object [] :: frames) :=
      openFrame_of_lt true (Nat.lt_of_succ_le hlevels)
    change step (openFrame true frames) .objectClose = _
    rw [hopen]
    rfl
  | .object ((key, value) :: members), frames, horderly, hlevels => by
    cases horderly with
    | object hordered horderly =>
      obtain ⟨hvalue, hmembers⟩ := List.forall_mem_cons.mp horderly
      have hdeep : (object ((key, value) :: members)).levels =
          max value.levels (memberLevels members) + 1 := rfl
      have hopen : step (.reading .value frames) .objectOpen =
          .reading .keyOrEnd (.object [] :: frames) := openFrame_of_lt true (by omega)
      have hfirst := foldl_tokens value (.member key [] :: frames) hvalue
        (by rw [List.length_cons]; omega)
      have hbehind := foldl_memberTokens members [(key, value)] frames hordered hmembers (by omega)
      rw [tokens, List.foldl_cons, hopen, List.foldl_cons, List.foldl_cons, List.foldl_append,
        List.foldl_append]
      change List.foldl step (List.foldl step (List.foldl step
        (.reading .value (.member key [] :: frames)) value.tokens) (memberTokens members))
        [.objectClose] = _
      rw [hfirst, place, putMember, hbehind]
      rfl

theorem foldl_itemTokens : ∀ (items before : List Value) (frames : List Frame),
    (∀ item ∈ items, item.IsOrderly) → frames.length + 1 + itemLevels items ≤ levelLimit →
      (itemTokens items).foldl step (.reading .separator (.array before :: frames)) =
        .reading .separator (.array (items.reverse ++ before) :: frames)
  | [], _, _, _, _ => rfl
  | item :: items, before, frames, horderly, hlevels => by
    obtain ⟨hitem, hitems⟩ := List.forall_mem_cons.mp horderly
    have hdeep : itemLevels (item :: items) = max item.levels (itemLevels items) := rfl
    have hfirst := foldl_tokens item (.array before :: frames) hitem
      (by rw [List.length_cons]; omega)
    have hbehind := foldl_itemTokens items (item :: before) frames hitems (by omega)
    rw [itemTokens, List.foldl_cons, List.foldl_append]
    change List.foldl step (List.foldl step (.reading .value (.array before :: frames)) item.tokens)
      (itemTokens items) = _
    rw [hfirst, place, hbehind, List.reverse_cons, List.append_assoc, List.singleton_append]

theorem foldl_memberTokens : ∀ (members before : Members) (frames : List Frame),
    Members.AreOrdered (before ++ members) → (∀ member ∈ members, member.2.IsOrderly) →
      frames.length + 1 + memberLevels members ≤ levelLimit →
        (memberTokens members).foldl step (.reading .separator (.object before :: frames)) =
          .reading .separator (.object (before ++ members) :: frames)
  | [], before, _, _, _, _ => by
    rw [List.append_nil]
    rfl
  | (key, value) :: members, before, frames, hordered, horderly, hlevels => by
    obtain ⟨hvalue, hmembers⟩ := List.forall_mem_cons.mp horderly
    have hdeep : memberLevels ((key, value) :: members) =
        max value.levels (memberLevels members) := rfl
    have hput : putMember key value before = before ++ [(key, value)] := by
      refine putMember_of_areOrdered ?_
      rw [List.append_cons] at hordered
      exact (List.pairwise_append.mp hordered).1
    have hfirst := foldl_tokens value (.member key before :: frames) hvalue
      (by rw [List.length_cons]; omega)
    have hbehind := foldl_memberTokens members (before ++ [(key, value)]) frames
      (by rwa [← List.append_cons]) hmembers (by omega)
    rw [memberTokens, List.foldl_cons, List.foldl_cons, List.foldl_cons, List.foldl_append]
    change List.foldl step (List.foldl step (.reading .value (.member key before :: frames))
      value.tokens) (memberTokens members) = _
    rw [hfirst, place, hput, hbehind, ← List.append_cons]

end

end Reader

/-- What is written for an orderly value within the limits is read as this value. -/
theorem read_write {value : Value} (horderly : value.IsOrderly) (hreal : value.holdsReal = false)
    (hlevels : value.levels ≤ Reader.levelLimit) : read (write value) = .ok value := by
  have hfold := Reader.foldl_tokens value [] horderly (by rwa [List.length_nil, Nat.zero_add])
  rw [read, tokens_write hreal, hfold]
  rfl

end DeskAssistant.Json
