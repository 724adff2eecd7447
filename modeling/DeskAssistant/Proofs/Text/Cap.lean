import DeskAssistant.Text.Cap
import Mathlib.Data.List.Infix
import Mathlib.Tactic.Common

/-!
# Texts cut once and again

A text over its limit keeps as many characters as the limit allows, at its beginning or at its end,
and the marker takes the place of the rest (`CutsTo`). With its marker the cut text is over the
limit again, and cutting it once more goes through that marker. Still nothing changes, since what
was kept stands at the end at which the next cut keeps (`Marks`) and has just the length that is
kept (`CutsTo.cap_cap`).
-/

set_option autoImplicit false
set_option relaxedAutoImplicit false

namespace DeskAssistant.Text

/-! ### Cuts at either end -/

/-- Texts over a limit are cut to a part at one end, where `IsEnd` has it, and marked. -/
structure CutsTo (IsEnd : List Char → List Char → Prop) (marked : String → String) (limit : Nat)
    (cap : String → String) : Prop where
  eq_self : ∀ text, text.length ≤ limit → cap text = text
  exists_kept : ∀ text, limit < text.length →
    ∃ kept, IsEnd kept.toList text.toList ∧ kept.length = limit ∧ cap text = marked kept

/-- The marker is put at the other end of a part. -/
structure Marks (IsEnd : List Char → List Char → Prop) (marked : String → String) : Prop where
  isEnd_marked : ∀ kept, IsEnd kept.toList (marked kept).toList
  eq_of_isEnd : ∀ {kept other text : List Char}, IsEnd kept text → IsEnd other text →
    kept.length = other.length → kept = other
  length_marked : ∀ kept, (marked kept).length = kept.length + (marked "").length
  marker_pos : 0 < (marked "").length

theorem marks_head : Marks (· <+: ·) (· ++ truncationMarker) where
  isEnd_marked kept := by
    rw [String.toList_append]
    exact List.prefix_append _ _
  eq_of_isEnd hkept hother hlength :=
    (List.prefix_of_prefix_length_le hkept hother hlength.le).eq_of_length hlength
  length_marked kept := by rw [String.length_append, String.empty_append]
  marker_pos := by decide

theorem marks_tail : Marks (· <:+ ·) (leadingMarker ++ ·) where
  isEnd_marked kept := by
    rw [String.toList_append]
    exact List.suffix_append _ _
  eq_of_isEnd hkept hother hlength :=
    (List.suffix_of_suffix_length_le hkept hother hlength.le).eq_of_length hlength
  length_marked kept := by rw [String.length_append, String.append_empty, Nat.add_comm]
  marker_pos := by decide

section CutsTo

variable {IsEnd : List Char → List Char → Prop} {marked cap : String → String} {limit : Nat}

theorem CutsTo.length_of_lt (h : CutsTo IsEnd marked limit cap) (hmarks : Marks IsEnd marked)
    {text : String} (hlong : limit < text.length) :
    (cap text).length = limit + (marked "").length := by
  obtain ⟨kept, -, hlength, hcap⟩ := h.exists_kept text hlong
  rw [hcap, hmarks.length_marked, hlength]

theorem CutsTo.length_le (h : CutsTo IsEnd marked limit cap) (hmarks : Marks IsEnd marked)
    (text : String) : (cap text).length ≤ limit + (marked "").length := by
  by_cases hshort : text.length ≤ limit
  · rw [h.eq_self text hshort]
    exact Nat.le_add_right_of_le hshort
  · exact (h.length_of_lt hmarks (Nat.lt_of_not_le hshort)).le

/-- A second cut keeps what the first one kept. -/
theorem CutsTo.cap_cap (h : CutsTo IsEnd marked limit cap) (hmarks : Marks IsEnd marked)
    (text : String) : cap (cap text) = cap text := by
  by_cases hshort : text.length ≤ limit
  · rw [h.eq_self text hshort, h.eq_self text hshort]
  · have hlong : limit < text.length := Nat.lt_of_not_le hshort
    have hagain : limit < (cap text).length := by
      rw [h.length_of_lt hmarks hlong]
      exact Nat.lt_add_of_pos_right hmarks.marker_pos
    obtain ⟨kept, -, hlength, hcap⟩ := h.exists_kept text hlong
    obtain ⟨other, hother, hlength', hcap'⟩ := h.exists_kept (cap text) hagain
    rw [hcap] at hother
    have hsame : other.toList = kept.toList := by
      refine hmarks.eq_of_isEnd hother (hmarks.isEnd_marked kept) ?_
      rw [String.length_toList, String.length_toList, hlength', hlength]
    rw [hcap', hcap, String.toList_inj.mp hsame]

end CutsTo

/-! ### The two caps -/

theorem cutsTo_capHead (limit : Nat) :
    CutsTo (· <+: ·) (· ++ truncationMarker) limit (capHead · limit) where
  eq_self text hshort := by rw [capHead_natCast, if_pos hshort]
  exists_kept text hlong := by
    refine ⟨String.ofList (text.toList.take limit), ?_, ?_, ?_⟩
    · rw [String.toList_ofList]
      exact List.take_prefix _ _
    · rw [String.length_ofList, List.length_take, String.length_toList]
      exact Nat.min_eq_left hlong.le
    · rw [capHead_natCast, if_neg (Nat.not_le.mpr hlong)]

/-- A tail of length zero would be the whole text. -/
theorem cutsTo_capTail {limit : Nat} (hlimit : 0 < limit) :
    CutsTo (· <:+ ·) (leadingMarker ++ ·) limit (capTail · limit) where
  eq_self text hshort := by rw [capTail_natCast _ hlimit, if_pos hshort]
  exists_kept text hlong := by
    refine ⟨String.ofList (text.toList.drop (text.length - limit)), ?_, ?_, ?_⟩
    · rw [String.toList_ofList]
      exact List.drop_suffix _ _
    · rw [String.length_ofList, List.length_drop, String.length_toList]
      exact Nat.sub_sub_self hlong.le
    · rw [capTail_natCast _ hlimit, if_neg (Nat.not_le.mpr hlong)]

/-- What a cap makes of every text: it is exact and bounded, and a second time it changes nothing,
although what it cut is over the limit again. -/
structure IsExactCap (IsEnd : List Char → List Char → Prop) (marked : String → String)
    (limit : Nat) (cap : String → String) : Prop extends CutsTo IsEnd marked limit cap where
  length_le : ∀ text, (cap text).length ≤ limit + (marked "").length
  limit_lt : ∀ text, limit < text.length → limit < (cap text).length
  cap_cap : ∀ text, cap (cap text) = cap text

theorem CutsTo.isExactCap {IsEnd : List Char → List Char → Prop} {marked cap : String → String}
    {limit : Nat} (h : CutsTo IsEnd marked limit cap) (hmarks : Marks IsEnd marked) :
    IsExactCap IsEnd marked limit cap where
  toCutsTo := h
  length_le := h.length_le hmarks
  limit_lt text hlong := by
    rw [h.length_of_lt hmarks hlong]
    exact Nat.lt_add_of_pos_right hmarks.marker_pos
  cap_cap := h.cap_cap hmarks

/-- Both caps are exact at every limit from one on. -/
theorem isExactCap_capHead_capTail {limit : Nat} (hlimit : 1 ≤ limit) :
    IsExactCap (· <+: ·) (· ++ truncationMarker) limit (capHead · limit) ∧
      IsExactCap (· <:+ ·) (leadingMarker ++ ·) limit (capTail · limit) :=
  ⟨(cutsTo_capHead limit).isExactCap marks_head, (cutsTo_capTail hlimit).isExactCap marks_tail⟩

/-- Six characters are cut to three at either end, and stay as they are the second time. -/
theorem caps_sixLetters : 1 ≤ 3 ∧
    capHead (capHead "abcdef" (3 : Nat)) (3 : Nat) = "abc\n...[truncated]...\n" ∧
    capTail (capTail "abcdef" (3 : Nat)) (3 : Nat) = "...[truncated]...\ndef" := by
  obtain ⟨hhead, htail⟩ := isExactCap_capHead_capTail (show 1 ≤ 3 by decide)
  refine ⟨by decide, (hhead.cap_cap "abcdef").trans ?_, (htail.cap_cap "abcdef").trans ?_⟩
  · decide
  · decide

end DeskAssistant.Text
