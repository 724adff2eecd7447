import DeskAssistant.Text.CodeUnit
import Mathlib.Tactic.Common

/-!
# Strings and their code units

A string is determined by its UTF-16 code units (`codeUnits_injective`): the first unit of a
character says whether a second one belongs to it, because no character is a surrogate.
-/

set_option autoImplicit false
set_option relaxedAutoImplicit false

namespace DeskAssistant.Text

theorem toUInt16_inj {first second : Nat} (hfirst : first < 0x10000) (hsecond : second < 0x10000)
    (h : first.toUInt16 = second.toUInt16) : first = second := by
  have hnat := congrArg UInt16.toNat h
  simp only [Nat.toUInt16, UInt16.toNat_ofNat'] at hnat
  omega

/-- The units of a character tell where it ends. -/
theorem charUnits_append_inj {first second : Char} {left right : List CodeUnit}
    (h : charUnits first ++ left = charUnits second ++ right) :
    first = second ∧ left = right := by
  have hvalid (c : Char) : c.toNat < 0xd800 ∨ (0xdfff < c.toNat ∧ c.toNat < 0x110000) := c.valid
  have hfirst := hvalid first
  have hsecond := hvalid second
  unfold charUnits at h
  dsimp only at h
  have heq (hcode : first.toNat = second.toNat) : first = second := Char.toNat_inj.mp hcode
  split_ifs at h with hlow hother hother
  · simp only [List.cons_append, List.nil_append, List.cons.injEq] at h
    exact ⟨heq (toUInt16_inj hlow hother h.1), h.2⟩
  · simp only [List.cons_append, List.nil_append, List.cons.injEq] at h
    have hunit := toUInt16_inj (by omega) (by omega) h.1
    omega
  · simp only [List.cons_append, List.nil_append, List.cons.injEq] at h
    have hunit := toUInt16_inj (by omega) (by omega) h.1
    omega
  · simp only [List.cons_append, List.nil_append, List.cons.injEq] at h
    obtain ⟨hhigh, hlow', hrest⟩ := h
    have hhigh := toUInt16_inj (by omega) (by omega) hhigh
    have hlow' := toUInt16_inj (by omega) (by omega) hlow'
    exact ⟨heq (by omega), hrest⟩

theorem charUnits_ne_nil (c : Char) : charUnits c ≠ [] := by
  unfold charUnits
  dsimp only
  split_ifs <;> simp

/-- No character begins with the second half of a surrogate pair. -/
theorem charUnits_append_ne (c : Char) {offset : Nat} (hoffset : offset < 0x400)
    (rest behind : List CodeUnit) :
    charUnits c ++ rest ≠ (0xdc00 + offset).toUInt16 :: behind := by
  intro h
  have hvalid : c.toNat < 0xd800 ∨ (0xdfff < c.toNat ∧ c.toNat < 0x110000) := c.valid
  unfold charUnits at h
  dsimp only at h
  split_ifs at h with hplane
  · have hunit := toUInt16_inj hplane (by omega) (List.cons.inj h).1
    omega
  · have hunit := toUInt16_inj (by omega) (by omega) (List.cons.inj h).1
    omega

theorem codeUnits_injective {first second : String} (h : codeUnits first = codeUnits second) :
    first = second := by
  rw [← String.toList_inj]
  unfold codeUnits at h
  generalize first.toList = left at h
  generalize second.toList = right at h
  induction left generalizing right with
  | nil =>
    cases right with
    | nil => rfl
    | cons c right =>
      rw [List.flatMap_nil, List.flatMap_cons] at h
      exact absurd (List.append_eq_nil_iff.mp h.symm).1 (charUnits_ne_nil c)
  | cons c left ih =>
    cases right with
    | nil =>
      rw [List.flatMap_nil, List.flatMap_cons] at h
      exact absurd (List.append_eq_nil_iff.mp h).1 (charUnits_ne_nil c)
    | cons d right =>
      rw [List.flatMap_cons, List.flatMap_cons] at h
      obtain ⟨rfl, hrest⟩ := charUnits_append_inj h
      rw [ih right hrest]

end DeskAssistant.Text
