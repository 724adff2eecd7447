import DeskAssistant.Proofs.Text.Lines
import DeskAssistant.Tool.Result

/-!
# Logs whose last line is not ended

A call for the last lines of a log looks for the line feed in front of them by counting line feeds
from the end. A last line that no line feed ends is not counted, and then one line more than asked
for is in front of the line feed that is found (`Text.lines_lastLines`). So the call gives the lines
it is asked for exactly when the log is closed by a line feed or has no more lines than that
(`Tool.logTail_eq_iff`).
-/

set_option autoImplicit false
set_option relaxedAutoImplicit false

namespace DeskAssistant

namespace Text

variable {pieces : List (List Char)} {text : List Char}

theorem AreLines.rtake (h : AreLines pieces text) (count : Nat) :
    AreLines (pieces.rtake count) (pieces.rtake count).flatten := by
  rw [areLines_iff] at h
  rw [h, areLines_iff, lines_flatten_rtake]

/-- Whole lines are kept, one more than asked for of a text that is open at its end. -/
theorem AreLines.lastLines_eq (h : AreLines pieces text) (count : Nat) :
    lastLines text count = (pieces.rtake (count + openLines text)).flatten := by
  rw [← flatten_lines (lastLines text count), lines_lastLines, areLines_iff.mp h]

theorem AreLines.flatten_rtake_eq_iff (h : AreLines pieces text) {first second : Nat} :
    (pieces.rtake first).flatten = (pieces.rtake second).flatten ↔
      min first pieces.length = min second pieces.length := by
  have hlength (count : Nat) : (pieces.rtake count).length = min count pieces.length := by
    rw [List.rtake, List.length_drop]
    omega
  constructor
  · intro heq
    have hsame : pieces.rtake first = pieces.rtake second := by
      rw [areLines_iff.mp (h.rtake first), heq, ← areLines_iff.mp (h.rtake second)]
    rw [← hlength, hsame, hlength]
  · intro hmin
    have hdrop : pieces.length - first = pieces.length - second := by omega
    rw [List.rtake, hdrop, List.rtake]

/-- A text that is cut gets longer than the limit, because of the marker. -/
theorem capHead_eq_iff {text other : String} {limit : Int} (hother : other.length ≤ limit) :
    capHead text limit = other ↔ text = other := by
  unfold capHead
  split_ifs with hshort
  · exact Iff.rfl
  · have hhead : (headPart text.toList limit).length = limit.toNat := by
      rw [headPart, if_pos (by omega), List.length_take, String.length_toList]
      omega
    have hmarker : 0 < truncationMarker.length := by decide
    have hlength : (String.ofList (headPart text.toList limit) ++ truncationMarker).length =
        limit.toNat + truncationMarker.length := by
      rw [String.length_append, String.length_ofList, hhead]
    refine iff_of_false (fun heq ↦ ?_) (fun heq ↦ ?_)
    · rw [heq] at hlength
      omega
    · rw [heq] at hshort
      omega

end Text

namespace Tool

theorem logTail_eq_capHead (text : String) {count : Nat} (hcount : 0 < count) :
    logTail text count = Text.capHead (String.ofList (Text.lastLines text.toList count)) 32000 := by
  have hpositive : (0 : Int) < count := Int.natCast_pos.mpr hcount
  rw [logTail, if_pos hpositive]
  rfl

/-- The last lines of a log, if they fit into a result, are what a call for them gives exactly when
the log is not open at its end or has no more lines. Otherwise it gives one line more. -/
theorem logTail_eq_iff {text : String} {lines : List (List Char)}
    (hlines : Text.AreLines lines text.toList) {count : Nat} (hcount : 0 < count)
    (hshort : (lines.rtake count).flatten.length ≤ 32000) :
    Text.AreLines (lines.rtake count) (lines.rtake count).flatten ∧
      (logTail text count = String.ofList (lines.rtake count).flatten ↔
        ¬ Text.IsOpen text.toList ∨ lines.length ≤ count) ∧
      (Text.IsOpen text.toList → count < lines.length →
        logTail text count =
          Text.capHead (String.ofList (lines.rtake (count + 1)).flatten) 32000) := by
  have htail := logTail_eq_capHead text hcount
  rw [hlines.lastLines_eq] at htail
  refine ⟨hlines.rtake count, ?_, fun hopen _ ↦ ?_⟩
  · have hfits : ((String.ofList (lines.rtake count).flatten).length : Int) ≤ 32000 := by
      rw [String.length_ofList]
      exact Int.ofNat_le.mpr hshort
    rw [htail, Text.capHead_eq_iff hfits, String.ofList_inj, hlines.flatten_rtake_eq_iff]
    unfold Text.openLines
    split_ifs with hopen
    · simp only [hopen, not_true_eq_false, false_or]
      omega
    · simp [hopen]
  · rw [htail, Text.openLines, if_pos hopen]

/-- A log whose last command is still being written. -/
def unfinishedLog : String := "open a\nfit\nplot"

def unfinishedLines : List (List Char) := ["open a\n".toList, "fit\n".toList, "plot".toList]

theorem areLines_unfinishedLines : Text.AreLines unfinishedLines unfinishedLog.toList :=
  Text.areLines_iff.mpr (by decide +kernel)

theorem logTail_eq_all_unfinishedLog :
    (unfinishedLines.rtake 3).flatten.length ≤ 32000 ∧
      logTail unfinishedLog 3 = String.ofList (unfinishedLines.rtake 3).flatten := by
  have hshort : (unfinishedLines.rtake 3).flatten.length ≤ 32000 := by decide +kernel
  obtain ⟨-, hiff, -⟩ := logTail_eq_iff areLines_unfinishedLines (by decide : 0 < 3) hshort
  exact ⟨hshort, hiff.mpr (Or.inr (by decide))⟩

/-- A call for the last line of this log gives two lines. -/
theorem logTail_one_unfinishedLog :
    Text.AreLines unfinishedLines unfinishedLog.toList ∧
      String.ofList (unfinishedLines.rtake 1).flatten = "plot" ∧
      logTail unfinishedLog 1 = "fit\nplot" :=
  ⟨areLines_unfinishedLines, by decide +kernel, by decide +kernel⟩

end Tool

end DeskAssistant
