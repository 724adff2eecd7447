import DeskAssistant.Prompt
import Mathlib.Data.List.Infix
import Mathlib.Tactic.Common

/-!
# What a block of context says about its text

A long text is cut twice on its way into a prompt. The snapshot keeps its beginning and puts a
marker behind it, and the block takes the marker off, cuts to a limit of its own and notes in its
title that the text was truncated. Both limits are the same, so the second cut takes nothing away
(`Prompt.shows_block_capHead`), and the blocks of a captured source show the beginning of its texts
and say whether it is all (`Prompt.faithfulBlocks_of_capture`). A short text that happens to end in
the marker cannot be told from a cut one.
-/

set_option autoImplicit false
set_option relaxedAutoImplicit false

namespace DeskAssistant

namespace Prompt

/-! ### Titles -/

/-- The notes on a block: a detail, and that its text was cut. -/
def notes (details : Option String) (isCut : Bool) : List String :=
  details.toList ++ (if isCut then ["truncated"] else [])

/-- The line on top of a block, with the notes on it in brackets. -/
def title (header : String) (notes : List String) : String :=
  "[" ++ header ++ "]" ++
    (if notes.isEmpty then "" else " (" ++ String.intercalate "; " notes ++ ")") ++ "\n"

theorem block_eq_of_splitMarker {text : String} {body : List Char} {isMarked : Bool}
    (hsplit : splitMarker text.toList = (body, isMarked)) (header : String)
    (details : Option String) :
    block header text details =
      title header (notes details (isMarked || blockLimit < body.length)) ++
        Text.endLine (String.ofList (body.take blockLimit)) := by
  unfold block
  rw [hsplit]
  rfl

/-! ### The marker -/

/-- The text ends as a cut text does. -/
def IsMarked (text : String) : Prop := Text.truncationMarker.toList <:+ text.toList

theorem splitMarker_append (front : List Char) :
    splitMarker (front ++ Text.truncationMarker.toList) = (front, true) := by
  simp [splitMarker]

theorem splitMarker_of_not_isMarked {text : String} (h : ¬ IsMarked text) :
    splitMarker text.toList = (text.toList, false) := by
  unfold splitMarker
  rw [IsMarked, List.suffix_iff_eq_drop] at h
  exact if_neg (Ne.symm h)

/-! ### Blocks of cut texts -/

/-- What a block says about the text that it was made from. -/
structure Shows (block header : String) (details : Option String) (text : String) : Prop where
  /-- It shows the beginning of the text, and notes that it was cut exactly when it was. -/
  eq_of_not_isMarked : (text.length ≤ 32000 → ¬ IsMarked text) →
    ∀ front, front = String.ofList (text.toList.take 32000) →
      block = title header (notes details (32000 < text.length)) ++
        (if front.toList.getLast? = some '\n' then front else front ++ "\n")
  /-- A short text with the marker at its end passes for a cut one. -/
  eq_of_append_marker : text.length ≤ 32000 → ∀ front, text = front ++ Text.truncationMarker →
    block = title header (notes details true) ++
      (if front.toList.getLast? = some '\n' then front else front ++ "\n")

theorem shows_block_capHead (header : String) (details : Option String) (text : String) :
    Shows (block header (Text.capHead text 32000) details) header details text := by
  by_cases hshort : text.length ≤ 32000
  · have hwhole : Text.capHead text 32000 = text :=
      Text.capHead_of_length_le text 32000 (Int.ofNat_le.mpr hshort)
    rw [hwhole]
    refine ⟨?_, fun _ front htext ↦ ?_⟩
    · rintro hmarked _ rfl
      rw [block_eq_of_splitMarker (splitMarker_of_not_isMarked (hmarked hshort)),
        String.length_toList, Bool.false_or]
      rfl
    · have hsplit : splitMarker text.toList = (front.toList, true) := by
        rw [htext, String.toList_append, splitMarker_append]
      have hfront : front.toList.length ≤ blockLimit := by
        rw [htext, String.length_append] at hshort
        rw [String.length_toList, blockLimit]
        omega
      rw [block_eq_of_splitMarker hsplit, Bool.true_or, List.take_of_length_le hfront,
        String.ofList_toList]
      rfl
  · refine ⟨?_, fun h ↦ absurd h hshort⟩
    rintro - _ rfl
    have hcut : Text.capHead text 32000 =
        String.ofList (text.toList.take 32000) ++ Text.truncationMarker :=
      if_neg (mt Int.ofNat_le.mp hshort)
    have hsplit : splitMarker (Text.capHead text 32000).toList =
        (text.toList.take 32000, true) := by
      rw [hcut, String.toList_append, String.toList_ofList, splitMarker_append]
    rw [block_eq_of_splitMarker hsplit, Bool.true_or, blockLimit, List.take_take, Nat.min_self,
      decide_eq_true (Nat.lt_of_not_le hshort)]
    rfl

example : block "Dataset" ("3 series" ++ Text.truncationMarker) none =
    "[Dataset] (truncated)\n3 series\n" := by
  decide +kernel

theorem isEmpty_capHead {limit : Int} (hlimit : 0 ≤ limit) (text : String) :
    (Text.capHead text limit).isEmpty = text.isEmpty := by
  unfold Text.capHead
  split_ifs with hshort
  · rfl
  · have htext : text ≠ "" := by
      rintro rfl
      exact hshort hlimit
    have hcut : String.ofList (Text.headPart text.toList limit) ++ Text.truncationMarker ≠ "" := by
      simp [Text.truncationMarker]
    rw [Bool.eq_iff_iff, String.isEmpty_iff, String.isEmpty_iff]
    exact iff_of_false hcut htext

theorem orElse_capHead {text : String} (htext : text ≠ "") (replacement : String) :
    orElse (some (Text.capHead text 32000)) replacement = Text.capHead text 32000 := by
  have hnonempty : ¬ (Text.capHead text 32000).isEmpty = true := by
    rwa [isEmpty_capHead (by decide), String.isEmpty_iff]
  exact if_neg hnonempty

/-! ### The blocks of a captured source -/

/-- What the blocks of a captured source say about its texts. -/
structure FaithfulBlocks (source : ContextSource) : Prop where
  dataset : ∀ text, (source .datasetSummary).text? = some text → text ≠ "" →
    Shows (datasetBlock (Snapshot.capture source).2) "Dataset" none text
  lastError : ∀ text, (source .lastError).text? = some text → text ≠ "" →
    Shows (lastErrorBlock (Snapshot.capture source).2) "Last error" none text
  selection : ∀ text, (source .scriptSelection).text? = some text → text ≠ "" →
    Shows (scriptBlock (Snapshot.capture source).2) "Script" (some "selection") text
  /-- The full script takes the place of a selection that is missing or empty. -/
  script : (source .scriptSelection).text?.getD "" = "" →
    ∀ text, (source .scriptFull).text? = some text →
      Shows (scriptBlock (Snapshot.capture source).2) "Script" (some "full") text
  noScript : (source .scriptSelection).text?.getD "" = "" → (source .scriptFull).text? = none →
    scriptBlock (Snapshot.capture source).2 = "[Script]\n(no active script editor)\n"

section Capture

variable {source : ContextSource} {text : String}

theorem get_capture_eq (source : ContextSource) (field : ContextField)
    (hfield : field ≠ .commandLog) :
    (Snapshot.capture source).2.get field = (source field).text?.map (Text.capHead · 32000) := by
  cases field with
  | commandLog => exact absurd rfl hfield
  | _ => rfl

theorem get_capture_of_text? {field : ContextField} (hfield : field ≠ .commandLog)
    (hread : (source field).text? = some text) :
    (Snapshot.capture source).2.get field = some (Text.capHead text 32000) := by
  rw [get_capture_eq source field hfield, hread, Option.map_some]

theorem scriptText_of_selection (hread : (source .scriptSelection).text? = some text)
    (htext : text ≠ "") :
    (Snapshot.capture source).2.scriptText = (some (Text.capHead text 32000), true) := by
  have hselection : (Snapshot.capture source).2.scriptSelection =
      some (Text.capHead text 32000) := get_capture_of_text? (by decide) hread
  have hnonempty : ¬ (Text.capHead text 32000).isEmpty = true := by
    rwa [isEmpty_capHead (by decide), String.isEmpty_iff]
  rw [Snapshot.scriptText, hselection]
  exact if_neg hnonempty

theorem scriptText_of_no_selection (hnone : (source .scriptSelection).text?.getD "" = "") :
    (Snapshot.capture source).2.scriptText =
      ((source .scriptFull).text?.map (Text.capHead · 32000), false) := by
  have hfull : (Snapshot.capture source).2.scriptFull =
      (source .scriptFull).text?.map (Text.capHead · 32000) :=
    get_capture_eq source .scriptFull (by decide)
  have hselection : (Snapshot.capture source).2.scriptSelection =
      (source .scriptSelection).text?.map (Text.capHead · 32000) :=
    get_capture_eq source .scriptSelection (by decide)
  rw [Snapshot.scriptText, hselection, hfull]
  cases hread : (source .scriptSelection).text? with
  | none => rfl
  | some text =>
    rw [hread] at hnone
    have hempty : (Text.capHead text 32000).isEmpty = true := by
      rwa [isEmpty_capHead (by decide), String.isEmpty_iff]
    exact if_pos hempty

end Capture

/-- The blocks of a captured source are faithful to it, whatever it gives. -/
theorem faithfulBlocks_of_capture (source : ContextSource) : FaithfulBlocks source where
  dataset := fun text hread htext ↦ by
    have hcaptured : (Snapshot.capture source).2.datasetSummary =
        some (Text.capHead text 32000) := get_capture_of_text? (by decide) hread
    rw [datasetBlock, hcaptured, orElse_capHead htext]
    exact shows_block_capHead "Dataset" none text
  lastError := fun text hread htext ↦ by
    have hcaptured : (Snapshot.capture source).2.lastError =
        some (Text.capHead text 32000) := get_capture_of_text? (by decide) hread
    rw [lastErrorBlock, hcaptured, orElse_capHead htext]
    exact shows_block_capHead "Last error" none text
  selection := fun text hread htext ↦ by
    rw [scriptBlock, scriptText_of_selection hread htext]
    exact shows_block_capHead "Script" (some "selection") text
  script := fun hnone text hread ↦ by
    rw [scriptBlock, scriptText_of_no_selection hnone, hread, Option.map_some]
    exact shows_block_capHead "Script" (some "full") text
  noScript := fun hnone hread ↦ by
    rw [scriptBlock, scriptText_of_no_selection hnone, hread, Option.map_none]
    rfl

/-- A source with nothing but a script, which is as long as one likes. -/
def wideScriptSource (width : Nat) : ContextSource := .fixed fun field ↦
  if field = .scriptFull then some (String.ofList (List.replicate width 'x')) else none

/-- A script over the limit is shown up to the limit, and its title says so. -/
theorem scriptBlock_wideScriptSource :
    scriptBlock (Snapshot.capture (wideScriptSource 40000)).2 =
      "[Script] (full; truncated)\n" ++ String.ofList (List.replicate 32000 'x') ++ "\n" := by
  have hlength : (String.ofList (List.replicate 40000 'x')).length = 40000 := by
    rw [String.length_ofList, List.length_replicate]
  have hlong : ¬ (String.ofList (List.replicate 40000 'x')).length ≤ 32000 := by
    rw [hlength]
    decide
  have hfront : String.ofList (List.replicate 32000 'x') =
      String.ofList ((String.ofList (List.replicate 40000 'x')).toList.take 32000) := by
    rw [String.toList_ofList, List.take_replicate]
    rfl
  have hshown := ((faithfulBlocks_of_capture (wideScriptSource 40000)).script rfl _ rfl)
    |>.eq_of_not_isMarked (fun hshort ↦ absurd hshort hlong) _ hfront
  have hopen : ¬ (List.replicate 32000 'x').getLast? = some '\n' := by
    rw [List.getLast?_replicate]
    decide
  rw [hlength, String.toList_ofList, if_neg hopen] at hshown
  rw [hshown, String.append_assoc]
  rfl

end Prompt

end DeskAssistant
