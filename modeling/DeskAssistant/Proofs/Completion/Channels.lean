import DeskAssistant.Proofs.Completion.Attempt
import DeskAssistant.Proofs.Completion.Embedded
import DeskAssistant.Proofs.Text.Utf8

/-!
# The channels deliver the same

One agent writes its reply to a file, as bytes, and another prints it as a string of a JSON object
among other text. What a caller gets depends on the reply alone (`delivered`): it is the same
whether the reply was written (`Host.Writes`) or printed (`Host.Prints`). The file is measured as it
stands and then decoded, which gives back the text whose bytes it holds. The printed string is
decoded first and measured in the bytes that it would take, and it is what its literal means as long
as no code above U+00FF is escaped in it.
-/

set_option autoImplicit false
set_option relaxedAutoImplicit false

namespace DeskAssistant.Completion

open Fragment Json.Document

/-- The kind of a failure; a fault has none. -/
def Stop.kind? : Stop → Option FailureKind
  | failed failure => some failure.kind
  | broke _ => none

/-- What a caller gets of a reply. -/
def delivered (text : String) : Except (Option FailureKind) String :=
  if Channel.replyLimit < text.utf8ByteSize then .error (some .tooLong)
  else if text = "" then .error (some .external)
  else .ok text

/-! ### A written reply -/

theorem Channel.fileReply_toUTF8 (path : String) (outcome : Command.Outcome) (text : String) :
    (fileReply (some (path, .ok text.toUTF8)) outcome).2 =
      if replyLimit < text.utf8ByteSize then .error .replyTooLong
      else if text = "" then .error (.emptyFile outcome)
      else .ok text := by
  simp only [fileReply, fromFile, Text.Utf8.size_toUTF8, Text.Utf8.decodeLossy_toUTF8]
  by_cases hlong : replyLimit < text.utf8ByteSize
  · simp only [if_pos hlong]
  · simp only [if_neg hlong, String.isEmpty_iff]

theorem ending_written {path : File.Path} {left : File.Store} {outcome : Command.Outcome}
    {text : String} (hstatus : outcome.status = 0) (hread : left.read path = .ok text.toUTF8) :
    (ending .codex (some path) left (.completed outcome)).mapError Stop.kind? =
      delivered text := by
  have hsucceeded : outcome.succeeded = true := by simp [Command.Outcome.succeeded, hstatus]
  simp only [ending, outcomeOf, hsucceeded, if_true, replyIn, hread, Fault.apart,
    Channel.fileReply_toUTF8, delivered]
  split_ifs <;> rfl

/-! ### A printed reply -/

/-- The spelling is a JSON literal of the text that escapes no code above U+00FF. -/
structure IsLiteralOf (spelling : Spelling) (text : String) : Prop where
  units_eq : spelling.units = Text.codeUnits text
  isExact : ∀ piece ∈ spelling, piece.isExact = true

/-- The object that has the reply as its only member, with space in any of its gaps. -/
def replyObject (gap before beforeColon afterColon after : Gap) (spelling : Spelling) : Node :=
  .object gap (.cons before (.raw Channel.replyField.toList (by decide)) beforeColon afterColon
    (.string spelling) after .nil)

/-- The output holds the reply in an object, with anything around it but a brace in front, and the
error output does not tell of a breakdown. -/
structure PrintsReply (outcome : Command.Outcome) (text : String) : Prop where
  exists_output_eq : ∃ front behind gap before beforeColon afterColon after spelling,
    '\x7b' ∉ front ∧ IsLiteralOf spelling text ∧
      outcome.output = String.ofList (front ++
        (replyObject gap before beforeColon afterColon after spelling).text ++ behind)
  errorOutput_clean : Text.contains outcome.errorOutput Channel.criticalMarker = false

theorem embedded_of_printsReply {outcome : Command.Outcome} {text : String}
    (hprints : PrintsReply outcome text) :
    Channel.embedded outcome.output Channel.replyField =
      if Channel.replyLimit < text.utf8ByteSize then .error .replyTooLong else .ok (some text) := by
  obtain ⟨front, behind, gap, before, beforeColon, afterColon, after, spelling, hfront, hliteral,
    houtput⟩ := hprints.exists_output_eq
  have hslice : Channel.objectSlice? (front ++
      (replyObject gap before beforeColon afterColon after spelling).text ++ behind) =
        some ((replyObject gap before beforeColon afterColon after spelling).text ++
          behind.rdropWhile (· ≠ '\x7d')) := by
    have happend := Channel.objectSlice?_append hfront (gap.text ++ Members.text true (.cons before
      (.raw Channel.replyField.toList (by decide)) beforeColon afterColon (.string spelling) after
      .nil)) behind
    simpa [replyObject, Node.text] using happend
  have hdecoded : String.ofList spelling.decoded = text :=
    Spelling.ofList_decoded_eq hliteral.isExact hliteral.units_eq
  have hnowhere : ¬ Field.quotedName Channel.replyField <:+: [] := by simp [Field.quotedName]
  have hkeys : PlainKeys (Members.entries (.cons before
      (.raw Channel.replyField.toList (by decide)) beforeColon afterColon (.string spelling) after
      .nil)) := by
    intro entry hentry
    rw [List.mem_singleton.mp hentry]
    rfl
  obtain ⟨rest, _, hvalue⟩ := exists_value?_eq (by decide : IsName Channel.replyField) hnowhere gap
    hkeys (behind.rdropWhile (· ≠ '\x7d')) (firstNamed?_cons_self (Spelling.body_raw _ _) _ _)
  rw [List.nil_append] at hvalue
  rw [houtput, Channel.embedded, String.toList_ofList, hslice, Option.bind_some]
  rw [replyObject, string?_eq_of_value? hvalue, hdecoded]

theorem outputReply_of_printsReply {outcome : Command.Outcome} {text : String}
    (hprints : PrintsReply outcome text) :
    Channel.outputReply outcome =
      if Channel.replyLimit < text.utf8ByteSize then .error .replyTooLong
      else if text = "" then .error .noReply
      else .ok text := by
  rw [Channel.outputReply, hprints.errorOutput_clean, embedded_of_printsReply hprints,
    if_neg Bool.false_ne_true]
  by_cases hlong : Channel.replyLimit < text.utf8ByteSize
  · simp only [if_pos hlong]
  · simp only [if_neg hlong, String.isEmpty_iff]

theorem ending_printed {path : Option File.Path} {left : File.Store} {outcome : Command.Outcome}
    {text : String} (hstatus : outcome.status = 0) (hprints : PrintsReply outcome text) :
    (ending .gemini path left (.completed outcome)).mapError Stop.kind? = delivered text := by
  have hsucceeded : outcome.succeeded = true := by simp [Command.Outcome.succeeded, hstatus]
  simp only [ending, outcomeOf, hsucceeded, if_true, replyIn,
    outputReply_of_printsReply hprints, delivered]
  split_ifs <;> rfl

/-! ### Completions -/

variable {σ τ : Type}

/-- The agent that is asked ends well and leaves the text in its output file. -/
structure Host.Writes (host : Host σ) (settings : Settings) (binary prompt text : String) :
    Prop where
  ready : host.Ready settings .codex binary prompt
  exists_launch_eq : ∃ outcome agents left,
    host.launch settings .codex binary prompt = (.completed outcome, agents, left) ∧
      outcome.status = 0 ∧ left.read host.newPath = .ok text.toUTF8

/-- The agent that is asked ends well and prints the text as its reply. -/
structure Host.Prints (host : Host σ) (settings : Settings) (binary prompt text : String) :
    Prop where
  ready : host.Ready settings .gemini binary prompt
  exists_launch_eq : ∃ outcome agents left,
    host.launch settings .gemini binary prompt = (.completed outcome, agents, left) ∧
      outcome.status = 0 ∧ PrintsReply outcome text

/-- A reply that is written and the same reply printed are delivered alike. -/
theorem delivered_alike {writer : Service σ} {printer : Service τ} {first second : Provider}
    (hcodex : writer.settings.agentFor first = .codex)
    (hgemini : printer.settings.agentFor second = .gemini)
    {binary prompt other question text : String}
    (hwrites : writer.host.Writes writer.settings binary prompt text)
    (hprints : printer.host.Prints printer.settings other question text) :
    (writer.complete first prompt).1.mapError Stop.kind? = delivered text ∧
      (printer.complete second question).1.mapError Stop.kind? = delivered text := by
  constructor
  · obtain ⟨hready, outcome, agents, left, hlaunch, hstatus, hread⟩ := hwrites
    rw [← hcodex] at hready hlaunch
    obtain ⟨_, _, hcomplete⟩ := Work.exists_complete_eq_of_ready hready hlaunch
    rw [writer.outcome_complete, hcomplete, hcodex]
    exact ending_written hstatus hread
  · obtain ⟨hready, outcome, agents, left, hlaunch, hstatus, hreply⟩ := hprints
    rw [← hgemini] at hready hlaunch
    obtain ⟨_, _, hcomplete⟩ := Work.exists_complete_eq_of_ready hready hlaunch
    rw [printer.outcome_complete, hcomplete, hgemini]
    exact ending_printed hstatus hreply

/-- A machine on which a command comes to this outcome and writes this reply. -/
def answering (outcome : Command.Outcome) (text : String) : Host Unit where
  files := { entries := [(.ofString "/tmp", .directory)] }
  locate _ program := some ("/usr/bin/" ++ program)
  outputName _ := "/tmp/reply"
  agents := ()
  start _ _ files :=
    (.completed outcome, (), files.put (.ofString "/tmp/reply") (.file text.toUTF8 false))

/-- Two of three characters are escaped in the printed reply. -/
theorem delivered_alike_escaped :
    let output := "Loaded.\n\x7b\"response\":\"\\u00E9\\n!\"\x7d :\x7d"
    let writer : Service Unit := { settings := {}, host := answering {} "é\n!" }
    let printer : Service Unit := { settings := {}, host := answering { output } "" }
    (writer.complete .codex "why?").1.mapError Stop.kind? = .ok "é\n!" ∧
      (printer.complete .gemini "why?").1.mapError Stop.kind? = .ok "é\n!" := by
  intro output writer printer
  let zero : HexDigit := ⟨'0', 0, rfl⟩
  let spelling : Spelling := [.code zero zero ⟨'E', 14, rfl⟩ ⟨'9', 9, rfl⟩,
    .short 'n' '\n' (by decide), .plain '!' (by decide) (by decide) (by decide)]
  have hliteral : IsLiteralOf spelling "é\n!" := ⟨by decide, by decide⟩
  have hwrites : writer.host.Writes writer.settings "/usr/bin/codex" "why?" "é\n!" :=
    ⟨⟨by decide, by decide +kernel, by decide, fun _ ↦ rfl⟩, _, _, _, rfl, rfl, by decide +kernel⟩
  have hprints : printer.host.Prints printer.settings "/usr/bin/gemini" "why?" "é\n!" :=
    ⟨⟨by decide, by decide +kernel, by decide, nofun⟩, _, _, _, rfl, rfl,
      ⟨"Loaded.\n".toList, " :\x7d".toList, .empty, .empty, .empty, .empty, .empty, spelling,
        by decide, hliteral, by decide +kernel⟩, by decide⟩
  exact delivered_alike (by decide) (by decide) hwrites hprints

end DeskAssistant.Completion
