import DeskAssistant.Job.Script
import DeskAssistant.Proofs.Job.Confidential
import DeskAssistant.Proofs.Job.Dialogue
import DeskAssistant.Proofs.Text.Cap
import DeskAssistant.Proofs.Tool.Extraction

/-!
# How long prompts get

Whatever a source gives, the parts of a prompt are cut before they are put together. A cut text has
its limit and the marker (`Text.length_capHead_le`), a block of context has that and its title
(`Prompt.length_block_le`), and the result of a call has what one field of a snapshot or a tail of
the log has (`ToolCall.length_resolve_le`). So a single result, with its header and its end line,
stays under the limit for all results together and is never cut (`ToolCall.resultBlocks_singleton`).

What a job asks is followed along its conversation: `Conversation.Asks` gives a condition for each
question in turn, and `exists_meet_of_asks` carries the conditions to the questions of any run.
-/

set_option autoImplicit false
set_option relaxedAutoImplicit false

namespace DeskAssistant

/-! ### Cut texts -/

namespace Text

theorem length_capHead_le (text : String) (limit : Nat) :
    (capHead text limit).length ≤ limit + 19 :=
  (cutsTo_capHead limit).length_le marks_head text

theorem length_endLine_le (text : String) : (endLine text).length ≤ text.length + 1 := by
  unfold endLine
  split_ifs
  · omega
  · rw [String.length_append]
    exact Nat.le_refl _

end Text

/-! ### Results of calls -/

namespace Snapshot

/-- Only the command log of a captured snapshot may be longer. -/
theorem length_get_capture_le (source : ContextSource) {field : ContextField}
    (hfield : field ≠ .commandLog) {text : String}
    (htext : (capture source).2.get field = some text) : text.length ≤ 32019 := by
  have hcaptured : captureField source field = some text := by
    cases field <;> exact htext
  obtain ⟨read, -, rfl⟩ := Option.map_eq_some_iff.mp hcaptured
  have hcap : field.cap read = Text.capHead read 32000 := by
    cases field with
    | commandLog => exact absurd rfl hfield
    | _ => rfl
  rw [hcap]
  exact Text.length_capHead_le read 32000

end Snapshot

theorem Tool.length_logTail_le (log : String) (count : Int) : (logTail log count).length ≤ 32019 :=
  Text.length_capHead_le _ 32000

theorem Tool.length_name_le (tool : Tool) : tool.name.length ≤ 22 := by
  cases tool <;> decide

theorem Tool.length_value?_le (tool : Tool) (call : ToolCall) (source : ContextSource)
    {text : String} (htext : tool.value? call (Snapshot.capture source).2 = some text) :
    text.length ≤ 32019 := by
  have hfield (field : ContextField) (hne : field ≠ .commandLog)
      (hget : (Snapshot.capture source).2.get field = some text) : text.length ≤ 32019 :=
    Snapshot.length_get_capture_le source hne hget
  cases tool with
  | datasetSummary => exact hfield .datasetSummary (by decide) htext
  | lastError => exact hfield .lastError (by decide) htext
  | scriptSelection => exact hfield .scriptSelection (by decide) htext
  | scriptFull => exact hfield .scriptFull (by decide) htext
  | commandLogTail =>
    obtain ⟨log, -, rfl⟩ := Option.map_eq_some_iff.mp htext
    exact length_logTail_le log call.lineCount
  | lastModelSummary =>
    unfold value? at htext
    split_ifs at htext
    · exact hfield .lastModelFull (by decide) htext
    · exact hfield .lastModelSimple (by decide) htext

namespace ToolCall

variable {source : ContextSource}

theorem length_resolve_le (call : ToolCall) (source : ContextSource) :
    (call.resolve (Snapshot.capture source).2).length ≤ 32019 := by
  unfold resolve
  cases hvalue : (Tool.ofName? call.name).bind
      fun tool ↦ tool.value? call (Snapshot.capture source).2 with
  | none => exact (by decide : unavailable.length ≤ 32019)
  | some text =>
    obtain ⟨tool, -, htext⟩ := Option.bind_eq_some_iff.mp hvalue
    exact tool.length_value?_le call source htext

/-- The result of a call to a tool is not cut. -/
theorem resultBlocks_singleton (call : ToolCall) {tool : Tool} (hname : tool.name = call.name)
    (source : ContextSource) :
    resultBlocks [call] (Snapshot.capture source).2 =
      "--- tool:" ++ call.name ++ " ---\n" ++
        Text.endLine (call.resolve (Snapshot.capture source).2) ++ "--- end ---\n" := by
  have hlength : (call.resultBlock (Snapshot.capture source).2).length ≤ 40000 := by
    have htool := tool.length_name_le
    have hresolve := call.length_resolve_le source
    have hline := Text.length_endLine_le (call.resolve (Snapshot.capture source).2)
    have hheader : "--- tool:".length = 9 ∧ " ---\n".length = 5 ∧ "--- end ---\n".length = 12 := by
      decide
    rw [hname] at htool
    simp only [resultBlock, String.length_append]
    omega
  have hjoin : String.join (([call].take limit).map (·.resultBlock (Snapshot.capture source).2)) =
      call.resultBlock (Snapshot.capture source).2 := by
    simp [limit]
  rw [resultBlocks, hjoin]
  exact Text.capHead_of_length_le _ _ (Int.ofNat_le.mpr hlength)

theorem length_resultBlocks_le (calls : List ToolCall) (snapshot : Snapshot) :
    (resultBlocks calls snapshot).length ≤ 40019 :=
  Text.length_capHead_le _ 40000

end ToolCall

/-! ### Blocks and prompts -/

namespace Prompt

/-- The notes in a title: at most a detail and that the text was cut. -/
theorem length_notes_le (details : Option String) (truncated : Bool) :
    (let notes := details.toList ++ (if truncated then ["truncated"] else [])
      if notes.isEmpty then "" else " (" ++ String.intercalate "; " notes ++ ")").length ≤
        (details.getD "").length + 14 := by
  have htexts : " (".length = 2 ∧ ")".length = 1 ∧ "; ".length = 2 ∧ "truncated".length = 9 := by
    decide
  cases details with
  | none => cases truncated <;> decide
  | some detail => cases truncated <;> simp [String.length_append] <;> omega

theorem length_block_le (header text : String) (details : Option String) :
    (block header text details).length ≤
      header.length + (details.getD "").length + 32018 := by
  unfold block
  generalize splitMarker text.toList = split
  obtain ⟨body, marked⟩ := split
  have hnotes := length_notes_le details (marked || blockLimit < body.length)
  have hline := Text.length_endLine_le (String.ofList (body.take blockLimit))
  have hbody : (String.ofList (body.take blockLimit)).length ≤ 32000 := by
    rw [String.length_ofList, List.length_take]
    exact Nat.min_le_left _ _
  have htexts : "[".length = 1 ∧ "]".length = 1 ∧ "\n".length = 1 := by decide
  simp only [String.length_append] at hnotes ⊢
  omega

/-- A block with a short title, and the line feed behind it. -/
theorem length_block_endLine_le {header : String} (text : String) {details : Option String}
    (htitle : header.length + (details.getD "").length ≤ 45) :
    (block header text details ++ "\n").length ≤ 32064 := by
  have hblock := length_block_le header text details
  have hfeed : "\n".length = 1 := by decide
  rw [String.length_append]
  omega

theorem length_datasetBlock_le (snapshot : Snapshot) :
    (datasetBlock snapshot ++ "\n").length ≤ 32064 :=
  length_block_endLine_le _ (by decide)

theorem length_lastErrorBlock_le (snapshot : Snapshot) :
    (lastErrorBlock snapshot ++ "\n").length ≤ 32064 :=
  length_block_endLine_le _ (by decide)

theorem length_scriptBlock_le (snapshot : Snapshot) :
    (scriptBlock snapshot ++ "\n").length ≤ 32064 := by
  unfold scriptBlock
  split
  · exact length_block_endLine_le _ (by decide)
  · next isSelection _ =>
    cases isSelection
    · exact length_block_endLine_le _ (by decide)
    · exact length_block_endLine_le _ (by decide)

theorem length_full_le (request : String) (snapshot : Snapshot) (options : Options) :
    (full request snapshot options).length ≤
      request.length + preamble.length + schema.length + 16 + 3 * 32064 := by
  have hshown (shown : Bool) (text : String) :
      (if shown then text else "").length ≤ text.length := by
    cases shown <;> simp
  have htools := hshown options.toolsEnabled schema
  have hdataset := (hshown options.includeDataset _).trans (length_datasetBlock_le snapshot)
  have herror := (hshown options.includeLastError _).trans (length_lastErrorBlock_le snapshot)
  have hscript := (hshown options.includeScript _).trans (length_scriptBlock_le snapshot)
  have htexts : "User request:\n".length = 14 ∧ "\n\n".length = 2 := by decide
  unfold full
  simp only [String.length_append] at *
  omega

theorem length_followUp (prompt results : String) :
    (followUp prompt results).length =
      prompt.length + results.length + (followUp "" "").length := by
  simp only [followUp, String.length_append, String.length_empty]
  omega

end Prompt

/-! ### The questions of a job -/

namespace Job

namespace Conversation

/-- The conversation asks one question after another, at most as many as there are conditions, and
each meets its condition whatever was answered before. -/
def Asks : List (Question → Prop) → Conversation → Prop
  | _, .ended _ => True
  | conditions, .note _ next => next.Asks conditions
  | [], .ask _ _ => False
  | condition :: rest, .ask question next =>
    condition question ∧ ∀ reply, (next reply).Asks rest

variable {conditions : List (Question → Prop)}

theorem asks_noteAll {records : List Log.Record} {next : Conversation} (h : next.Asks conditions) :
    (noteAll records next).Asks conditions := by
  induction records with
  | nil => exact h
  | cons record records ih => exact ih

/-- Each of these questions meets its condition, and there are no more of them than conditions. -/
def Meet : List (Question → Prop) → List Exchange → Prop
  | _, [] => True
  | [], _ :: _ => False
  | condition :: rest, entry :: asked => condition entry.1 ∧ Meet rest asked

theorem Meet.length_le {asked : List Exchange} (h : Meet conditions asked) :
    asked.length ≤ conditions.length := by
  induction conditions generalizing asked with
  | nil =>
    cases asked with
    | nil => exact Nat.le_refl _
    | cons entry asked => exact h.elim
  | cons condition rest ih =>
    cases asked with
    | nil => exact Nat.zero_le _
    | cons entry asked => exact Nat.succ_le_succ (ih h.2)

theorem Meet.of_getElem? {asked : List Exchange} (h : Meet conditions asked) {index : Nat}
    {entry : Exchange} {condition : Question → Prop} (hentry : asked[index]? = some entry)
    (hcondition : conditions[index]? = some condition) : condition entry.1 := by
  induction conditions generalizing asked index with
  | nil => cases hcondition
  | cons first rest ih =>
    cases asked with
    | nil => cases hentry
    | cons given asked =>
      cases index with
      | zero =>
        cases hentry
        cases hcondition
        exact h.1
      | succ index => exact ih h.2 hentry hcondition

theorem Transcript.meet {conversation : Conversation} {asked : List Exchange}
    (h : Transcript conversation asked) (hasks : conversation.Asks conditions) :
    Meet conditions asked := by
  induction h generalizing conditions with
  | ended outcome => cases conditions <;> trivial
  | note record hnext ih => exact ih hasks
  | answered question reply hnext ih =>
    cases conditions with
    | nil => exact hasks.elim
    | cons condition rest => exact ⟨hasks.1, ih (hasks.2 reply)⟩
  | faulted question fault =>
    cases conditions with
    | nil => exact hasks.elim
    | cons condition rest => exact ⟨hasks.1, by cases rest <;> trivial⟩

/-- A conversation that asks nothing more leaves nothing more. -/
theorem Transcript.eq_nil {conversation : Conversation} {asked : List Exchange}
    (h : Transcript conversation asked) (hasks : conversation.Asks []) : asked = [] :=
  List.eq_nil_of_length_eq_zero (Nat.le_zero.mp (h.meet hasks).length_le)

/-- The questions of a run meet their conditions, however it ends. -/
theorem exists_meet_of_asks {σ : Type}
    (answer : Question → σ → Except Fault Completion.Result × σ) (keep : Log.Record → σ → σ)
    {conversation : Conversation} (hasks : conversation.Asks conditions) (state : σ)
    (log : List Exchange) :
    ∃ asked, (conversation.run (logged answer) (keptBeside keep) (state, log)).2.2 = log ++ asked ∧
      Meet conditions asked := by
  obtain ⟨asked, htranscript, hlog⟩ :=
    exists_transcript_of_run_logged answer keep conversation state log
  exact ⟨asked, hlog, htranscript.meet hasks⟩

end Conversation

namespace Engine

open Conversation

variable {request : Request} {rest : List (Question → Prop)}

theorem asks_round {condition : Question → Prop} {prompt : String}
    (hprompt : condition ⟨request.provider, prompt⟩) {next : String → Conversation}
    (hnext : ∀ raw, (next raw).Asks rest) (number : Nat) (trace : List Stage) :
    (round request prompt number trace next).Asks (condition :: rest) := by
  refine ⟨hprompt, fun reply ↦ ?_⟩
  dsimp only
  split_ifs
  · exact hnext _
  · exact trivial

theorem asks_parse {raw : String} {next : ModelReply → Conversation}
    (hnext : ∀ reply, (next reply).Asks rest) : (parse raw next).Asks rest := by
  unfold parse
  refine asks_noteAll ?_
  split
  · exact hnext _
  · trivial

theorem asks_secondRound (request : Request) (snapshot : Snapshot) (calls : List ToolCall)
    (trace : List Stage) :
    (secondRound request snapshot calls trace).Asks [fun question ↦ ∃ calls, question.prompt =
      Prompt.followUp request.prompt (ToolCall.resultBlocks calls snapshot)] := by
  simp only [secondRound, Asks]
  refine asks_round ?_ (fun raw ↦ asks_parse fun final ↦ asks_noteAll ?_) 2 _
  · exact ⟨calls, rfl⟩
  · trivial

/-- The first question has the prompt of the job, and the second one the results of calls behind
it. -/
theorem asks_converse (request : Request) (snapshot : Snapshot) :
    (converse request snapshot).Asks
      [fun question ↦ question.prompt = request.prompt,
        fun question ↦ ∃ calls, question.prompt =
          Prompt.followUp request.prompt (ToolCall.resultBlocks calls snapshot)] := by
  rw [converse_eq]
  refine asks_round ?_ (fun raw ↦ ?_) 1 _
  · rfl
  · unfold afterFirst
    split_ifs
    · refine asks_parse fun reply ↦ ?_
      split_ifs
      · trivial
      · exact asks_secondRound request snapshot reply.toolCalls _
    · trivial

end Engine

/-! ### Limits of a job -/

/-- What the limits leave of the prompts that are asked about a source. -/
structure WithinLimits (source : ContextSource) (request : String) (options : Prompt.Options)
    (asked : List Exchange) : Prop where
  full_le : (Prompt.full request (Snapshot.capture source).2 options).length ≤
    request.length + Prompt.preamble.length + Prompt.schema.length + 16 + 3 * 32064
  count_le : asked.length ≤ 2
  first_eq : ∀ first ∈ asked[0]?,
    first.1.prompt = Prompt.full request (Snapshot.capture source).2 options
  /-- The follow-up adds its own words and what the limit leaves of the results. -/
  second_le : ∀ first ∈ asked[0]?, ∀ second ∈ asked[1]?,
    second.1.prompt.length ≤ first.1.prompt.length + 40019 + (Prompt.followUp "" "").length
  /-- The result of a single call is never cut. -/
  single_eq : ∀ raw reply, (ModelReply.read raw).2 = .ok reply → ∀ call ∈ reply.toolCalls,
    (call.resolve (Snapshot.capture source).2).length ≤ 32019 ∧
      ToolCall.resultBlocks [call] (Snapshot.capture source).2 =
        "--- tool:" ++ call.name ++ " ---\n" ++
          (let result := call.resolve (Snapshot.capture source).2
            if result.toList.getLast? = some '\n' then result else result ++ "\n") ++
          "--- end ---\n"

open Conversation in
/-- Every run of a job stays within the limits, with an agent of any behaviour. -/
theorem withinLimits_of_run (source : ContextSource) (provider : Provider) (request : String)
    (options : Prompt.Options) (toolsEnabled : Bool) {σ : Type}
    (answer : Question → σ → Except Fault Completion.Result × σ) (keep : Log.Record → σ → σ)
    (state : σ) :
    WithinLimits source request options
      (exchanges answer keep (Engine.converse ⟨provider,
        Prompt.full request (Snapshot.capture source).2 options, toolsEnabled⟩
          (Snapshot.capture source).2) state) := by
  obtain ⟨asked, hasked, hmeet⟩ := exists_meet_of_asks answer keep
    (Engine.asks_converse ⟨provider, Prompt.full request (Snapshot.capture source).2 options,
      toolsEnabled⟩ (Snapshot.capture source).2) state []
  rw [exchanges, hasked, List.nil_append]
  have hfirst : ∀ first ∈ asked[0]?,
      first.1.prompt = Prompt.full request (Snapshot.capture source).2 options :=
    fun first hmem ↦ hmeet.of_getElem? hmem rfl
  have hsecond : ∀ second ∈ asked[1]?, ∃ calls, second.1.prompt =
      Prompt.followUp (Prompt.full request (Snapshot.capture source).2 options)
        (ToolCall.resultBlocks calls (Snapshot.capture source).2) :=
    fun second hmem ↦ hmeet.of_getElem? hmem rfl
  refine ⟨Prompt.length_full_le _ _ _, hmeet.length_le, hfirst,
    fun first hmem second hsecondMem ↦ ?_, fun raw reply hread call hcall ↦ ?_⟩
  · obtain ⟨calls, hprompt⟩ := hsecond second hsecondMem
    have hresults := ToolCall.length_resultBlocks_le calls (Snapshot.capture source).2
    rw [hprompt, hfirst first hmem, Prompt.length_followUp]
    omega
  · obtain ⟨tool, hname⟩ := (ModelReply.wellFormed_of_mem hread hcall).tool
    exact ⟨call.length_resolve_le source, call.resultBlocks_singleton hname source⟩

/-- A source with nothing but a script. -/
def scriptSource : ContextSource := .fixed fun field ↦
  if field = .scriptFull then some "fit y x" else none

/-- A reply that asks for the script. -/
def scriptReply : String := "\x7b\"tool_calls\": [\x7b\"name\": \"get_script_full\"\x7d]\x7d"

open Conversation in
/-- The script is in the second question, with a line feed at its end. -/
theorem withinLimits_scriptSource :
    let snapshot := (Snapshot.capture scriptSource).2
    let asked := exchanges Script.answer Script.keep
      (Engine.converse ⟨.codex, Prompt.full "why?" snapshot {}, true⟩ snapshot)
      { replies := [.text scriptReply, .text "It fits."] }
    asked.length = 2 ∧ WithinLimits scriptSource "why?" {} asked ∧
      ToolCall.resultBlocks [{ name := "get_script_full" }] snapshot =
        "--- tool:get_script_full ---\nfit y x\n--- end ---\n" := by
  intro snapshot asked
  have hlimits : WithinLimits scriptSource "why?" {} asked :=
    withinLimits_of_run scriptSource .codex "why?" {} true Script.answer Script.keep _
  have hread : (ModelReply.read scriptReply).2 =
      .ok { toolCalls := [{ name := "get_script_full" }] } := by decide +kernel
  obtain ⟨-, hsingle⟩ := hlimits.single_eq _ _ hread _ (List.mem_singleton_self _)
  refine ⟨by decide +kernel, hlimits, hsingle.trans ?_⟩
  decide +kernel

end Job

end DeskAssistant
