import DeskAssistant.Job.Engine
import Mathlib.Tactic.Common

/-!
# What an agent can learn

Two jobs that ask the same about different snapshots. A prompt reads of a snapshot what the options
show (`Prompt.full_congr`), the results of tool calls read what the calls resolve to
(`ToolCall.resultBlocks_congr`), and nothing else in a conversation reads the snapshot at all. The
agent is therefore asked the same, and the job ends the same, whenever the snapshots agree on these
(`replay_about_eq`): the rest of the session stays with the session.
-/

set_option autoImplicit false
set_option relaxedAutoImplicit false

namespace DeskAssistant

/-- The snapshots agree on the context that the options show to the agent. -/
structure Snapshot.AgreesOn (first : Snapshot) (options : Prompt.Options) (second : Snapshot) :
    Prop where
  datasetSummary_eq : options.includeDataset = true →
    first.datasetSummary = second.datasetSummary
  lastError_eq : options.includeLastError = true → first.lastError = second.lastError
  scriptText_eq : options.includeScript = true → first.scriptText = second.scriptText

/-! ### What reads a snapshot -/

section Readers

variable {first second : Snapshot}

theorem Prompt.full_congr {options : Options} (hagree : first.AgreesOn options second)
    (request : String) : full request first options = full request second options := by
  have hdataset : (if options.includeDataset then datasetBlock first ++ "\n" else "") =
      if options.includeDataset then datasetBlock second ++ "\n" else "" := by
    by_cases hshown : options.includeDataset = true
    · rw [datasetBlock, datasetBlock, hagree.datasetSummary_eq hshown]
    · rw [if_neg hshown, if_neg hshown]
  have herror : (if options.includeLastError then lastErrorBlock first ++ "\n" else "") =
      if options.includeLastError then lastErrorBlock second ++ "\n" else "" := by
    by_cases hshown : options.includeLastError = true
    · rw [lastErrorBlock, lastErrorBlock, hagree.lastError_eq hshown]
    · rw [if_neg hshown, if_neg hshown]
  have hscript : (if options.includeScript then scriptBlock first ++ "\n" else "") =
      if options.includeScript then scriptBlock second ++ "\n" else "" := by
    by_cases hshown : options.includeScript = true
    · rw [scriptBlock, scriptBlock, hagree.scriptText_eq hshown]
    · rw [if_neg hshown, if_neg hshown]
  rw [full, full, hdataset, herror, hscript]

theorem ToolCall.resultBlocks_congr {calls : List ToolCall}
    (h : ∀ call ∈ calls, call.resolve first = call.resolve second) :
    resultBlocks calls first = resultBlocks calls second := by
  have hblocks : (calls.take limit).map (·.resultBlock first) =
      (calls.take limit).map (·.resultBlock second) := by
    refine List.map_congr_left fun call hcall ↦ ?_
    rw [resultBlock, resultBlock, h call (List.mem_of_mem_take hcall)]
  rw [resultBlocks, resultBlocks, hblocks]

end Readers

namespace Job

/-! ### Conversations about two snapshots -/

/-- How a conversation ends with an agent whose answers depend on the questions so far, and what
the agent is asked. -/
def Conversation.replay (answer : List Question → Except Fault Completion.Result)
    (conversation : Conversation) : Except Fault Result × List Question :=
  conversation.run
    (fun question asked ↦ (answer (asked ++ [question]), asked ++ [question]))
    (fun _ asked ↦ asked) []

namespace Engine

/-- The conversation of a job that asks about a snapshot. -/
def about (provider : Provider) (prompt : String) (options : Prompt.Options)
    (snapshot : Snapshot) : Conversation :=
  converse ⟨provider, Prompt.full prompt snapshot options, options.toolsEnabled⟩ snapshot

/-- What a job does with the text of the first answer. -/
def afterFirst (request : Request) (snapshot : Snapshot) (raw : String) : Conversation :=
  if request.toolsEnabled then
    parse raw fun reply ↦
      if reply.toolCalls.isEmpty then
        finish reply raw 1 [] [.start, .round1, .parse1, .noTools, .done]
      else secondRound request snapshot reply.toolCalls [.start, .round1, .parse1]
  else .ended (.ok { replyText := raw, rounds := 1, trace := [.start, .round1, .done] })

theorem converse_eq (request : Request) (snapshot : Snapshot) :
    converse request snapshot =
      round request request.prompt 1 [.start, .round1] (afterFirst request snapshot) :=
  rfl

theorem parse_congr {raw : String} {next other : ModelReply → Conversation}
    (h : ∀ reply, (ModelReply.read raw).2 = .ok reply → next reply = other reply) :
    parse raw next = parse raw other := by
  unfold parse
  cases hread : ModelReply.read raw with
  | mk dropped parsed =>
    rw [hread] at h
    cases parsed with
    | ok reply => simp only [h reply rfl]
    | error fault => rfl

theorem secondRound_congr (request : Request) {first second : Snapshot} {calls : List ToolCall}
    (h : ∀ call ∈ calls, call.resolve first = call.resolve second) (trace : List Stage) :
    secondRound request first calls trace = secondRound request second calls trace := by
  rw [secondRound, secondRound, ToolCall.resultBlocks_congr h]

/-- The rest of a job depends on what the calls resolve to that the first answer asks for. -/
theorem afterFirst_congr {request : Request} {first second : Snapshot} {raw : String}
    (h : request.toolsEnabled = true → ∀ reply, (ModelReply.read raw).2 = .ok reply →
      ∀ call ∈ reply.toolCalls, call.resolve first = call.resolve second) :
    afterFirst request first raw = afterFirst request second raw := by
  unfold afterFirst
  by_cases htools : request.toolsEnabled = true
  · rw [if_pos htools, if_pos htools]
    refine parse_congr fun reply hread ↦ ?_
    rw [secondRound_congr request (h htools reply hread)]
  · rw [if_neg htools, if_neg htools]

/-- A round goes on in the same way with two continuations that agree on the answer it gets. -/
theorem run_round_congr {σ : Type} {answer : Question → σ → Except Fault Completion.Result × σ}
    {keep : Log.Record → σ → σ} {state : σ} (hkeep : ∀ record, keep record state = state)
    {request : Request} {prompt : String} {next other : String → Conversation}
    (h : ∀ reply, (answer ⟨request.provider, prompt⟩ state).1 = .ok reply →
      reply.succeeded = true → next (reply.reply.getD "") = other (reply.reply.getD ""))
    (number : Nat) (trace : List Stage) :
    (round request prompt number trace next).run answer keep state =
      (round request prompt number trace other).run answer keep state := by
  simp only [round, Conversation.run, hkeep]
  cases hanswer : answer ⟨request.provider, prompt⟩ state with
  | mk outcome after =>
    rw [hanswer] at h
    cases outcome with
    | error fault => rfl
    | ok reply =>
      by_cases hsucceeded : reply.succeeded = true
      · simp only [if_pos hsucceeded, h reply rfl hsucceeded]
      · simp only [if_neg hsucceeded]

end Engine

/-! ### Confidentiality -/

/-- An agent of any behaviour is asked the same about two snapshots, and the job ends the same, when
they agree on what the options show and on what the calls of the first answer resolve to. Without
tools the conversations are the same, whoever answers. -/
theorem replay_about_eq (provider : Provider) (prompt : String)
    (options : Prompt.Options) (answer : List Question → Except Fault Completion.Result)
    {first second : Snapshot} (hagree : first.AgreesOn options second)
    (hcalls : options.toolsEnabled = true → ∀ reply parsed,
      answer [⟨provider, Prompt.full prompt first options⟩] = .ok reply →
      reply.succeeded = true → (ModelReply.read (reply.reply.getD "")).2 = .ok parsed →
      ∀ call ∈ parsed.toolCalls, call.resolve first = call.resolve second) :
    (Engine.about provider prompt options first).replay answer =
        (Engine.about provider prompt options second).replay answer ∧
      (options.toolsEnabled = false →
        Engine.about provider prompt options first =
          Engine.about provider prompt options second) := by
  let request : Request := ⟨provider, Prompt.full prompt first options, options.toolsEnabled⟩
  have hsame : Engine.about provider prompt options second =
      Engine.converse request second := by
    rw [Engine.about, ← Prompt.full_congr hagree prompt]
  have hrun : (Engine.converse request first).replay answer =
      (Engine.converse request second).replay answer := by
    rw [Engine.converse_eq, Engine.converse_eq]
    refine Engine.run_round_congr (fun _ ↦ rfl) (fun reply hreply hsucceeded ↦ ?_) 1 _
    exact Engine.afterFirst_congr fun htools parsed hread ↦
      hcalls htools reply parsed hreply hsucceeded hread
  rw [hsame]
  refine ⟨hrun, fun htools ↦ ?_⟩
  have hafter : Engine.afterFirst request first = Engine.afterFirst request second := by
    funext raw
    refine Engine.afterFirst_congr fun henabled ↦ ?_
    exact absurd (htools.symm.trans henabled) (by decide)
  rw [Engine.about, Engine.converse_eq, Engine.converse_eq, hafter]

/-- What an agent says that reads the last line of the log. -/
def lastLineReply : String :=
  "\x7b\"tool_calls\": [\x7b\"name\": \"get_command_log_tail\", " ++
    "\"args\": \x7b\"n_lines\": 1\x7d\x7d]\x7d"

/-- It reads the line before it answers. -/
def lastLineAgent (asked : List Question) : Except Fault Completion.Result :=
  Completion.Result.success (if asked.length = 1 then lastLineReply else "Use the cluster option.")

def logOfFirst : Snapshot := { commandLog := some "open a\nfit\n", lastError := some "no data" }

def logOfSecond : Snapshot := { commandLog := some "open b\nfit\n", scriptFull := some "fit" }

/-- It learns nothing of the line before, of the error, or of the script. -/
theorem replay_lastLineAgent :
    logOfFirst.AgreesOn {} logOfSecond ∧
      (Engine.about .codex "why?" {} logOfFirst).replay lastLineAgent =
        (Engine.about .codex "why?" {} logOfSecond).replay lastLineAgent := by
  have hagree : logOfFirst.AgreesOn {} logOfSecond :=
    ⟨fun _ ↦ rfl, fun hshown ↦ absurd hshown (by decide), fun hshown ↦ absurd hshown (by decide)⟩
  refine ⟨hagree, (replay_about_eq .codex "why?" {} lastLineAgent hagree ?_).1⟩
  intro _ reply parsed hreply _ hread call hcall
  have htext : reply.reply = some lastLineReply := by
    cases hreply
    rfl
  have hparsed : (ModelReply.read lastLineReply).2 =
      .ok { toolCalls := [{ name := "get_command_log_tail", lineCount := 1 }] } := by
    decide +kernel
  rw [htext, Option.getD_some, hparsed] at hread
  cases hread
  rw [List.mem_singleton.mp hcall]
  decide +kernel

end Job

end DeskAssistant
