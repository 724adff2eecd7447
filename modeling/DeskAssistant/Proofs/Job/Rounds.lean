import DeskAssistant.Job.Engine
import DeskAssistant.Job.Script
import DeskAssistant.Proofs.Job.Dialogue
import Mathlib.Tactic.Common

/-!
# What a job asks and returns

A job asks its agent once or twice, and its result records which of five paths it took.
`RoundProtocol` says this of the answers and the result together: which question was asked when,
how rounds, trace and error belong together, and where the text of the reply comes from.
`exists_roundProtocol_of_run` proves it for every run that returns, with an agent of any
behaviour. The text is never empty: an answer without an error has a text by the construction of
results, a reply without texts falls back on it, and a failure without a message is given one.
-/

set_option autoImplicit false
set_option relaxedAutoImplicit false

namespace DeskAssistant

/-! ### Texts that are not empty -/

theorem Text.endLine_ne_empty (text : String) : Text.endLine text ≠ "" := by
  unfold Text.endLine
  split_ifs with hends
  · intro hempty
    rw [hempty] at hends
    simp at hends
  · intro hempty
    have hlength := congrArg String.length hempty
    simp at hlength

namespace ModelReply

theorem display_ne_empty (reply : ModelReply) {fallback : String} (hfallback : fallback ≠ "") :
    reply.display fallback ≠ "" := by
  unfold display
  split_ifs with hinsert htext
  · exact hfallback
  · intro hempty
    rw [hempty] at htext
    exact htext rfl
  · exact Text.endLine_ne_empty _
  · exact Text.endLine_ne_empty _

end ModelReply

namespace Completion

theorem ne_empty_of_hasText {text : Option String} (htext : hasText text = true) :
    text.getD "" ≠ "" := by
  intro hempty
  rw [hasText, hempty] at htext
  exact absurd htext (by decide)

namespace Result

/-- A success has a reply: only one of reply and error is a text, and there is no error. -/
theorem reply_ne_empty_of_succeeded {answer : Result} (h : answer.succeeded = true) :
    answer.reply.getD "" ≠ "" := by
  have herror : answer.error = none := Option.isNone_iff_eq_none.mp h
  have hnoError : hasText answer.error = false := by
    rw [herror]
    rfl
  have hreply : hasText answer.reply = true := by
    have hone := answer.exactlyOne
    rw [hnoError] at hone
    simpa using hone
  exact ne_empty_of_hasText hreply

theorem messageOr_ne_empty (message : Option String) : messageOr message ≠ "" :=
  ne_empty_of_hasText (hasText_messageOr message)

end Result

end Completion

namespace Job

open Conversation

/-! ### One round and one reading -/

namespace Engine

theorem dialogue_round_iff {request : Request} {prompt : String} {number : Nat}
    {trace : List Stage} {next : String → Conversation}
    {answered : List (Question × Completion.Result)} {result : Result} :
    Dialogue (round request prompt number trace next) answered result ↔
      ∃ answer rest, answered = (⟨request.provider, prompt⟩, answer) :: rest ∧
        ((answer.succeeded = true ∧ Dialogue (next (answer.reply.getD "")) rest result) ∨
          (answer.succeeded = false ∧ rest = [] ∧
            result = .failure answer.error number (trace ++ [.failed, .done]))) := by
  unfold round
  rw [dialogue_note_iff, dialogue_ask_iff]
  refine exists_congr fun answer ↦ exists_congr fun rest ↦ and_congr_right fun _ ↦ ?_
  cases hsucceeded : answer.succeeded with
  | true => simp
  | false =>
    simp only [Bool.false_eq_true, if_false, false_and, false_or, true_and, dialogue_note_iff,
      dialogue_ended_iff, Except.ok.injEq]
    rw [and_comm, eq_comm (a := result)]

theorem dialogue_parse_iff {raw : String} {next : ModelReply → Conversation}
    {answered : List (Question × Completion.Result)} {result : Result} :
    Dialogue (parse raw next) answered result ↔
      ∃ reply, (ModelReply.read raw).2 = .ok reply ∧ Dialogue (next reply) answered result := by
  unfold parse
  dsimp only
  rw [dialogue_noteAll_iff]
  cases (ModelReply.read raw).2 with
  | ok reply => simp
  | error fault => simp [dialogue_ended_iff]

end Engine

/-! ### The protocol -/

/-- The calls that are granted to the first answer of a job: those that its text asks for, when
tools are enabled and the answer is a success. -/
def granted (request : Request) (first : Completion.Result) : List ToolCall :=
  match request.toolsEnabled && first.succeeded, (ModelReply.read (first.reply.getD "")).2 with
  | true, .ok reply => reply.toolCalls
  | _, _ => []

/-- The paths that a job can take. -/
def paths : List (List Stage) :=
  [[.start, .round1, .failed, .done],
    [.start, .round1, .done],
    [.start, .round1, .parse1, .noTools, .done],
    [.start, .round1, .parse1, .hasTools, .execute, .round2, .failed, .done],
    [.start, .round1, .parse1, .hasTools, .execute, .round2, .parse2, .done]]

def Stage.isRound (stage : Stage) : Bool := stage = .round1 || stage = .round2

/-- What an agent that gave the answers `first` and perhaps `second` was asked, and how the result
of the job belongs to its answers. -/
structure RoundProtocol (request : Request) (snapshot : Snapshot) (first : Completion.Result)
    (second : Option Completion.Result) (answered : List (Question × Completion.Result))
    (result : Result) : Prop where
  /-- The first question is the request's prompt, and the second one, if any, adds the results of
  the granted calls. -/
  answered_eq : answered = (⟨request.provider, request.prompt⟩, first) ::
    second.toList.map fun answer ↦ (⟨request.provider, Prompt.followUp request.prompt
      (ToolCall.resultBlocks (granted request first) snapshot)⟩, answer)
  second_isSome_iff : second.isSome = true ↔ request.toolsEnabled = true ∧
    first.succeeded = true ∧ ∃ reply,
      (ModelReply.read (first.reply.getD "")).2 = .ok reply ∧ reply.toolCalls ≠ []
  rounds_eq : result.rounds = answered.length
  rounds_eq_count : result.rounds = result.trace.countP Stage.isRound
  trace_mem : result.trace ∈ paths
  parse1_mem_iff : .parse1 ∈ result.trace ↔
    request.toolsEnabled = true ∧ first.succeeded = true
  failed_mem_iff : .failed ∈ result.trace ↔ (second.getD first).succeeded = false
  error_isSome_iff : result.error.isSome = true ↔ (second.getD first).succeeded = false
  replyText_ne_empty : result.replyText ≠ ""
  /-- A failed answer ends the job with its message. -/
  of_failed : (second.getD first).succeeded = false →
    result.replyText = Completion.Result.messageOr (second.getD first).error ∧
      result.error = some result.replyText ∧ result.insertText = "" ∧ result.toolCalls = []
  /-- Without tools the answer is shown as it came. -/
  of_plain : first.succeeded = true → request.toolsEnabled = false →
    some result.replyText = first.reply ∧ result.insertText = "" ∧ result.toolCalls = []
  /-- With tools the last answer is read and displayed, with its own text as the fallback. -/
  of_parsed : (second.getD first).succeeded = true → request.toolsEnabled = true →
    ∃ raw reply, (second.getD first).reply = some raw ∧ (ModelReply.read raw).2 = .ok reply ∧
      result.replyText = reply.display raw ∧ result.insertText = reply.proposedInsert ∧
      result.toolCalls = if second.isSome then granted request first else []

/-! ### The five paths -/

section Paths

variable {request : Request} {snapshot : Snapshot} {first second : Completion.Result}

theorem granted_of_parsed (htools : request.toolsEnabled = true)
    (hfirst : first.succeeded = true) {reply : ModelReply}
    (hread : (ModelReply.read (first.reply.getD "")).2 = .ok reply) :
    granted request first = reply.toolCalls := by
  simp [granted, htools, hfirst, hread]

theorem reply_eq_some_of_succeeded {answer : Completion.Result}
    (hanswer : answer.succeeded = true) : answer.reply = some (answer.reply.getD "") := by
  cases hreply : answer.reply with
  | some text => rfl
  | none =>
    have hne := Completion.Result.reply_ne_empty_of_succeeded hanswer
    rw [hreply] at hne
    exact absurd rfl hne

theorem roundProtocol_failedFirst (hfirst : first.succeeded = false) :
    RoundProtocol request snapshot first none [(⟨request.provider, request.prompt⟩, first)]
      (.failure first.error 1 [.start, .round1, .failed, .done]) where
  answered_eq := rfl
  second_isSome_iff := by simp [hfirst]
  rounds_eq := rfl
  rounds_eq_count := rfl
  trace_mem := by simp [paths, Result.failure]
  parse1_mem_iff := by simp [Result.failure, hfirst]
  failed_mem_iff := by simp [Result.failure, hfirst]
  error_isSome_iff := by simp [Result.failure, hfirst]
  replyText_ne_empty := Completion.Result.messageOr_ne_empty _
  of_failed := fun _ ↦ ⟨rfl, rfl, rfl, rfl⟩
  of_plain := by simp [hfirst]
  of_parsed := by simp [hfirst]

theorem roundProtocol_plain (hfirst : first.succeeded = true)
    (htools : request.toolsEnabled = false) :
    RoundProtocol request snapshot first none [(⟨request.provider, request.prompt⟩, first)]
      { replyText := first.reply.getD "", rounds := 1, trace := [.start, .round1, .done] } where
  answered_eq := rfl
  second_isSome_iff := by simp [htools]
  rounds_eq := rfl
  rounds_eq_count := rfl
  trace_mem := by simp [paths]
  parse1_mem_iff := by simp [htools]
  failed_mem_iff := by simp [hfirst]
  error_isSome_iff := by simp [hfirst]
  replyText_ne_empty := Completion.Result.reply_ne_empty_of_succeeded hfirst
  of_failed := by simp [hfirst]
  of_plain := fun _ _ ↦ ⟨(reply_eq_some_of_succeeded hfirst).symm, rfl, rfl⟩
  of_parsed := by simp [htools]

theorem roundProtocol_noTools (hfirst : first.succeeded = true)
    (htools : request.toolsEnabled = true) {reply : ModelReply}
    (hread : (ModelReply.read (first.reply.getD "")).2 = .ok reply)
    (hcalls : reply.toolCalls = []) :
    RoundProtocol request snapshot first none [(⟨request.provider, request.prompt⟩, first)]
      { replyText := reply.display (first.reply.getD ""), insertText := reply.proposedInsert
        rounds := 1, trace := [.start, .round1, .parse1, .noTools, .done] } where
  answered_eq := rfl
  second_isSome_iff := by simp [hread, hcalls]
  rounds_eq := rfl
  rounds_eq_count := rfl
  trace_mem := by simp [paths]
  parse1_mem_iff := by simp [htools, hfirst]
  failed_mem_iff := by simp [hfirst]
  error_isSome_iff := by simp [hfirst]
  replyText_ne_empty :=
    reply.display_ne_empty (Completion.Result.reply_ne_empty_of_succeeded hfirst)
  of_failed := by simp [hfirst]
  of_plain := by simp [htools]
  of_parsed := fun _ _ ↦
    ⟨_, reply, reply_eq_some_of_succeeded hfirst, hread, rfl, rfl, rfl⟩

theorem roundProtocol_failedSecond (hfirst : first.succeeded = true)
    (htools : request.toolsEnabled = true) {reply : ModelReply}
    (hread : (ModelReply.read (first.reply.getD "")).2 = .ok reply)
    (hcalls : reply.toolCalls ≠ []) (hsecond : second.succeeded = false) :
    RoundProtocol request snapshot first (some second)
      [(⟨request.provider, request.prompt⟩, first),
        (⟨request.provider, Prompt.followUp request.prompt
          (ToolCall.resultBlocks reply.toolCalls snapshot)⟩, second)]
      (.failure second.error 2
        [.start, .round1, .parse1, .hasTools, .execute, .round2, .failed, .done]) where
  answered_eq := by rw [granted_of_parsed htools hfirst hread]; rfl
  second_isSome_iff := by simp [htools, hfirst, hread, hcalls]
  rounds_eq := rfl
  rounds_eq_count := rfl
  trace_mem := by simp [paths, Result.failure]
  parse1_mem_iff := by simp [Result.failure, htools, hfirst]
  failed_mem_iff := by simp [Result.failure, hsecond]
  error_isSome_iff := by simp [Result.failure, hsecond]
  replyText_ne_empty := Completion.Result.messageOr_ne_empty _
  of_failed := fun _ ↦ ⟨rfl, rfl, rfl, rfl⟩
  of_plain := by simp [htools]
  of_parsed := by simp [hsecond]

theorem roundProtocol_bothRounds (hfirst : first.succeeded = true)
    (htools : request.toolsEnabled = true) {reply final : ModelReply}
    (hread : (ModelReply.read (first.reply.getD "")).2 = .ok reply)
    (hcalls : reply.toolCalls ≠ []) (hsecond : second.succeeded = true)
    (hfinal : (ModelReply.read (second.reply.getD "")).2 = .ok final) :
    RoundProtocol request snapshot first (some second)
      [(⟨request.provider, request.prompt⟩, first),
        (⟨request.provider, Prompt.followUp request.prompt
          (ToolCall.resultBlocks reply.toolCalls snapshot)⟩, second)]
      { replyText := final.display (second.reply.getD ""), insertText := final.proposedInsert
        rounds := 2, toolCalls := reply.toolCalls
        trace := [.start, .round1, .parse1, .hasTools, .execute, .round2, .parse2, .done] } where
  answered_eq := by rw [granted_of_parsed htools hfirst hread]; rfl
  second_isSome_iff := by simp [htools, hfirst, hread, hcalls]
  rounds_eq := rfl
  rounds_eq_count := rfl
  trace_mem := by simp [paths]
  parse1_mem_iff := by simp [htools, hfirst]
  failed_mem_iff := by simp [hsecond]
  error_isSome_iff := by simp [hsecond]
  replyText_ne_empty :=
    final.display_ne_empty (Completion.Result.reply_ne_empty_of_succeeded hsecond)
  of_failed := by simp [hsecond]
  of_plain := by simp [htools]
  of_parsed := fun _ _ ↦
    ⟨_, final, reply_eq_some_of_succeeded hsecond, hfinal, rfl, rfl,
      (granted_of_parsed htools hfirst hread).symm⟩

end Paths

/-! ### Every run follows the protocol -/

/-- A second round, after a first one that granted calls. -/
theorem exists_roundProtocol_of_secondRound {request : Request} {snapshot : Snapshot}
    {first : Completion.Result} {reply : ModelReply}
    {rest : List (Question × Completion.Result)} {result : Result}
    (hfirst : first.succeeded = true) (htools : request.toolsEnabled = true)
    (hread : (ModelReply.read (first.reply.getD "")).2 = .ok reply)
    (hcalls : reply.toolCalls ≠ [])
    (hdialogue : Dialogue
      (Engine.secondRound request snapshot reply.toolCalls [.start, .round1, .parse1]) rest
      result) :
    ∃ second, RoundProtocol request snapshot first (some second)
      ((⟨request.provider, request.prompt⟩, first) :: rest) result := by
  unfold Engine.secondRound at hdialogue
  dsimp only at hdialogue
  rw [dialogue_note_iff, Engine.dialogue_round_iff] at hdialogue
  obtain ⟨second, last, rfl, ⟨hsecond, hfinish⟩ | ⟨hsecond, rfl, rfl⟩⟩ := hdialogue
  · rw [Engine.dialogue_parse_iff] at hfinish
    obtain ⟨final, hfinal, hended⟩ := hfinish
    rw [dialogue_noteAll_iff, Engine.finish, dialogue_ended_iff] at hended
    obtain ⟨hresult, rfl⟩ := hended
    cases hresult
    exact ⟨second, roundProtocol_bothRounds hfirst htools hread hcalls hsecond hfinal⟩
  · exact ⟨second, roundProtocol_failedSecond hfirst htools hread hcalls hsecond⟩

theorem exists_roundProtocol_of_dialogue {request : Request} {snapshot : Snapshot}
    {answered : List (Question × Completion.Result)} {result : Result}
    (hdialogue : Dialogue (Engine.converse request snapshot) answered result) :
    ∃ first second, RoundProtocol request snapshot first second answered result := by
  unfold Engine.converse at hdialogue
  dsimp only at hdialogue
  rw [Engine.dialogue_round_iff] at hdialogue
  obtain ⟨first, rest, rfl, ⟨hfirst, hnext⟩ | ⟨hfirst, rfl, rfl⟩⟩ := hdialogue
  · by_cases htools : request.toolsEnabled = true
    · rw [if_pos htools, Engine.dialogue_parse_iff] at hnext
      obtain ⟨reply, hread, hreply⟩ := hnext
      by_cases hcalls : reply.toolCalls = []
      · rw [hcalls, List.isEmpty_nil, if_pos rfl, Engine.finish, dialogue_ended_iff] at hreply
        obtain ⟨hresult, rfl⟩ := hreply
        cases hresult
        exact ⟨first, none, roundProtocol_noTools hfirst htools hread hcalls⟩
      · rw [if_neg (by simpa using hcalls)] at hreply
        obtain ⟨second, hprotocol⟩ :=
          exists_roundProtocol_of_secondRound hfirst htools hread hcalls hreply
        exact ⟨first, some second, hprotocol⟩
    · rw [if_neg htools, dialogue_ended_iff] at hnext
      obtain ⟨hresult, rfl⟩ := hnext
      cases hresult
      exact ⟨first, none, roundProtocol_plain hfirst (by simpa using htools)⟩
  · exact ⟨first, none, roundProtocol_failedFirst hfirst⟩

/-- Whatever agent answers, and whatever it answers from: a job that returns has followed the
protocol. -/
theorem exists_roundProtocol_of_run {σ : Type}
    (answer : Question → σ → Except Fault Completion.Result × σ) (keep : Log.Record → σ → σ)
    (state : σ) (request : Request) (snapshot : Snapshot) {result : Result}
    (hreturns : ((Engine.converse request snapshot).run answer keep state).1 = .ok result) :
    ∃ first second answered,
      exchanges answer keep (Engine.converse request snapshot) state =
          answered.map answeredExchange ∧
        RoundProtocol request snapshot first second answered result := by
  obtain ⟨answered, hdialogue, hexchanges⟩ :=
    dialogue_of_run answer keep (Engine.converse request snapshot) state hreturns
  obtain ⟨first, second, hprotocol⟩ := exists_roundProtocol_of_dialogue hdialogue
  exact ⟨first, second, answered, hexchanges, hprotocol⟩

/-- An agent that asks for the last error before it answers. -/
def lastErrorScript : Script where
  replies := [.text "\x7b\"tool_calls\": [\x7b\"name\": \"get_last_error\"\x7d]\x7d",
    .text "\x7b\"assistant_text\": \"done\"\x7d"]

theorem roundProtocol_lastErrorScript :
    ((Engine.converse ⟨.codex, "why?", true⟩ { lastError := some "no data" }).run
        Script.answer Script.keep lastErrorScript).1 = .ok
          { replyText := "done", rounds := 2, toolCalls := [{ name := "get_last_error" }]
            trace :=
              [.start, .round1, .parse1, .hasTools, .execute, .round2, .parse2, .done] } ∧
      ∃ first second answered,
        exchanges Script.answer Script.keep
            (Engine.converse ⟨.codex, "why?", true⟩ { lastError := some "no data" })
            lastErrorScript = answered.map answeredExchange ∧
          RoundProtocol ⟨.codex, "why?", true⟩ { lastError := some "no data" } first second
            answered
            { replyText := "done", rounds := 2, toolCalls := [{ name := "get_last_error" }]
              trace :=
                [.start, .round1, .parse1, .hasTools, .execute, .round2, .parse2, .done] } := by
  have hreturns : ((Engine.converse ⟨.codex, "why?", true⟩ { lastError := some "no data" }).run
      Script.answer Script.keep lastErrorScript).1 = .ok
        { replyText := "done", rounds := 2, toolCalls := [{ name := "get_last_error" }]
          trace :=
            [.start, .round1, .parse1, .hasTools, .execute, .round2, .parse2, .done] } := by
    decide +kernel
  exact ⟨hreturns, exists_roundProtocol_of_run Script.answer Script.keep lastErrorScript _ _
    hreturns⟩

end Job

end DeskAssistant
