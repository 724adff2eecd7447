import DeskAssistant.Job.Conversation
import DeskAssistant.Prompt
import DeskAssistant.Text.Line
import DeskAssistant.Text.Quoted
import DeskAssistant.Tool.Reply
import DeskAssistant.Tool.Result

/-!
# The two rounds of a job

The first round sends the request's prompt. When tools are enabled and the reply asks for some,
they are resolved against the job's snapshot, and the second round sends the prompt again with their
results. The second round is final: the tools it asks for are ignored. `Engine.converse` is the
whole of it, as a conversation.
-/

set_option autoImplicit false
set_option relaxedAutoImplicit false

namespace DeskAssistant.Job.Engine

def record (level : Int) (template : String) (arguments : List String) : Log.Record :=
  { level, source := "llmdesk.ai.orchestration.tool_protocol", template, arguments }

/-- The number of rounds that a job may take. -/
def roundLimit : Nat := 2

/-- The first line of an error, for the log. -/
def summary (error : Option String) : String :=
  (Text.firstLine? (error.getD "")).getD "unknown error"

/-- One round: a question, and the end of the job when the answer is not a success. `trace` holds
the stages up to this round. -/
def round (request : Request) (prompt : String) (number : Nat) (trace : List Stage)
    (next : String → Conversation) : Conversation :=
  .note (record Log.debug "Round %s/%s via %s (prompt=%s chars)"
    [toString number, toString roundLimit, request.provider.name, toString prompt.length]) <|
  .ask ⟨request.provider, prompt⟩ fun answer ↦
    if answer.succeeded then next (answer.reply.getD "")
    else
      .note (record Log.warning "Round %s failed: %s" [toString number, summary answer.error]) <|
      .ended (.ok (.failure answer.error number (trace ++ [.failed, .done])))

/-- Reads a reply and goes on with it; the names of calls that were dropped are noted. -/
def parse (raw : String) (next : ModelReply → Conversation) : Conversation :=
  let (dropped, parsed) := ModelReply.read raw
  .noteAll (dropped.map (fun name ↦
    record Log.debug "Dropping unknown tool call %s" [Text.quoted name])) <|
  match parsed with
  | .ok reply => next reply
  | .error fault => .ended (.error (.digits fault))

/-- The end of a job whose last reply is `reply`. -/
def finish (reply : ModelReply) (raw : String) (rounds : Nat) (toolCalls : List ToolCall)
    (trace : List Stage) : Conversation :=
  .ended (.ok { replyText := reply.display raw
                insertText := reply.proposedInsert
                rounds
                toolCalls
                trace })

/-- The second round, after the calls of the first one. -/
def secondRound (request : Request) (snapshot : Snapshot) (calls : List ToolCall)
    (trace : List Stage) : Conversation :=
  let trace := trace ++ [.hasTools, .execute, .round2]
  let results := ToolCall.resultBlocks calls snapshot
  .note (record Log.debug "Executed %s tool call(s): %s"
    [toString calls.length, String.intercalate ", " (calls.map (·.name))]) <|
  round request (Prompt.followUp request.prompt results) 2 trace fun raw ↦
    parse raw fun final ↦
      let ignored :=
        if final.toolCalls.isEmpty then []
        else
          [record Log.info "Ignoring %s tool call(s) requested in the final round"
            [toString final.toolCalls.length]]
      .noteAll ignored (finish final raw 2 calls (trace ++ [.parse2, .done]))

/-- The conversation of a job. -/
def converse (request : Request) (snapshot : Snapshot) : Conversation :=
  let trace := [Stage.start, .round1]
  round request request.prompt 1 trace fun raw ↦
    if request.toolsEnabled then
      let trace := trace ++ [.parse1]
      parse raw fun reply ↦
        if reply.toolCalls.isEmpty then finish reply raw 1 [] (trace ++ [.noTools, .done])
        else secondRound request snapshot reply.toolCalls trace
    else .ended (.ok { replyText := raw, rounds := 1, trace := trace ++ [.done] })

end DeskAssistant.Job.Engine
