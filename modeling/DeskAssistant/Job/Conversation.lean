import DeskAssistant.Job.Result
import DeskAssistant.Log.Record

/-!
# Conversations

A conversation with an agent is a tree: it asks a question and goes on with the answer, notes a
record, or has ended with a result or a fault. `Conversation.run` carries it out with whatever
answers questions and takes notes.
-/

set_option autoImplicit false
set_option relaxedAutoImplicit false

namespace DeskAssistant.Job

/-- What an agent is asked. -/
structure Question where
  provider : Provider
  prompt : String
  deriving Repr, DecidableEq

inductive Conversation where
  | ended (outcome : Except Fault Result)
  | note (record : Log.Record) (next : Conversation)
  | ask (question : Question) (next : Completion.Result → Conversation)

namespace Conversation

/-- Notes records in order before going on. -/
def noteAll (records : List Log.Record) (next : Conversation) : Conversation :=
  records.foldr note next

/-- Carries a conversation out over a state: `answer` answers a question, or ends the conversation
with a fault, and `keep` takes a note. -/
def run {σ : Type} (answer : Question → σ → Except Fault Completion.Result × σ)
    (keep : Log.Record → σ → σ) : Conversation → σ → Except Fault Result × σ
  | ended outcome, state => (outcome, state)
  | note record next, state => next.run answer keep (keep record state)
  | ask question next, state =>
    match answer question state with
    | (.ok reply, state) => (next reply).run answer keep state
    | (.error fault, state) => (.error fault, state)

end Conversation

end DeskAssistant.Job
