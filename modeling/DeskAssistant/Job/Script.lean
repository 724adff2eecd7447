import DeskAssistant.Job.Conversation

/-!
# Scripted agents

An agent that answers from a script: each question takes the next reply. A reply is a text, a
failure, a fault, or a result given by its parts; a question beyond the end of the script is a
fault.
-/

set_option autoImplicit false
set_option relaxedAutoImplicit false

namespace DeskAssistant.Job

inductive ScriptedReply where
  | text (reply : String)
  | failure (kind : Completion.FailureKind) (message : String)
  | fault (message : String)
  | parts (reply error errorKind : Option String)
  deriving Repr, DecidableEq

/-- What a scripted reply answers. -/
def ScriptedReply.answer : ScriptedReply → Except Fault Completion.Result
  | text reply => Completion.Result.success reply
  | failure kind message => .ok (.failure kind message)
  | fault message => .error (.raised message)
  | parts reply error errorKind => Completion.Result.of? reply error errorKind

/-- What the next reply of a script answers, and the replies after it. -/
def nextAnswer : List ScriptedReply → Except Fault Completion.Result × List ScriptedReply
  | [] => (.error (.scriptEnded "reply"), [])
  | reply :: rest => (reply.answer, rest)

/-- A scripted agent at work: the replies that are left, the questions asked, and the records
noted. -/
structure Script where
  replies : List ScriptedReply
  questions : List Question := []
  records : List Log.Record := []
  deriving Repr, DecidableEq

namespace Script

def answer (question : Question) (script : Script) : Except Fault Completion.Result × Script :=
  let (reply, replies) := nextAnswer script.replies
  (reply, { script with replies, questions := script.questions ++ [question] })

def keep (record : Log.Record) (script : Script) : Script :=
  { script with records := script.records ++ [record] }

/-- Carries a conversation out with a scripted agent. -/
def converse (conversation : Conversation) (script : Script) : Except Fault Result × Script :=
  conversation.run answer keep script

end Script

end DeskAssistant.Job
