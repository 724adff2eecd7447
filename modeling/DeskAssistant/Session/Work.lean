import DeskAssistant.Job.Engine
import DeskAssistant.Job.Script
import DeskAssistant.Session.Desk

/-!
# Workers at work

A worker has the conversation of its job with an agent and posts the result. Agents have a state of
their own; `Agents` says how they answer a question that a session asks. A worker's thread runs
when it is told to, or at once when it is started, or it cannot be started at all.
-/

set_option autoImplicit false
set_option relaxedAutoImplicit false

namespace DeskAssistant

/-- How the agents answer the question of a session: what they note, the answer, and their next
state. -/
abbrev Agents (σ : Type) :=
  Nat → Job.Question → σ → List Log.Record × Except Fault Completion.Result × σ

/-- When the thread of a worker runs. -/
inductive Starting where
  | deferred
  | immediate
  | impossible
  deriving Repr, DecidableEq

namespace Desk

variable {σ : Type}

/-- Lets a worker do its job and post the result. -/
def work (agents : Agents σ) (worker : Nat) (desk : Desk) (state : σ) :
    Except Fault Unit × Desk × σ :=
  match desk.workers[worker]? with
  | none => (.ok (), desk, state)
  | some held =>
    let answer := fun (question : Job.Question) (acc : Desk × σ) ↦
      let (records, answer, state) := agents held.session question acc.2
      let noted := records.map fun record ↦ Entry.record (record.on held.name)
      (answer, (acc.1.note (.notice held.session (.asked question) :: noted), state))
    let keep := fun (record : Log.Record) (acc : Desk × σ) ↦
      (acc.1.note [.record (record.on held.name)], acc.2)
    let (outcome, desk, state) :=
      (Job.Engine.converse held.request held.snapshot).run answer keep (desk, state)
    let (posted, desk) := desk.finish worker outcome
    (posted, desk, state)

/-- Asks in a session and starts the worker's thread. The answer is whether a job is under way. -/
def askAndStart (agents : Agents σ) (starting : Starting) (session : Nat) (prompt : String)
    (options : Prompt.Options) (provider : Provider) (desk : Desk) (state : σ) :
    Bool × Desk × σ :=
  match desk.ask session prompt options provider, starting with
  | (none, desk), _ => (false, desk, state)
  | (some _, desk), .deferred => (true, desk, state)
  | (some worker, desk), .immediate =>
    let (_, desk, state) := desk.work agents worker state
    (true, desk, state)
  | (some worker, desk), .impossible => (false, desk.startFailed worker .threadRefused, state)

/-- Agents that answer each session from a script of its own. -/
def scripted : Agents (List (List Job.ScriptedReply)) := fun session _ scripts ↦
  let (answer, rest) := Job.nextAnswer ((scripts[session]?).getD [])
  ([], answer, scripts.set session rest)

end Desk

end DeskAssistant
