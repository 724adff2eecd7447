import DeskAssistant.Job.Conversation
import DeskAssistant.Prompt
import DeskAssistant.Session.Slot

/-!
# Sessions and their jobs

A session belongs to one surface that the user sees. It runs one job at a time: asking takes a
snapshot of the context, marks the session as busy and makes a worker; the worker posts its result
to the job's slot; and the event loop applies the result if the session still owns the job. A
session owns its active job while it is alive and, if it is kept in the registry, while it is the
current one there. Other results are discarded.

All sessions on one event loop, with their workers and the registry, make up a `Desk`. Sessions and
workers are numbered in the order in which they were made. The history holds all calls to the
surfaces and all records, in order.
-/

set_option autoImplicit false
set_option relaxedAutoImplicit false

namespace DeskAssistant

/-! ### Parts of a desk -/

/-- What a session tells its surface, asks its agent, or reports. -/
inductive Notice where
  | busy (value : Bool)
  | status (text : String)
  | reply (text : String)
  | asked (question : Job.Question)
  | finished (result : Job.Result)
  deriving Repr, DecidableEq

/-- An entry of the history. -/
inductive Entry where
  | notice (session : Nat) (notice : Notice)
  | record (record : Log.Record)
  deriving Repr, DecidableEq

/-- The records among entries. -/
def Entry.records (entries : List Entry) : List Log.Record :=
  entries.filterMap fun
    | .record noted => some noted
    | .notice _ _ => none

structure Session where
  /-- The session is kept in the registry. -/
  inRegistry : Bool
  /-- The end of a job is reported. -/
  reports : Bool := true
  source : ContextSource
  alive : Bool := true
  busy : Bool := false
  lastReply : String := ""
  lastInsert : String := ""
  /-- How many jobs the session has had. -/
  jobs : Nat := 0
  /-- The worker of the active job. -/
  active : Option Nat := none

/-- The proposed text to insert, or the whole reply where none is proposed. -/
def Session.textToInsert (session : Session) : String :=
  if session.lastInsert.isEmpty then session.lastReply else session.lastInsert

/-- The session when the job of a worker becomes its active one. -/
def Session.begin (session : Session) (worker : Nat) : Session :=
  { session with busy := true, jobs := session.jobs + 1, active := some worker }

/-- The session with the result of its active job. -/
def Session.settle (session : Session) (result : Job.Result) : Session :=
  { session with
    busy := false
    active := none
    lastReply := result.replyText
    lastInsert := result.insertText }

/-- A thread that does one job. -/
structure Worker where
  session : Nat
  /-- The number of the job within its session. -/
  number : Nat
  request : Job.Request
  snapshot : Snapshot
  slot : ResultSlot := {}

/-- The worker of an ask in a session, whose number is `owner`. -/
def Worker.ofAsk (session : Session) (owner : Nat) (prompt : String) (options : Prompt.Options)
    (provider : Provider) (snapshot : Snapshot) : Worker where
  session := owner
  number := session.jobs + 1
  request := ⟨provider, Prompt.full prompt snapshot options, options.toolsEnabled⟩
  snapshot

/-- The name of the worker's thread. -/
def Worker.name (worker : Worker) : String := "llmdesk-ai-" ++ toString worker.number

structure Desk where
  sessions : List Session := []
  workers : List Worker := []
  /-- The current session of the registry. -/
  current : Option Nat := none
  /-- The deliveries that wait: a worker and its result. -/
  loop : EventLoop (Nat × Job.Result) := {}
  /-- What runs on the loop besides the deliveries. -/
  tasks : List LoopTask := []
  /-- The results that were applied, by worker. -/
  applied : List (Nat × Job.Result) := []
  history : List Entry := []

namespace Desk

/-! ### History -/

def record (level : Int) (template : String) (arguments : List String)
    (thread : Option String := none) : Entry :=
  .record { level, source := "llmdesk.ui.job_bridge", template, arguments, thread }

def note (desk : Desk) (entries : List Entry) : Desk :=
  { desk with history := desk.history ++ entries }

/-! ### The registry -/

/-- Makes a session the current one. -/
def register (desk : Desk) (session : Nat) : Desk := { desk with current := some session }

/-- Leaves no session current if `session` is. -/
def release (desk : Desk) (session : Nat) : Desk :=
  if desk.current = some session then { desk with current := none } else desk

def isAlive (desk : Desk) (session : Nat) : Bool := (desk.sessions[session]?).any (·.alive)

def isBusy (desk : Desk) (session : Nat) : Bool := (desk.sessions[session]?).any (·.busy)

/-- Opens a new session; one that is kept in the registry becomes the current one. -/
def openSession (desk : Desk) (session : Session) : Desk :=
  let opened := { desk with sessions := desk.sessions ++ [session] }
  if session.inRegistry then opened.register desk.sessions.length else opened

/-- The current session, if it is alive, or else a new one, which is then the current one. -/
def present (desk : Desk) (session : Session) : Nat × Desk :=
  match desk.current.filter desk.isAlive with
  | some current => (current, desk)
  | none =>
    (desk.sessions.length, (desk.openSession session).register desk.sessions.length)

/-- Closes a session; the result of a job that it has under way will be discarded. -/
def close (desk : Desk) (session : Nat) : Desk :=
  let closed := { desk with
    sessions := desk.sessions.modify session fun session ↦ { session with alive := false } }
  if (desk.sessions[session]?).any (·.inRegistry) then closed.release session else closed

/-! ### Asking -/

/-- What the surface shows while a job is under way. -/
def workingStatus : String := "Working..."

/-- What an ask that makes a job leaves in the history: the records of the snapshot, the calls to
the surface, and the record of the start. -/
def askEntries (session : Nat) (worker : Worker) (captured : List Log.Record) : List Entry :=
  captured.map Entry.record ++
    [.notice session (.busy true), .notice session (.status workingStatus),
      record Log.debug "Starting assistant job %s (provider=%s, tools=%s)"
        [toString worker.number, worker.request.provider.name,
          Log.shownTruth worker.request.toolsEnabled]]

/-- Asks in a session: the worker of the new job, or none when the session is closed, busy, or
asked nothing. The worker's thread is not started yet. -/
def ask (desk : Desk) (session : Nat) (prompt : String) (options : Prompt.Options)
    (provider : Provider) : Option Nat × Desk :=
  match desk.sessions[session]? with
  | none => (none, desk)
  | some asking =>
    if !asking.alive then (none, desk)
    else if asking.busy then
      (none, desk.note [record Log.debug "Ignoring ask while a job is in flight" []])
    else if prompt.isEmpty then (none, desk)
    else
      let (captured, snapshot) := Snapshot.capture asking.source
      let worker := Worker.ofAsk asking session prompt options provider snapshot
      (some desk.workers.length,
        { desk with
          sessions := desk.sessions.set session (asking.begin desk.workers.length)
          workers := desk.workers ++ [worker] }.note (askEntries session worker captured))

/-! ### Results -/

/-- The session of a worker still waits for its result and may show it. -/
def owns (desk : Desk) (worker : Nat) : Bool :=
  match (desk.workers[worker]?).bind (fun held ↦ desk.sessions[held.session]?) with
  | none => false
  | some session =>
    session.alive && session.active = some worker &&
      (!session.inRegistry || desk.current = (desk.workers[worker]?).map (·.session))

/-- What a result that is applied leaves in the history. -/
def resultEntries (worker : Worker) (result : Job.Result) (reports : Bool) : List Entry :=
  [.notice worker.session (.reply result.replyText), .notice worker.session (.busy false),
    .notice worker.session (.status ""),
    record Log.debug "Assistant job %s finished (rounds=%s, ok=%s)"
      [toString worker.number, toString result.rounds, Log.shownTruth result.succeeded]] ++
    (if reports then [.notice worker.session (.finished result)] else [])

/-- Applies the result of a worker to its session, or discards it. -/
def apply (desk : Desk) (worker : Nat) (result : Job.Result) : Desk :=
  match desk.workers[worker]? with
  | none => desk
  | some held =>
    if desk.owns worker then
      { desk with
        sessions := desk.sessions.modify held.session (·.settle result)
        applied := desk.applied ++ [(worker, result)] }.note
        (resultEntries held result ((desk.sessions[held.session]?).any Session.reports))
    else
      desk.note [record Log.debug "Discarding result of job %s; surface is no longer active"
        [toString held.number]]

/-- What a worker posts when its job ended in a fault. -/
def crashResult (fault : Fault) : Job.Result :=
  .failure (some ("Assistant job failed: " ++ fault.message)) 0 []

/-- What is applied when the worker's thread could not be started. -/
def startResult (fault : Fault) : Job.Result :=
  .failure (some ("Unable to start assistant job: " ++ fault.message)) 0 []

/-- Gives up a worker whose thread could not be started. -/
def startFailed (desk : Desk) (worker : Nat) (fault : Fault) : Desk :=
  let number := toString ((desk.workers[worker]?).elim 0 (·.number))
  let noted :=
    desk.note [record Log.error "Unable to start assistant job %s: %s" [number, fault.message]]
  noted.apply worker (startResult fault)

/-- Posts the result of a worker to its slot, from where the loop is to deliver it. -/
def post (desk : Desk) (worker : Nat) (result : Job.Result) : Except Fault Unit × Desk :=
  match desk.workers[worker]? with
  | none => (.ok (), desk)
  | some held =>
    match held.slot.take with
    | .error fault => (.error fault, desk)
    | .ok slot =>
      let taken := { desk with workers := desk.workers.set worker { held with slot } }
      match desk.loop.schedule? (worker, result) with
      | some loop => (.ok (), { taken with loop })
      | none => (.ok (), taken.note [.record (ResultSlot.dropped.on held.name)])

/-- Ends the work of a worker with an outcome; a fault is reported as the result. -/
def finish (desk : Desk) (worker : Nat) : Except Fault Job.Result → Except Fault Unit × Desk
  | .ok result => desk.post worker result
  | .error fault =>
    let held := desk.workers[worker]?
    (desk.note [record Log.error "Assistant job %s crashed" [toString (held.elim 0 (·.number))]
      (held.map (·.name))]).post worker (crashResult fault)

/-! ### The loop -/

/-- Delivers a result to the session of a worker, unless its slot was used before. -/
def deliver (desk : Desk) (worker : Nat) (result : Job.Result) : Desk :=
  match desk.workers[worker]? with
  | none => desk
  | some held =>
    match held.slot.consume? with
    | none => desk
    | some slot =>
      { desk with workers := desk.workers.set worker { held with slot } }.apply worker result

/-- Runs the delivery that the loop has to run next. -/
def runNext (desk : Desk) : Desk :=
  match desk.loop.next? with
  | none => desk
  | some ((worker, result), loop) => { desk with loop }.deliver worker result

/-- Runs the deliveries that are waiting. -/
def runAll (desk : Desk) : Desk := Nat.repeat runNext desk.loop.queue.length desk

/-- What is noted when tasks are cancelled. -/
def cancelling (count : Nat) : Entry :=
  .record
    { level := Log.debug
      source := "llmdesk.app"
      template := "Canceling %s pending asyncio task(s) before shutdown."
      arguments := [toString count] }

/-- Cancels the tasks that are pending. -/
def cancelTasks (desk : Desk) : Desk :=
  let count := desk.tasks.countP LoopTask.isPending
  { desk with tasks := desk.tasks.map LoopTask.cancel }.note
    (if count = 0 then [] else [cancelling count])

/-- Makes the loop ready to be closed: what waits on it is run, and its tasks are cancelled. A loop
that is closed is left alone. -/
def drain (desk : Desk) : Desk :=
  if desk.loop.isOpen then desk.runAll.cancelTasks else desk

def closeLoop (desk : Desk) : Desk := { desk with loop := desk.loop.close }

/-- Changes where a session reads its context. -/
def changeSource (desk : Desk) (session : Nat) (source : ContextSource) : Desk :=
  { desk with
    sessions := desk.sessions.modify session fun session ↦ { session with source } }

end Desk

end DeskAssistant
