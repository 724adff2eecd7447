import DeskAssistant.Proofs.Job.Dialogue
import DeskAssistant.Session.Work
import Mathlib.Logic.Relation
import Mathlib.Tactic.Common

/-!
# Offices

An office is a desk with the threads that are at work. Its steps are everything that can happen
next, in any order: an ask, whose thread starts or is refused; a started worker that ends with any
outcome its engine allows; the next delivery of the loop; a session closed, opened, presented,
registered or released; a change of the context; an entry in the log. Nothing closes the loop.
`Reachable` offices are those that some run of steps leads to.

The lemmas of this module say what each operation of the desk does, so that no later proof opens
one: `ask_cases`, `owns_iff`, `apply_frame`, `finish_eq` and `runNext_of_cons`. Workers at work are
runs of steps, whatever the agents answer and however threads are started (`reaches_work`,
`reaches_askAndStart`).
-/

set_option autoImplicit false
set_option relaxedAutoImplicit false

namespace DeskAssistant

/-! ### Numbered lists -/

section Numbered

variable {α : Type} {entries : List α} {index : Nat} {entry last : α}

theorem getElem?_append_of_eq_some (h : entries[index]? = some entry) (more : List α) :
    (entries ++ more)[index]? = some entry := by
  rw [List.getElem?_append_left (List.getElem?_eq_some_iff.mp h).1]
  exact h

theorem getElem?_concat_eq_some (h : (entries ++ [last])[index]? = some entry) :
    entries[index]? = some entry ∨ (index = entries.length ∧ entry = last) := by
  rw [List.getElem?_append] at h
  split_ifs at h with hindex
  · exact Or.inl h
  · obtain ⟨hbound, heq⟩ := List.getElem?_eq_some_iff.mp h
    have hzero : index - entries.length = 0 := by simpa using hbound
    simp only [hzero, List.getElem_cons_zero] at heq
    exact Or.inr ⟨by omega, heq.symm⟩

theorem getElem?_set_eq_some {other : Nat} (h : (entries.set index last)[other]? = some entry) :
    (other = index ∧ entry = last) ∨ (other ≠ index ∧ entries[other]? = some entry) := by
  rw [List.getElem?_set] at h
  split_ifs at h with hindex hbound
  · exact Or.inl ⟨hindex.symm, (Option.some.inj h).symm⟩
  · exact Or.inr ⟨fun heq ↦ hindex heq.symm, h⟩

theorem lt_length_of_getElem?_eq_some (h : entries[index]? = some entry) :
    index < entries.length := (List.getElem?_eq_some_iff.mp h).1

end Numbered

/-! ### Steps -/

/-- The outcomes that the engine of each session may have on a request and a snapshot. -/
abbrev Engines := Nat → Job.Request → Snapshot → Except Fault Job.Result → Prop

structure Office where
  desk : Desk := {}
  /-- The workers whose threads were started and have not ended. -/
  running : List Nat := []

namespace Office

/-- Asks in a session; `refusal` is the fault with which the thread of a new worker is refused. The
answer is whether a job is under way. -/
def ask (office : Office) (session : Nat) (prompt : String) (options : Prompt.Options)
    (provider : Provider) (refusal : Option Fault) : Bool × Office :=
  match office.desk.ask session prompt options provider, refusal with
  | (none, desk), _ => (false, { office with desk })
  | (some worker, desk), none => (true, { desk, running := office.running ++ [worker] })
  | (some worker, desk), some fault =>
    (false, { office with desk := desk.startFailed worker fault })

/-- Ends the thread of a worker. -/
def finish (office : Office) (worker : Nat) (outcome : Except Fault Job.Result) : Office where
  desk := (office.desk.finish worker outcome).2
  running := office.running.erase worker

/-- Runs the delivery that the loop has to run next. -/
def deliver (office : Office) : Office := { office with desk := office.desk.runNext }

end Office

/-- A session as it is made. -/
def Session.fresh (inRegistry reports : Bool) (source : ContextSource) : Session :=
  { inRegistry, reports, source }

/-- The entry is no call to a surface: a record, or a question to an agent. -/
def Entry.isSilent : Entry → Bool
  | .record _ | .notice _ (.asked _) => true
  | .notice _ _ => false

inductive Office.Step (engines : Engines) : Office → Office → Prop
  | ask (office : Office) (session : Nat) (prompt : String) (options : Prompt.Options)
      (provider : Provider) (refusal : Option Fault) :
      Step engines office (office.ask session prompt options provider refusal).2
  | finish (office : Office) {worker : Nat} {held : Worker}
      {outcome : Except Fault Job.Result} (hrunning : worker ∈ office.running)
      (hworker : office.desk.workers[worker]? = some held)
      (houtcome : engines held.session held.request held.snapshot outcome) :
      Step engines office (office.finish worker outcome)
  | deliver (office : Office) : Step engines office office.deliver
  | close (office : Office) (session : Nat) :
      Step engines office { office with desk := office.desk.close session }
  | openSession (office : Office) (inRegistry reports : Bool) (source : ContextSource) :
      Step engines office
        { office with desk := office.desk.openSession (.fresh inRegistry reports source) }
  | present (office : Office) (inRegistry reports : Bool) (source : ContextSource) :
      Step engines office
        { office with desk := (office.desk.present (.fresh inRegistry reports source)).2 }
  | register (office : Office) {session : Nat}
      (hsession : session < office.desk.sessions.length) :
      Step engines office { office with desk := office.desk.register session }
  | release (office : Office) (session : Nat) :
      Step engines office { office with desk := office.desk.release session }
  | note (office : Office) {entries : List Entry}
      (hsilent : ∀ entry ∈ entries, entry.isSilent = true) :
      Step engines office { office with desk := office.desk.note entries }
  | changeSource (office : Office) (session : Nat) (source : ContextSource) :
      Step engines office { office with desk := office.desk.changeSource session source }

namespace Office

/-- Some run of steps leads from one office to the other. -/
def Reaches (engines : Engines) : Office → Office → Prop :=
  Relation.ReflTransGen (Step engines)

/-- Some run of steps leads to the office from an empty desk with an open loop. -/
def Reachable (engines : Engines) (office : Office) : Prop := Reaches engines {} office

end Office

/-! ### What the operations do -/

/-- The result that a worker posts for an outcome. -/
def Desk.reported : Except Fault Job.Result → Job.Result
  | .ok result => result
  | .error fault => crashResult fault

/-- The desk with a new job of a session, whose worker is `worker`. -/
def Desk.begun (desk : Desk) (session : Nat) (asking : Session) (worker : Worker) : Desk :=
  { desk with
    sessions := desk.sessions.set session (asking.begin desk.workers.length)
    workers := desk.workers ++ [worker] }

/-- The desk with the slot of a worker taken and its result waiting. -/
def Desk.enqueued (desk : Desk) (worker : Nat) (held : Worker) (result : Job.Result) : Desk :=
  { desk with
    workers := desk.workers.set worker { held with slot := { held.slot with posted := true } }
    loop := { desk.loop with queue := desk.loop.queue ++ [(worker, result)] } }

/-- The desk with the slot of a worker used up and only `rest` still waiting. -/
def Desk.dequeued (desk : Desk) (worker : Nat) (held : Worker) (rest : List (Nat × Job.Result)) :
    Desk :=
  { desk with
    workers := desk.workers.set worker { held with slot := { held.slot with consumed := true } }
    loop := { desk.loop with queue := rest } }

/-- The desk with a result applied to the session of a worker, apart from the history. -/
def Desk.settled (desk : Desk) (worker : Nat) (held : Worker) (result : Job.Result) : Desk :=
  { desk with
    sessions := desk.sessions.modify held.session (·.settle result)
    applied := desk.applied ++ [(worker, result)] }

namespace Desk

@[simp] theorem note_nil (desk : Desk) : desk.note [] = desk := by
  simp [note]

theorem note_note (desk : Desk) (first second : List Entry) :
    (desk.note first).note second = desk.note (first ++ second) := by
  simp [note]

theorem getElem?_workers_begun (desk : Desk) (session : Nat) (asking : Session) (worker : Worker)
    (entries : List Entry) :
    ((desk.begun session asking worker).note entries).workers[desk.workers.length]? =
      some worker := List.getElem?_concat_length

theorem getElem?_workers_dequeued {desk : Desk} {worker : Nat} {held : Worker}
    (hworker : desk.workers[worker]? = some held) (rest : List (Nat × Job.Result)) :
    (desk.dequeued worker held rest).workers[worker]? =
      some { held with slot := { held.slot with consumed := true } } :=
  List.getElem?_set_self (lt_length_of_getElem?_eq_some hworker)

/-- An ask either makes a job, in an open session that is not busy, or leaves a silent note. -/
theorem ask_cases (desk : Desk) (session : Nat) (prompt : String) (options : Prompt.Options)
    (provider : Provider) :
    (∃ entries, (∀ entry ∈ entries, entry.isSilent = true) ∧
        (∀ asking, desk.sessions[session]? = some asking → asking.alive = true →
          asking.busy = false → prompt = "") ∧
        desk.ask session prompt options provider = (none, desk.note entries)) ∨
      ∃ asking entries, desk.sessions[session]? = some asking ∧ asking.alive = true ∧
        asking.busy = false ∧ prompt ≠ "" ∧
        desk.ask session prompt options provider = (some desk.workers.length,
          (desk.begun session asking (.ofAsk asking session prompt options provider
            (Snapshot.capture asking.source).2)).note entries) := by
  unfold ask
  split
  · rename_i hnone
    exact Or.inl ⟨[], by simp, by simp [hnone], by rw [note_nil]⟩
  · rename_i asking hasking
    split_ifs with halive hbusy hprompt
    · exact Or.inl ⟨[], by simp, by simp_all, by rw [note_nil]⟩
    · exact Or.inl ⟨_, by simp [record, Entry.isSilent], by simp_all, rfl⟩
    · exact Or.inl ⟨[], by simp, fun _ _ _ _ ↦ String.isEmpty_iff.mp hprompt, by rw [note_nil]⟩
    · refine Or.inr ⟨asking, _, hasking, by simpa using halive, by simpa using hbusy, ?_, rfl⟩
      rintro rfl
      exact hprompt rfl

theorem owns_iff {desk : Desk} {worker : Nat} {held : Worker}
    (hworker : desk.workers[worker]? = some held) :
    desk.owns worker = true ↔ ∃ session, desk.sessions[held.session]? = some session ∧
      session.alive = true ∧ session.active = some worker ∧
        (session.inRegistry = true → desk.current = some held.session) := by
  unfold owns
  rw [hworker, Option.bind_some, Option.map_some]
  cases hsession : desk.sessions[held.session]? with
  | none => simp
  | some session =>
    cases hregistry : session.inRegistry <;> simp [hregistry, and_assoc]

theorem apply_of_owns {desk : Desk} {worker : Nat} {held : Worker}
    (hworker : desk.workers[worker]? = some held) (howns : desk.owns worker = true)
    (result : Job.Result) :
    ∃ entries, desk.apply worker result = (desk.settled worker held result).note entries := by
  unfold apply
  rw [hworker]
  dsimp only
  rw [if_pos howns]
  exact ⟨_, rfl⟩

theorem apply_of_not_owns {desk : Desk} {worker : Nat} {held : Worker}
    (hworker : desk.workers[worker]? = some held) (howns : desk.owns worker = false)
    (result : Job.Result) :
    ∃ entries, (∀ entry ∈ entries, entry.isSilent = true) ∧
      desk.apply worker result = desk.note entries := by
  unfold apply
  rw [hworker]
  dsimp only
  rw [if_neg (by rw [howns]; decide)]
  exact ⟨_, by simp [record, Entry.isSilent], rfl⟩

/-- Applying a result changes the workers and the loop in no case, and sessions and the applied
results only if the worker's session still owns the job. -/
theorem apply_frame {desk : Desk} {worker : Nat} {held : Worker}
    (hworker : desk.workers[worker]? = some held) (result : Job.Result) :
    (desk.apply worker result).workers = desk.workers ∧
      (desk.apply worker result).loop = desk.loop ∧
      (desk.apply worker result).current = desk.current ∧
      (desk.apply worker result).sessions =
        (if desk.owns worker then desk.sessions.modify held.session (·.settle result)
          else desk.sessions) ∧
      (desk.apply worker result).applied =
        (if desk.owns worker then desk.applied ++ [(worker, result)] else desk.applied) := by
  cases howns : desk.owns worker with
  | true =>
    obtain ⟨entries, heq⟩ := apply_of_owns hworker howns result
    rw [heq]
    exact ⟨rfl, rfl, rfl, rfl, rfl⟩
  | false =>
    obtain ⟨entries, _, heq⟩ := apply_of_not_owns hworker howns result
    rw [heq]
    exact ⟨rfl, rfl, rfl, rfl, rfl⟩

theorem exists_openSession_eq (desk : Desk) (session : Session) :
    ∃ current, desk.openSession session =
      { desk with sessions := desk.sessions ++ [session], current } := by
  unfold openSession register
  dsimp only
  split_ifs <;> exact ⟨_, rfl⟩

theorem exists_release_eq (desk : Desk) (session : Nat) :
    ∃ current, desk.release session = { desk with current } := by
  unfold release
  split_ifs <;> exact ⟨_, rfl⟩

theorem exists_close_eq (desk : Desk) (session : Nat) :
    ∃ current, desk.close session = { desk with
      sessions := desk.sessions.modify session fun session ↦ { session with alive := false }
      current } := by
  unfold close
  dsimp only
  split_ifs
  · exact exists_release_eq _ session
  · exact ⟨_, rfl⟩

theorem startFailed_eq (desk : Desk) (worker : Nat) (fault : Fault) :
    ∃ entries, desk.startFailed worker fault =
      (desk.note entries).apply worker (startResult fault) :=
  ⟨_, rfl⟩

/-- On an open loop a worker that has not posted before gets its result into the queue. -/
theorem finish_eq {desk : Desk} {worker : Nat} {held : Worker}
    (hworker : desk.workers[worker]? = some held) (hslot : held.slot.posted = false)
    (hopen : desk.loop.isOpen = true) (outcome : Except Fault Job.Result) :
    ∃ entries, (∀ entry ∈ entries, entry.isSilent = true) ∧
      (desk.finish worker outcome).2 =
        (desk.enqueued worker held (reported outcome)).note entries := by
  have htake : held.slot.take = .ok { held.slot with posted := true } := by
    simp [ResultSlot.take, hslot]
  have hpost (noted : Desk) (hworkers : noted.workers = desk.workers)
      (hloop : noted.loop = desk.loop) (result : Job.Result) :
      (noted.post worker result).2 = noted.enqueued worker held result := by
    simp [post, enqueued, hworkers, hloop, hworker, htake, EventLoop.schedule?, hopen]
  cases outcome with
  | ok result => exact ⟨[], by simp, by rw [note_nil]; exact hpost desk rfl rfl result⟩
  | error fault =>
    refine ⟨_, ?_, hpost (desk.note _) rfl rfl (crashResult fault)⟩
    simp [record, Entry.isSilent]

theorem runNext_of_nil {desk : Desk} (hqueue : desk.loop.queue = []) : desk.runNext = desk := by
  unfold runNext EventLoop.next?
  rw [hqueue]

theorem runNext_of_cons {desk : Desk} {worker : Nat} {held : Worker} {result : Job.Result}
    {rest : List (Nat × Job.Result)} (hqueue : desk.loop.queue = (worker, result) :: rest)
    (hworker : desk.workers[worker]? = some held) (hslot : held.slot.consumed = false) :
    desk.runNext = (desk.dequeued worker held rest).apply worker result := by
  unfold runNext EventLoop.next?
  rw [hqueue]
  simp [deliver, hworker, ResultSlot.consume?, hslot, dequeued]

end Desk

/-! ### Threads -/

section Threads

variable {σ : Type}

/-- Carrying a conversation out at a desk leaves a silent note there, if answering a question and
keeping a record do. -/
theorem Desk.run_eq_note {answer : Job.Question → Desk × σ →
      Except Fault Completion.Result × (Desk × σ)} {keep : Log.Record → Desk × σ → Desk × σ}
    (hanswer : ∀ question desk state, ∃ entries, (∀ entry ∈ entries, entry.isSilent = true) ∧
      (answer question (desk, state)).2.1 = desk.note entries)
    (hkeep : ∀ record desk state, ∃ entries, (∀ entry ∈ entries, entry.isSilent = true) ∧
      (keep record (desk, state)).1 = desk.note entries)
    (conversation : Job.Conversation) (desk : Desk) (state : σ) :
    ∃ entries, (∀ entry ∈ entries, entry.isSilent = true) ∧
      (conversation.run answer keep (desk, state)).2.1 = desk.note entries := by
  have happend {first second : List Entry} (hfirst : ∀ entry ∈ first, entry.isSilent = true)
      (hsecond : ∀ entry ∈ second, entry.isSilent = true) :
      ∀ entry ∈ first ++ second, entry.isSilent = true := by
    intro entry hentry
    exact (List.mem_append.mp hentry).elim (hfirst entry) (hsecond entry)
  induction conversation generalizing desk state with
  | ended outcome => exact ⟨[], by simp, (note_nil desk).symm⟩
  | note record next ih =>
    obtain ⟨first, hfirst, hkept⟩ := hkeep record desk state
    obtain ⟨second, hsecond, hnext⟩ :=
      ih (keep record (desk, state)).1 (keep record (desk, state)).2
    refine ⟨first ++ second, happend hfirst hsecond, hnext.trans ?_⟩
    rw [hkept, note_note]
  | ask question next ih =>
    obtain ⟨first, hfirst, hanswered⟩ := hanswer question desk state
    rw [Job.Conversation.run]
    cases hreply : answer question (desk, state) with
    | mk reply after =>
      rw [hreply] at hanswered
      cases reply with
      | error fault => exact ⟨first, hfirst, hanswered⟩
      | ok reply =>
        obtain ⟨second, hsecond, hnext⟩ := ih reply after.1 after.2
        refine ⟨first ++ second, happend hfirst hsecond, hnext.trans ?_⟩
        rw [show after.1 = desk.note first from hanswered, note_note]

/-- How a worker's conversation with the agents ends, and the state in which it leaves them. -/
def Worker.converse (held : Worker) (agents : Agents σ) (state : σ) :
    Except Fault Job.Result × σ :=
  (Job.Engine.converse held.request held.snapshot).run
    (fun question state ↦ (agents held.session question state).2) (fun _ state ↦ state) state

/-- A worker at work notes what its conversation brings, and then it ends with the outcome. -/
theorem Desk.work_eq {desk : Desk} {worker : Nat} {held : Worker}
    (hheld : desk.workers[worker]? = some held) (agents : Agents σ) (state : σ) :
    ∃ entries, (∀ entry ∈ entries, entry.isSilent = true) ∧
      (desk.work agents worker state).2 =
        (((desk.note entries).finish worker (held.converse agents state).1).2,
          (held.converse agents state).2) := by
  unfold work
  rw [hheld]
  dsimp only
  generalize hanswer : (fun (question : Job.Question) (acc : Desk × σ) ↦ _) = answer
  generalize hkeep : (fun (record : Log.Record) (acc : Desk × σ) ↦ _) = keep
  obtain ⟨entries, hsilent, hdesk⟩ : ∃ entries, (∀ entry ∈ entries, entry.isSilent = true) ∧
      ((Job.Engine.converse held.request held.snapshot).run answer keep
        (desk, state)).2.1 = desk.note entries := by
    refine Desk.run_eq_note ?_ ?_ _ desk state
    · intro question desk state
      rw [← hanswer]
      refine ⟨_, ?_, rfl⟩
      simp [Entry.isSilent]
    · intro record desk state
      rw [← hkeep]
      exact ⟨[.record (record.on held.name)], by simp [Entry.isSilent], rfl⟩
  -- The desk beside the agents' state has no bearing on the conversation.
  have hconverse : held.converse agents state =
      ((Job.Engine.converse held.request held.snapshot).run answer keep
        (desk, state)).map id Prod.snd :=
    Job.Conversation.run_map Prod.snd (fun _ _ ↦ by rw [← hanswer]; rfl)
      (fun _ _ ↦ by rw [← hkeep]) _ (desk, state)
  refine ⟨entries, hsilent, ?_⟩
  rw [hdesk, hconverse]
  rfl

variable {engines : Engines}

/-- The engines may end a job in every way in which its conversation can end. -/
def Engines.Converse (engines : Engines) : Prop :=
  ∀ {σ : Type} (session : Nat) (request : Job.Request) (snapshot : Snapshot)
    (answer : Job.Question → σ → Except Fault Completion.Result × σ)
    (keep : Log.Record → σ → σ) (state : σ), engines session request snapshot
      ((Job.Engine.converse request snapshot).run answer keep state).1

namespace Office

/-- The work of a thread is a run of steps: it notes what it does, and then it ends. -/
theorem reaches_work (hengines : engines.Converse) {office : Office} {worker : Nat}
    {held : Worker} (hheld : office.desk.workers[worker]? = some held)
    (hrunning : worker ∈ office.running) (agents : Agents σ) (state : σ) :
    Reaches engines office
      ⟨(office.desk.work agents worker state).2.1, office.running.erase worker⟩ := by
  obtain ⟨entries, hsilent, hwork⟩ := Desk.work_eq hheld agents state
  have houtcome := hengines held.session held.request held.snapshot
    (fun question state ↦ (agents held.session question state).2) (fun _ state ↦ state) state
  rw [hwork]
  exact (Relation.ReflTransGen.single (.note office hsilent)).tail
    (.finish { office with desk := office.desk.note entries } hrunning hheld houtcome)

/-- The workers whose threads an ask has left at work. -/
def startedBy (starting : Starting) (before after : Desk) : List Nat :=
  if starting = .deferred then
    List.range' before.workers.length (after.workers.length - before.workers.length)
  else []

/-- However the thread of a new worker is started, asking is a run of steps. -/
theorem reaches_askAndStart (hengines : engines.Converse) {office : Office}
    (hnew : office.desk.workers.length ∉ office.running) (agents : Agents σ)
    (starting : Starting) (session : Nat) (prompt : String) (options : Prompt.Options)
    (provider : Provider) (state : σ) :
    let asked := (office.desk.askAndStart agents starting session prompt options provider state).2.1
    Reaches engines office ⟨asked, office.running ++ startedBy starting office.desk asked⟩ := by
  have hask (refusal : Option Fault) :
      Reaches engines office (office.ask session prompt options provider refusal).2 :=
    .single (.ask office session prompt options provider refusal)
  unfold Office.ask at hask
  unfold Desk.askAndStart
  rcases office.desk.ask_cases session prompt options provider with
    ⟨entries, _, _, heq⟩ | ⟨asking, entries, _, _, _, _, heq⟩
  · rw [heq] at hask ⊢
    simpa [startedBy, Desk.note] using hask none
  · rw [heq] at hask ⊢
    cases starting with
    | deferred => simpa [startedBy, Desk.note, Desk.begun] using hask none
    | impossible => simpa [startedBy] using hask (some .threadRefused)
    | immediate =>
      have hmem : office.desk.workers.length ∈ office.running ++ [office.desk.workers.length] :=
        List.mem_append_right _ (List.mem_singleton_self _)
      have hended : (office.running ++ [office.desk.workers.length]).erase
          office.desk.workers.length = office.running := by
        rw [List.erase_append_right _ hnew, List.erase_cons_head, List.append_nil]
      have hwork := (hask none).trans
        (reaches_work hengines List.getElem?_concat_length hmem agents state)
      rw [hended] at hwork
      simp only [startedBy, reduceCtorEq, if_false, List.append_nil]
      exact hwork

end Office

end Threads

end DeskAssistant
