import DeskAssistant.Proofs.Session.Cycles

/-!
# Surfaces of reachable offices

In every reachable office every session is where its calls, its jobs and its applied results lead
(`paced_of_reachable`). `Office.InStep` adds what holds of the threads, of asks, and of the reply
that is shown, and `inStep_of_reachable` puts it together.
-/

set_option autoImplicit false
set_option relaxedAutoImplicit false

namespace DeskAssistant

/-- Where an engine returns, it returns what a job's conversation with some agent returns. It may
end with any fault. -/
def Engines.ReturnConverse (engines : Engines) : Prop :=
  ∀ {session : Nat} {request : Job.Request} {snapshot : Snapshot} {result : Job.Result},
    engines session request snapshot (.ok result) →
      ∃ (σ : Type) (answer : Job.Question → σ → Except Fault Completion.Result × σ)
        (keep : Log.Record → σ → σ) (state : σ),
        ((Job.Engine.converse request snapshot).run answer keep state).1 = .ok result

namespace Office

/-! ### Every step keeps the pace -/

section Steps

variable {engines : Engines} {office next : Office}

/-- A quiet change that tells no surface anything. A session that it opens has no jobs and was told
nothing. -/
theorem paced_of_quiet (hpaced : office.desk.Paced) (hquiet : Quiet office next)
    (hhistory : next.desk.history = office.desk.history) : next.desk.Paced := by
  intro index
  obtain ⟨hnumbers, hresults⟩ :=
    Desk.lists_congr (by rw [hquiet.workers_eq]) hquiet.applied_eq index
  rw [hnumbers, hresults, Desk.calls, hhistory, ← Desk.calls]
  have hledger := hpaced index
  cases hbefore : office.desk.sessions[index]? with
  | some before =>
    obtain ⟨after, hafter, hwork⟩ := hquiet.session_after hbefore
    rw [hafter]
    exact (hpaced.kept hbefore).sameWork hwork
  | none =>
    rw [hbefore] at hledger
    cases hafter : next.desk.sessions[index]? with
    | none => exact hledger
    | some after =>
      rcases hquiet.session_before hafter with ⟨before, hsome, _⟩ | ⟨_, _, _, rfl⟩
      · rw [hbefore] at hsome
        cases hsome
      · obtain ⟨hcalls, hnone, hempty⟩ := hledger
        rw [hcalls, hnone, hempty]
        exact Session.kept_fresh _ _ _

theorem paced_ask (hsound : office.Sound) (hpaced : office.desk.Paced) (session : Nat)
    (prompt : String) (options : Prompt.Options) (provider : Provider)
    (refusal : Option Fault) :
    (office.ask session prompt options provider refusal).2.desk.Paced := by
  cases hasking : office.desk.sessions[session]? with
  | none => simpa [Office.ask, Desk.ask, hasking] using hpaced
  | some asking =>
    by_cases hpasses : asking.alive = true ∧ asking.busy = false ∧ prompt ≠ ""
    · obtain ⟨halive, hbusy, hprompt⟩ := hpasses
      obtain ⟨worker, hworker, heq⟩ :=
        Desk.ask_eq_begun hasking halive hbusy hprompt options provider
      have howner : worker.session = session := by rw [hworker]; rfl
      have hnumber : worker.number = asking.jobs + 1 := by rw [hworker]; rfl
      have hbegun := hpaced.begun (fun _ h ↦ hsound.lt_of_applied h) hasking hbusy howner hnumber
        (Snapshot.capture asking.source).1
      cases refusal with
      | none => simpa only [Office.ask, heq] using hbegun
      | some fault =>
        -- The job has begun, and a result that stands for the refusal is applied at once.
        have hheld := office.desk.getElem?_workers_begun session asking worker
          (Desk.askEntries session worker (Snapshot.capture asking.source).1)
        simp only [Office.ask, heq]
        refine (hbegun.note ?_).apply hheld _
        simp [Desk.record, Entry.isSilent]
    · have hrefused : asking.alive = false ∨ asking.busy = true ∨ prompt = "" := by
        rw [not_and_or, not_and_or, not_ne_iff, Bool.not_eq_true, Bool.not_eq_false] at hpasses
        exact hpasses
      simpa only [Office.ask, Desk.ask_eq_note hasking hrefused] using
        hpaced.note asking.isSilent_refusalEntries

theorem paced_finish (hsound : office.Sound) (hpaced : office.desk.Paced) {worker : Nat}
    {held : Worker} (hrunning : worker ∈ office.running)
    (hheld : office.desk.workers[worker]? = some held) (outcome : Except Fault Job.Result) :
    (office.finish worker outcome).desk.Paced := by
  obtain ⟨entries, hsilent, heq⟩ := hsound.exists_finish_eq hrunning hheld outcome
  have hqueued : (office.desk.enqueued worker held (Desk.reported outcome)).Paced :=
    hpaced.slot hheld rfl rfl rfl rfl
  rw [heq]
  exact hqueued.note hsilent

theorem paced_deliver (hsound : office.Sound) (hpaced : office.desk.Paced) :
    office.deliver.desk.Paced := by
  cases hqueue : office.desk.loop.queue with
  | nil => rwa [Office.deliver, Desk.runNext_of_nil hqueue]
  | cons delivery rest =>
    obtain ⟨worker, result⟩ := delivery
    obtain ⟨held, hheld, heq⟩ := hsound.exists_deliver_eq hqueue
    have hused : (office.desk.dequeued worker held rest).Paced :=
      hpaced.slot hheld rfl rfl rfl rfl
    rw [heq]
    exact hused.apply (Desk.getElem?_workers_dequeued hheld rest) result

theorem paced_step (hsound : office.Sound) (hpaced : office.desk.Paced)
    (hstep : Step engines office next) : next.desk.Paced := by
  cases hstep with
  | ask session prompt options provider refusal =>
    exact paced_ask hsound hpaced session prompt options provider refusal
  | finish hrunning hheld _ => exact paced_finish hsound hpaced hrunning hheld _
  | deliver => exact paced_deliver hsound hpaced
  | close session =>
    obtain ⟨current, heq⟩ := office.desk.exists_close_eq session
    exact paced_of_quiet hpaced (quiet_close office session) (by rw [heq])
  | openSession inRegistry reports source =>
    obtain ⟨current, heq⟩ := office.desk.exists_openSession_eq (.fresh inRegistry reports source)
    exact paced_of_quiet hpaced (quiet_openSession office inRegistry reports source) (by rw [heq])
  | present inRegistry reports source =>
    obtain ⟨current, heq⟩ := office.desk.exists_openSession_eq (.fresh inRegistry reports source)
    refine paced_of_quiet hpaced (quiet_present office inRegistry reports source) ?_
    unfold Desk.present
    split
    · rfl
    · dsimp only
      rw [heq]
      rfl
  | register hsession => exact hpaced
  | release session =>
    obtain ⟨current, heq⟩ := office.desk.exists_release_eq session
    exact paced_of_quiet hpaced (quiet_release office session) (by rw [heq])
  | note hsilent => exact hpaced.note hsilent
  | changeSource session source =>
    exact paced_of_quiet hpaced (quiet_modify office session (fun before ↦ { before with source })
      (fun _ ↦ ⟨rfl, id⟩) office.desk.current) rfl

theorem paced_of_reachable (hreachable : Reachable engines office) : office.desk.Paced := by
  induction hreachable with
  | refl => exact Desk.paced_empty
  | tail hreaches hstep ih => exact paced_step (sound_of_reachable hreaches) ih hstep

end Steps

/-! ### In step -/

/-- What holds of a session in every reachable office. -/
structure InStep (engines : Engines) (office : Office) (index : Nat) (session : Session) :
    Prop where
  /-- The calls to the surface, the numbers of the jobs and the applied results belong together. -/
  kept : session.Kept (office.desk.calls index) (office.desk.numbers index)
    (office.desk.results index)
  /-- Only the active job may be undelivered, so at most one job is. -/
  active_of_outstanding : ∀ {worker : Nat} {held : Worker}, office.Outstanding worker →
    office.desk.workers[worker]? = some held → held.session = index →
      session.active = some worker
  /-- An ask that passes the guards gets the next number, even if its thread is refused. -/
  numbers_ask : ∀ {prompt : String}, session.alive = true → session.busy = false →
    prompt ≠ "" → ∀ (options : Prompt.Options) (provider : Provider) (refusal : Option Fault),
      (office.ask index prompt options provider refusal).2.desk.numbers index =
        office.desk.numbers index ++ [session.jobs + 1]
  /-- Any other ask changes nothing but for a record, whatever the context would be. -/
  ask_refused : ∀ {prompt : String},
    session.alive = false ∨ session.busy = true ∨ prompt = "" →
      ∀ (options : Prompt.Options) (provider : Provider) (refusal : Option Fault),
        office.ask index prompt options provider refusal =
            (false, { office with desk := office.desk.note session.refusalEntries }) ∧
          ∀ source, Office.ask { office with desk := office.desk.changeSource index source } index
              prompt options provider refusal =
            (false, { office with
              desk := (office.desk.changeSource index source).note session.refusalEntries })
  lastReply_ne_empty : engines.ReturnConverse → office.desk.results index ≠ [] →
    session.lastReply ≠ ""

section InStep

variable {engines : Engines} {office : Office} {index : Nat} {session : Session}

theorem replyText_failure_ne_empty (message : Option String) (rounds : Nat)
    (trace : List Job.Stage) : (Job.Result.failure message rounds trace).replyText ≠ "" :=
  Completion.Result.messageOr_ne_empty message

/-- Every applied result has a text to show. -/
theorem replyText_ne_empty_of_explains {held : Worker} {refusal : Option Fault}
    {result : Job.Result} (hengines : engines.ReturnConverse)
    (hexplains : Explains engines held refusal result) : result.replyText ≠ "" := by
  cases refusal with
  | some fault =>
    have hresult : result = Desk.startResult fault := hexplains
    rw [hresult]
    exact replyText_failure_ne_empty _ 0 []
  | none =>
    obtain ⟨outcome, houtcome, rfl⟩ := hexplains
    cases outcome with
    | error fault => exact replyText_failure_ne_empty _ 0 []
    | ok result =>
      obtain ⟨σ, answer, keep, state, hreturns⟩ := hengines houtcome
      obtain ⟨answered, hdialogue, _⟩ :=
        Job.Conversation.dialogue_of_run answer keep _ state hreturns
      obtain ⟨first, second, hprotocol⟩ := Job.exists_roundProtocol_of_dialogue hdialogue
      exact hprotocol.replyText_ne_empty

theorem numbers_ask_of_passes (hsession : office.desk.sessions[index]? = some session)
    {prompt : String} (halive : session.alive = true) (hbusy : session.busy = false)
    (hprompt : prompt ≠ "") (options : Prompt.Options) (provider : Provider)
    (refusal : Option Fault) :
    (office.ask index prompt options provider refusal).2.desk.numbers index =
      office.desk.numbers index ++ [session.jobs + 1] := by
  obtain ⟨worker, hworker, heq⟩ :=
    Desk.ask_eq_begun hsession halive hbusy hprompt options provider
  have hworkers : (office.ask index prompt options provider refusal).2.desk.workers =
      office.desk.workers ++ [worker] := by
    cases refusal with
    | none =>
      simp only [Office.ask, heq]
      rfl
    | some fault =>
      obtain ⟨entries, hfailed⟩ := Desk.startFailed_eq _ office.desk.workers.length fault
      simp only [Office.ask, heq]
      rw [hfailed, Desk.note_note]
      have hheld := office.desk.getElem?_workers_begun index session worker
        (Desk.askEntries index worker (Snapshot.capture session.source).1 ++ entries)
      exact (Desk.apply_frame hheld (Desk.startResult fault)).1
  rw [Desk.numbers, hworkers, hworker]
  simp [Desk.numbers, Worker.ofAsk]

theorem ask_eq_of_refused (hsession : office.desk.sessions[index]? = some session)
    {prompt : String} (hrefused : session.alive = false ∨ session.busy = true ∨ prompt = "")
    (options : Prompt.Options) (provider : Provider) (refusal : Option Fault) :
    office.ask index prompt options provider refusal =
      (false, { office with desk := office.desk.note session.refusalEntries }) := by
  simp only [Office.ask, Desk.ask_eq_note hsession hrefused]

/-- The same, if the session would read its context elsewhere. -/
theorem ask_changeSource_eq_of_refused (hsession : office.desk.sessions[index]? = some session)
    {prompt : String} (hrefused : session.alive = false ∨ session.busy = true ∨ prompt = "")
    (options : Prompt.Options) (provider : Provider) (refusal : Option Fault)
    (source : ContextSource) :
    Office.ask { office with desk := office.desk.changeSource index source } index prompt options
        provider refusal =
      (false, { office with
        desk := (office.desk.changeSource index source).note session.refusalEntries }) := by
  have hchanged : (office.desk.changeSource index source).sessions[index]? =
      some { session with source } := by
    rw [Desk.changeSource, List.getElem?_modify, hsession]
    simp
  simp only [Office.ask, Desk.ask_eq_note hchanged hrefused]
  rfl

theorem lastReply_ne_empty_of_reachable (hreachable : Reachable engines office)
    (hsession : office.desk.sessions[index]? = some session)
    (hengines : engines.ReturnConverse) (hresults : office.desk.results index ≠ []) :
    session.lastReply ≠ "" := by
  have hmem := List.getLast_mem hresults
  obtain ⟨⟨worker, result⟩, happlied, hresult⟩ := List.mem_map.mp hmem
  obtain ⟨held, refusal, _, _, hexplains⟩ :=
    (traced_of_reachable hreachable).applied (List.mem_filter.mp happlied).1
  rw [((paced_of_reachable hreachable).kept hsession).lastReply_eq,
    List.getLast?_eq_some_getLast hresults, ← hresult]
  exact replyText_ne_empty_of_explains hengines hexplains

theorem inStep_of_reachable (hreachable : Reachable engines office)
    (hsession : office.desk.sessions[index]? = some session) :
    InStep engines office index session where
  kept := (paced_of_reachable hreachable).kept hsession
  active_of_outstanding := by
    intro worker held houtstanding hheld howner
    obtain ⟨owner, hownerSession, hactive⟩ :=
      (sound_of_reachable hreachable).active_of_outstanding houtstanding hheld
    rw [howner, hsession] at hownerSession
    cases hownerSession
    exact hactive
  numbers_ask := numbers_ask_of_passes hsession
  ask_refused := fun hrefused options provider refusal ↦
    ⟨ask_eq_of_refused hsession hrefused options provider refusal,
      ask_changeSource_eq_of_refused hsession hrefused options provider refusal⟩
  lastReply_ne_empty := lastReply_ne_empty_of_reachable hreachable hsession

end InStep

/-! ### A session with four jobs -/

/-- An engine that returns what it makes of a script, or ends with any fault. -/
def scriptedEngines (script : Job.Script) : Engines := fun _ request snapshot outcome ↦
  (∃ fault, outcome = .error fault) ∨
    outcome = ((Job.Engine.converse request snapshot).run Job.Script.answer Job.Script.keep
      script).1

theorem returnConverse_scriptedEngines (script : Job.Script) :
    (scriptedEngines script).ReturnConverse := by
  rintro _ request snapshot result (⟨fault, hfault⟩ | houtcome)
  · cases hfault
  · exact ⟨Job.Script, Job.Script.answer, Job.Script.keep, script, houtcome.symm⟩

def clusterScript : Job.Script where
  replies := [.text "Use the cluster option."]

/-- The office after an ask of its only session. -/
def askedAgain (office : Office) (refusal : Option Fault) : Office :=
  (office.ask 0 "Explain the error." { toolsEnabled := false } .codex refusal).2

/-- The first job of the only session returned, the second one crashed, the thread of the third one
was refused, and the fourth one is under way. -/
def duringFourthJob : Office :=
  let opened : Office := { desk := Desk.openSession {} (.fresh true true (.fixed fun _ ↦ none)) }
  let reply : Job.Result :=
    { replyText := "Use the cluster option.", rounds := 1, trace := [.start, .round1, .done] }
  let returned := ((opened.askedAgain none).finish 0 (.ok reply)).deliver
  let crashed := ((returned.askedAgain none).finish 1 (.error (.raised "no agent"))).deliver
  (crashed.askedAgain (some .threadRefused)).askedAgain none

theorem reachable_duringFourthJob :
    Reachable (scriptedEngines clusterScript) duringFourthJob :=
  Relation.ReflTransGen.refl
    |>.tail (.openSession _ true true (.fixed fun _ ↦ none))
    |>.tail (.ask _ 0 "Explain the error." { toolsEnabled := false } .codex none)
    |>.tail (.finish _ (by decide) rfl (Or.inr (by decide +kernel)))
    |>.tail (.deliver _)
    |>.tail (.ask _ 0 "Explain the error." { toolsEnabled := false } .codex none)
    |>.tail (.finish _ (by decide) rfl (Or.inl ⟨_, rfl⟩))
    |>.tail (.deliver _)
    |>.tail (.ask _ 0 "Explain the error." { toolsEnabled := false } .codex
      (some .threadRefused))
    |>.tail (.ask _ 0 "Explain the error." { toolsEnabled := false } .codex none)

theorem inStep_duringFourthJob : ∃ session,
    duringFourthJob.desk.sessions[0]? = some session ∧ session.busy = true ∧
      duringFourthJob.desk.numbers 0 = [1, 2, 3, 4] ∧
      (duringFourthJob.desk.results 0).length = 3 ∧
      session.lastReply = "Unable to start assistant job: can't start new thread" ∧
      (scriptedEngines clusterScript).ReturnConverse ∧
      InStep (scriptedEngines clusterScript) duringFourthJob 0 session :=
  ⟨_, rfl, rfl, by decide, by decide, by decide, returnConverse_scriptedEngines clusterScript,
    inStep_of_reachable reachable_duringFourthJob rfl⟩

end Office

end DeskAssistant
