import DeskAssistant.Headless
import DeskAssistant.Proofs.Job.Rounds
import DeskAssistant.Proofs.Session.Office
import DeskAssistant.Proofs.Text.Lines

/-!
# How a run without a panel ends

A run asks one question in a session of its own, and what its job ends with passes through the
worker's slot and the event loop before it is reported. Each of these stations is taken in one
lemma: the question makes a worker (`exists_ask_openDesk_eq`), the worker posts the outcome of its
conversation (`Desk.work_eq`), and the loop applies the one result that waits there, as nothing has
taken the session away (`Desk.exists_runAll_eq`). So a run with a question reports its job
(`exists_run_eq`), whatever the agents do. The report tells a job with an error from one without,
since an error is never an empty text (`Worker.error_ne_empty`).
-/

set_option autoImplicit false
set_option relaxedAutoImplicit false

namespace DeskAssistant

variable {σ : Type}

/-! ### The error of a job -/

theorem Job.Result.error_failure_ne_empty (message : Option String) (rounds : Nat)
    (trace : List Stage) : (failure message rounds trace).error ≠ some "" :=
  fun h ↦ Completion.Result.messageOr_ne_empty message (Option.some.inj h)

/-- A job that ends with an error ends with a message. -/
theorem Worker.error_ne_empty (held : Worker) (agents : Agents σ) (state : σ) :
    (Desk.reported (held.converse agents state).1).error ≠ some "" := by
  cases houtcome : (held.converse agents state).1 with
  | error fault => exact Job.Result.error_failure_ne_empty _ 0 []
  | ok result =>
    obtain ⟨answered, hdialogue, -⟩ := Job.Conversation.dialogue_of_run _ _ _ _ houtcome
    obtain ⟨first, second, hprotocol⟩ := Job.exists_roundProtocol_of_dialogue hdialogue
    intro (hempty : result.error = some "")
    have hfailed := hprotocol.error_isSome_iff.mp (by rw [hempty]; rfl)
    obtain ⟨-, herror, -⟩ := hprotocol.of_failed hfailed
    rw [hempty, Option.some.injEq] at herror
    exact hprotocol.replyText_ne_empty herror.symm

/-! ### A loop with one delivery -/

/-- The one result that waits is applied if the session still owns its job. -/
theorem Desk.exists_runAll_eq {desk : Desk} {worker : Nat} {held : Worker} {result : Job.Result}
    (hqueue : desk.loop.queue = [(worker, result)])
    (hworker : desk.workers[worker]? = some held) (hslot : held.slot.consumed = false)
    (howns : (desk.dequeued worker held []).owns worker = true) :
    ∃ entries, desk.runAll = ((desk.dequeued worker held []).settled worker
      { held with slot := { held.slot with consumed := true } } result).note entries := by
  have hone : desk.runAll = desk.runNext := by
    rw [runAll, hqueue]
    rfl
  obtain ⟨entries, happly⟩ := apply_of_owns (getElem?_workers_dequeued hworker []) howns result
  exact ⟨entries, by rw [hone, runNext_of_cons hqueue hworker hslot, happly]⟩

namespace Headless

variable (agents : Agents σ) (prompt : String) (options : Prompt.Options) (provider : Provider)
  (source : ContextSource) (state : σ)

/-! ### The one job of a run -/

/-- The worker of a run, before it is at work. -/
def worker : Worker where
  session := 0
  number := 1
  request := ⟨provider, Prompt.full prompt (Snapshot.capture source).2 options,
    options.toolsEnabled⟩
  snapshot := (Snapshot.capture source).2

/-- How the conversation of a run ends, and the state in which it leaves the agents. -/
def outcome : Except Fault Job.Result × σ :=
  (worker prompt options provider source).converse agents state

/-- What the job of a run ends with. -/
def jobResult : Job.Result :=
  Desk.reported (outcome agents prompt options provider source state).1

/-- The desk on which the worker of a run is to start. -/
def begun : Desk :=
  (openDesk source).begun 0 { inRegistry := false, source } (worker prompt options provider source)

variable {prompt}

/-- The question of a run makes its worker. -/
theorem exists_ask_openDesk_eq (hprompt : prompt ≠ "") :
    ∃ asked, (openDesk source).ask 0 prompt options provider =
      (some 0, (begun prompt options provider source).note asked) := by
  have hsession : (openDesk source).sessions[0]? = some { inRegistry := false, source } := rfl
  obtain ⟨_, _, hidle, _⟩ | ⟨asking, asked, hasking, _, _, _, hask⟩ :=
    (openDesk source).ask_cases 0 prompt options provider
  · exact absurd (hidle _ hsession rfl rfl) hprompt
  · cases hsession.symm.trans hasking
    exact ⟨asked, hask⟩

variable (prompt)

/-- The session of a run owns its job when the result arrives. -/
theorem applied_runAll_enqueued (asked noted : List Entry) (result : Job.Result) :
    ((((begun prompt options provider source).note asked).enqueued 0
        (worker prompt options provider source) result).note noted).runAll.applied =
      [(0, result)] := by
  generalize hdesk : (((begun prompt options provider source).note asked).enqueued 0
    (worker prompt options provider source) result).note noted = desk
  have hqueue : desk.loop.queue = [(0, result)] := by
    rw [← hdesk]
    rfl
  have hworker : desk.workers[0]? =
      some { worker prompt options provider source with slot := { posted := true } } := by
    rw [← hdesk]
    rfl
  have howns : (desk.dequeued 0
      { worker prompt options provider source with slot := { posted := true } } []).owns 0 =
        true := by
    rw [← hdesk]
    rfl
  obtain ⟨settled, hrun⟩ := Desk.exists_runAll_eq hqueue hworker rfl howns
  rw [hrun, ← hdesk]
  rfl

/-- The worker posts the outcome of its conversation, and the loop applies it. -/
theorem exists_work_begun_eq (asked : List Entry) :
    ∃ posted desk, ((begun prompt options provider source).note asked).work agents 0 state =
        (posted, desk, (outcome agents prompt options provider source state).2) ∧
      desk.runAll.applied = [(0, jobResult agents prompt options provider source state)] := by
  have hheld (entries : List Entry) :
      ((begun prompt options provider source).note entries).workers[0]? =
        some (worker prompt options provider source) := rfl
  obtain ⟨said, -, hwork⟩ := Desk.work_eq (hheld asked) agents state
  rw [Desk.note_note] at hwork
  obtain ⟨noted, -, hfinish⟩ := Desk.finish_eq (hheld (asked ++ said)) rfl rfl
    (outcome agents prompt options provider source state).1
  exact ⟨_, _, Prod.ext rfl (hwork.trans (Prod.ext hfinish rfl)),
    applied_runAll_enqueued prompt options provider source _ noted _⟩

variable {prompt}

/-- A run with a question reports its job. -/
theorem exists_run_eq (hprompt : prompt ≠ "") :
    ∃ desk, run agents true prompt options provider source state =
        (reportOf (jobResult agents prompt options provider source state), desk,
          (outcome agents prompt options provider source state).2) ∧
      desk.loop = { isOpen := false } := by
  obtain ⟨asked, hask⟩ := exists_ask_openDesk_eq options provider source hprompt
  obtain ⟨posted, desk, hwork, happlied⟩ :=
    exists_work_begun_eq agents prompt options provider source state asked
  have hempty : ¬ prompt.isEmpty = true := fun h ↦ hprompt (String.isEmpty_iff.mp h)
  refine ⟨desk.runAll.drain.closeLoop, ?_, rfl⟩
  unfold run Desk.askAndStart
  rw [if_neg hempty]
  simp only [if_true, hask, hwork, happlied]

/-- A run whose thread is refused reports no job. -/
theorem exists_run_refused_eq (hprompt : prompt ≠ "") :
    ∃ desk, run agents false prompt options provider source state =
        (failure notAccepted, desk, state) ∧ desk.loop = { isOpen := false } := by
  obtain ⟨asked, hask⟩ := exists_ask_openDesk_eq options provider source hprompt
  have hempty : ¬ prompt.isEmpty = true := fun h ↦ hprompt (String.isEmpty_iff.mp h)
  unfold run Desk.askAndStart
  rw [if_neg hempty]
  simp only [Bool.false_eq_true, if_false, hask]
  exact ⟨_, rfl, rfl⟩

/-! ### The report -/

theorem terminated_eq (text : String) :
    terminated text = if text.toList.getLast? = some '\n' then text else text ++ "\n" := by
  have hends : Text.endsWith text.toList ['\n'] = true ↔ text.toList.getLast? = some '\n' := by
    rw [Text.endsWith, Option.isSome_iff_exists, List.getLast?_eq_some_iff]
    simp only [Text.afterStart?_eq_some_iff, List.reverse_eq_iff]
    constructor
    · rintro ⟨rest, htext⟩
      exact ⟨rest.reverse, by rw [htext]; simp⟩
    · rintro ⟨front, htext⟩
      exact ⟨front.reverse, by rw [htext]; simp⟩
  rw [terminated]
  by_cases hlast : text.toList.getLast? = some '\n'
  · rw [if_pos (hends.mpr hlast), if_pos hlast]
  · rw [if_neg (mt hends.mp hlast), if_neg hlast]

theorem reportOf_of_none {result : Job.Result} (h : result.error = none) :
    reportOf result = { status := 0, output := terminated result.replyText } := by
  rw [reportOf, h]
  rfl

theorem reportOf_of_some {result : Job.Result} {message : String}
    (h : result.error = some message) (hmessage : message ≠ "") :
    reportOf result = { status := 1, errorOutput := message ++ "\n" } := by
  have hfilter : result.error.filter (fun error ↦ !error.isEmpty) = some message := by
    rw [h, Option.filter_some, if_pos]
    simpa using hmessage
  rw [reportOf, hfilter]
  rfl

/-- What a run looks like from the outside: `ended` is how the conversation of its job ends and
leaves the agents, whose state was `before`. -/
structure Contract (prompt : String) (ended : Except Fault Job.Result × σ) (before : σ)
    (report : Report) (desk : Desk) (after : σ) : Prop where
  status_eq_zero_iff : report.status = 0 ↔ prompt ≠ "" ∧ (Desk.reported ended.1).error = none
  status_le_one : report.status ≤ 1
  /-- The reply goes to the output, with a line feed if it does not end in one. -/
  of_success : report.status = 0 → report.errorOutput = "" ∧
    report.output =
      if (Desk.reported ended.1).replyText.toList.getLast? = some '\n'
      then (Desk.reported ended.1).replyText else (Desk.reported ended.1).replyText ++ "\n"
  of_failure : report.status ≠ 0 → report.output = ""
  /-- A run without a question sets no desk up and asks no agent. -/
  of_missing : prompt = "" →
    report.errorOutput = "Missing prompt\n" ∧ desk.sessions = [] ∧ desk.history = [] ∧
      after = before
  of_error : prompt ≠ "" → ∀ message, (Desk.reported ended.1).error = some message →
    report.errorOutput = message ++ "\n"
  of_crash : prompt ≠ "" → ∀ fault, ended.1 = .error fault →
    report.errorOutput = "Assistant job failed: " ++ fault.message ++ "\n"
  of_question : prompt ≠ "" → after = ended.2 ∧ desk.loop = { isOpen := false }

theorem error_crashResult (fault : Fault) :
    (Desk.crashResult fault).error = some ("Assistant job failed: " ++ fault.message) := by
  have htext : Completion.hasText (some ("Assistant job failed: " ++ fault.message)) = true := by
    simp [Completion.hasText]
  rw [Desk.crashResult, Job.Result.failure, Completion.Result.messageOr, if_pos htext]
  rfl

section Contract

variable {ended : Except Fault Job.Result × σ} {before : σ}

theorem contract_missing : Contract "" ended before (failure missingPrompt) {} before where
  status_eq_zero_iff := by simp [failure]
  status_le_one := Nat.le_refl 1
  of_success := fun h ↦ absurd h Nat.one_ne_zero
  of_failure := fun _ ↦ rfl
  of_missing := fun _ ↦ ⟨rfl, rfl, rfl, rfl⟩
  of_error := fun h ↦ absurd rfl h
  of_crash := fun h ↦ absurd rfl h
  of_question := fun h ↦ absurd rfl h

theorem contract_reportOf {prompt : String} (hprompt : prompt ≠ "")
    (hmessage : (Desk.reported ended.1).error ≠ some "") {desk : Desk}
    (hloop : desk.loop = { isOpen := false }) :
    Contract prompt ended before (reportOf (Desk.reported ended.1)) desk ended.2 := by
  cases herror : (Desk.reported ended.1).error with
  | none =>
    rw [reportOf_of_none herror]
    exact
      { status_eq_zero_iff := iff_of_true rfl ⟨hprompt, herror⟩
        status_le_one := Nat.zero_le 1
        of_success := fun _ ↦ ⟨rfl, terminated_eq _⟩
        of_failure := fun h ↦ absurd rfl h
        of_missing := fun h ↦ absurd h hprompt
        of_error := fun _ message h ↦ by cases herror.symm.trans h
        of_crash := fun _ fault h ↦ by
          rw [h] at herror
          cases herror.symm.trans (error_crashResult fault)
        of_question := fun _ ↦ ⟨rfl, hloop⟩ }
  | some message =>
    rw [reportOf_of_some herror fun h ↦ hmessage (herror.trans (congrArg some h))]
    exact
      { status_eq_zero_iff := by simp [herror]
        status_le_one := Nat.le_refl 1
        of_success := fun h ↦ absurd h Nat.one_ne_zero
        of_failure := fun _ ↦ rfl
        of_missing := fun h ↦ absurd h hprompt
        of_error := fun _ other h ↦ by
          cases herror.symm.trans h
          rfl
        of_crash := fun _ fault h ↦ by
          rw [h] at herror
          cases herror.symm.trans (error_crashResult fault)
          rfl
        of_question := fun _ ↦ ⟨rfl, hloop⟩ }

end Contract

/-- Whatever the agents do, a run keeps its contract with the outside. -/
theorem contract_of_run (agents : Agents σ) (prompt : String) (options : Prompt.Options)
    (provider : Provider) (source : ContextSource) (state : σ) :
    Contract prompt (outcome agents prompt options provider source state) state
      (run agents true prompt options provider source state).1
      (run agents true prompt options provider source state).2.1
      (run agents true prompt options provider source state).2.2 := by
  by_cases hprompt : prompt = ""
  · subst hprompt
    exact contract_missing
  · obtain ⟨desk, hrun, hloop⟩ := exists_run_eq agents options provider source state hprompt
    rw [hrun]
    exact contract_reportOf hprompt
      ((worker prompt options provider source).error_ne_empty agents state) hloop

end Headless

end DeskAssistant
