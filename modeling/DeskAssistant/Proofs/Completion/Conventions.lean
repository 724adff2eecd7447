import DeskAssistant.Proofs.Completion.Attempt

/-!
# The two ways to ask

`Service.complete` raises what `Service.completeWithError` returns: `Service.Agrees` says so for a
reply and for a failure, with its message and its kind. It rests on two facts about a completion. No
failure is without a message (`Failure.message_ne_empty`), so none is replaced by the error of an
unnamed one, and no reply is empty (`ending_ok_ne_empty`), so each makes a result.

Only `complete` writes the error channel. Along the calls of a process the channel tells the failure
of the last `complete`, unless something came after it that cleared the channel: `Process.Exact`
says this beside the history of the calls. One call keeps it (`Process.exact_step`), and so does a
run of them (`Process.exact_run`).

The world may do whatever `Host.Orderly` allows: a command is refused or comes to an outcome.
-/

set_option autoImplicit false
set_option relaxedAutoImplicit false

namespace DeskAssistant

/-! ### Messages -/

theorem Command.Outcome.failureMessage_ne_empty (program : String) (outcome : Outcome) :
    outcome.failureMessage program ≠ "" := by
  simp [failureMessage, String.append_eq_empty_iff]

theorem Command.describe_ne_empty {message : String} (hmessage : message ≠ "")
    (output errorOutput : Option String) (outputFirst : Bool) :
    describe message output errorOutput outputFirst ≠ "" := by
  unfold describe
  dsimp only
  split
  · simp [String.append_eq_empty_iff, hmessage]
  · exact hmessage

namespace Completion

theorem Failure.message_ne_empty (failure : Failure) : failure.message ≠ "" := by
  unfold message
  cases failure with
  | exited program outcome => exact outcome.failureMessage_ne_empty program
  | emptyFile outcome => exact Command.describe_ne_empty (by decide) _ _ _
  | _ => simp [String.append_eq_empty_iff]

/-! ### Results -/

namespace Result

theorem hasText_some {text : String} : hasText (some text) = true ↔ text ≠ "" := by
  simp [hasText]

theorem ofFailure_error (failure : Failure) : (ofFailure failure).error = some failure.message :=
  congrArg some (if_pos (hasText_some.mpr failure.message_ne_empty))

theorem exists_success_eq {reply : String} (hreply : reply ≠ "") :
    ∃ result, success reply = .ok result ∧ result.reply = some reply ∧ result.error = none ∧
      result.errorKind = none := by
  have htexts : hasText (some reply) ≠ hasText none := by
    rw [hasText_some.mpr hreply]
    decide
  exact ⟨⟨some reply, none, none, htexts⟩, dif_pos htexts, rfl, rfl, rfl⟩

end Result

/-! ### Replies -/

theorem ending_ok_ne_empty {agent : Agent} {path : Option File.Path} {left : File.Store}
    {spawned : Command.Spawned} {reply : String}
    (hending : ending agent path left spawned = .ok reply) : reply ≠ "" := by
  obtain ⟨outcome, -, -, hreply⟩ := exists_outcome_of_ending_ok hending
  cases agent with
  | gemini => exact (replyIn_gemini_ok hreply).2
  | codex =>
    obtain ⟨_, _, -, -, -, hne⟩ := replyIn_codex_ok hreply
    exact hne

/-! ### The world -/

theorem exists_os_of_read_error {store : File.Store} {path : File.Path} {fault : Fault}
    (hpath : path.holdsNul = false) (hread : store.read path = .error fault) :
    ∃ error, fault = .os error := by
  rw [File.Store.read, File.Store.resolve, if_neg (by simp [hpath])] at hread
  cases hplace : store.place? path with
  | error obstacle =>
    rw [hplace] at hread
    cases hread
    exact ⟨_, rfl⟩
  | ok place =>
    simp only [hplace, bind, Except.bind] at hread
    split at hread <;> cases hread <;> exact ⟨_, rfl⟩

variable {σ : Type}

/-- A command that is started is refused or comes to an outcome, and output files have names that
can be theirs. -/
structure Host.Orderly (host : Host σ) : Prop where
  start_ne_broke : ∀ command agents files fault,
    (host.start command agents files).1 ≠ .broke fault
  holdsNul_eq : ∀ number, (File.Path.ofString (host.outputName number)).holdsNul = false

theorem Host.Orderly.holdsNul_outputPath {host : Host σ} (horderly : host.Orderly) (agent : Agent) :
    ∀ place ∈ host.outputPath? agent, place.holdsNul = false := by
  intro place hplace
  cases agent with
  | gemini => cases hplace
  | codex =>
    cases hplace
    exact horderly.holdsNul_eq _

theorem replyIn_ne_broke {agent : Agent} {path : Option File.Path} {left : File.Store}
    {outcome : Command.Outcome} (hpath : ∀ place ∈ path, place.holdsNul = false) (fault : Fault) :
    replyIn agent path left outcome ≠ .error (.broke fault) := by
  have hfailed (reply : Except Failure String) :
      reply.mapError Stop.failed ≠ .error (.broke fault) := by
    cases reply <;> simp [Except.mapError]
  cases agent with
  | gemini => exact hfailed _
  | codex =>
    cases path with
    | none => exact hfailed (Channel.fileReply none outcome).2
    | some place =>
      simp only [replyIn]
      cases hread : left.read place with
      | ok content => exact hfailed _
      | error error =>
        obtain ⟨_, rfl⟩ := exists_os_of_read_error (hpath place rfl) hread
        exact hfailed _

theorem ending_ne_broke {agent : Agent} {path : Option File.Path} {left : File.Store}
    {spawned : Command.Spawned} (hspawned : ∀ fault, spawned ≠ .broke fault)
    (hpath : ∀ place ∈ path, place.holdsNul = false) (fault : Fault) :
    ending agent path left spawned ≠ .error (.broke fault) := by
  unfold ending
  cases spawned with
  | refused error => simp [outcomeOf]
  | broke fault => exact absurd rfl (hspawned fault)
  | completed outcome =>
    simp only [outcomeOf]
    split_ifs
    · exact replyIn_ne_broke hpath fault
    · simp

/-! ### Completions -/

namespace Work

variable {settings : Settings} {provider : Provider} {prompt : String} {host : Host σ}

theorem complete_ok_ne_empty {reply : String}
    (hreply : (complete settings provider prompt host).1 = .ok reply) : reply ≠ "" := by
  obtain ⟨_, _, hcomplete, -, -, ⟨failure, rfl⟩ | ⟨binary, left, rfl⟩⟩ :=
    exists_complete_ending settings provider prompt host
  · rw [hcomplete] at hreply
    cases hreply
  · rw [hcomplete] at hreply
    exact ending_ok_ne_empty hreply

theorem complete_ne_broke (horderly : host.Orderly) (fault : Fault) :
    (complete settings provider prompt host).1 ≠ .error (.broke fault) := by
  obtain ⟨_, _, hcomplete, -, -, ⟨failure, rfl⟩ | ⟨binary, left, rfl⟩⟩ :=
    exists_complete_ending settings provider prompt host
  · rw [hcomplete]
    nofun
  · rw [hcomplete]
    exact ending_ne_broke (horderly.start_ne_broke _ _ _) (horderly.holdsNul_outputPath _) fault

theorem orderly_complete (horderly : host.Orderly) :
    (complete settings provider prompt host).2.Orderly := by
  obtain ⟨_, _, hcomplete, hstart, hname, -⟩ :=
    exists_complete_ending settings provider prompt host
  rw [hcomplete]
  exact ⟨by rw [hstart]; exact horderly.start_ne_broke,
    by rw [hname]; exact horderly.holdsNul_eq⟩

end Work

/-! ### One call -/

namespace Service

/-- What one way to ask makes of a completion, the other makes of it in its own terms. -/
structure Agrees (service : Service σ) (provider : Provider) (prompt : String) : Prop where
  returns_iff : ∀ reply, (service.complete provider prompt).1 = .ok reply ↔
    reply ≠ "" ∧ ∃ result, (service.completeWithError provider prompt).1 = .ok result ∧
      result.reply = some reply ∧ result.error = none ∧ result.errorKind = none
  raises_iff : ∀ message kind,
    (∃ failure, (service.complete provider prompt).1 = .error (.failed failure) ∧
      failure.message = message ∧ failure.kind.name = kind) ↔
    ∃ result, (service.completeWithError provider prompt).1 = .ok result ∧
      result.reply = none ∧ result.error = some message ∧ result.errorKind = some kind
  /-- The second way never raises. -/
  answers : ∃ result, (service.completeWithError provider prompt).1 = .ok result
  keeps_lastError :
    (service.completeWithError provider prompt).2.lastError = service.lastError
  host_eq : (service.completeWithError provider prompt).2.host =
    (service.complete provider prompt).2.host

variable {service : Service σ} {provider : Provider} {prompt : String} {host : Host σ}

theorem agrees_of_ok {reply : String} (hne : reply ≠ "")
    (hcomplete : Work.complete service.settings provider prompt service.host =
      (.ok reply, host)) :
    service.Agrees provider prompt := by
  obtain ⟨result, hresult, hreply, herror, hkind⟩ := Result.exists_success_eq hne
  have hraising : service.complete provider prompt =
      (.ok reply, { service with host, lastError := none }) := by
    rw [complete_eq, hcomplete]
    rfl
  have hreturning : service.completeWithError provider prompt =
      (.ok result, { service with host }) := by
    simp only [completeWithError, attempt, hcomplete, hresult]
  refine ⟨fun other ↦ ?_, fun message kind ↦ ?_, ⟨result, ?_⟩, ?_, ?_⟩
    <;> simp only [hraising, hreturning]
  · constructor
    · rintro ⟨⟩
      exact ⟨hne, result, rfl, hreply, herror, hkind⟩
    · rintro ⟨-, _, ⟨⟩, hsame, -, -⟩
      exact congrArg Except.ok (Option.some.inj (hreply.symm.trans hsame))
  · constructor
    · rintro ⟨_, ⟨⟩, -, -⟩
    · rintro ⟨_, ⟨⟩, hnone, -, -⟩
      cases hreply.symm.trans hnone

theorem agrees_of_failed {failure : Failure}
    (hcomplete : Work.complete service.settings provider prompt service.host =
      (.error (.failed failure), host)) :
    service.Agrees provider prompt := by
  have hraising : service.complete provider prompt =
      (.error (.failed failure), { service with host, lastError := failure.message }) := by
    rw [complete_eq, hcomplete]
    rfl
  have hreturning : service.completeWithError provider prompt =
      (.ok (.ofFailure failure), { service with host }) := by
    simp only [completeWithError, attempt, hcomplete]
  have herror := Result.ofFailure_error failure
  refine ⟨fun other ↦ ?_, fun message kind ↦ ?_, ⟨.ofFailure failure, ?_⟩, ?_, ?_⟩
    <;> simp only [hraising, hreturning]
  · constructor
    · rintro ⟨⟩
    · rintro ⟨-, _, ⟨⟩, hsome, -, -⟩
      cases hsome
  · constructor
    · rintro ⟨_, ⟨⟩, rfl, rfl⟩
      exact ⟨_, rfl, rfl, herror, rfl⟩
    · rintro ⟨_, ⟨⟩, -, hmessage, hkind⟩
      exact ⟨failure, rfl, Option.some.inj (herror.symm.trans hmessage), Option.some.inj hkind⟩

/-- A completion ends with a reply or with a failure, whatever an orderly world does. -/
theorem agrees (horderly : service.host.Orderly) (provider : Provider) (prompt : String) :
    service.Agrees provider prompt := by
  cases hcomplete : Work.complete service.settings provider prompt service.host with
  | mk outcome host =>
    cases outcome with
    | ok reply => exact agrees_of_ok (Work.complete_ok_ne_empty (by rw [hcomplete])) hcomplete
    | error stop =>
      cases stop with
      | failed failure => exact agrees_of_failed hcomplete
      | broke fault => exact absurd (by rw [hcomplete]) (Work.complete_ne_broke horderly fault)

/-- What a completion leaves in the error channel. -/
theorem lastError_complete (horderly : service.host.Orderly) :
    (service.complete provider prompt).2.lastError =
      match (service.complete provider prompt).1 with
      | .error (.failed failure) => some failure.message
      | _ => none := by
  rw [complete_eq]
  cases hcomplete : (Work.complete service.settings provider prompt service.host).1 with
  | ok reply => rfl
  | error stop =>
    cases stop with
    | failed failure => rfl
    | broke fault => exact absurd hcomplete (Work.complete_ne_broke horderly fault)

end Service

/-! ### The calls of a process -/

/-- What was called, and what it gave. -/
inductive Event where
  | completed (outcome : Except Stop String)
  | answered (outcome : Except Fault Result)
  | cleared

/-- The call leaves the error channel as it is. -/
def Event.isAnswer : Event → Bool
  | .answered _ => true
  | _ => false

/-- A service, with all calls of its process so far. -/
structure Process (σ : Type) where
  service : Service σ
  history : List Event := []

namespace Process

/-- A call, or a change of what is around it: another state of the world, or a service with other
settings that takes the next calls. -/
inductive Step (σ : Type) where
  | complete (provider : Provider) (prompt : String)
  | completeWithError (provider : Provider) (prompt : String)
  | clearError
  | move (settings : Settings) (host : Host σ)

def step (process : Process σ) : Step σ → Process σ
  | .complete provider prompt =>
    let (outcome, service) := process.service.complete provider prompt
    { service, history := process.history ++ [.completed outcome] }
  | .completeWithError provider prompt =>
    let (outcome, service) := process.service.completeWithError provider prompt
    { service, history := process.history ++ [.answered outcome] }
  | .clearError =>
    { service := process.service.clearError, history := process.history ++ [.cleared] }
  | .move settings host => { process with service := { process.service with settings, host } }

def run (process : Process σ) (steps : List (Step σ)) : Process σ := steps.foldl step process

/-- A process before its first call. -/
def start (settings : Settings) (host : Host σ) : Process σ where
  service := { settings, host }

/-- The world of a step is as orderly as that of the calls before it. -/
def Step.Orderly : Step σ → Prop
  | .move _ host => host.Orderly
  | _ => True

/-- The last call that could write the error channel was a completion that ended in `failure`. -/
def FailedLast (history : List Event) (failure : Failure) : Prop :=
  ∃ before after, history = before ++ .completed (.error (.failed failure)) :: after ∧
    ∀ event ∈ after, event.isAnswer = true

theorem failedLast_concat {history : List Event} {event : Event} {failure : Failure} :
    FailedLast (history ++ [event]) failure ↔
      event = .completed (.error (.failed failure)) ∨
        event.isAnswer = true ∧ FailedLast history failure := by
  constructor
  · rintro ⟨before, after, hhistory, hafter⟩
    obtain rfl | ⟨others, last, rfl⟩ := after.eq_nil_or_concat
    · exact .inl (List.singleton_inj.mp (List.append_inj_right' hhistory rfl))
    · have hsplit : history ++ [event] =
          (before ++ .completed (.error (.failed failure)) :: others) ++ [last] := by
        simpa using hhistory
      obtain ⟨rfl, hlast⟩ := List.append_inj' hsplit rfl
      obtain rfl := List.singleton_inj.mp hlast
      exact .inr ⟨hafter event (by simp), before, others, rfl,
        fun earlier hearlier ↦ hafter earlier (by simp [hearlier])⟩
  · rintro (rfl | ⟨hanswer, before, after, rfl, hafter⟩)
    · exact ⟨history, [], rfl, nofun⟩
    · refine ⟨before, after ++ [event], by simp, fun later hlater ↦ ?_⟩
      obtain hlater | hlater := List.mem_append.mp hlater
      · exact hafter later hlater
      · rw [List.mem_singleton.mp hlater, hanswer]

/-- The error channel tells the failure that came last, in a world that stays orderly. -/
structure Exact (process : Process σ) : Prop where
  orderly : process.service.host.Orderly
  lastError_iff : ∀ message, process.service.lastError = some message ↔
    ∃ failure, FailedLast process.history failure ∧ failure.message = message

variable {process : Process σ}

theorem exact_step (hexact : process.Exact) {step : Step σ} (hstep : step.Orderly) :
    (process.step step).Exact := by
  obtain ⟨horderly, hlast⟩ := hexact
  cases step with
  | complete provider prompt =>
    refine ⟨?_, fun message ↦ ?_⟩
    · change (process.service.complete provider prompt).2.host.Orderly
      rw [Service.host_complete]
      exact Work.orderly_complete horderly
    · change (process.service.complete provider prompt).2.lastError = some message ↔
        ∃ failure, FailedLast (process.history ++
          [.completed (process.service.complete provider prompt).1]) failure ∧
          failure.message = message
      rw [Service.lastError_complete horderly]
      cases (process.service.complete provider prompt).1 with
      | ok reply => simp [failedLast_concat, Event.isAnswer]
      | error stop => cases stop <;> simp [failedLast_concat, Event.isAnswer]
  | completeWithError provider prompt =>
    have hagrees := Service.agrees horderly provider prompt
    refine ⟨?_, fun message ↦ ?_⟩
    · change (process.service.completeWithError provider prompt).2.host.Orderly
      rw [hagrees.host_eq, Service.host_complete]
      exact Work.orderly_complete horderly
    · change (process.service.completeWithError provider prompt).2.lastError = some message ↔
        ∃ failure, FailedLast (process.history ++
          [.answered (process.service.completeWithError provider prompt).1]) failure ∧
          failure.message = message
      rw [hagrees.keeps_lastError]
      simpa [failedLast_concat, Event.isAnswer] using hlast message
  | clearError =>
    refine ⟨horderly, fun message ↦ ?_⟩
    change none = some message ↔
      ∃ failure, FailedLast (process.history ++ [.cleared]) failure ∧ failure.message = message
    simp [failedLast_concat, Event.isAnswer]
  | move settings host => exact ⟨hstep, hlast⟩

theorem exact_run (hexact : process.Exact) {steps : List (Step σ)}
    (hsteps : ∀ step ∈ steps, step.Orderly) : (process.run steps).Exact := by
  induction steps generalizing process with
  | nil => exact hexact
  | cons step steps ih =>
    obtain ⟨hstep, hsteps⟩ := List.forall_mem_cons.mp hsteps
    exact ih (exact_step hexact hstep) hsteps

theorem exact_start (settings : Settings) {host : Host σ} (horderly : host.Orderly) :
    (start settings host).Exact where
  orderly := horderly
  lastError_iff message := by simp [start, FailedLast]

/-- Wherever the calls of a process have led, the two ways to ask agree on the next prompt, and the
error channel holds the message of the failure that came last, if nothing cleared it since. -/
theorem conventions_of_run (settings : Settings) {host : Host σ} (horderly : host.Orderly)
    (steps : List (Step σ)) (hsteps : ∀ step ∈ steps, step.Orderly) :
    (∀ provider prompt, ((start settings host).run steps).service.Agrees provider prompt) ∧
      ∀ message, ((start settings host).run steps).service.lastError = some message ↔
        ∃ failure, FailedLast ((start settings host).run steps).history failure ∧
          failure.message = message := by
  have hexact := exact_run (exact_start settings horderly) hsteps
  exact ⟨Service.agrees hexact.orderly, hexact.lastError_iff⟩

/-- A world in which each command takes the next of these outcomes and is refused after the last. -/
def hostOf (outcomes : List Command.Outcome) : Host (List Command.Outcome) where
  locate _ program := some ("/usr/bin/" ++ program)
  outputName _ := "/tmp/reply"
  agents := outcomes
  start _ outcomes files :=
    match outcomes with
    | [] => (.refused (.notFound none), [], files)
    | outcome :: rest => (.completed outcome, rest, files)

theorem orderly_hostOf (outcomes : List Command.Outcome) : (hostOf outcomes).Orderly where
  start_ne_broke _ outcomes _ _ := by cases outcomes <;> nofun
  holdsNul_eq _ := (by decide : (File.Path.ofString "/tmp/reply").holdsNul = false)

/-- A failure stays in the channel while a result is returned, and agrees with it. -/
theorem conventions_replyAfterFailure :
    let process := (start {} (hostOf [
        { status := 1, errorOutput := "not logged in" },
        { output := "\x7b\"response\": \"ok\"\x7d" }])).run
      [.complete .gemini "why?", .completeWithError .gemini "why?"]
    process.service.lastError = some "gemini failed (exit status 1)\n\nstderr:\nnot logged in" ∧
      process.service.Agrees .default "why?" ∧
      ∃ failure, FailedLast process.history failure := by
  intro process
  have hlast : process.service.lastError =
      some "gemini failed (exit status 1)\n\nstderr:\nnot logged in" := by decide +kernel
  obtain ⟨hagrees, hiff⟩ := conventions_of_run {} (orderly_hostOf _)
    [.complete .gemini "why?", .completeWithError .gemini "why?"] (by simp [Step.Orderly])
  obtain ⟨failure, hfailed, -⟩ := (hiff _).mp hlast
  exact ⟨hlast, hagrees _ _, failure, hfailed⟩

end Process

end Completion

end DeskAssistant
