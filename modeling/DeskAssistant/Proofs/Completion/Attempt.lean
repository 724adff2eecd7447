import DeskAssistant.Completion.Service
import DeskAssistant.Proofs.Sequence
import Mathlib.Tactic.Common

/-!
# What a completion does

A completion starts one command or none. `Host.Ready` says when it starts one: there is a prompt,
an executable is found, and the agent's output file, if it uses one, can be made. What then happens
is in `Host.launch`, which is the one place where the outside world acts, and the outcome is read
from the files that the world leaves behind (`ending`).

Two equations take a completion apart, so that no later proof opens it. One that is not ready fails
and leaves the host as it was, but for its notes (`exists_complete_eq_of_not_ready`); one that is
ready adds its command to those that were started and removes the output file, however it ends
(`exists_complete_eq_of_ready`).
-/

set_option autoImplicit false
set_option relaxedAutoImplicit false

namespace DeskAssistant

/-! ### The agent that is asked -/

namespace Settings

/-- The agent that a provider stands for. -/
def agentFor (settings : Settings) (provider : Provider) : Agent :=
  match settings.resolve provider with
  | .gemini => .gemini
  | .codex | .default => .codex

theorem resolve_ne_default (settings : Settings) (provider : Provider) :
    settings.resolve provider ≠ .default := by
  unfold resolve defaultProviderKind
  split_ifs with hdefault
  · split <;> decide
  · exact hdefault

theorem build_resolve (settings : Settings) (provider : Provider) :
    (settings.resolve provider).build = .ok (settings.agentFor provider) := by
  have hresolved := settings.resolve_ne_default provider
  unfold agentFor
  cases hprovider : settings.resolve provider with
  | default => exact absurd hprovider hresolved
  | codex => rfl
  | gemini => rfl

end Settings

namespace Completion

variable {σ : Type}

/-! ### Single steps -/

namespace Work

section Steps

variable {α β : Type} (host : Host σ)

theorem get_apply : (get : Work σ (Host σ)) host = (.ok host, host) := rfl

theorem set_apply (after : Host σ) : (set after : Work σ PUnit) host = (.ok ⟨⟩, after) := rfl

theorem note_apply (records : List Log.Record) :
    (note records : Work σ Unit) host = (.ok (), host.note records) := rfl

theorem orBreak_apply (outcome : Except Fault α) :
    (orBreak outcome : Work σ α) host = (outcome.mapError .broke, host) := by
  cases outcome <;> rfl

theorem settle_apply (outcome : List Log.Record × Except Failure α) :
    (settle outcome : Work σ α) host = (outcome.2.mapError .failed, host.note outcome.1) := by
  rw [settle, Sequence.bind_apply, note_apply]
  cases outcome.2 <;> rfl

end Steps

end Work

/-! ### Hosts that differ in their notes -/

/-- The hosts are the same but for the names that were searched for and the records. -/
def Host.AlikeButNotes (host after : Host σ) : Prop :=
  ∃ searched records, after = { host with searched, records }

namespace Host.AlikeButNotes

variable {host middle after : Host σ}

theorem refl (host : Host σ) : host.AlikeButNotes host := ⟨_, _, rfl⟩

theorem note (h : host.AlikeButNotes after) (records : List Log.Record) :
    host.AlikeButNotes (after.note records) := by
  obtain ⟨_, _, rfl⟩ := h
  exact ⟨_, _, rfl⟩

end Host.AlikeButNotes

theorem Work.exists_findExecutable_eq (settings : Settings) (agent : Agent) (host : Host σ) :
    ∃ found after, findExecutable settings agent host = (.ok found, after) ∧
      host.AlikeButNotes after := by
  unfold findExecutable
  cases settings.binary? agent with
  | some binary => exact ⟨_, _, rfl, .refl host⟩
  | none =>
    simp only [Sequence.bind_apply, get_apply]
    split_ifs with hinstalled
    · exact ⟨_, _, rfl, .refl host⟩
    · exact ⟨_, _, rfl, _, _, rfl⟩

/-! ### Starting the command -/

namespace Host

/-- The path that a new output file is given. -/
def newPath (host : Host σ) : File.Path :=
  .ofString (host.outputName (host.freeNumber host.files.entries.length 0))

/-- The path of the output file that a completion makes, if its agent uses one. -/
def outputPath? (host : Host σ) : Agent → Option File.Path
  | .codex => some host.newPath
  | .gemini => none

/-- The files when the command is started: the output file is there and empty. -/
def filesAtStart (host : Host σ) (agent : Agent) : File.Store :=
  match host.outputPath? agent with
  | some path => host.files.put path (.file .empty false)
  | none => host.files

/-- The files when the completion has ended, given those that the command left. -/
def filesAtEnd (host : Host σ) (agent : Agent) (left : File.Store) : File.Store :=
  match host.outputPath? agent with
  | some path => left.unlink path
  | none => left

/-- An output file as it stands in a command. -/
def shown (path : Option File.Path) : String := (path.map (·.toString)).getD ""

/-- The command that asks an agent, behind its guard. -/
def command (host : Host σ) (settings : Settings) (agent : Agent) (binary prompt : String) :
    List String :=
  ((Command.Runner.ofSeconds settings.timeoutSeconds).wrap
    (host.locateGuard (host.filesAtStart agent))
    (agent.command settings.bypassApprovals binary prompt (shown (host.outputPath? agent)))).2

/-- What starting the command leads to, the agents' state after it, and the files it leaves. -/
def launch (host : Host σ) (settings : Settings) (agent : Agent) (binary prompt : String) :
    Command.Spawned × σ × File.Store :=
  host.start (host.command settings agent binary prompt) host.agents (host.filesAtStart agent)

namespace AlikeButNotes

variable {host after : Host σ} (h : host.AlikeButNotes after)
include h

theorem newPath_eq : after.newPath = host.newPath := by
  obtain ⟨searched, records, rfl⟩ := h
  have hnumber (fuel number : Nat) :
      freeNumber { host with searched, records } fuel number = host.freeNumber fuel number := by
    induction fuel generalizing number with
    | zero => rfl
    | succ fuel ih => simp only [freeNumber, ih]
  simp only [newPath, hnumber]

theorem outputPath?_eq (agent : Agent) : after.outputPath? agent = host.outputPath? agent := by
  cases agent with
  | codex => exact congrArg some h.newPath_eq
  | gemini => rfl

theorem filesAtStart_eq (agent : Agent) :
    after.filesAtStart agent = host.filesAtStart agent := by
  have hpath := h.outputPath?_eq agent
  obtain ⟨_, _, rfl⟩ := h
  simp only [filesAtStart, hpath]

theorem filesAtEnd_eq (agent : Agent) (left : File.Store) :
    after.filesAtEnd agent left = host.filesAtEnd agent left := by
  simp only [filesAtEnd, h.outputPath?_eq]

theorem command_eq (settings : Settings) (agent : Agent) (binary prompt : String) :
    after.command settings agent binary prompt = host.command settings agent binary prompt := by
  have hpath := h.outputPath?_eq agent
  have hfiles := h.filesAtStart_eq agent
  obtain ⟨_, _, rfl⟩ := h
  simp only [command, hpath, hfiles]

theorem launch_eq (settings : Settings) (agent : Agent) (binary prompt : String) :
    after.launch settings agent binary prompt = host.launch settings agent binary prompt := by
  have hfiles := h.filesAtStart_eq agent
  have hcommand := h.command_eq settings agent binary prompt
  obtain ⟨_, _, rfl⟩ := h
  simp only [launch, hfiles, hcommand]

end AlikeButNotes

/-- A completion comes to start its command. -/
structure Ready (host : Host σ) (settings : Settings) (agent : Agent) (binary prompt : String) :
    Prop where
  prompt_ne : prompt ≠ ""
  found : (Work.findExecutable settings agent host).1 = .ok (some binary)
  binary_ne : binary ≠ ""
  refusal_eq : agent = .codex → host.outputRefusal = none

/-- All else being there, only an output file that cannot be made keeps a command from starting. -/
theorem exists_outputRefusal_of_not_ready {host : Host σ} {settings : Settings} {agent : Agent}
    {binary prompt : String} (hprompt : prompt ≠ "")
    (hfound : (Work.findExecutable settings agent host).1 = .ok (some binary))
    (hbinary : binary ≠ "") (hnot : ¬ host.Ready settings agent binary prompt) :
    agent = .codex ∧ ∃ refusal, host.outputRefusal = some refusal := by
  have hrefused : ¬ (agent = .codex → host.outputRefusal = none) :=
    fun hrefusal ↦ hnot ⟨hprompt, hfound, hbinary, hrefusal⟩
  obtain ⟨hcodex, hsome⟩ := Classical.not_imp.mp hrefused
  exact ⟨hcodex, Option.ne_none_iff_exists'.mp hsome⟩

end Host

/-! ### How it ends -/

/-- The outcome of a command, or why there is none. -/
def outcomeOf (program : String) : Command.Spawned → Except Stop Command.Outcome
  | .completed outcome => .ok outcome
  | .refused error => .error (.failed (.spawnFailed program error.reason))
  | .broke fault => .error (.broke fault)

/-- The reply that a successful run leaves, in its output or in the file at `path`. -/
def replyIn (agent : Agent) (path : Option File.Path) (left : File.Store)
    (outcome : Command.Outcome) : Except Stop String :=
  match agent, path with
  | .gemini, _ => (Channel.outputReply outcome).mapError .failed
  | .codex, none => (Channel.fileReply none outcome).2.mapError .failed
  | .codex, some path =>
    match Fault.apart (left.read path) with
    | .ok content => (Channel.fileReply (some (path.toString, content)) outcome).2.mapError .failed
    | .error fault => .error (.broke fault)

/-- How a completion ends whose command led to `spawned` and left these files. -/
def ending (agent : Agent) (path : Option File.Path) (left : File.Store)
    (spawned : Command.Spawned) : Except Stop String :=
  match outcomeOf agent.program spawned with
  | .error stop => .error stop
  | .ok outcome =>
    if outcome.succeeded then replyIn agent path left outcome
    else .error (.failed (.exited agent.program outcome))

section Replies

variable {path : Option File.Path} {left : File.Store} {outcome : Command.Outcome}
  {reply : String}

private theorem eq_ok_of_mapError_eq_ok {ε δ α : Type} {change : ε → δ} {before : Except ε α}
    {value : α} (hmapped : before.mapError change = .ok value) : before = .ok value := by
  cases before with
  | ok value => exact congrArg Except.ok (Except.ok.inj hmapped)
  | error _ => cases hmapped

theorem replyIn_gemini_ok (hreply : replyIn .gemini path left outcome = .ok reply) :
    Channel.embedded outcome.output Channel.replyField = .ok (some reply) ∧ reply ≠ "" := by
  have houtput := eq_ok_of_mapError_eq_ok hreply
  unfold Channel.outputReply at houtput
  split at houtput
  · cases houtput
  · split at houtput
    · cases houtput
    · cases houtput
    · next hembedded =>
      split_ifs at houtput with hempty
      cases houtput
      exact ⟨hembedded, by simpa using hempty⟩

theorem replyIn_codex_ok (hreply : replyIn .codex path left outcome = .ok reply) :
    ∃ place content, path = some place ∧ left.read place = .ok content ∧
      reply = Text.Utf8.decodeLossy content ∧ reply ≠ "" := by
  cases path with
  | none => cases hreply
  | some place =>
    simp only [replyIn] at hreply
    cases hread : left.read place with
    | error fault =>
      rw [hread] at hreply
      cases fault <;> cases hreply
    | ok content =>
      rw [hread] at hreply
      have hfile := eq_ok_of_mapError_eq_ok hreply
      simp only [Channel.fileReply, Channel.fromFile] at hfile
      split_ifs at hfile with hlong
      dsimp only at hfile
      split_ifs at hfile with hempty
      cases hfile
      exact ⟨place, content, rfl, hread, rfl, by simpa using hempty⟩

/-- A reply comes of a command that succeeded. -/
theorem exists_outcome_of_ending_ok {agent : Agent} {spawned : Command.Spawned}
    (hending : ending agent path left spawned = .ok reply) :
    ∃ outcome, spawned = .completed outcome ∧ outcome.succeeded = true ∧
      replyIn agent path left outcome = .ok reply := by
  unfold ending at hending
  cases spawned with
  | completed outcome =>
    simp only [outcomeOf] at hending
    split_ifs at hending with hsucceeded
    exact ⟨outcome, rfl, hsucceeded, hending⟩
  | refused error => cases hending
  | broke fault => cases hending

end Replies

namespace Work

theorem exists_readReply_eq (agent : Agent) (path : Option File.Path) (outcome : Command.Outcome)
    (host : Host σ) :
    ∃ after, readReply agent path outcome host = (replyIn agent path host.files outcome, after) ∧
      host.AlikeButNotes after := by
  cases agent with
  | gemini => exact ⟨_, settle_apply host _, (Host.AlikeButNotes.refl host).note _⟩
  | codex =>
    cases path with
    | none => exact ⟨_, settle_apply host _, (Host.AlikeButNotes.refl host).note _⟩
    | some path =>
      simp only [readReply, replyIn, Sequence.bind_apply, get_apply, orBreak_apply]
      cases Fault.apart (host.files.read path) with
      | ok content => exact ⟨_, settle_apply host _, (Host.AlikeButNotes.refl host).note _⟩
      | error fault => exact ⟨_, rfl, .refl host⟩

theorem exists_runCommand_eq (runner : Command.Runner) (program : String) (command : List String)
    (host : Host σ) {spawned : Command.Spawned} {agents : σ} {left : File.Store}
    (hstart : host.start (runner.wrap (host.locateGuard host.files) command).2 host.agents
      host.files = (spawned, agents, left)) :
    ∃ records, runCommand runner program command host =
      (outcomeOf program spawned,
        { host with
          files := left, agents, records
          spawned := host.spawned ++
            [(runner.wrap (host.locateGuard host.files) command).2] }) := by
  have hspawn (records : List Log.Record) : (host.note records).spawn
      (runner.wrap (host.locateGuard host.files) command).2 =
        (spawned, { host with
          files := left, agents, records := host.records ++ records
          spawned := host.spawned ++
            [(runner.wrap (host.locateGuard host.files) command).2] }) := by
    simp only [Host.spawn, Host.note, hstart]
  simp only [runCommand, Sequence.bind_apply, get_apply, note_apply, set_apply, hspawn]
  cases spawned with
  | completed outcome => exact ⟨_, rfl⟩
  | refused error => exact ⟨_, rfl⟩
  | broke fault => exact ⟨_, rfl⟩

/-- Releasing an output file removes it, unless a directory is in its place. -/
theorem exists_release_eq (host : Host σ) (path : File.Path) :
    ∃ records, host.release path = { host with files := host.files.unlink path, records } := by
  unfold Host.release File.Store.unlink
  split_ifs with hdirectory
  · exact ⟨_, rfl⟩
  · exact ⟨_, rfl⟩

theorem withOutputFile_of_refusal {α : Type} {host : Host σ} {refusal : File.OsError}
    (hrefusal : host.outputRefusal = some refusal) (work : Option File.Path → Work σ α) :
    withOutputFile .codex work host =
      (.error (.failed (.outputFileRefused refusal.reason)), host) := by
  simp only [withOutputFile, Host.allocate, hrefusal]

theorem exists_withOutputFile_eq {α : Type} {agent : Agent} {host : Host σ}
    (hrefusal : agent = .codex → host.outputRefusal = none) (work : Option File.Path → Work σ α)
    {outcome : Except Stop α} {after : Host σ}
    (hwork : work (host.outputPath? agent) { host with files := host.filesAtStart agent } =
      (outcome, after)) :
    ∃ records, withOutputFile agent work host =
      (outcome, { after with files := host.filesAtEnd agent after.files, records }) := by
  cases agent with
  | gemini => exact ⟨after.records, hwork⟩
  | codex =>
    have hallocate : host.allocate =
        (.ok host.newPath, { host with files := host.filesAtStart .codex }) := by
      rw [Host.allocate, hrefusal rfl]
      rfl
    obtain ⟨records, hrelease⟩ := exists_release_eq after host.newPath
    rw [Host.outputPath?] at hwork
    refine ⟨records, ?_⟩
    simp only [withOutputFile, hallocate, hwork]
    exact congrArg (Prod.mk outcome) hrelease

/-! ### Completions -/

variable {settings : Settings} {agent : Agent} {binary prompt : String} {host : Host σ}

/-- The part of a completion that has the output file. -/
def asking (settings : Settings) (agent : Agent) (binary prompt : String)
    (path : Option File.Path) : Work σ String := do
  let outcome ← runCommand (.ofSeconds settings.timeoutSeconds) agent.program
    (agent.command settings.bypassApprovals binary prompt (Host.shown path))
  settle (Command.checkExit agent.program outcome)
  readReply agent path outcome

theorem exists_asking_eq {spawned : Command.Spawned} {agents : σ} {left : File.Store}
    (hlaunch : host.launch settings agent binary prompt = (spawned, agents, left)) :
    ∃ searched records, asking settings agent binary prompt (host.outputPath? agent)
        { host with files := host.filesAtStart agent } =
      (ending agent (host.outputPath? agent) left spawned,
        { host with
          files := left, agents, searched, records
          spawned := host.spawned ++ [host.command settings agent binary prompt] }) := by
  obtain ⟨records, hrun⟩ := exists_runCommand_eq (.ofSeconds settings.timeoutSeconds)
    agent.program
    (agent.command settings.bypassApprovals binary prompt (Host.shown (host.outputPath? agent)))
    { host with files := host.filesAtStart agent } hlaunch
  simp only [asking, Sequence.bind_apply, hrun, ending]
  cases outcomeOf agent.program spawned with
  | error stop => exact ⟨_, _, rfl⟩
  | ok outcome =>
    simp only [settle_apply, Command.checkExit]
    cases outcome.succeeded with
    | false => exact ⟨_, _, rfl⟩
    | true =>
      obtain ⟨_, hreply, searched, records, rfl⟩ := exists_readReply_eq agent
        (host.outputPath? agent) outcome _
      exact ⟨searched, records, hreply⟩

/-- A completion that has found its executable asks the agent, and notes the reply. -/
theorem complete_of_found {provider : Provider} {after : Host σ} (hprompt : prompt ≠ "")
    (hfound : findExecutable settings (settings.agentFor provider) host =
      (.ok (some binary), after)) (hbinary : binary ≠ "") :
    complete settings provider prompt host =
      (do
        let reply ← withOutputFile (settings.agentFor provider)
          (asking settings (settings.agentFor provider) binary prompt)
        note [record "%s returned %s chars"
          [(settings.agentFor provider).program, toString reply.length]]
        pure reply : Work σ String)
      (after.note [record "Running %s completion via %s (prompt=%s chars)"
        [(settings.agentFor provider).program, binary, toString prompt.length]]) := by
  unfold complete asking Host.shown
  rw [if_neg (by simpa using hprompt), settings.build_resolve provider]
  simp only [Sequence.bind_apply, Sequence.pure_apply, hfound, Option.getD_some]
  rw [if_neg (by simpa using hbinary)]
  simp only [Sequence.bind_apply, note_apply, Sequence.pure_apply]

theorem complete_of_not_found {provider : Provider} {found : Option String} {after : Host σ}
    (hprompt : prompt ≠ "")
    (hfound : findExecutable settings (settings.agentFor provider) host = (.ok found, after))
    (hbinary : found.getD "" = "") :
    complete settings provider prompt host =
      (.error (.failed (.executableMissing (settings.agentFor provider))), after) := by
  unfold complete
  rw [if_neg (by simpa using hprompt), settings.build_resolve provider]
  simp only [Sequence.bind_apply, Sequence.pure_apply, hfound]
  rw [if_pos (by simpa using hbinary)]
  rfl

theorem exists_complete_eq_of_not_ready {provider : Provider}
    (hnot : ∀ binary, ¬ host.Ready settings (settings.agentFor provider) binary prompt) :
    ∃ failure after, complete settings provider prompt host = (.error (.failed failure), after) ∧
      host.AlikeButNotes after := by
  by_cases hprompt : prompt = ""
  · subst hprompt
    exact ⟨.missingPrompt, host, rfl, .refl host⟩
  · obtain ⟨found, after, hfound, hnotes⟩ :=
      exists_findExecutable_eq settings (settings.agentFor provider) host
    by_cases hbinary : found.getD "" = ""
    · exact ⟨_, _, complete_of_not_found hprompt hfound hbinary, hnotes⟩
    · obtain ⟨binary, rfl⟩ : ∃ binary, found = some binary :=
        Option.ne_none_iff_exists'.mp fun hnone ↦ hbinary (by rw [hnone]; rfl)
      rw [Option.getD_some] at hbinary
      obtain ⟨hcodex, refusal, hrefusal⟩ :=
        Host.exists_outputRefusal_of_not_ready hprompt (by rw [hfound]) hbinary (hnot binary)
      have hrefused (records : List Log.Record) :
          (after.note records).outputRefusal = some refusal := by
        obtain ⟨_, _, rfl⟩ := hnotes
        exact hrefusal
      have hends := complete_of_found hprompt hfound hbinary
      rw [Sequence.bind_apply, hcodex, withOutputFile_of_refusal (hrefused _)] at hends
      exact ⟨.outputFileRefused refusal.reason, _, hends, hnotes.note _⟩

/-- Whatever the command led to, it was the only one, and no output file is left. -/
theorem exists_complete_eq_of_ready {provider : Provider}
    (hready : host.Ready settings (settings.agentFor provider) binary prompt)
    {spawned : Command.Spawned} {agents : σ} {left : File.Store}
    (hlaunch : host.launch settings (settings.agentFor provider) binary prompt =
      (spawned, agents, left)) :
    ∃ searched records, complete settings provider prompt host =
      (ending (settings.agentFor provider) (host.outputPath? (settings.agentFor provider)) left
          spawned,
        { host with
          files := host.filesAtEnd (settings.agentFor provider) left
          agents, searched, records
          spawned := host.spawned ++
            [host.command settings (settings.agentFor provider) binary prompt] }) := by
  obtain ⟨found, after, hfound, hnotes⟩ :=
    exists_findExecutable_eq settings (settings.agentFor provider) host
  obtain rfl : found = some binary := by
    have hsame := hready.found
    rw [hfound] at hsame
    exact Except.ok.inj hsame
  rw [complete_of_found hready.prompt_ne hfound hready.binary_ne, Sequence.bind_apply]
  have hstart := hnotes.note [record "Running %s completion via %s (prompt=%s chars)"
    [(settings.agentFor provider).program, binary, toString prompt.length]]
  generalize after.note _ = start at hstart
  have hrefusal : settings.agentFor provider = .codex → start.outputRefusal = none := by
    obtain ⟨_, _, rfl⟩ := hstart
    exact hready.refusal_eq
  obtain ⟨_, _, hasking⟩ := exists_asking_eq ((hstart.launch_eq _ _ _ _).trans hlaunch)
  obtain ⟨_, houtput⟩ := exists_withOutputFile_eq hrefusal _ hasking
  rw [houtput, hstart.outputPath?_eq, hstart.filesAtEnd_eq, hstart.command_eq]
  obtain ⟨_, _, rfl⟩ := hstart
  cases ending (settings.agentFor provider) (host.outputPath? (settings.agentFor provider)) left
      spawned with
  | ok reply => exact ⟨_, _, rfl⟩
  | error stop => exact ⟨_, _, rfl⟩

/-- A completion fails before it starts a command, or it ends as its command lets it end. -/
theorem exists_complete_ending (settings : Settings) (provider : Provider) (prompt : String)
    (host : Host σ) :
    ∃ outcome after, complete settings provider prompt host = (outcome, after) ∧
      after.start = host.start ∧ after.outputName = host.outputName ∧
      ((∃ failure, outcome = .error (.failed failure)) ∨
        ∃ binary left, outcome = ending (settings.agentFor provider)
          (host.outputPath? (settings.agentFor provider)) left
          (host.launch settings (settings.agentFor provider) binary prompt).1) := by
  by_cases hready : ∃ binary, host.Ready settings (settings.agentFor provider) binary prompt
  · obtain ⟨binary, hready⟩ := hready
    obtain ⟨_, _, hcomplete⟩ := exists_complete_eq_of_ready hready rfl
    exact ⟨_, _, hcomplete, rfl, rfl, .inr ⟨binary, _, rfl⟩⟩
  · obtain ⟨failure, _, hcomplete, _, _, rfl⟩ :=
      exists_complete_eq_of_not_ready (not_exists.mp hready)
    exact ⟨_, _, hcomplete, rfl, rfl, .inl ⟨failure, rfl⟩⟩

end Work

/-! ### The calls of a service -/

namespace Service

/-- What a completion that ended so makes of the error channel. -/
def errorAfter (lastError : Option String) : Except Stop String → Option String
  | .ok _ => none
  | .error (.failed failure) => some failure.message
  | .error (.broke _) => lastError

variable (service : Service σ) (provider : Provider) (prompt : String)

theorem complete_eq : service.complete provider prompt =
    ((Work.complete service.settings provider prompt service.host).1,
      { service with
        host := (Work.complete service.settings provider prompt service.host).2
        lastError := errorAfter service.lastError
          (Work.complete service.settings provider prompt service.host).1 }) := by
  simp only [complete, attempt]
  cases Work.complete service.settings provider prompt service.host with
  | mk outcome host =>
    cases outcome with
    | ok reply => rfl
    | error stop => cases stop <;> rfl

theorem outcome_complete : (service.complete provider prompt).1 =
    (Work.complete service.settings provider prompt service.host).1 := by
  rw [complete_eq]

theorem host_complete : (service.complete provider prompt).2.host =
    (Work.complete service.settings provider prompt service.host).2 := by
  rw [complete_eq]

theorem host_completeWithError : (service.completeWithError provider prompt).2.host =
    (Work.complete service.settings provider prompt service.host).2 := by
  simp only [completeWithError, attempt]
  cases Work.complete service.settings provider prompt service.host with
  | mk outcome host =>
    cases outcome with
    | ok reply => rfl
    | error stop => cases stop <;> rfl

end Service

end Completion

end DeskAssistant
