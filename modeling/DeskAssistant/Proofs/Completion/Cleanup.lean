import DeskAssistant.Proofs.Completion.Attempt
import DeskAssistant.Proofs.File.Place

/-!
# One command, and no output file left

A completion that is ready starts its one command and a completion that is not starts none
(`Host.Disciplined`). The output file is there while the command runs and while the reply is read.
When the completion ends, with a reply or in any other way, it is gone, and every other place holds
what the command left there.
-/

set_option autoImplicit false
set_option relaxedAutoImplicit false

namespace DeskAssistant

/-! ### Removed files -/

namespace File.Store

theorem find?_unlink_self {store : Store} {place : Path}
    (hplace : store.find? place ≠ some .directory) : (store.unlink place).find? place = none := by
  rw [unlink, if_neg (by simpa [isDirectory] using hplace)]
  exact store.find?_erase_self (isFixed_eq_false_of_find? hplace)

theorem find?_unlink_of_ne (store : Store) {place other : Path} (hne : other ≠ place) :
    (store.unlink place).find? other = store.find? other := by
  unfold unlink
  split_ifs
  · rfl
  · exact store.find?_erase_of_ne hne

end File.Store

namespace Completion

variable {σ : Type}

/-! ### What a call does -/

theorem eq_ok_of_mem_toOption {ε α : Type} {outcome : Except ε α} {value : α}
    (hvalue : value ∈ outcome.toOption) : outcome = .ok value := by
  cases outcome with
  | ok _ => exact congrArg Except.ok (Option.some.inj hvalue)
  | error _ => cases hvalue

namespace Host

/-- The one command of a call that ended with `reply?` was started, which led to `launched`, and
its output file is gone. -/
structure AskedOnce (host : Host σ) (agent : Agent) (command : List String)
    (launched : Command.Spawned × σ × File.Store) (reply? : Option String)
    (after : Host σ) : Prop where
  spawned_eq : after.spawned = host.spawned ++ [command]
  agents_eq : after.agents = launched.2.1
  /-- The agent may have left a file or nothing where its output file was. -/
  find?_output : ∀ path ∈ host.outputPath? agent,
    launched.2.2.find? path ≠ some .directory → after.files.find? path = none
  find?_other : ∀ place ∉ host.outputPath? agent,
    after.files.find? place = launched.2.2.find? place
  /-- The reply was read while the file was still there. -/
  reply_read : ∀ path ∈ host.outputPath? agent, ∀ reply ∈ reply?, ∃ content,
    launched.2.2.read path = .ok content ∧ reply = Text.Utf8.decodeLossy content

/-- No command was started, no file was touched, and there is no reply. -/
structure AskedNothing (host : Host σ) (reply? : Option String) (after : Host σ) : Prop where
  spawned_eq : after.spawned = host.spawned
  agents_eq : after.agents = host.agents
  files_eq : after.files = host.files
  reply_eq : reply? = none

/-- The call started a command when all that it needs was there, and only then. -/
structure Disciplined (host : Host σ) (settings : Settings) (agent : Agent) (prompt : String)
    (reply? : Option String) (after : Host σ) : Prop where
  of_ready : ∀ binary, host.Ready settings agent binary prompt →
    host.AskedOnce agent (host.command settings agent binary prompt)
      (host.launch settings agent binary prompt) reply? after
  of_not_ready : (∀ binary, ¬ host.Ready settings agent binary prompt) →
    host.AskedNothing reply? after

variable {host after : Host σ} {settings : Settings} {agent : Agent} {prompt : String}

theorem find?_filesAtEnd_output {left : File.Store} {path : File.Path}
    (hpath : path ∈ host.outputPath? agent) (hleft : left.find? path ≠ some .directory) :
    (host.filesAtEnd agent left).find? path = none := by
  rw [filesAtEnd, hpath]
  exact File.Store.find?_unlink_self hleft

theorem find?_filesAtEnd_other {left : File.Store} {place : File.Path}
    (hplace : place ∉ host.outputPath? agent) :
    (host.filesAtEnd agent left).find? place = left.find? place := by
  unfold filesAtEnd
  split
  · next path hpath =>
    exact left.find?_unlink_of_ne fun hsame ↦ hplace (hsame ▸ hpath)
  · rfl

/-- The reply of an agent that has an output file is what it left there. -/
theorem exists_read_of_ending_ok {left : File.Store} {path : File.Path}
    {spawned : Command.Spawned} {reply : String} (hpath : path ∈ host.outputPath? agent)
    (hending : ending agent (host.outputPath? agent) left spawned = .ok reply) :
    ∃ content, left.read path = .ok content ∧ reply = Text.Utf8.decodeLossy content := by
  obtain ⟨outcome, -, -, hreply⟩ := exists_outcome_of_ending_ok hending
  rw [Option.mem_def.mp hpath] at hreply
  cases agent with
  | gemini => cases hpath
  | codex =>
    obtain ⟨_, content, ⟨⟩, hread, hreply, -⟩ := replyIn_codex_ok hreply
    exact ⟨content, hread, hreply⟩

end Host

theorem Host.Disciplined.of_subset {host after : Host σ} {settings : Settings} {agent : Agent}
    {prompt : String} {reply? other? : Option String}
    (h : host.Disciplined settings agent prompt reply? after)
    (hsub : ∀ reply ∈ other?, reply ∈ reply?) :
    host.Disciplined settings agent prompt other? after where
  of_ready binary hready := by
    obtain ⟨hspawned, hagents, houtput, hother, hread⟩ := h.of_ready binary hready
    exact ⟨hspawned, hagents, houtput, hother,
      fun path hpath reply hreply ↦ hread path hpath reply (hsub reply hreply)⟩
  of_not_ready hnot := by
    obtain ⟨hspawned, hagents, hfiles, rfl⟩ := h.of_not_ready hnot
    have hnone : other? = none :=
      Option.eq_none_iff_forall_not_mem.mpr fun reply hreply ↦ nomatch hsub reply hreply
    exact ⟨hspawned, hagents, hfiles, hnone⟩

theorem Work.disciplined_complete (settings : Settings) (provider : Provider) (prompt : String)
    (host : Host σ) :
    host.Disciplined settings (settings.agentFor provider) prompt
      (complete settings provider prompt host).1.toOption
      (complete settings provider prompt host).2 where
  of_ready binary hready := by
    generalize hlaunch : host.launch settings (settings.agentFor provider) binary prompt = launched
    obtain ⟨spawned, agents, left⟩ := launched
    obtain ⟨_, _, hcomplete⟩ := exists_complete_eq_of_ready hready hlaunch
    rw [hcomplete]
    refine ⟨rfl, rfl, fun path hpath hleft ↦ Host.find?_filesAtEnd_output hpath hleft,
      fun place hplace ↦ Host.find?_filesAtEnd_other hplace, fun path hpath reply hreply ↦ ?_⟩
    exact Host.exists_read_of_ending_ok hpath (eq_ok_of_mem_toOption hreply)
  of_not_ready hnot := by
    obtain ⟨_, _, hcomplete, _, _, rfl⟩ := exists_complete_eq_of_not_ready hnot
    rw [hcomplete]
    exact ⟨rfl, rfl, rfl, rfl⟩

namespace Service

/-- The reply in the result of a call that returns one. -/
def returned? (outcome : Except Fault Result) : Option String := outcome.toOption.bind (·.reply)

theorem mem_toOption_of_mem_returned? {service : Service σ} {provider : Provider}
    {prompt reply : String}
    (hreply : reply ∈ returned? (service.completeWithError provider prompt).1) :
    reply ∈ (Work.complete service.settings provider prompt service.host).1.toOption := by
  simp only [completeWithError, attempt] at hreply
  cases hcomplete : Work.complete service.settings provider prompt service.host with
  | mk outcome host =>
    rw [hcomplete] at hreply
    cases outcome with
    | ok given =>
      simp only [Result.success, Result.of?] at hreply
      split_ifs at hreply with htexts hboth
      · exact hreply
      · cases hreply
      · cases hreply
    | error stop => cases stop <;> cases hreply

/-- However a call ends, it has started its command once or not at all and left no output file. -/
theorem disciplined_of_call (service : Service σ) (provider : Provider) (prompt : String) :
    service.host.Disciplined service.settings (service.settings.agentFor provider) prompt
      (service.complete provider prompt).1.toOption (service.complete provider prompt).2.host ∧
    service.host.Disciplined service.settings (service.settings.agentFor provider) prompt
      (returned? (service.completeWithError provider prompt).1)
      (service.completeWithError provider prompt).2.host := by
  have hcomplete := Work.disciplined_complete service.settings provider prompt service.host
  rw [service.outcome_complete, service.host_complete, service.host_completeWithError]
  exact ⟨hcomplete, hcomplete.of_subset fun _ ↦ mem_toOption_of_mem_returned?⟩

/-- A world in which an agent writes a reply and a log of its own. -/
def writingHost : Host Unit where
  files := { entries := [(.ofString "/tmp", .directory)] }
  locate _ program := some ("/usr/bin/" ++ program)
  outputName _ := "/tmp/reply"
  agents := ()
  start _ _ files := (.completed {}, (), (files.put (.ofString "/tmp/reply")
    (.file "done".toUTF8 false)).put (.ofString "/tmp/log") (.file .empty false))

/-- The reply is returned, its file is gone, and the agent's log stays. -/
theorem disciplined_writingHost :
    let service : Service Unit := { settings := {}, host := writingHost }
    let after := (service.completeWithError .codex "why?").2.host
    returned? (service.completeWithError .codex "why?").1 = some "done" ∧
      after.spawned.length = 1 ∧
      after.files.find? (.ofString "/tmp/reply") = none ∧
      after.files.find? (.ofString "/tmp/log") = some (.file .empty false) := by
  intro service after
  have hready : writingHost.Ready {} .codex "/usr/bin/codex" "why?" :=
    ⟨by decide, by decide +kernel, by decide, fun _ ↦ rfl⟩
  have hasked := (disciplined_of_call service .codex "why?").2.of_ready _ hready
  refine ⟨by decide +kernel, ?_, ?_, ?_⟩
  · rw [hasked.spawned_eq]
    rfl
  · exact hasked.find?_output _ rfl (by decide +kernel)
  · rw [hasked.find?_other _ (by decide +kernel)]
    decide +kernel

end Service

end Completion

end DeskAssistant
