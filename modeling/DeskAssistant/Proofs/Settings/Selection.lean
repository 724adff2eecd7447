import DeskAssistant.Proofs.Completion.Conventions
import Mathlib.Data.List.TakeWhile

/-!
# The provider that is asked

A text selects a provider in two places: the environment's variable when the settings are made, and
the default of the settings when a completion is made. Both take space and case away first
(`Provider.parse?_eq_some_iff`), so the default of an environment is the provider that its variable
names, and the first agent where it names none (`Settings.followsVariable`).

A completion resolves the default before it looks for the agent of its provider. So it never fails
for want of a provider (`Completion.Work.avoids_complete`): no part of a completion fails in this
way, and what avoids a failure step by step avoids it as a whole (`Completion.Work.Avoids.bind`).
-/

set_option autoImplicit false
set_option relaxedAutoImplicit false

namespace DeskAssistant

/-! ### What a text selects -/

namespace Provider

theorem ofName?_eq_some_iff {name : String} {provider : Provider} :
    ofName? name = some provider ↔ provider.name = name := by
  constructor
  · intro hfound
    simpa using List.find?_some hfound
  · rintro rfl
    cases provider <;> decide

/-- A blank text selects the default, and any other the provider that it names. -/
theorem parse?_eq_some_iff {text : String} {provider : Provider} :
    parse? text = some provider ↔
      Text.lowercase (Text.strip text) = "" ∧ provider = .default ∨
        Text.lowercase (Text.strip text) = provider.name := by
  unfold parse?
  dsimp only
  generalize Text.lowercase (Text.strip text) = wanted
  by_cases hblank : wanted = ""
  · subst hblank
    cases provider <;> decide
  · rw [if_neg (by simpa using hblank), ofName?_eq_some_iff, eq_comm]
    simp [hblank]

theorem parse?_of_isSpace {text : String} (hspace : ∀ c ∈ text.toList, Text.isSpace c = true) :
    parse? text = some .default := by
  refine parse?_eq_some_iff.mpr (.inl ⟨?_, rfl⟩)
  have hnothing : text.toList.dropWhile Text.isSpace = [] := List.dropWhile_eq_nil_iff.mpr hspace
  rw [Text.strip, Text.stripSpace, hnothing]
  rfl

end Provider

namespace Settings

/-! ### The default of an environment -/

theorem defaultProviderKind_eq (settings : Settings) :
    settings.defaultProviderKind =
      if Provider.parse? settings.defaultProvider = some .gemini then .gemini else .codex := by
  unfold defaultProviderKind
  split
  · next hgemini => rw [if_pos hgemini]
  · next hother => rw [if_neg hother]

theorem snd_defaultAgent (text : Option String) :
    (defaultAgent text).2 =
      if Provider.parse? (text.getD "") = some .gemini then "gemini" else "codex" := by
  have hgemini : Provider.parse? (text.getD "") = some .gemini ↔
      Text.lowercase (Text.strip (text.getD "")) = "gemini" := by
    rw [Provider.parse?_eq_some_iff]
    exact or_iff_right fun h ↦ nomatch h.2
  unfold defaultAgent
  simp only [hgemini]
  generalize Text.lowercase (Text.strip (text.getD "")) = selector
  by_cases hsecond : selector = "gemini"
  · subst hsecond
    rfl
  · rw [if_neg hsecond]
    by_cases hfirst : selector = "codex"
    · subst hfirst
      rfl
    · rw [if_neg (by simp [hfirst, hsecond])]
      split_ifs <;> rfl

theorem defaultProvider_ofEnvironment (environment : Environment) :
    (ofEnvironment environment).2.defaultProvider =
      (defaultAgent (environment.get? providerVariable)).2 := by
  unfold ofEnvironment
  cases defaultAgent (environment.get? providerVariable)
  cases timeout (environment.get? Command.timeoutVariable)
  rfl

theorem defaultProviderKind_ofEnvironment (environment : Environment) :
    (ofEnvironment environment).2.defaultProviderKind =
      if Provider.parse? ((environment.get? providerVariable).getD "") = some .gemini then .gemini
      else .codex := by
  have hsecond : Provider.parse? "gemini" = some .gemini := by decide +kernel
  have hfirst : Provider.parse? "codex" ≠ some .gemini := by decide +kernel
  rw [defaultProviderKind_eq, defaultProvider_ofEnvironment, snd_defaultAgent]
  by_cases hselected :
      Provider.parse? ((environment.get? providerVariable).getD "") = some .gemini
  · simp only [if_pos hselected, if_pos hsecond]
  · simp only [if_neg hselected, if_neg hfirst]

/-- The default provider of an environment, by what its variable says. -/
structure FollowsVariable (environment : Environment) : Prop where
  of_named : ∀ text provider, environment.get? providerVariable = some text →
    Completion.selectProvider text = .ok provider → provider ≠ .default →
      (ofEnvironment environment).2.defaultProviderKind = provider
  of_unset : environment.get? providerVariable = none →
    (ofEnvironment environment).2.defaultProviderKind = .codex
  of_blank : ∀ text, environment.get? providerVariable = some text →
    (∀ c ∈ text.toList, Text.isSpace c = true) →
      (ofEnvironment environment).2.defaultProviderKind = .codex
  of_none : ∀ text, environment.get? providerVariable = some text →
    Completion.selectProvider text = .ok .default →
      (ofEnvironment environment).2.defaultProviderKind = .codex
  of_rejected : ∀ text failure, environment.get? providerVariable = some text →
    Completion.selectProvider text = .error failure →
      (ofEnvironment environment).2.defaultProviderKind = .codex

theorem parse?_of_selectProvider_ok {text : String} {provider : Provider}
    (h : Completion.selectProvider text = .ok provider) :
    Provider.parse? text = some provider := by
  unfold Completion.selectProvider at h
  split at h
  · next hparse => rw [hparse, Except.ok.inj h]
  · cases h

theorem parse?_of_selectProvider_error {text : String} {failure : Completion.Failure}
    (h : Completion.selectProvider text = .error failure) : Provider.parse? text = none := by
  unfold Completion.selectProvider at h
  split at h
  · cases h
  · next hparse => exact hparse

theorem followsVariable (environment : Environment) : FollowsVariable environment where
  of_named text provider hget hselected hprovider := by
    rw [defaultProviderKind_ofEnvironment, hget, Option.getD_some,
      parse?_of_selectProvider_ok hselected]
    cases provider with
    | default => exact absurd rfl hprovider
    | codex => rfl
    | gemini => rfl
  of_unset hget := by
    have hblank : Provider.parse? "" = some .default := Provider.parse?_of_isSpace nofun
    rw [defaultProviderKind_ofEnvironment, hget, Option.getD_none, hblank]
    rfl
  of_blank text hget hspace := by
    rw [defaultProviderKind_ofEnvironment, hget, Option.getD_some,
      Provider.parse?_of_isSpace hspace]
    rfl
  of_none text hget hselected := by
    rw [defaultProviderKind_ofEnvironment, hget, Option.getD_some,
      parse?_of_selectProvider_ok hselected]
    rfl
  of_rejected text failure hget hrejected := by
    rw [defaultProviderKind_ofEnvironment, hget, Option.getD_some,
      parse?_of_selectProvider_error hrejected]
    rfl

end Settings

/-! ### Failures that a completion avoids -/

namespace Completion

variable {σ : Type}

namespace Channel

theorem embedded_ne_noProvider (output field : String) (limit : Int) :
    embedded output field limit ≠ .error .noProvider := by
  unfold embedded
  split
  · nofun
  · split_ifs <;> nofun

theorem outputReply_ne_noProvider (outcome : Command.Outcome) :
    outputReply outcome ≠ .error .noProvider := by
  unfold outputReply
  by_cases hmarked : Text.contains outcome.errorOutput criticalMarker = true
  · rw [if_pos hmarked]
    nofun
  · rw [if_neg hmarked]
    split
    · next failed hembedded =>
      rintro ⟨⟩
      exact embedded_ne_noProvider _ _ _ hembedded
    · split_ifs <;> nofun
    · split_ifs <;> nofun

theorem fileReply_ne_noProvider (file : Option (String × Except File.OsError ByteArray))
    (outcome : Command.Outcome) : (fileReply file outcome).2 ≠ .error .noProvider := by
  cases file with
  | none => nofun
  | some file =>
    obtain ⟨path, content⟩ := file
    cases content with
    | error refusal => nofun
    | ok bytes =>
      unfold fileReply fromFile
      by_cases hlong : replyLimit < bytes.size
      · simp only [if_pos hlong]
        nofun
      · simp only [if_neg hlong]
        split_ifs <;> nofun

end Channel

namespace Work

variable {α β : Type} {failure : Failure}

/-- The work never ends in this failure. -/
def Avoids (failure : Failure) (work : Work σ α) : Prop :=
  ∀ host, (work host).1 ≠ .error (.failed failure)

theorem Avoids.bind {work : Work σ α} {next : α → Work σ β} (hwork : Avoids failure work)
    (hnext : ∀ value, Avoids failure (next value)) : Avoids failure (work >>= next) := by
  intro host
  have hhere := hwork host
  rw [Sequence.bind_apply]
  cases hrun : work host with
  | mk outcome after =>
    rw [hrun] at hhere
    cases outcome with
    | ok value => exact hnext value after
    | error stop => exact fun h ↦ hhere (congrArg Except.error (Except.error.inj h))

theorem avoids_pure (value : α) : Avoids failure (pure value : Work σ α) := nofun

theorem avoids_note (records : List Log.Record) : Avoids failure (note records : Work σ Unit) :=
  nofun

theorem mapError_failed_ne {outcome : Except Failure α} (h : outcome ≠ .error failure) :
    outcome.mapError Stop.failed ≠ .error (.failed failure) := by
  cases outcome with
  | ok value => nofun
  | error other => exact fun heq ↦ h (by cases heq; rfl)

theorem avoids_settle {outcome : List Log.Record × Except Failure α}
    (h : outcome.2 ≠ .error failure) : Avoids failure (settle outcome : Work σ α) := by
  intro host
  rw [settle_apply]
  exact mapError_failed_ne h

theorem avoids_runCommand (runner : Command.Runner) (program : String) (command : List String) :
    Avoids .noProvider (runCommand runner program command : Work σ Command.Outcome) := by
  intro host
  obtain ⟨records, hrun⟩ := exists_runCommand_eq runner program command host rfl
  rw [hrun]
  cases (host.start _ _ _).1 <;> nofun

theorem avoids_checkExit (program : String) (outcome : Command.Outcome) :
    Avoids .noProvider (settle (Command.checkExit program outcome) : Work σ Unit) := by
  refine avoids_settle ?_
  unfold Command.checkExit
  split_ifs <;> nofun

theorem avoids_readReply (agent : Agent) (path : Option File.Path) (outcome : Command.Outcome) :
    Avoids .noProvider (readReply agent path outcome : Work σ String) := by
  intro host
  obtain ⟨after, hread, -⟩ := exists_readReply_eq agent path outcome host
  rw [hread]
  unfold replyIn
  split
  · exact mapError_failed_ne (Channel.outputReply_ne_noProvider outcome)
  · exact mapError_failed_ne (Channel.fileReply_ne_noProvider none outcome)
  · split
    · exact mapError_failed_ne (Channel.fileReply_ne_noProvider _ outcome)
    · nofun

theorem avoids_withOutputFile {agent : Agent} {work : Option File.Path → Work σ α}
    (hwork : ∀ path, Avoids .noProvider (work path)) :
    Avoids .noProvider (withOutputFile agent work) := by
  intro host
  cases agent with
  | gemini => exact hwork none host
  | codex =>
    unfold withOutputFile
    dsimp only
    split
    · nofun
    · exact hwork _ _

theorem avoids_asking (settings : Settings) (agent : Agent) (binary prompt : String)
    (path : Option File.Path) :
    Avoids .noProvider (asking settings agent binary prompt path : Work σ String) :=
  (avoids_runCommand _ _ _).bind fun outcome ↦
    (avoids_checkExit _ outcome).bind fun _ ↦ avoids_readReply agent path outcome

theorem avoids_complete (settings : Settings) (provider : Provider) (prompt : String) :
    Avoids .noProvider (complete settings provider prompt : Work σ String) := by
  intro host
  by_cases hprompt : prompt = ""
  · subst hprompt
    nofun
  · obtain ⟨found, after, hfound, -⟩ :=
      exists_findExecutable_eq settings (settings.agentFor provider) host
    by_cases hbinary : found.getD "" = ""
    · rw [complete_of_not_found hprompt hfound hbinary]
      nofun
    · obtain ⟨binary, rfl⟩ : ∃ binary, found = some binary :=
        Option.ne_none_iff_exists'.mp fun hnone ↦ hbinary (by rw [hnone]; rfl)
      rw [complete_of_found hprompt hfound hbinary]
      exact (avoids_withOutputFile fun path ↦ avoids_asking _ _ _ _ path).bind
        (fun _ ↦ (avoids_note _).bind fun _ ↦ avoids_pure _) _

end Work

theorem FailureKind.eq_data_of_name {kind : FailureKind} (hname : kind.name = "data") :
    kind = .data := by
  cases kind with
  | data => rfl
  | other => exact absurd hname (by decide)
  | external => exact absurd hname (by decide)
  | tooLong => exact absurd hname (by decide)

/-- Of the failures that bad input leads to, this one alone has its message. -/
theorem Failure.eq_noProvider {failure : Failure} (hkind : failure.kind = .data)
    (hmessage : failure.message = "No LLM provider selected") : failure = .noProvider := by
  cases failure with
  | noProvider => rfl
  | missingPrompt => exact absurd hmessage (by decide)
  | unknownProvider text =>
    have hshown : "Unknown LLM provider '" ++ text ++ "' (expected codex|gemini)" =
        "No LLM provider selected" := hmessage
    have hchars := congrArg String.toList hshown
    simp only [String.toList_append, List.append_assoc] at hchars
    have hletter : some 'U' = "No LLM provider selected".toList.head? := congrArg List.head? hchars
    exact absurd hletter (by decide)
  | _ => cases hkind

namespace Service

variable {service : Service σ} {provider : Provider} {prompt : String}

theorem complete_ne_noProvider :
    (service.complete provider prompt).1 ≠ .error (.failed .noProvider) := by
  rw [outcome_complete]
  exact Work.avoids_complete _ _ _ _

theorem exists_failure_of_completeWithError {result : Result} {kind : String}
    (hresult : (service.completeWithError provider prompt).1 = .ok result)
    (hkind : result.errorKind = some kind) :
    ∃ failure, failure ≠ .noProvider ∧ result = .ofFailure failure := by
  have havoids := Work.avoids_complete service.settings provider prompt service.host
  simp only [completeWithError, attempt] at hresult
  cases hrun : Work.complete service.settings provider prompt service.host with
  | mk outcome after =>
    rw [hrun] at hresult havoids
    cases outcome with
    | error stop =>
      cases stop with
      | failed failure =>
        exact ⟨failure, fun h ↦ havoids (by rw [h]), (Except.ok.inj hresult).symm⟩
      | broke fault => cases hresult
    | ok reply =>
      change Result.success reply = .ok result at hresult
      unfold Result.success Result.of? at hresult
      split_ifs at hresult
      cases hresult
      cases hkind

/-- Neither way to ask ends for want of a provider. -/
structure HasProvider (service : Service σ) (provider : Provider) (prompt : String) : Prop where
  exists_build_eq : ∃ agent, (service.settings.resolve provider).build = .ok agent
  complete_ne : (service.complete provider prompt).1 ≠ .error (.failed .noProvider)
  error_ne : ∀ result, (service.completeWithError provider prompt).1 = .ok result →
    result.errorKind = some "data" → result.error ≠ some "No LLM provider selected"

theorem hasProvider (service : Service σ) (provider : Provider) (prompt : String) :
    service.HasProvider provider prompt where
  exists_build_eq := ⟨_, service.settings.build_resolve provider⟩
  complete_ne := complete_ne_noProvider
  error_ne result hresult hkind herror := by
    obtain ⟨failure, hfailure, rfl⟩ := exists_failure_of_completeWithError hresult hkind
    rw [Result.ofFailure_error] at herror
    have hdata : failure.kind = .data := FailureKind.eq_data_of_name (Option.some.inj hkind)
    exact hfailure (Failure.eq_noProvider hdata (Option.some.inj herror))

end Service

end Completion

/-- The default of an environment is the agent that its variable names, settings of any kind stand
for an agent whatever is asked for, and so no completion lacks a provider. -/
theorem provider_selected :
    (∀ environment, Settings.FollowsVariable environment) ∧
      (∀ (settings : Settings) (provider : Provider),
        settings.resolve provider = .codex ∨ settings.resolve provider = .gemini) ∧
      ∀ {σ : Type} (service : Completion.Service σ) (provider : Provider) (prompt : String),
        service.HasProvider provider prompt := by
  refine ⟨Settings.followsVariable, fun settings provider ↦ ?_, Completion.Service.hasProvider⟩
  have hresolved := settings.resolve_ne_default provider
  cases hprovider : settings.resolve provider with
  | default => exact absurd hprovider hresolved
  | codex => exact .inl rfl
  | gemini => exact .inr rfl

end DeskAssistant
