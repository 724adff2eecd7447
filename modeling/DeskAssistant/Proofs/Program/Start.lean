import DeskAssistant.Program.Start
import DeskAssistant.Proofs.Context.Files
import DeskAssistant.Proofs.Sequence

/-!
# Starting with a context that cannot be read

A start reads its context at one moment: with a question as soon as its log is set up, without one
when its preferences are loaded and its application and its panel are made
(`Program.ReadsContext`). By then it has used nothing of its host but the files. A context file that
cannot be read ends the start in either case, but only with a question, and only for an error of the
operating system, in an exit status and a line on the error stream
(`Program.refusesContext_of_start`). Otherwise the fault itself ends the program, and without a
question the application, whose event loop is open, is left behind.
-/

set_option autoImplicit false
set_option relaxedAutoImplicit false

namespace DeskAssistant

variable {σ : Type}

/-! ### What a program has used of its host -/

/-- Of the host only the files have changed; no agent was run. -/
def Program.KeepsHost (before after : Program σ) : Prop :=
  ∃ files, after.host = { before.host with files }

namespace Program

variable {before middle after program configured : Program σ}

theorem KeepsHost.refl (program : Program σ) : program.KeepsHost program :=
  ⟨program.host.files, rfl⟩

theorem KeepsHost.trans (hfirst : before.KeepsHost middle) (hnext : middle.KeepsHost after) :
    before.KeepsHost after := by
  obtain ⟨_, hmiddle⟩ := hfirst
  obtain ⟨files, hafter⟩ := hnext
  exact ⟨files, by rw [hafter, hmiddle]⟩

theorem keepsHost_log (program : Program σ) (records : List Log.Record) :
    program.KeepsHost (program.log records) :=
  ⟨_, rfl⟩

/-- Setting up the log uses nothing of the host but the files, and no application. -/
theorem keepsHost_of_configureLog {onErrorStream : Bool}
    (h : program.configureLog onErrorStream = .ok configured) :
    program.KeepsHost configured ∧ configured.hasApplication = program.hasApplication := by
  unfold configureLog at h
  simp only [bind, Except.bind] at h
  split at h
  · cases h
  · cases h
    exact ⟨⟨_, rfl⟩, rfl⟩

end Program

/-! ### Up to the reading of the context -/

theorem Arguments.question?_of_ask {arguments : Arguments}
    (hask : arguments.ask.isAbsent = false) :
    arguments.question? = some (arguments.ask.value?.getD "") := by
  rw [question?, hask, if_neg Bool.false_ne_true]

theorem Arguments.question?_of_no_ask {arguments : Arguments}
    (hask : arguments.ask.isAbsent = true) : arguments.question? = none := by
  rw [question?, hask, if_pos rfl]

namespace Opening

variable {α β : Type}

/-- A step that uses nothing of the host but the files, whether it ends well or not. -/
def KeepsHost (step : Opening σ α) : Prop :=
  ∀ program : Program σ, program.KeepsHost (step program).2

theorem KeepsHost.bind {first : Opening σ α} {next : α → Opening σ β} (hfirst : KeepsHost first)
    (hnext : ∀ value, KeepsHost (next value)) : KeepsHost (first >>= next) := by
  intro program
  have hmiddle := hfirst program
  rw [Sequence.bind_apply]
  rcases hstep : first program with ⟨outcome, middle⟩
  rw [hstep] at hmiddle
  cases outcome with
  | ok value => exact hmiddle.trans (hnext value middle)
  | error fault => exact hmiddle

theorem get_apply (program : Program σ) :
    (get : Opening σ (Program σ)) program = (.ok program, program) := rfl

theorem keepsHost_get : KeepsHost (get : Opening σ (Program σ)) := Program.KeepsHost.refl

theorem keepsHost_settle (outcome : Except Fault α) : KeepsHost (settle outcome : Opening σ α) := by
  intro program
  rw [settle_apply]
  exact .refl program

theorem keepsHost_log (records : List Log.Record) : KeepsHost (log records : Opening σ Unit) :=
  fun program ↦ program.keepsHost_log records

theorem keepsHost_preferences (file : PreferencesFile) (provider : Provider) :
    KeepsHost (preferences file provider : Opening σ Preferences) :=
  keepsHost_get.bind fun _ ↦ (keepsHost_log _).bind fun _ ↦ (keepsHost_settle _).bind fun _ ↦
    Program.KeepsHost.refl

theorem keepsHost_application (toolkit : Toolkit) :
    KeepsHost (application toolkit : Opening σ Unit) := by
  intro program
  obtain ⟨hasWidgets, hasEventLoop⟩ := toolkit
  cases hasWidgets <;> cases hasEventLoop <;> exact ⟨program.host.files, rfl⟩

theorem hasApplication_of_application {toolkit : Toolkit} {program after : Program σ}
    (h : application toolkit program = (.ok (), after)) : after.hasApplication = true := by
  obtain ⟨hasWidgets, hasEventLoop⟩ := toolkit
  cases hasWidgets <;> cases hasEventLoop <;> cases h
  rfl

/-- What opening a window does before it reads the context. -/
def readied (toolkit : Toolkit) (arguments : Arguments) (provider : Provider) :
    Opening σ Panel := do
  let file ← settle ((← get).preferencesFile arguments)
  let preferences ← preferences file provider
  application toolkit
  settle (Panel.ofPreferences toolkit.checkBox preferences)

variable {toolkit : Toolkit} {arguments : Arguments} {provider : Provider}
  {configured ready : Program σ} {panel : Panel}

theorem keepsHost_readied :
    KeepsHost (readied toolkit arguments provider : Opening σ Panel) :=
  keepsHost_get.bind fun _ ↦ (keepsHost_settle _).bind fun file ↦
    (keepsHost_preferences file provider).bind fun _ ↦ (keepsHost_application toolkit).bind fun _ ↦
      keepsHost_settle _

/-- The steps that have ended well. -/
theorem exists_steps_of_readied
    (h : readied toolkit arguments provider configured = (.ok panel, ready)) :
    ∃ file loaded between, configured.preferencesFile arguments = .ok file ∧
      preferences file provider configured = (.ok loaded, between) ∧
      application toolkit between = (.ok (), ready) ∧
      Panel.ofPreferences toolkit.checkBox loaded = .ok panel := by
  obtain ⟨_, _, hget, h⟩ := Sequence.exists_of_bind_eq_ok h
  obtain ⟨file, _, hfile, h⟩ := Sequence.exists_of_bind_eq_ok h
  obtain ⟨loaded, between, hpreferences, h⟩ := Sequence.exists_of_bind_eq_ok h
  obtain ⟨_, _, happlication, hpanel⟩ := Sequence.exists_of_bind_eq_ok h
  cases hget
  rw [settle_apply, Prod.mk.injEq] at hfile hpanel
  obtain ⟨hfile, rfl⟩ := hfile
  obtain ⟨hpanel, rfl⟩ := hpanel
  exact ⟨file, loaded, between, hfile, hpreferences, happlication, hpanel⟩

theorem hasApplication_of_readied
    (h : readied toolkit arguments provider configured = (.ok panel, ready)) :
    ready.hasApplication = true := by
  obtain ⟨_, _, _, -, -, happlication, -⟩ := exists_steps_of_readied h
  exact hasApplication_of_application happlication

theorem context_of_read_eq_error {program : Program σ} {fault : Fault}
    (h : ContextFiles.read program.host.files arguments.contextPlaces = .error fault) :
    context arguments program = (.error fault, program) := by
  simp only [context, Sequence.bind_apply, get_apply, settle_apply, h]

/-- A context that cannot be read ends the opening where it has come to. -/
theorem opened_of_readied (answers : List Bool) {fault : Fault}
    (h : readied toolkit arguments provider configured = (.ok panel, ready))
    (hcontext : ContextFiles.read ready.host.files arguments.contextPlaces = .error fault) :
    Window.opened toolkit arguments provider answers configured = (.error fault, ready) := by
  obtain ⟨file, loaded, between, hfile, hpreferences, happlication, hpanel⟩ :=
    exists_steps_of_readied h
  simp only [Window.opened, Sequence.bind_apply, get_apply, settle_apply, hfile, hpreferences,
    happlication, hpanel, context_of_read_eq_error hcontext]

end Opening

namespace Program

variable {program configured ready : Program σ} {toolkit : Toolkit} {words : List String}
  {arguments : Arguments} {provider : Provider} {fault : Fault}

/-- The program in which a start reads the context of its command line. -/
inductive ReadsContext (toolkit : Toolkit) (arguments : Arguments) (provider : Provider)
    (configured : Program σ) : Program σ → Prop where
  | answering (hask : arguments.ask.isAbsent = false) :
      ReadsContext toolkit arguments provider configured configured
  | opening {ready : Program σ} {panel : Panel} (hask : arguments.ask.isAbsent = true)
      (hready : Opening.readied toolkit arguments provider configured = (.ok panel, ready)) :
      ReadsContext toolkit arguments provider configured ready

theorem ReadsContext.keepsHost (h : ReadsContext toolkit arguments provider configured ready) :
    configured.KeepsHost ready := by
  cases h with
  | answering => exact .refl configured
  | opening _ hready =>
    have hkeeps : configured.KeepsHost (Opening.readied toolkit arguments provider configured).2 :=
      Opening.keepsHost_readied configured
    rwa [hready] at hkeeps

theorem ReadsContext.hasApplication_eq
    (h : ReadsContext toolkit arguments provider configured ready) :
    ready.hasApplication = (configured.hasApplication || arguments.ask.isAbsent) := by
  cases h with
  | answering hask => rw [hask, Bool.or_false]
  | opening hask hready => rw [hask, Bool.or_true, Opening.hasApplication_of_readied hready]

/-! ### A context that cannot be read -/

theorem answer_of_os {error : File.OsError} (prompt : String)
    (h : ContextFiles.read program.host.files arguments.contextPlaces = .error (.os error)) :
    program.answer arguments prompt provider = (.ok 1,
      program.printError ("Unable to read context file: " ++ error.message ++ "\n")) := by
  unfold answer
  rw [h]
  rfl

theorem answer_of_other (prompt : String)
    (h : ContextFiles.read program.host.files arguments.contextPlaces = .error fault)
    (hother : ∀ error, fault ≠ .os error) :
    program.answer arguments prompt provider = (.error fault, program) := by
  unfold answer
  rw [h]
  cases fault with
  | os error => exact absurd rfl (hother error)
  | _ => rfl

/-- What makes a start come to read a context: a command line with a valid provider, and a log that
can be set up. -/
structure Begins (program configured : Program σ) (words : List String) (arguments : Arguments)
    (provider : Provider) : Prop where
  read_eq : Arguments.read words = .ok arguments
  selectProvider_eq : Completion.selectProvider arguments.providerText = .ok provider
  configureLog_eq : program.configureLog arguments.ask.isAbsent = .ok configured

theorem Begins.start_eq (h : program.Begins configured words arguments provider)
    (toolkit : Toolkit) (answers : List Bool) :
    program.start toolkit words answers =
      match arguments.question? with
      | some prompt =>
        .ended (configured.answer arguments prompt provider).1
          (configured.answer arguments prompt provider).2
      | none => configured.openWindow toolkit arguments provider answers := by
  unfold start
  simp only [h.read_eq, h.configureLog_eq, h.selectProvider_eq]
  cases arguments.question? <;> rfl

/-- How a start ends that has come to read its context, in the program `ready`, and cannot. -/
structure RefusesContext (arguments : Arguments) (program ready : Program σ)
    (field : ContextField) (fault : Fault) (started : Started σ) : Prop where
  first : ContextFiles.FirstRefusal ready.host.files arguments.contextPlaces field fault
  /-- With a question an error of the operating system is reported. The message shows the file. -/
  of_question : arguments.ask.isAbsent = false → ∀ error, fault = .os error →
    started = .ended (.ok 1) (ready.printError
      ("Unable to read context file: " ++ error.message ++ "\n")) ∧
    ∃ path, arguments.contextFile field = .present path ∧ error.Shows path
  /-- Nothing else is reported: the fault itself ends the program. -/
  of_other : arguments.ask.isAbsent = true ∨ (∀ error, fault ≠ .os error) →
    started = .ended (.error fault) ready
  keepsHost : program.KeepsHost ready
  /-- The application is left behind if there is no question. -/
  hasApplication_eq : ready.hasApplication = (program.hasApplication || arguments.ask.isAbsent)

theorem refusesContext_of_start {field : ContextField} (answers : List Bool)
    (hbegins : program.Begins configured words arguments provider)
    (hready : ReadsContext toolkit arguments provider configured ready)
    (hfield : ContextFiles.refusal? ready.host.files arguments.contextPlaces field ≠ none) :
    ∃ first fault, RefusesContext arguments program ready first fault
      (program.start toolkit words answers) := by
  obtain ⟨first, fault, hfirst⟩ := ContextFiles.exists_firstRefusal hfield
  have hread := ContextFiles.read_eq_error_iff.mpr ⟨first, hfirst⟩
  obtain ⟨hconfigured, happlication⟩ := keepsHost_of_configureLog hbegins.configureLog_eq
  refine ⟨first, fault, hfirst, ?_, ?_, hconfigured.trans hready.keepsHost,
    by rw [hready.hasApplication_eq, happlication]⟩
  · rintro hask error rfl
    refine ⟨?_, Arguments.exists_shows_of_refusal hfirst.refusal?_eq⟩
    cases hready with
    | answering =>
      rw [hbegins.start_eq, Arguments.question?_of_ask hask]
      dsimp only
      rw [answer_of_os _ hread]
    | opening hnone => cases hask.symm.trans hnone
  · intro hother
    cases hready with
    | answering hask =>
      rw [hask] at hother
      rw [hbegins.start_eq, Arguments.question?_of_ask hask]
      dsimp only
      rw [answer_of_other _ hread (hother.resolve_left Bool.false_ne_true)]
    | opening hnone hready =>
      rw [hbegins.start_eq, Arguments.question?_of_no_ask hnone]
      dsimp only
      rw [openWindow, Opening.opened_of_readied answers hready hread]

/-! ### A missing file -/

/-- A machine without agents and without any file. -/
def bare : Program Unit where
  environment := []
  time := "2026-01-05 09:30:00"
  host :=
    { home := .ofString "/home/ada"
      outputName := fun number ↦ "/tmp/reply" ++ toString number
      agents := ()
      start := fun _ agents files ↦ (.refused (.notFound none), agents, files) }

/-- A question with two files, the later field given first. -/
def missingFiles : Arguments :=
  ((({} : Arguments).assign (.contextFile .scriptFull) "script.txt").assign .ask "hi").assign
    (.contextFile .lastError) "error.txt"

/-- Neither file is there; the script is not the first that is read. -/
theorem refusesContext_missingFiles : ∃ configured,
    bare.Begins configured ["--script-file", "script.txt", "--ask", "hi", "--error-file=error.txt"]
      missingFiles .default ∧
    ReadsContext {} missingFiles .default configured configured ∧
    ContextFiles.refusal? configured.host.files missingFiles.contextPlaces .scriptFull ≠ none ∧
    ∃ first fault, RefusesContext missingFiles bare configured first fault
      (bare.start {} ["--script-file", "script.txt", "--ask", "hi", "--error-file=error.txt"]
        []) := by
  have hconfigured : ∃ configured, bare.configureLog false = .ok configured := ⟨_, rfl⟩
  obtain ⟨configured, hlog⟩ := hconfigured
  have hbegins : bare.Begins configured
      ["--script-file", "script.txt", "--ask", "hi", "--error-file=error.txt"] missingFiles
      .default := ⟨rfl, rfl, hlog⟩
  have hmissing : ∀ program ∈ (bare.configureLog false).toOption,
      ContextFiles.refusal? program.host.files missingFiles.contextPlaces .scriptFull ≠ none := by
    decide +kernel
  have hfield := hmissing configured (by rw [hlog]; rfl)
  exact ⟨configured, hbegins, .answering rfl, hfield,
    refusesContext_of_start [] hbegins (.answering rfl) hfield⟩

/-- A file for the dataset and no question. -/
def missingData : Arguments :=
  ({} : Arguments).assign (.contextFile .datasetSummary) "missing.txt"

/-- Without a question the fault comes out, and the application stays. -/
theorem start_missingData :
    Arguments.read ["--dataset-file", "missing.txt"] = .ok missingData ∧
    Completion.selectProvider missingData.providerText = .ok .default ∧
    (bare.configureLog true).toOption.map (fun configured ↦
      ContextFiles.refusal? configured.host.files missingData.contextPlaces .datasetSummary) =
        some (some (.os (.notFound (some "missing.txt")))) ∧
    (match bare.start {} ["--dataset-file", "missing.txt"] [] with
      | .ended outcome ready => some (outcome, ready.hasApplication)
      | .shown _ => none) = some (.error (.os (.notFound (some "missing.txt"))), true) := by
  refine ⟨rfl, rfl, ?_, ?_⟩
  · decide +kernel
  · decide +kernel

end Program

end DeskAssistant
