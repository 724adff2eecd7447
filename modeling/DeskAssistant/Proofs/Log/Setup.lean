import DeskAssistant.Log.Emission
import DeskAssistant.Program.Basic
import DeskAssistant.Proofs.File.Faults
import Mathlib.Data.List.Count

/-!
# Logging that is set up again and again

A program may set its logging up any number of times, write records in between and lose its log file
(`Event`). `Course` goes along with that and remembers the last call that took effect. Whatever
happens, logging stands as that call configured it, up to what the handlers have written
(`follows_run`), so it has the one or two handlers of the call and never none (`Logging.IsSetUp`).

A call takes effect unless its request refuses it: the directory of the log file cannot be told, or
no system would take its name (`Request.Refuses`). As long as every call was refused, logging is
what it was before the first one, silent where it was silent (`silent_strayRequest`).
`standing_of_run` puts this together with what any next call does.
-/

set_option autoImplicit false
set_option relaxedAutoImplicit false

namespace DeskAssistant.Log

/-! ### What writing does not change -/

def Sink.isFile : Sink → Bool
  | .file _ => true
  | .errorStream => false

/-- Whether a handler writes to a file, and its level. -/
def Handler.kind (handler : Handler) : Bool × Int := (handler.sink.isFile, handler.level)

namespace Logging

/-- The same handlers at the same levels; they may have written in between. -/
structure SameSetup (logging next : Logging) : Prop where
  level_eq : next.level = logging.level
  libraryLevel_eq : next.libraryLevel = logging.libraryLevel
  configured_eq : next.configured = logging.configured
  kinds_eq : next.handlers.map Handler.kind = logging.handlers.map Handler.kind

section SameSetup

variable {logging middle next : Logging}

theorem SameSetup.refl (logging : Logging) : logging.SameSetup logging := ⟨rfl, rfl, rfl, rfl⟩

theorem SameSetup.trans (hfirst : logging.SameSetup middle) (hnext : middle.SameSetup next) :
    logging.SameSetup next where
  level_eq := hnext.level_eq.trans hfirst.level_eq
  libraryLevel_eq := hnext.libraryLevel_eq.trans hfirst.libraryLevel_eq
  configured_eq := hnext.configured_eq.trans hfirst.configured_eq
  kinds_eq := hnext.kinds_eq.trans hfirst.kinds_eq

end SameSetup

end Logging

theorem Handler.kind_write (handler : Handler) (time thread : String) (record : Record)
    (files : File.Store) : (handler.write time thread record files).1.kind = handler.kind := by
  obtain ⟨sink, level⟩ := handler
  unfold Handler.write
  split_ifs
  · rfl
  · cases sink <;> rfl

theorem Handler.map_kind_writeAll (time thread : String) (record : Record)
    (handlers : List Handler) (files : File.Store) :
    (Handler.writeAll time thread record handlers files).1.map Handler.kind =
      handlers.map Handler.kind := by
  induction handlers generalizing files with
  | nil => rfl
  | cons handler others ih =>
    rw [List.map_cons, ← handler.kind_write time thread record files, ← ih]
    rfl

theorem Handler.kind_afterRemoval (path : File.Path) (size : Nat) (handler : Handler) :
    (handler.afterRemoval path size).kind = handler.kind := by
  unfold Handler.afterRemoval
  split_ifs with hsink
  · rw [kind, kind, hsink]
    rfl
  · rfl

namespace Logging

theorem sameSetup_emit (logging : Logging) (time thread : String) (record : Record)
    (files : File.Store) : logging.SameSetup (logging.emit time thread record files).1 := by
  unfold emit
  split
  · exact .refl logging
  · split
    · exact .refl logging
    · exact ⟨rfl, rfl, rfl, Handler.map_kind_writeAll time thread record logging.handlers files⟩

theorem sameSetup_emitAll (logging : Logging) (time thread : String) (records : List Record)
    (files : File.Store) : logging.SameSetup (logging.emitAll time thread records files).1 := by
  refine List.foldlRecOn
    (motive := fun state : Logging × File.Store × String ↦ logging.SameSetup state.1) records _
    (.refl logging) ?_
  rintro ⟨current, files, text⟩ hcurrent record -
  exact hcurrent.trans (sameSetup_emit current time thread record files)

theorem sameSetup_afterRemoval (logging : Logging) (path : File.Path) (size : Nat) :
    logging.SameSetup (logging.afterRemoval path size) where
  level_eq := rfl
  libraryLevel_eq := rfl
  configured_eq := rfl
  kinds_eq := by
    rw [afterRemoval, List.map_map]
    exact List.map_congr_left fun handler _ ↦ handler.kind_afterRemoval path size

end Logging

/-! ### One call -/

/-- Why a setup with a request cannot be carried out, apart from errors of the operating system. -/
inductive Request.Refuses (request : Request) : Fault → Prop
  | unknown {fault : Fault} (hdirectory : request.directory = .error fault) : Refuses request fault
  | nul {directory : File.Path} (hdirectory : request.directory = .ok directory)
      (hnul : directory.holdsNul = true) : Refuses request .embeddedNul

namespace Logging

section Call

variable {request : Request} {directory : File.Path} {files : File.Store} {configured : Configured}
  {fault : Fault}

theorem openFile_of_holdsNul (hnul : directory.holdsNul = true) :
    openFile directory files = (files, .error .embeddedNul) := by
  rw [openFile, File.Store.performAll, File.Store.perform,
    File.Store.makeDirectories_of_holdsNul hnul]

theorem failsBySystem_openFile (files : File.Store) (hnul : directory.holdsNul = false) :
    FailsBySystem (openFile directory files).2 := by
  have hname : (openedPath directory files).holdsNul = false :=
    File.Path.holdsNul_collapsed (File.Store.holdsNul_absolute
      (File.Path.holdsNul_child fileName hnul (by decide)))
  refine File.Store.failsBySystem_performAll fun action haction store ↦ ?_
  rcases List.mem_cons.mp haction with rfl | hlast
  · exact File.Store.failsBySystem_makeDirectories hnul
  · obtain rfl := List.mem_singleton.mp hlast
    exact File.Store.failsBySystem_settle (File.Store.failsBySystem_append .empty hname)

theorem setupAnew_of_refuses (h : request.Refuses fault) :
    setupAnew request files = .error fault := by
  cases h with
  | unknown hdirectory =>
    rw [setupAnew, hdirectory]
    rfl
  | nul hdirectory hnul =>
    rw [setupAnew, hdirectory]
    change (Fault.apart (openFile _ files).2).map _ = _
    rw [openFile_of_holdsNul hnul]
    rfl

/-- Whether the log file of a request was opened, and in which directory. -/
inductive Opens (request : Request) (files : File.Store) : Option File.Path → Prop
  | opened {directory : File.Path} (hdirectory : request.directory = .ok directory)
      (hopen : (openFile directory files).2 = .ok ()) : Opens request files (some directory)
  | failed {directory : File.Path} {error : File.OsError}
      (hdirectory : request.directory = .ok directory)
      (hopen : (openFile directory files).2 = .error (.os error)) : Opens request files none

theorem setupAnew_of_opened (hdirectory : request.directory = .ok directory)
    (hopen : (openFile directory files).2 = .ok ()) :
    setupAnew request files = .ok ⟨some (directory.child fileName),
      configure request files (some directory), (openFile directory files).1, ""⟩ := by
  rw [setupAnew, hdirectory]
  change (Fault.apart (openFile directory files).2).map _ = _
  rw [hopen]
  rfl

theorem setupAnew_of_failed {error : File.OsError} (hdirectory : request.directory = .ok directory)
    (hopen : (openFile directory files).2 = .error (.os error)) :
    setupAnew request files = .ok ⟨none, configure request files none, (openFile directory files).1,
      refusalLine directory error⟩ := by
  rw [setupAnew, hdirectory]
  change (Fault.apart (openFile directory files).2).map _ = _
  rw [hopen]
  rfl

theorem exists_setupAnew_eq (files : File.Store) (hnone : ∀ fault, ¬ request.Refuses fault) :
    ∃ opened configured, Opens request files opened ∧ setupAnew request files = .ok configured ∧
      configured.path = opened.map (·.child fileName) ∧
      configured.logging = configure request files opened := by
  cases hdirectory : request.directory with
  | error fault => exact absurd (.unknown hdirectory) (hnone fault)
  | ok directory =>
    have hnul : directory.holdsNul = false :=
      Bool.eq_false_iff.mpr fun hnul ↦ hnone _ (.nul hdirectory hnul)
    cases hopen : (openFile directory files).2 with
    | ok =>
      exact ⟨some directory, _, .opened hdirectory hopen, setupAnew_of_opened hdirectory hopen,
        rfl, rfl⟩
    | error fault =>
      obtain ⟨error, rfl⟩ := failsBySystem_openFile files hnul fault hopen
      exact ⟨none, _, .failed hdirectory hopen, setupAnew_of_failed hdirectory hopen, rfl, rfl⟩

theorem setupAnew_eq_error_iff :
    setupAnew request files = .error fault ↔ request.Refuses fault := by
  refine ⟨fun herror ↦ ?_, setupAnew_of_refuses⟩
  by_cases hrefuses : ∃ other, request.Refuses other
  · obtain ⟨other, hother⟩ := hrefuses
    rw [setupAnew_of_refuses hother] at herror
    rwa [← Except.error.inj herror]
  · obtain ⟨_, configured, -, hsetup, -⟩ :=
      exists_setupAnew_eq files (not_exists.mp hrefuses)
    rw [hsetup] at herror
    cases herror

theorem setup_of_open {logging : Logging}
    (h : logging.configured = none ∨ request.isForced = true) :
    logging.setup request files = setupAnew request files := by
  rw [setup]
  cases hconfigured : logging.configured with
  | none => rfl
  | some path =>
    rw [hconfigured] at h
    exact if_pos (h.resolve_left nofun)

theorem setup_of_repeated {logging : Logging} {path : Option File.Path}
    (hconfigured : logging.configured = some path) (hforced : request.isForced = false) :
    logging.setup request files = .ok ⟨path, logging, files, ""⟩ := by
  rw [setup, hconfigured]
  exact if_neg (Bool.eq_false_iff.mp hforced)

end Call

/-! ### Logging that is set up -/

/-- How logging stands after a call of the setup that took effect and returned a path. -/
structure IsSetUp (request : Request) (path : Option File.Path) (logging : Logging) : Prop where
  /-- There is at most one handler for a file, and at most one for the error stream. -/
  countP_le : ∀ toFile, logging.handlers.countP (·.sink.isFile == toFile) ≤ 1
  handlers_ne_nil : logging.handlers ≠ []
  exists_isFile_iff : (∃ handler ∈ logging.handlers, handler.sink.isFile = true) ↔ path ≠ none
  exists_isStream_iff : (∃ handler ∈ logging.handlers, handler.sink.isFile = false) ↔
    request.onErrorStream = true ∨ path = none
  /-- An error stream that was not asked for is there for want of the file. -/
  level_of_fallback : request.onErrorStream = false →
    ∀ handler ∈ logging.handlers, handler.sink = .errorStream →
      handler.level = warning ∧ path = none
  level_of_asked : ∀ handler ∈ logging.handlers,
    handler.sink.isFile = true ∨ request.onErrorStream = true → handler.level = request.level
  level_eq : logging.level = request.level
  warning_le_libraryLevel : warning ≤ logging.libraryLevel

section IsSetUp

variable {request : Request} {files : File.Store} {opened : Option File.Path} {logging : Logging}

/-- There is a handler for the file if it was opened, one for the error stream if it was asked for,
and one in place of both if there is neither. -/
theorem SameSetup.mem_kinds_iff (h : (configure request files opened).SameSetup logging)
    {kind : Bool × Int} : kind ∈ logging.handlers.map Handler.kind ↔
      (opened ≠ none ∧ kind = (true, request.level)) ∨
        (request.onErrorStream = true ∧ kind = (false, request.level)) ∨
          (opened = none ∧ request.onErrorStream = false ∧ kind = (false, warning)) := by
  rw [h.kinds_eq]
  change kind ∈ (handlersOf request files opened).map Handler.kind ↔ _
  unfold handlersOf
  cases opened <;> cases request.onErrorStream <;> simp [Handler.kind, Sink.isFile]

theorem SameSetup.countP_le (h : (configure request files opened).SameSetup logging)
    (toFile : Bool) :
    logging.handlers.countP (·.sink.isFile == toFile) ≤ 1 := by
  have hcount (handlers : List Handler) : handlers.countP (·.sink.isFile == toFile) =
      (handlers.map Handler.kind).countP (·.1 == toFile) := by
    rw [List.countP_map]
    rfl
  rw [hcount, h.kinds_eq, ← hcount]
  change (handlersOf request files opened).countP _ ≤ 1
  unfold handlersOf
  cases opened <;> cases request.onErrorStream <;> cases toFile <;> simp [Sink.isFile]

theorem SameSetup.exists_isFile_iff (h : (configure request files opened).SameSetup logging) :
    (∃ handler ∈ logging.handlers, handler.sink.isFile = true) ↔ opened ≠ none := by
  constructor
  · rintro ⟨handler, hhandler, hfile⟩
    obtain ⟨hopened, -⟩ | ⟨-, hkind⟩ | ⟨-, -, hkind⟩ :=
      h.mem_kinds_iff.mp (List.mem_map_of_mem hhandler)
    · exact hopened
    · cases hfile.symm.trans (congrArg Prod.fst hkind)
    · cases hfile.symm.trans (congrArg Prod.fst hkind)
  · intro hopened
    obtain ⟨handler, hhandler, hkind⟩ :=
      List.mem_map.mp (h.mem_kinds_iff.mpr (Or.inl ⟨hopened, rfl⟩))
    exact ⟨handler, hhandler, congrArg Prod.fst hkind⟩

theorem SameSetup.exists_isStream_iff (h : (configure request files opened).SameSetup logging) :
    (∃ handler ∈ logging.handlers, handler.sink.isFile = false) ↔
      request.onErrorStream = true ∨ opened = none := by
  have hexists {level : Int} (hmem : (false, level) ∈ logging.handlers.map Handler.kind) :
      ∃ handler ∈ logging.handlers, handler.sink.isFile = false := by
    obtain ⟨handler, hhandler, hkind⟩ := List.mem_map.mp hmem
    exact ⟨handler, hhandler, congrArg Prod.fst hkind⟩
  constructor
  · rintro ⟨handler, hhandler, hstream⟩
    obtain ⟨-, hkind⟩ | ⟨hasked, -⟩ | ⟨hopened, -⟩ :=
      h.mem_kinds_iff.mp (List.mem_map_of_mem hhandler)
    · cases hstream.symm.trans (congrArg Prod.fst hkind)
    · exact Or.inl hasked
    · exact Or.inr hopened
  · intro hstream
    by_cases hasked : request.onErrorStream = true
    · exact hexists (h.mem_kinds_iff.mpr (Or.inr (Or.inl ⟨hasked, rfl⟩)))
    · have hopened : opened = none := hstream.resolve_left hasked
      rw [Bool.not_eq_true] at hasked
      exact hexists (h.mem_kinds_iff.mpr (Or.inr (Or.inr ⟨hopened, hasked, rfl⟩)))

theorem SameSetup.handlers_ne_nil (h : (configure request files opened).SameSetup logging) :
    logging.handlers ≠ [] := by
  by_cases hopened : opened = none
  · obtain ⟨handler, hhandler, -⟩ := h.exists_isStream_iff.mpr (Or.inr hopened)
    exact List.ne_nil_of_mem hhandler
  · obtain ⟨handler, hhandler, -⟩ := h.exists_isFile_iff.mpr hopened
    exact List.ne_nil_of_mem hhandler

theorem SameSetup.isSetUp (h : (configure request files opened).SameSetup logging) :
    logging.IsSetUp request (opened.map (·.child fileName)) where
  countP_le := h.countP_le
  handlers_ne_nil := h.handlers_ne_nil
  exists_isFile_iff := by rw [h.exists_isFile_iff, ne_eq, ne_eq, Option.map_eq_none_iff]
  exists_isStream_iff := by rw [h.exists_isStream_iff, Option.map_eq_none_iff]
  level_of_fallback := by
    intro hunasked handler hhandler hsink
    have hstream : handler.kind.1 = false := by rw [Handler.kind, hsink, Sink.isFile]
    obtain ⟨-, hkind⟩ | ⟨hasked, -⟩ | ⟨hopened, -, hkind⟩ :=
      h.mem_kinds_iff.mp (List.mem_map_of_mem hhandler)
    · cases hstream.symm.trans (congrArg Prod.fst hkind)
    · cases hunasked.symm.trans hasked
    · exact ⟨congrArg Prod.snd hkind, by rw [hopened, Option.map_none]⟩
  level_of_asked := by
    intro handler hhandler hasked
    obtain ⟨-, hkind⟩ | ⟨-, hkind⟩ | ⟨-, hunasked, hkind⟩ :=
      h.mem_kinds_iff.mp (List.mem_map_of_mem hhandler)
    · exact congrArg Prod.snd hkind
    · exact congrArg Prod.snd hkind
    · obtain hfile | hstream := hasked
      · cases hfile.symm.trans (congrArg Prod.fst hkind)
      · cases hunasked.symm.trans hstream
  level_eq := h.level_eq
  warning_le_libraryLevel := by
    rw [h.libraryLevel_eq]
    exact Int.le_max_left warning request.level

end IsSetUp

end Logging

/-! ### Any number of calls -/

/-- What a program does with its logging, each with the files as they are at that moment. -/
inductive Event where
  | setup (request : Request) (files : File.Store)
  | records (time thread : String) (records : List Record) (files : File.Store)
  | removal (path : File.Path) (size : Nat)

/-- Logging with the last call of the setup that took effect and the path that it returned. -/
structure Course where
  logging : Logging
  last : Option (Request × Option File.Path) := none

namespace Course

/-- A call takes effect if it is the first that does or if it is forced. One that ends in a fault
leaves everything as it was. -/
def step (course : Course) : Event → Course
  | .setup request files =>
    match course.logging.setup request files with
    | .ok configured =>
      { logging := configured.logging
        last :=
          if course.last.isNone || request.isForced then some (request, configured.path)
          else course.last }
    | .error _ => course
  | .records time thread records files =>
    { course with logging := (course.logging.emitAll time thread records files).1 }
  | .removal path size => { course with logging := course.logging.afterRemoval path size }

def run (course : Course) (events : List Event) : Course := events.foldl step course

/-- Logging is as the last call that took effect configured it, or as it was at the start. -/
inductive Follows (start : Logging) : Course → Prop
  | untouched {logging : Logging} (h : start.SameSetup logging) : Follows start ⟨logging, none⟩
  | setUp {logging : Logging} {request : Request} {files : File.Store} {opened : Option File.Path}
      (h : (Logging.configure request files opened).SameSetup logging) :
      Follows start ⟨logging, some (request, opened.map (·.child Logging.fileName))⟩

section Run

variable {start : Logging} {course : Course} {request : Request} {files : File.Store}

theorem Follows.configured_eq (hstart : start.configured = none) (h : Follows start course) :
    course.logging.configured = course.last.map Prod.snd := by
  cases h with
  | untouched h => exact h.configured_eq.trans hstart
  | setUp h => exact h.configured_eq

theorem Follows.setup_of_effect (files : File.Store) (hstart : start.configured = none)
    (h : Follows start course) (heffect : course.last = none ∨ request.isForced = true) :
    course.logging.setup request files = Logging.setupAnew request files := by
  refine Logging.setup_of_open (heffect.imp_left fun hnone ↦ ?_)
  rw [h.configured_eq hstart, hnone, Option.map_none]

theorem Follows.setup_of_repeated (hstart : start.configured = none) (h : Follows start course)
    {last : Request × Option File.Path} (hlast : course.last = some last)
    (hforced : request.isForced = false) :
    course.logging.setup request files = .ok ⟨last.2, course.logging, files, ""⟩ := by
  refine Logging.setup_of_repeated ?_ hforced
  rw [h.configured_eq hstart, hlast, Option.map_some]

theorem Follows.written (h : Follows start course) {logging : Logging}
    (hsame : course.logging.SameSetup logging) : Follows start { course with logging } := by
  cases h with
  | untouched h => exact .untouched (h.trans hsame)
  | setUp h => exact .setUp (h.trans hsame)

theorem Follows.called (hstart : start.configured = none) (h : Follows start course)
    (request : Request) (files : File.Store) :
    Follows start (course.step (.setup request files)) := by
  by_cases heffect : course.last = none ∨ request.isForced = true
  · have hsetup := h.setup_of_effect files hstart heffect
    by_cases hrefuses : ∃ fault, request.Refuses fault
    · obtain ⟨fault, hfault⟩ := hrefuses
      rw [step, hsetup, Logging.setupAnew_of_refuses hfault]
      exact h
    · obtain ⟨opened, configured, -, hconfigured, hpath, hlogging⟩ :=
        Logging.exists_setupAnew_eq files (not_exists.mp hrefuses)
      have hlast : (course.last.isNone || request.isForced) = true := by
        rwa [Bool.or_eq_true, Option.isNone_iff_eq_none]
      rw [step, hsetup, hconfigured]
      dsimp only
      rw [if_pos hlast, hpath, hlogging]
      exact .setUp (.refl _)
  · obtain ⟨hlast, hforced⟩ := not_or.mp heffect
    obtain ⟨last, hlast⟩ := Option.ne_none_iff_exists'.mp hlast
    rw [Bool.not_eq_true] at hforced
    have hkept : ¬ (course.last.isNone || request.isForced) = true := by simp [hlast, hforced]
    rw [step, h.setup_of_repeated hstart hlast hforced]
    dsimp only
    rw [if_neg hkept]
    exact h

theorem Follows.step (hstart : start.configured = none) (h : Follows start course)
    (event : Event) : Follows start (course.step event) := by
  cases event with
  | setup request files => exact h.called hstart request files
  | records time thread records files =>
    exact h.written (course.logging.sameSetup_emitAll time thread records files)
  | removal path size => exact h.written (course.logging.sameSetup_afterRemoval path size)

theorem follows_run (hstart : start.configured = none) (events : List Event) :
    Follows start (run { logging := start } events) := by
  suffices hrun : ∀ course, Follows start course → Follows start (run course events) by
    exact hrun _ (.untouched (.refl start))
  induction events with
  | nil => exact fun course hcourse ↦ hcourse
  | cons event events ih => exact fun course hcourse ↦ ih _ (hcourse.step hstart event)

/-- What a call that takes effect comes to. It fails only if its request is refused, and otherwise
returns the log file exactly if that was opened. -/
structure Answers (request : Request) (files : File.Store)
    (outcome : Except Fault Logging.Configured) : Prop where
  eq_error_iff : ∀ fault, outcome = .error fault ↔ request.Refuses fault
  of_ok : ∀ configured, outcome = .ok configured →
    configured.logging.IsSetUp request configured.path ∧
      ∃ opened, Logging.Opens request files opened ∧
        configured.path = opened.map (·.child Logging.fileName)

theorem answers_setupAnew (request : Request) (files : File.Store) :
    Answers request files (Logging.setupAnew request files) where
  eq_error_iff _ := Logging.setupAnew_eq_error_iff
  of_ok := by
    intro configured hconfigured
    have hnone : ∀ fault, ¬ request.Refuses fault := by
      intro fault hfault
      rw [Logging.setupAnew_of_refuses hfault] at hconfigured
      cases hconfigured
    obtain ⟨opened, other, hopens, hother, hpath, hlogging⟩ :=
      Logging.exists_setupAnew_eq files hnone
    obtain rfl : other = configured := Except.ok.inj (hother.symm.trans hconfigured)
    refine ⟨?_, opened, hopens, hpath⟩
    rw [hpath, hlogging]
    exact (Logging.SameSetup.refl _).isSetUp

/-- How logging stands in a course, and what the next call does. -/
structure Standing (start : Logging) (course : Course) : Prop where
  isSetUp : ∀ request path, course.last = some (request, path) →
    course.logging.IsSetUp request path
  /-- Before a call has taken effect nothing has changed. -/
  sameSetup : course.last = none → start.SameSetup course.logging
  /-- A call that is not forced changes nothing any more. -/
  setup_eq : ∀ last request files, course.last = some last → request.isForced = false →
    course.logging.setup request files = .ok ⟨last.2, course.logging, files, ""⟩
  answers : ∀ request files, course.last = none ∨ request.isForced = true →
    Answers request files (course.logging.setup request files)

theorem standing_of_run (hstart : start.configured = none) (events : List Event) :
    Standing start (run { logging := start } events) := by
  have hfollows := follows_run hstart events
  constructor
  · intro request path hlast
    generalize run { logging := start } events = course at hfollows hlast
    cases hfollows with
    | untouched h => cases hlast
    | setUp h =>
      cases hlast
      exact h.isSetUp
  · intro hlast
    generalize run { logging := start } events = course at hfollows hlast
    cases hfollows with
    | untouched h => exact h
    | setUp h => cases hlast
  · intro last request files hlast hforced
    exact hfollows.setup_of_repeated hstart hlast hforced
  · intro request files heffect
    rw [hfollows.setup_of_effect files hstart heffect]
    exact answers_setupAnew request files

end Run

/-! ### A directory below an unknown home -/

/-- A program that is told to keep its log below the home directory of someone who is not known. -/
def strayProgram : Program Unit where
  environment := [(Logging.directoryVariable, "~nosuchuser/logs")]
  time := "2026-01-05 09:30:00"
  host :=
    { home := .ofString "/home/ada"
      outputName := fun number ↦ "/tmp/reply" ++ toString number
      agents := ()
      start := fun _ agents files ↦ (.refused (.notFound none), agents, files) }

/-- A call that asks for a log file there. -/
def strayRequest : Request := { directory := strayProgram.logDirectory, onErrorStream := false }

theorem refuses_strayRequest : strayRequest.Refuses .homeUnknown :=
  .unknown (by decide +kernel)

/-- After this call there is no handler at all, and the libraries are not quieted. -/
theorem silent_strayRequest :
    (run { logging := strayProgram.logging } [.setup strayRequest {}]).logging.handlers = [] ∧
      (run { logging := strayProgram.logging } [.setup strayRequest {}]).logging.libraryLevel <
        warning := by
  have hrun : run { logging := strayProgram.logging } [.setup strayRequest {}] =
      { logging := strayProgram.logging } := by
    rw [run, List.foldl_cons, List.foldl_nil, step, Logging.setup_of_open (Or.inl rfl),
      Logging.setupAnew_of_refuses refuses_strayRequest]
  rw [hrun]
  decide

/-- A file stands where the directory of the log would be. -/
def blockedFiles : File.Store := { entries := [(.ofString "/logs", .file .empty false)] }

def blockedRequest : Request := { directory := .ok (.ofString "/logs"), onErrorStream := false }

/-- A refused call, one that cannot open its file, a record, and one that is not forced. -/
def mixedEvents : List Event :=
  [.setup strayRequest {}, .setup blockedRequest blockedFiles,
    .records "2026-01-05 09:30:00" "MainThread"
      [{ level := error, source := "session", template := "still visible" }] {},
    .setup { level := debug, directory := .ok (.ofString "/var/log") } {}]

theorem standing_mixedEvents :
    ({} : Logging).configured = none ∧
      (run { logging := {} } mixedEvents).logging.IsSetUp blockedRequest none := by
  have hnew : ({} : Logging).configured = none := rfl
  have hlast : (run { logging := {} } mixedEvents).last = some (blockedRequest, none) := by
    with_unfolding_all rfl
  exact ⟨hnew, (standing_of_run hnew mixedEvents).isSetUp blockedRequest none hlast⟩

end Course

end DeskAssistant.Log
