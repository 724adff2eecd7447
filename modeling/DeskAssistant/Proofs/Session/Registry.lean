import DeskAssistant.Proofs.Session.Office
import Mathlib.Data.List.Induction

/-!
# The current session

One registry keeps track of the session that is shown. Sessions register when they are opened, may
be registered again while they are open, and are released when they are closed; a surface that is
presented is opened if none is current. `Course` is a run of such steps in any order, with what
happened to the registry along it, and with the work of the sessions in between, which makes no
difference to the registry (`keepsRegistry_ask` and its kind).

`IsLatest` says of what happened that a session was registered last and has not been closed since.
`registered_of_course` shows that the current session of a desk is the one of which this holds, and
that it is open. `keepsLatest_of_course` puts it together with what closing and presenting do next:
a session does not become current because another one is closed, and presenting makes a session
exactly if no open one is current.
-/

set_option autoImplicit false
set_option relaxedAutoImplicit false

namespace DeskAssistant

/-! ### What happens to a registry -/

inductive RegistryEvent where
  | registered (session : Nat)
  | closed (session : Nat)
  deriving DecidableEq

/-- The session was registered last, and it has not been closed since. -/
def IsLatest (events : List RegistryEvent) (session : Nat) : Prop :=
  ∃ before after, events = before ++ .registered session :: after ∧
    (∀ other, .registered other ∉ after) ∧ .closed session ∉ after

section IsLatest

variable {events more : List RegistryEvent} {session other : Nat}

theorem not_isLatest_nil : ¬ IsLatest [] session := by
  rintro ⟨before, after, hevents, _⟩
  simp at hevents

/-- What happens last either registers the session or keeps it as the latest. -/
theorem isLatest_concat_iff {event : RegistryEvent} : IsLatest (events ++ [event]) session ↔
    event = .registered session ∨
      (IsLatest events session ∧ (∀ other, event ≠ .registered other) ∧
        event ≠ .closed session) := by
  constructor
  · rintro ⟨before, after, hevents, hlast, hopen⟩
    rcases List.eq_nil_or_concat after with rfl | ⟨after, last, rfl⟩
    · obtain ⟨-, hevent⟩ := List.append_inj' hevents rfl
      exact Or.inl (List.singleton_inj.mp hevent)
    · rw [List.concat_eq_append] at hevents hlast hopen
      have hsplit : events ++ [event] = (before ++ .registered session :: after) ++ [last] := by
        rw [hevents, List.append_assoc, List.cons_append]
      obtain ⟨hearlier, hevent⟩ := List.append_inj' hsplit rfl
      obtain rfl := List.singleton_inj.mp hevent
      have hend : event ∈ after ++ [event] :=
        List.mem_append_right _ (List.mem_singleton_self _)
      refine Or.inr ⟨⟨before, after, hearlier, ?_, ?_⟩, ?_, ?_⟩
      · exact fun other hother ↦ hlast other (List.mem_append_left _ hother)
      · exact fun hclosed ↦ hopen (List.mem_append_left _ hclosed)
      · rintro other rfl
        exact hlast other hend
      · rintro rfl
        exact hopen hend
  · rintro (rfl | ⟨⟨before, after, rfl, hlast, hopen⟩, hregistered, hclosed⟩)
    · exact ⟨events, [], rfl, nofun, nofun⟩
    · refine ⟨before, after ++ [event], by simp, fun other hother ↦ ?_, fun hother ↦ ?_⟩
      · rcases List.mem_append.mp hother with hearlier | hend
        · exact hlast other hearlier
        · exact hregistered other (List.mem_singleton.mp hend).symm
      · rcases List.mem_append.mp hother with hearlier | hend
        · exact hopen hearlier
        · exact hclosed (List.mem_singleton.mp hend).symm

theorem isLatest_registered_iff : IsLatest (events ++ [.registered other]) session ↔
    session = other := by
  simp [isLatest_concat_iff, eq_comm]

theorem isLatest_closed_iff : IsLatest (events ++ [.closed other]) session ↔
    IsLatest events session ∧ session ≠ other := by
  simp [isLatest_concat_iff, eq_comm]

/-- What is not registered again does not become the latest. -/
theorem IsLatest.of_append (h : IsLatest (events ++ more) session)
    (hmore : .registered session ∉ more) : IsLatest events session := by
  induction more using List.reverseRecOn with
  | nil => rwa [List.append_nil] at h
  | append_singleton more event ih =>
    rw [← List.append_assoc, isLatest_concat_iff] at h
    rcases h with rfl | ⟨hearlier, -, -⟩
    · exact absurd (List.mem_append_right _ (List.mem_singleton_self _)) hmore
    · exact ih hearlier fun hmem ↦ hmore (List.mem_append_left _ hmem)

end IsLatest

/-! ### Work that leaves the registry alone -/

/-- What the registry has to do with: whether the session is kept in it, and whether it is open. -/
def Session.life (session : Session) : Bool × Bool := (session.inRegistry, session.alive)

namespace Desk

/-- The same session is current, and the same ones are open. -/
structure KeepsRegistry (desk next : Desk) : Prop where
  current_eq : next.current = desk.current
  lives_eq : next.sessions.map Session.life = desk.sessions.map Session.life

section KeepsRegistry

variable {desk middle next : Desk}

theorem KeepsRegistry.trans (hfirst : desk.KeepsRegistry middle)
    (hsecond : middle.KeepsRegistry next) : desk.KeepsRegistry next :=
  ⟨hsecond.current_eq.trans hfirst.current_eq, hsecond.lives_eq.trans hfirst.lives_eq⟩

theorem keepsRegistry_note (desk : Desk) (entries : List Entry) :
    desk.KeepsRegistry (desk.note entries) := ⟨rfl, rfl⟩

theorem map_life_set {sessions : List Session} {index : Nat} {before after : Session}
    (hbefore : sessions[index]? = some before) (hlife : after.life = before.life) :
    (sessions.set index after).map Session.life = sessions.map Session.life := by
  refine List.ext_getElem? fun other ↦ ?_
  rw [List.getElem?_map, List.getElem?_map, List.getElem?_set]
  split_ifs with hindex hbound
  · rw [← hindex, hbefore, Option.map_some, Option.map_some, hlife]
  · exact absurd (lt_length_of_getElem?_eq_some hbefore) hbound
  · rfl

theorem map_life_modify (sessions : List Session) (index : Nat) {change : Session → Session}
    (hlife : ∀ session, (change session).life = session.life) :
    (sessions.modify index change).map Session.life = sessions.map Session.life := by
  refine List.ext_getElem? fun other ↦ ?_
  rw [List.getElem?_map, List.getElem?_map, List.getElem?_modify]
  split_ifs
  · cases sessions[other]? with
    | none => rfl
    | some session => exact congrArg some (hlife session)
  · rw [id_map']

theorem keepsRegistry_ask (desk : Desk) (session : Nat) (prompt : String)
    (options : Prompt.Options) (provider : Provider) :
    desk.KeepsRegistry (desk.ask session prompt options provider).2 := by
  obtain ⟨entries, _, _, heq⟩ | ⟨asking, entries, hasking, _, _, _, heq⟩ :=
    desk.ask_cases session prompt options provider
  · rw [heq]
    exact keepsRegistry_note desk entries
  · rw [heq]
    exact ⟨rfl, map_life_set hasking rfl⟩

theorem keepsRegistry_apply (desk : Desk) (worker : Nat) (result : Job.Result) :
    desk.KeepsRegistry (desk.apply worker result) := by
  cases hheld : desk.workers[worker]? with
  | none =>
    rw [apply, hheld]
    exact ⟨rfl, rfl⟩
  | some held =>
    obtain ⟨_, _, hcurrent, hsessions, _⟩ := apply_frame hheld result
    refine ⟨hcurrent, ?_⟩
    rw [hsessions]
    split_ifs
    · exact map_life_modify _ _ fun _ ↦ rfl
    · rfl

theorem keepsRegistry_post (desk : Desk) (worker : Nat) (result : Job.Result) :
    desk.KeepsRegistry (desk.post worker result).2 := by
  unfold post
  split
  · exact ⟨rfl, rfl⟩
  · split
    · exact ⟨rfl, rfl⟩
    · dsimp only
      split <;> exact ⟨rfl, rfl⟩

theorem keepsRegistry_finish (desk : Desk) (worker : Nat) (outcome : Except Fault Job.Result) :
    desk.KeepsRegistry (desk.finish worker outcome).2 := by
  cases outcome with
  | ok result => exact keepsRegistry_post desk worker result
  | error fault => exact (keepsRegistry_note desk _).trans (keepsRegistry_post _ worker _)

theorem keepsRegistry_runNext (desk : Desk) : desk.KeepsRegistry desk.runNext := by
  unfold runNext
  split
  · exact ⟨rfl, rfl⟩
  · unfold deliver
    split
    · exact ⟨rfl, rfl⟩
    · split
      · exact ⟨rfl, rfl⟩
      · refine KeepsRegistry.trans ?_ (keepsRegistry_apply _ _ _)
        exact ⟨rfl, rfl⟩

theorem keepsRegistry_changeSource (desk : Desk) (session : Nat) (source : ContextSource) :
    desk.KeepsRegistry (desk.changeSource session source) :=
  ⟨rfl, map_life_modify _ _ fun _ ↦ rfl⟩

/-- What sessions, their workers and the loop do besides opening and closing. -/
inductive Works : Desk → Desk → Prop
  | ask (desk : Desk) (session : Nat) (prompt : String) (options : Prompt.Options)
      (provider : Provider) : Works desk (desk.ask session prompt options provider).2
  | startFailed (desk : Desk) (worker : Nat) (fault : Fault) :
      Works desk (desk.startFailed worker fault)
  | finish (desk : Desk) (worker : Nat) (outcome : Except Fault Job.Result) :
      Works desk (desk.finish worker outcome).2
  | runNext (desk : Desk) : Works desk desk.runNext
  | cancelTasks (desk : Desk) : Works desk desk.cancelTasks
  | closeLoop (desk : Desk) : Works desk desk.closeLoop
  | changeSource (desk : Desk) (session : Nat) (source : ContextSource) :
      Works desk (desk.changeSource session source)
  | note (desk : Desk) (entries : List Entry) : Works desk (desk.note entries)

theorem Works.keepsRegistry (h : Works desk next) : desk.KeepsRegistry next := by
  cases h with
  | ask session prompt options provider =>
    exact keepsRegistry_ask desk session prompt options provider
  | startFailed worker fault =>
    exact (keepsRegistry_note desk _).trans (keepsRegistry_apply _ worker _)
  | finish worker outcome => exact keepsRegistry_finish desk worker outcome
  | runNext => exact keepsRegistry_runNext desk
  | cancelTasks => exact ⟨rfl, rfl⟩
  | closeLoop => exact ⟨rfl, rfl⟩
  | changeSource session source => exact keepsRegistry_changeSource desk session source
  | note entries => exact keepsRegistry_note desk entries

end KeepsRegistry

/-! ### Runs -/

/-- The registrations of the sessions that were made on the way to a later desk. -/
def madeUntil (desk next : Desk) : List RegistryEvent :=
  (List.range' desk.sessions.length (next.sessions.length - desk.sessions.length)).map
    .registered

/-- A session of the registry as it is made. -/
def newcomer (reports : Bool) (source : ContextSource) : Session := .fresh true reports source

/-- A run from one desk to another, with what happened to the registry along it. All sessions are
kept in the registry, and only an open one is registered again. -/
inductive Course (start : Desk) : List RegistryEvent → Desk → Prop
  | start : Course start [] start
  | opened {events : List RegistryEvent} {desk : Desk} (h : Course start events desk)
      (reports : Bool) (source : ContextSource) :
      Course start (events ++ desk.madeUntil (desk.openSession (newcomer reports source)))
        (desk.openSession (newcomer reports source))
  | presented {events : List RegistryEvent} {desk : Desk} (h : Course start events desk)
      (reports : Bool) (source : ContextSource) :
      Course start (events ++ desk.madeUntil (desk.present (newcomer reports source)).2)
        (desk.present (newcomer reports source)).2
  | registered {events : List RegistryEvent} {desk : Desk} (h : Course start events desk)
      {session : Nat} (halive : desk.isAlive session = true) :
      Course start (events ++ [.registered session]) (desk.register session)
  | closed {events : List RegistryEvent} {desk : Desk} (h : Course start events desk)
      (session : Nat) : Course start (events ++ [.closed session]) (desk.close session)
  | worked {events : List RegistryEvent} {desk next : Desk} (h : Course start events desk)
      (hworks : Works desk next) : Course start events next

section Course

variable {start desk next : Desk} {events more : List RegistryEvent} {session : Nat}

theorem Course.trans (hfirst : Course start events desk) (hsecond : Course desk more next) :
    Course start (events ++ more) next := by
  induction hsecond with
  | start => rwa [List.append_nil]
  | opened _ reports source ih =>
    rw [← List.append_assoc]
    exact ih.opened reports source
  | presented _ reports source ih =>
    rw [← List.append_assoc]
    exact ih.presented reports source
  | registered _ halive ih =>
    rw [← List.append_assoc]
    exact ih.registered halive
  | closed _ session ih =>
    rw [← List.append_assoc]
    exact ih.closed session
  | worked _ hworks ih => exact ih.worked hworks

/-- All sessions are kept in the registry, and the current one is open and was registered last. -/
structure Registered (events : List RegistryEvent) (desk : Desk) : Prop where
  inRegistry : ∀ session ∈ desk.sessions, session.inRegistry = true
  alive_of_current : ∀ {session : Nat}, desk.current = some session →
    desk.isAlive session = true
  current_iff : ∀ {session : Nat}, desk.current = some session ↔ IsLatest events session

/-! What a desk tells about its registry is told by the lives of its sessions. -/

theorem inRegistry_iff_lives : (∀ session ∈ desk.sessions, session.inRegistry = true) ↔
    ∀ life ∈ desk.sessions.map Session.life, life.1 = true := by
  simp [Session.life]

theorem isAlive_eq_lives : desk.isAlive session =
    ((desk.sessions.map Session.life)[session]?).any Prod.snd := by
  rw [isAlive, List.getElem?_map]
  cases desk.sessions[session]? <;> rfl

theorem KeepsRegistry.registered (hkeeps : desk.KeepsRegistry next)
    (h : Registered events desk) : Registered events next := by
  refine ⟨?_, fun {session} hcurrent ↦ ?_, fun {session} ↦ ?_⟩
  · rw [inRegistry_iff_lives, hkeeps.lives_eq, ← inRegistry_iff_lives]
    exact h.inRegistry
  · rw [isAlive_eq_lives, hkeeps.lives_eq, ← isAlive_eq_lives]
    exact h.alive_of_current (hkeeps.current_eq ▸ hcurrent)
  · rw [hkeeps.current_eq]
    exact h.current_iff

/-! ### The steps -/

theorem isAlive_openSession_length (desk : Desk) {newcomer : Session}
    (halive : newcomer.alive = true) :
    (desk.openSession newcomer).isAlive desk.sessions.length = true := by
  rw [isAlive, openSession]
  split <;> simp [register, halive]

/-- A new session becomes the current one by being made. -/
theorem openSession_newcomer (desk : Desk) (reports : Bool) (source : ContextSource) :
    desk.openSession (newcomer reports source) =
      { desk with
        sessions := desk.sessions ++ [newcomer reports source]
        current := some desk.sessions.length } := rfl

theorem madeUntil_openSession (desk : Desk) (reports : Bool) (source : ContextSource) :
    desk.madeUntil (desk.openSession (newcomer reports source)) =
      [.registered desk.sessions.length] := by
  simp [madeUntil, openSession_newcomer]

theorem madeUntil_self (desk : Desk) : desk.madeUntil desk = [] := by
  simp [madeUntil]

/-- A session that is registered while it is open is the current one and the latest. -/
theorem Registered.register (h : Registered events desk) (halive : desk.isAlive session = true) :
    Registered (events ++ [.registered session]) (desk.register session) := by
  refine ⟨h.inRegistry, fun {other} hcurrent ↦ ?_, fun {other} ↦ ?_⟩
  · obtain rfl := Option.some.inj hcurrent
    exact halive
  · rw [isLatest_registered_iff, eq_comm (a := other)]
    exact Option.some_inj

theorem Registered.openSession (h : Registered events desk) (reports : Bool)
    (source : ContextSource) :
    Registered (events ++ desk.madeUntil (desk.openSession (newcomer reports source)))
      (desk.openSession (newcomer reports source)) := by
  rw [madeUntil_openSession]
  refine ⟨fun session hmem ↦ ?_, fun {session} hcurrent ↦ ?_, fun {session} ↦ ?_⟩
  · rcases List.mem_append.mp hmem with hearlier | hnew
    · exact h.inRegistry session hearlier
    · rw [List.mem_singleton.mp hnew]
      rfl
  · obtain rfl := Option.some.inj hcurrent
    exact isAlive_openSession_length desk rfl
  · rw [isLatest_registered_iff, eq_comm (a := session)]
    exact Option.some_inj

/-- While the current session is open, presenting finds it and makes none. -/
theorem present_of_current (hcurrent : desk.current = some session)
    (halive : desk.isAlive session = true) (fresh : Session) :
    desk.present fresh = (session, desk) := by
  rw [present, hcurrent, Option.filter_some_pos halive]

theorem present_of_none (hcurrent : desk.current = none) (reports : Bool)
    (source : ContextSource) :
    desk.present (newcomer reports source) =
      (desk.sessions.length, desk.openSession (newcomer reports source)) := by
  rw [present, hcurrent]
  rfl

theorem Registered.present (h : Registered events desk) (reports : Bool)
    (source : ContextSource) :
    Registered (events ++ desk.madeUntil (desk.present (newcomer reports source)).2)
      (desk.present (newcomer reports source)).2 := by
  cases hcurrent : desk.current with
  | some session =>
    rw [present_of_current hcurrent (h.alive_of_current hcurrent), madeUntil_self,
      List.append_nil]
    exact h
  | none =>
    rw [present_of_none hcurrent]
    exact h.openSession reports source

theorem sessions_close (desk : Desk) (session : Nat) : (desk.close session).sessions =
    desk.sessions.modify session fun session ↦ { session with alive := false } := by
  unfold close release
  dsimp only
  split_ifs <;> rfl

theorem isAlive_close (desk : Desk) (session other : Nat) :
    (desk.close session).isAlive other = (desk.isAlive other && (session != other)) := by
  rw [isAlive, sessions_close, List.getElem?_modify, isAlive]
  cases desk.sessions[other]? with
  | none => rfl
  | some held => by_cases hother : session = other <;> simp [hother]

/-- A session that is kept in the registry leaves it as it is closed. -/
theorem Registered.current_close (h : Registered events desk) (session : Nat) :
    (desk.close session).current = if desk.current = some session then none else desk.current := by
  cases hheld : desk.sessions[session]? with
  | none =>
    have hother : desk.current ≠ some session := fun hcurrent ↦ by
      have halive := h.alive_of_current hcurrent
      rw [isAlive, hheld] at halive
      exact absurd halive Bool.false_ne_true
    rw [close, hheld, if_neg hother]
    rfl
  | some held =>
    have hkept := h.inRegistry held (List.mem_of_getElem? hheld)
    rw [close, hheld, Option.any_some, if_pos hkept, release]
    split_ifs <;> rfl

theorem Registered.close (h : Registered events desk) (session : Nat) :
    Registered (events ++ [.closed session]) (desk.close session) := by
  have hcurrent := h.current_close session
  refine ⟨fun held hmem ↦ ?_, fun {other} hother ↦ ?_, fun {other} ↦ ?_⟩
  · rw [sessions_close] at hmem
    obtain ⟨index, hindex⟩ := List.mem_iff_getElem?.mp hmem
    rw [List.getElem?_modify] at hindex
    obtain ⟨before, hbefore, rfl⟩ := Option.map_eq_some_iff.mp hindex
    have hkept := h.inRegistry before (List.mem_of_getElem? hbefore)
    split_ifs <;> exact hkept
  · rw [hcurrent] at hother
    split_ifs at hother with hsame
    rw [isAlive_close, h.alive_of_current hother, Bool.true_and, bne_iff_ne]
    rintro rfl
    exact hsame hother
  · rw [isLatest_closed_iff, ← h.current_iff, hcurrent]
    split_ifs with hsame
    · rw [hsame, Option.some_inj]
      constructor
      · nofun
      · rintro ⟨rfl, hne⟩
        exact absurd rfl hne
    · constructor
      · rintro hother
        refine ⟨hother, ?_⟩
        rintro rfl
        exact hsame hother
      · exact fun hother ↦ hother.1

/-! ### What is current -/

/-- What every step of a course preserves. -/
theorem registered_of_course (h : Course {} events desk) : Registered events desk := by
  induction h with
  | start => exact ⟨nofun, nofun, fun {session} ↦ ⟨nofun, fun h ↦ absurd h not_isLatest_nil⟩⟩
  | opened _ reports source ih => exact ih.openSession reports source
  | presented _ reports source ih => exact ih.present reports source
  | registered _ halive ih => exact ih.register halive
  | closed _ session ih => exact ih.close session
  | worked _ hworks ih => exact hworks.keepsRegistry.registered ih

/-- The registry of a desk after `events`, and what it does next. -/
structure KeepsLatest (events : List RegistryEvent) (desk : Desk) : Prop where
  /-- The current session is the one registered last, if it has not been closed since, and
  otherwise there is none. -/
  current_eq_some_iff : ∀ {session : Nat}, desk.current = some session ↔ IsLatest events session
  /-- It is open. -/
  alive_of_current : ∀ {session : Nat}, desk.current = some session →
    desk.isAlive session = true
  /-- Closing a session that is not current leaves the current one, or none. -/
  close_of_ne : ∀ {session : Nat}, desk.current ≠ some session →
    (desk.close session).current = desk.current
  /-- A session that is not current, for instance since another took its place, does not become
  current by any further course in which it is not registered again. -/
  not_revived : ∀ {session : Nat} {more : List RegistryEvent} {later : Desk},
    desk.current ≠ some session → Course desk more later → .registered session ∉ more →
      later.current ≠ some session
  /-- What is presented is current from then on, and open. -/
  presents : ∀ (reports : Bool) (source : ContextSource),
    (desk.present (newcomer reports source)).2.current =
        some (desk.present (newcomer reports source)).1 ∧
      (desk.present (newcomer reports source)).2.isAlive
        (desk.present (newcomer reports source)).1 = true
  /-- Where an open session is current, no session is made. -/
  makes_none : ∀ {session : Nat}, desk.current = some session → desk.isAlive session = true →
    ∀ (reports : Bool) (source : ContextSource),
      desk.present (newcomer reports source) = (session, desk)
  /-- Otherwise exactly one is made, and presented. -/
  makes_one : (¬ ∃ session, desk.current = some session ∧ desk.isAlive session = true) →
    ∀ (reports : Bool) (source : ContextSource),
      (desk.present (newcomer reports source)).1 = desk.sessions.length ∧
        (desk.present (newcomer reports source)).2.sessions =
          desk.sessions ++ [newcomer reports source]

/-- The registry keeps to the session that was registered last while it is open, whatever the
order in which sessions are opened, presented, registered again and closed. -/
theorem keepsLatest_of_course (h : Course {} events desk) : KeepsLatest events desk := by
  have hregistered := registered_of_course h
  refine
    { current_eq_some_iff := hregistered.current_iff
      alive_of_current := hregistered.alive_of_current
      close_of_ne := fun {session} hother ↦ ?_
      not_revived := fun {session more later} hother hcourse hmore hcurrent ↦ ?_
      presents := fun reports source ↦ ?_
      makes_none := fun hcurrent halive reports source ↦ present_of_current hcurrent halive _
      makes_one := fun hnone reports source ↦ ?_ }
  · rw [hregistered.current_close, if_neg hother]
  · have hlatest := (registered_of_course (h.trans hcourse)).current_iff.mp hcurrent
    exact hother (hregistered.current_iff.mpr (hlatest.of_append hmore))
  · cases hcurrent : desk.current with
    | some session =>
      have halive := hregistered.alive_of_current hcurrent
      rw [present_of_current hcurrent halive]
      exact ⟨hcurrent, halive⟩
    | none =>
      rw [present_of_none hcurrent]
      exact ⟨rfl, isAlive_openSession_length desk rfl⟩
  · have hcurrent : desk.current = none := by
      rw [Option.eq_none_iff_forall_ne_some]
      exact fun session hcurrent ↦ hnone ⟨session, hcurrent, hregistered.alive_of_current hcurrent⟩
    rw [present_of_none hcurrent]
    exact ⟨rfl, rfl⟩

/-- Two sessions are opened, the first is registered again, and the second is closed: the first
stays current. -/
theorem keepsLatest_registeredAgain :
    let source := ContextSource.fixed fun _ ↦ none
    let desk := ((((({} : Desk).openSession (newcomer true source)).openSession
      (newcomer true source)).register 0).close 1)
    KeepsLatest [.registered 0, .registered 1, .registered 0, .closed 1] desk ∧
      desk.current = some 0 := by
  intro source desk
  have hcourse : Course {} [.registered 0, .registered 1, .registered 0, .closed 1] desk :=
    (((Course.start.opened true source).opened true source).registered rfl).closed 1
  exact ⟨keepsLatest_of_course hcourse, rfl⟩

end Course

end Desk

end DeskAssistant
