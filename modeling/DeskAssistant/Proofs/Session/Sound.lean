import DeskAssistant.Proofs.Session.Office
import Mathlib.Data.List.Nodup

/-!
# Sound offices

What every step keeps, in any order of steps. A worker is outstanding while its thread runs or its
result waits in the queue. `Sound` ties the workers to the sessions: an outstanding worker is the
active one of its session, its slot says how far it has come, a session is busy exactly when it
has an active worker, and no active worker's result has been applied. `sound_of_reachable` is the
run lemma; the steps are composed of a few changes, each with a lemma of its own.
-/

set_option autoImplicit false
set_option relaxedAutoImplicit false

namespace DeskAssistant

namespace Office

/-- The thread of the worker runs, or its result waits to be delivered. -/
def Outstanding (office : Office) (worker : Nat) : Prop :=
  worker ∈ office.running ∨ ∃ result, (worker, result) ∈ office.desk.loop.queue

structure Sound (office : Office) : Prop where
  isOpen : office.desk.loop.isOpen = true
  running_nodup : office.running.Nodup
  queue_nodup : (office.desk.loop.queue.map Prod.fst).Nodup
  applied_nodup : (office.desk.applied.map Prod.fst).Nodup
  slot_of_running : ∀ {worker : Nat}, worker ∈ office.running → ∃ held : Worker,
    office.desk.workers[worker]? = some held ∧ held.slot = ⟨false, false⟩
  slot_of_queued : ∀ {worker : Nat} {result : Job.Result},
    (worker, result) ∈ office.desk.loop.queue → ∃ held : Worker,
      office.desk.workers[worker]? = some held ∧ held.slot = ⟨true, false⟩
  active_of_outstanding : ∀ {worker : Nat} {held : Worker}, office.Outstanding worker →
    office.desk.workers[worker]? = some held → ∃ session : Session,
      office.desk.sessions[held.session]? = some session ∧ session.active = some worker
  worker_of_active : ∀ {index : Nat} {session : Session} {worker : Nat},
    office.desk.sessions[index]? = some session → session.active = some worker →
      ∃ held : Worker, office.desk.workers[worker]? = some held ∧ held.session = index
  busy_eq : ∀ {index : Nat} {session : Session}, office.desk.sessions[index]? = some session →
    session.busy = session.active.isSome
  not_applied_of_active : ∀ {index : Nat} {session : Session} {worker : Nat},
    office.desk.sessions[index]? = some session → session.active = some worker →
      ∀ result, (worker, result) ∉ office.desk.applied
  lt_of_applied : ∀ {worker : Nat} {result : Job.Result},
    (worker, result) ∈ office.desk.applied → worker < office.desk.workers.length

/-! ### Consequences -/

theorem Sound.active_eq_none {office : Office} (hsound : office.Sound) {index : Nat}
    {session : Session} (hsession : office.desk.sessions[index]? = some session)
    (hbusy : session.busy = false) : session.active = none := by
  have heq := hsound.busy_eq hsession
  rw [hbusy] at heq
  exact Option.isNone_iff_eq_none.mp (by simpa using heq.symm)

/-- The worker of the delivery to run next is outstanding only because of it. -/
theorem Sound.not_running_of_queued {office : Office} (hsound : office.Sound) {worker : Nat}
    {result : Job.Result} (hqueued : (worker, result) ∈ office.desk.loop.queue) :
    worker ∉ office.running := by
  intro hrunning
  obtain ⟨held, hworker, hslot⟩ := hsound.slot_of_running hrunning
  obtain ⟨other, hother, hposted⟩ := hsound.slot_of_queued hqueued
  rw [hworker] at hother
  cases hother
  rw [hslot] at hposted
  exact absurd (congrArg ResultSlot.posted hposted) (by decide)

theorem Sound.worker_of_outstanding {office : Office} (hsound : office.Sound) {worker : Nat}
    (houtstanding : office.Outstanding worker) :
    ∃ held, office.desk.workers[worker]? = some held := by
  rcases houtstanding with hrunning | ⟨result, hqueued⟩
  · obtain ⟨held, hworker, _⟩ := hsound.slot_of_running hrunning
    exact ⟨held, hworker⟩
  · obtain ⟨held, hworker, _⟩ := hsound.slot_of_queued hqueued
    exact ⟨held, hworker⟩

/-- The number of the next worker is not outstanding. -/
theorem Sound.not_outstanding_new {office : Office} (hsound : office.Sound) :
    ¬ office.Outstanding office.desk.workers.length := by
  intro houtstanding
  obtain ⟨held, hheld⟩ := hsound.worker_of_outstanding houtstanding
  exact absurd (lt_length_of_getElem?_eq_some hheld) (Nat.lt_irrefl _)

/-! ### Quiet changes -/

end Office

/-- The sessions agree in all but whether they are open and where they read their context, and no
closed session is open again. -/
def Session.SameWork (before after : Session) : Prop :=
  after = { before with alive := after.alive, source := after.source } ∧
    (after.alive = true → before.alive = true)

namespace Office

/-- A change that leaves alone the work of sessions, the workers, the loop and what was applied; at
most a new session is opened. -/
structure Quiet (office next : Office) : Prop where
  running_eq : next.running = office.running
  workers_eq : next.desk.workers = office.desk.workers
  loop_eq : next.desk.loop = office.desk.loop
  applied_eq : next.desk.applied = office.desk.applied
  session_after : ∀ {index : Nat} {before : Session},
    office.desk.sessions[index]? = some before → ∃ after : Session,
      next.desk.sessions[index]? = some after ∧ before.SameWork after
  session_before : ∀ {index : Nat} {after : Session}, next.desk.sessions[index]? = some after →
    (∃ before : Session, office.desk.sessions[index]? = some before ∧ before.SameWork after) ∨
      ∃ inRegistry reports source, after = .fresh inRegistry reports source

theorem quiet_current (office : Office) (current : Option Nat) (entries : List Entry) :
    Quiet office { office with desk := { office.desk with current }.note entries } :=
  ⟨rfl, rfl, rfl, rfl, fun h ↦ ⟨_, h, rfl, id⟩, fun h ↦ Or.inl ⟨_, h, rfl, id⟩⟩

theorem quiet_note (office : Office) (entries : List Entry) :
    Quiet office { office with desk := office.desk.note entries } :=
  quiet_current office office.desk.current entries

/-- A change to one session that is not about its work. -/
theorem quiet_modify (office : Office) (session : Nat) (change : Session → Session)
    (hchange : ∀ before : Session, before.SameWork (change before)) (current : Option Nat) :
    Quiet office { office with desk := { office.desk with
      sessions := office.desk.sessions.modify session change, current } } := by
  refine ⟨rfl, rfl, rfl, rfl, ?_, ?_⟩
  · intro index before hbefore
    dsimp only
    rw [List.getElem?_modify, hbefore]
    by_cases hindex : session = index
    · exact ⟨change before, by simp [hindex], hchange before⟩
    · exact ⟨before, by simp [hindex], rfl, id⟩
  · intro index after hafter
    dsimp only at hafter
    rw [List.getElem?_modify] at hafter
    obtain ⟨before, hbefore, heq⟩ := Option.map_eq_some_iff.mp hafter
    refine Or.inl ⟨before, hbefore, ?_⟩
    split_ifs at heq
    · exact heq ▸ hchange before
    · exact heq ▸ ⟨rfl, id⟩

theorem quiet_concat (office : Office) (inRegistry reports : Bool) (source : ContextSource)
    (current : Option Nat) :
    Quiet office { office with desk := { office.desk with
      sessions := office.desk.sessions ++ [.fresh inRegistry reports source], current } } := by
  refine ⟨rfl, rfl, rfl, rfl, ?_, ?_⟩
  · intro index before hbefore
    exact ⟨before, getElem?_append_of_eq_some hbefore _, rfl, id⟩
  · intro index after hafter
    rcases getElem?_concat_eq_some hafter with hbefore | ⟨_, rfl⟩
    · exact Or.inl ⟨after, hbefore, rfl, id⟩
    · exact Or.inr ⟨inRegistry, reports, source, rfl⟩

theorem quiet_close (office : Office) (session : Nat) :
    Quiet office { office with desk := office.desk.close session } := by
  have hclose : ∀ before : Session, before.SameWork { before with alive := false } :=
    fun before ↦ ⟨rfl, fun halive ↦ by cases halive⟩
  obtain ⟨current, heq⟩ := office.desk.exists_close_eq session
  rw [heq]
  exact quiet_modify office session _ hclose current

theorem quiet_openSession (office : Office) (inRegistry reports : Bool) (source : ContextSource) :
    Quiet office { office with
      desk := office.desk.openSession (.fresh inRegistry reports source) } := by
  obtain ⟨current, heq⟩ := office.desk.exists_openSession_eq (.fresh inRegistry reports source)
  rw [heq]
  exact quiet_concat office inRegistry reports source current

theorem quiet_present (office : Office) (inRegistry reports : Bool) (source : ContextSource) :
    Quiet office { office with
      desk := (office.desk.present (.fresh inRegistry reports source)).2 } := by
  unfold Desk.present
  cases office.desk.current.filter office.desk.isAlive with
  | some current => simpa using quiet_note office []
  | none =>
    obtain ⟨current, heq⟩ := office.desk.exists_openSession_eq (.fresh inRegistry reports source)
    dsimp only
    rw [heq]
    exact quiet_concat office inRegistry reports source _

theorem quiet_release (office : Office) (session : Nat) :
    Quiet office { office with desk := office.desk.release session } := by
  obtain ⟨current, heq⟩ := office.desk.exists_release_eq session
  rw [heq]
  simpa using quiet_current office current []

/-! ### What a step can do -/

/-- The changes that steps make. Everything that a step does to jobs is said here, with the
conditions under which it does so. -/
inductive Effect (engines : Engines) (office : Office) : Office → Prop
  | quiet {next : Office} (hquiet : Quiet office next) : Effect engines office next
  /-- A job begins and its thread is started. -/
  | started {session : Nat} {asking : Session} {prompt : String} (options : Prompt.Options)
      (provider : Provider) {worker : Worker} {next : Office} (entries : List Entry)
      (hasking : office.desk.sessions[session]? = some asking) (halive : asking.alive = true)
      (hbusy : asking.busy = false) (hprompt : prompt ≠ "")
      (hworker : worker = .ofAsk asking session prompt options provider
        (Snapshot.capture asking.source).2)
      (hask : office.ask session prompt options provider none = (true, next))
      (hnext : next = ⟨(office.desk.begun session asking worker).note entries,
        office.running ++ [office.desk.workers.length]⟩) : Effect engines office next
  /-- A job begins, but its thread is refused. -/
  | refused {session : Nat} {asking : Session} {prompt : String} (options : Prompt.Options)
      (provider : Provider) {worker : Worker} (fault : Fault) {next : Office}
      (entries : List Entry)
      (hasking : office.desk.sessions[session]? = some asking) (halive : asking.alive = true)
      (hbusy : asking.busy = false) (hprompt : prompt ≠ "")
      (hworker : worker = .ofAsk asking session prompt options provider
        (Snapshot.capture asking.source).2)
      (hask : office.ask session prompt options provider (some fault) = (false, next))
      (hnext : next = ⟨((office.desk.begun session asking worker).note entries).apply
        office.desk.workers.length (Desk.startResult fault), office.running⟩) :
      Effect engines office next
  /-- A thread ends, and its result waits to be delivered. -/
  | finished {worker : Nat} {held : Worker} {outcome : Except Fault Job.Result} {next : Office}
      (entries : List Entry) (hrunning : worker ∈ office.running)
      (hheld : office.desk.workers[worker]? = some held)
      (houtcome : engines held.session held.request held.snapshot outcome)
      (hnext : next = ⟨(office.desk.enqueued worker held (Desk.reported outcome)).note entries,
        office.running.erase worker⟩) : Effect engines office next
  /-- A result is taken out of the queue and applied or discarded. -/
  | delivered {worker : Nat} {held : Worker} {result : Job.Result}
      {rest : List (Nat × Job.Result)} {next : Office}
      (hqueue : office.desk.loop.queue = (worker, result) :: rest)
      (hheld : office.desk.workers[worker]? = some held) (hdeliver : office.deliver = next)
      (hnext : next = ⟨(office.desk.dequeued worker held rest).apply worker result,
        office.running⟩) : Effect engines office next

theorem effect_ask (engines : Engines) (office : Office) (session : Nat) (prompt : String)
    (options : Prompt.Options) (provider : Provider) (refusal : Option Fault) :
    Effect engines office (office.ask session prompt options provider refusal).2 := by
  rcases office.desk.ask_cases session prompt options provider with
    ⟨entries, _, _, heq⟩ | ⟨asking, entries, hasking, halive, hbusy, hprompt, heq⟩
  · have hask : office.ask session prompt options provider refusal =
        (false, { office with desk := office.desk.note entries }) := by
      simp only [Office.ask, heq]
    rw [hask]
    exact .quiet (quiet_note office entries)
  · cases refusal with
    | none =>
      refine .started options provider entries hasking halive hbusy hprompt rfl ?_ ?_
      · simp only [Office.ask, heq]
      · simp only [Office.ask, heq]
    | some fault =>
      obtain ⟨noted, hnoted⟩ := Desk.startFailed_eq ((office.desk.begun session asking
        (.ofAsk asking session prompt options provider
          (Snapshot.capture asking.source).2)).note entries) office.desk.workers.length fault
      refine .refused options provider fault (entries ++ noted) hasking halive hbusy hprompt rfl
        ?_ ?_
      · simp only [Office.ask, heq]
      · simp only [Office.ask, heq, hnoted, Desk.note_note]

/-- A running worker that ends gets its result into the queue. -/
theorem Sound.exists_finish_eq {office : Office} (hsound : office.Sound) {worker : Nat}
    {held : Worker} (hrunning : worker ∈ office.running)
    (hheld : office.desk.workers[worker]? = some held) (outcome : Except Fault Job.Result) :
    ∃ entries, (∀ entry ∈ entries, entry.isSilent = true) ∧ office.finish worker outcome =
      ⟨(office.desk.enqueued worker held (Desk.reported outcome)).note entries,
        office.running.erase worker⟩ := by
  obtain ⟨same, hsame, hslot⟩ := hsound.slot_of_running hrunning
  rw [hheld] at hsame
  cases hsame
  obtain ⟨entries, hsilent, heq⟩ :=
    Desk.finish_eq hheld (by rw [hslot]) hsound.isOpen outcome
  exact ⟨entries, hsilent, by rw [Office.finish, heq]⟩

/-- The delivery that the loop runs next is that of a worker whose slot has not been used. -/
theorem Sound.exists_deliver_eq {office : Office} (hsound : office.Sound) {worker : Nat}
    {result : Job.Result} {rest : List (Nat × Job.Result)}
    (hqueue : office.desk.loop.queue = (worker, result) :: rest) :
    ∃ held, office.desk.workers[worker]? = some held ∧ office.deliver =
      ⟨(office.desk.dequeued worker held rest).apply worker result, office.running⟩ := by
  have hqueued : (worker, result) ∈ office.desk.loop.queue := by
    rw [hqueue]
    exact List.mem_cons_self
  obtain ⟨held, hheld, hslot⟩ := hsound.slot_of_queued hqueued
  exact ⟨held, hheld, by rw [Office.deliver, Desk.runNext_of_cons hqueue hheld (by rw [hslot])]⟩

theorem Sound.effect_finish {engines : Engines} {office : Office} (hsound : office.Sound)
    {worker : Nat} {held : Worker} {outcome : Except Fault Job.Result}
    (hrunning : worker ∈ office.running) (hheld : office.desk.workers[worker]? = some held)
    (houtcome : engines held.session held.request held.snapshot outcome) :
    Effect engines office (office.finish worker outcome) := by
  obtain ⟨entries, _, heq⟩ := hsound.exists_finish_eq hrunning hheld outcome
  exact .finished entries hrunning hheld houtcome heq

theorem Sound.effect_deliver {office : Office} (hsound : office.Sound) (engines : Engines) :
    Effect engines office office.deliver := by
  cases hqueue : office.desk.loop.queue with
  | nil =>
    rw [Office.deliver, Desk.runNext_of_nil hqueue]
    simpa using Effect.quiet (quiet_note office [])
  | cons delivery rest =>
    obtain ⟨worker, result⟩ := delivery
    obtain ⟨held, hheld, heq⟩ := hsound.exists_deliver_eq hqueue
    exact .delivered hqueue hheld rfl heq

/-- From a sound office every step has one of these effects. -/
theorem Sound.effect {engines : Engines} {office next : Office} (hsound : office.Sound)
    (hstep : Step engines office next) : Effect engines office next := by
  cases hstep with
  | ask session prompt options provider refusal =>
    exact effect_ask engines office session prompt options provider refusal
  | finish hrunning hheld houtcome => exact hsound.effect_finish hrunning hheld houtcome
  | deliver => exact hsound.effect_deliver engines
  | close session => exact .quiet (quiet_close office session)
  | openSession inRegistry reports source =>
    exact .quiet (quiet_openSession office inRegistry reports source)
  | present inRegistry reports source =>
    exact .quiet (quiet_present office inRegistry reports source)
  | register hsession =>
    refine .quiet ?_
    simpa [Desk.register] using quiet_current office (some _) []
  | release session => exact .quiet (quiet_release office session)
  | note _ => exact .quiet (quiet_note office _)
  | changeSource session source =>
    exact .quiet (quiet_modify office session (fun before ↦ { before with source })
      (fun _ ↦ ⟨rfl, id⟩) office.desk.current)

/-! ### Every effect keeps an office sound -/

theorem sound_empty : Sound {} where
  isOpen := rfl
  running_nodup := List.nodup_nil
  queue_nodup := List.nodup_nil
  applied_nodup := List.nodup_nil
  slot_of_running := by simp
  slot_of_queued := by simp
  active_of_outstanding := by simp
  worker_of_active := by simp
  busy_eq := by simp
  not_applied_of_active := by simp
  lt_of_applied := by simp

theorem Sound.quiet {office next : Office} (hsound : office.Sound) (hquiet : Quiet office next) :
    next.Sound where
  isOpen := by rw [hquiet.loop_eq]; exact hsound.isOpen
  running_nodup := by rw [hquiet.running_eq]; exact hsound.running_nodup
  queue_nodup := by rw [hquiet.loop_eq]; exact hsound.queue_nodup
  applied_nodup := by rw [hquiet.applied_eq]; exact hsound.applied_nodup
  slot_of_running := by
    rw [hquiet.running_eq, hquiet.workers_eq]
    exact hsound.slot_of_running
  slot_of_queued := by
    rw [hquiet.loop_eq, hquiet.workers_eq]
    exact hsound.slot_of_queued
  active_of_outstanding := by
    intro worker held houtstanding hworker
    rw [Outstanding, hquiet.running_eq, hquiet.loop_eq] at houtstanding
    rw [hquiet.workers_eq] at hworker
    obtain ⟨before, hbefore, hactive⟩ := hsound.active_of_outstanding houtstanding hworker
    obtain ⟨after, hafter, hsame, _⟩ := hquiet.session_after hbefore
    exact ⟨after, hafter, by rw [hsame]; exact hactive⟩
  worker_of_active := by
    intro index after worker hafter hactive
    rw [hquiet.workers_eq]
    rcases hquiet.session_before hafter with ⟨before, hbefore, hsame, _⟩ | ⟨_, _, _, rfl⟩
    · rw [hsame] at hactive
      exact hsound.worker_of_active hbefore hactive
    · cases hactive
  busy_eq := by
    intro index after hafter
    rcases hquiet.session_before hafter with ⟨before, hbefore, hsame, _⟩ | ⟨_, _, _, rfl⟩
    · have hbusy := hsound.busy_eq hbefore
      rw [hsame]
      exact hbusy
    · rfl
  not_applied_of_active := by
    intro index after worker hafter hactive
    rw [hquiet.applied_eq]
    rcases hquiet.session_before hafter with ⟨before, hbefore, hsame, _⟩ | ⟨_, _, _, rfl⟩
    · rw [hsame] at hactive
      exact hsound.not_applied_of_active hbefore hactive
    · cases hactive
  lt_of_applied := by
    rw [hquiet.applied_eq, hquiet.workers_eq]
    exact hsound.lt_of_applied

theorem Sound.note {office : Office} (hsound : office.Sound) (entries : List Entry) :
    Sound { office with desk := office.desk.note entries } :=
  hsound.quiet (quiet_note office entries)

/-- A new job of a session that is not busy. No worker in flight belongs to that session. -/
theorem Sound.begun {office : Office} (hsound : office.Sound) {session : Nat} {asking : Session}
    {worker : Worker} (hasking : office.desk.sessions[session]? = some asking)
    (hbusy : asking.busy = false) (howner : worker.session = session) :
    Sound { office with desk := office.desk.begun session asking worker } where
  isOpen := hsound.isOpen
  running_nodup := hsound.running_nodup
  queue_nodup := hsound.queue_nodup
  applied_nodup := hsound.applied_nodup
  slot_of_running := by
    intro old hrunning
    obtain ⟨held, hheld, hslot⟩ := hsound.slot_of_running hrunning
    exact ⟨held, getElem?_append_of_eq_some hheld _, hslot⟩
  slot_of_queued := by
    intro old result hqueued
    obtain ⟨held, hheld, hslot⟩ := hsound.slot_of_queued hqueued
    exact ⟨held, getElem?_append_of_eq_some hheld _, hslot⟩
  active_of_outstanding := by
    intro old held houtstanding hheld
    obtain ⟨same, hsame⟩ := hsound.worker_of_outstanding houtstanding
    rw [Desk.begun, getElem?_append_of_eq_some hsame, Option.some.injEq] at hheld
    subst hheld
    obtain ⟨other, hother, hactive⟩ := hsound.active_of_outstanding houtstanding hsame
    have hne : session ≠ same.session := by
      rintro rfl
      rw [hasking] at hother
      cases hother
      rw [hsound.active_eq_none hasking hbusy] at hactive
      cases hactive
    refine ⟨other, ?_, hactive⟩
    rw [Desk.begun, List.getElem?_set_ne hne]
    exact hother
  worker_of_active := by
    intro index other active hother hactive
    rcases getElem?_set_eq_some hother with ⟨rfl, rfl⟩ | ⟨_, hold⟩
    · cases hactive
      exact ⟨worker, List.getElem?_concat_length, howner⟩
    · obtain ⟨held, hheld, hsession⟩ := hsound.worker_of_active hold hactive
      exact ⟨held, getElem?_append_of_eq_some hheld _, hsession⟩
  busy_eq := by
    intro index other hother
    rcases getElem?_set_eq_some hother with ⟨_, rfl⟩ | ⟨_, hold⟩
    · rfl
    · exact hsound.busy_eq hold
  not_applied_of_active := by
    intro index other active hother hactive result happlied
    rcases getElem?_set_eq_some hother with ⟨_, rfl⟩ | ⟨_, hold⟩
    · cases hactive
      exact absurd (hsound.lt_of_applied happlied) (Nat.lt_irrefl _)
    · exact hsound.not_applied_of_active hold hactive result happlied
  lt_of_applied := by
    intro old result happlied
    have hbound := hsound.lt_of_applied happlied
    simp only [Desk.begun, List.length_append, List.length_singleton]
    omega

/-- The thread of a worker starts; the worker is the active one of its session and its slot has not
been used. -/
theorem Sound.started {office : Office} (hsound : office.Sound) {worker : Nat} {held : Worker}
    (hworker : office.desk.workers[worker]? = some held) (hslot : held.slot = ⟨false, false⟩)
    (hidle : ¬ office.Outstanding worker) {session : Session}
    (hsession : office.desk.sessions[held.session]? = some session)
    (hactive : session.active = some worker) :
    Sound { office with running := office.running ++ [worker] } where
  isOpen := hsound.isOpen
  running_nodup := by
    rw [← List.concat_eq_append]
    exact List.Nodup.concat (fun hrunning ↦ hidle (Or.inl hrunning)) hsound.running_nodup
  queue_nodup := hsound.queue_nodup
  applied_nodup := hsound.applied_nodup
  slot_of_running := by
    intro other hother
    rcases List.mem_append.mp hother with hrunning | hnew
    · exact hsound.slot_of_running hrunning
    · rw [List.mem_singleton] at hnew
      subst hnew
      exact ⟨held, hworker, hslot⟩
  slot_of_queued := hsound.slot_of_queued
  active_of_outstanding := by
    intro other otherHeld houtstanding hother
    rcases houtstanding with hrunning | hqueued
    · rcases List.mem_append.mp hrunning with hold | hnew
      · exact hsound.active_of_outstanding (Or.inl hold) hother
      · rw [List.mem_singleton] at hnew
        subst hnew
        rw [hworker] at hother
        cases hother
        exact ⟨session, hsession, hactive⟩
    · exact hsound.active_of_outstanding (Or.inr hqueued) hother
  worker_of_active := hsound.worker_of_active
  busy_eq := hsound.busy_eq
  not_applied_of_active := hsound.not_applied_of_active
  lt_of_applied := hsound.lt_of_applied

/-- A change to the slot of one worker leaves every worker with its session. -/
theorem worker_set {workers : List Worker} {worker : Nat} {held : Worker} {slot : ResultSlot}
    (hworker : workers[worker]? = some held) {other index : Nat}
    (hother : ∃ otherHeld : Worker, workers[other]? = some otherHeld ∧
      otherHeld.session = index) :
    ∃ otherHeld : Worker, (workers.set worker { held with slot })[other]? = some otherHeld ∧
      otherHeld.session = index := by
  obtain ⟨otherHeld, hotherHeld, hsession⟩ := hother
  by_cases heq : worker = other
  · subst heq
    rw [hworker] at hotherHeld
    cases hotherHeld
    rw [List.getElem?_set_self (lt_length_of_getElem?_eq_some hworker)]
    exact ⟨_, rfl, hsession⟩
  · rw [List.getElem?_set_ne heq]
    exact ⟨otherHeld, hotherHeld, hsession⟩

/-- A worker that no longer runs uses its slot. If it is in the queue now, its slot says so; what
else is in the queue was there before. -/
theorem Sound.slot {office next : Office} (hsound : office.Sound) {worker : Nat} {held : Worker}
    {slot : ResultSlot} (hworker : office.desk.workers[worker]? = some held)
    (hworkers : next.desk.workers = office.desk.workers.set worker { held with slot })
    (hsessions : next.desk.sessions = office.desk.sessions)
    (happlied : next.desk.applied = office.desk.applied)
    (hopen : next.desk.loop.isOpen = true)
    (hrunning : next.running = office.running.erase worker)
    (hnodup : (next.desk.loop.queue.map Prod.fst).Nodup)
    (hqueued : ∀ other result, (other, result) ∈ next.desk.loop.queue →
      (worker ≠ other ∧ (other, result) ∈ office.desk.loop.queue) ∨
        (worker = other ∧ worker ∈ office.running ∧ slot = ⟨true, false⟩)) : next.Sound where
  isOpen := hopen
  running_nodup := by
    rw [hrunning]
    exact hsound.running_nodup.erase worker
  queue_nodup := hnodup
  applied_nodup := by
    rw [happlied]
    exact hsound.applied_nodup
  slot_of_running := by
    intro other hother
    rw [hrunning] at hother
    obtain ⟨hne, hold⟩ := hsound.running_nodup.mem_erase_iff.mp hother
    obtain ⟨otherHeld, hotherHeld, hslot⟩ := hsound.slot_of_running hold
    refine ⟨otherHeld, ?_, hslot⟩
    rw [hworkers, List.getElem?_set_ne hne.symm]
    exact hotherHeld
  slot_of_queued := by
    intro other result hother
    rw [hworkers]
    rcases hqueued other result hother with ⟨hne, hold⟩ | ⟨rfl, _, hslot⟩
    · obtain ⟨otherHeld, hotherHeld, hslot⟩ := hsound.slot_of_queued hold
      rw [List.getElem?_set_ne hne]
      exact ⟨otherHeld, hotherHeld, hslot⟩
    · rw [List.getElem?_set_self (lt_length_of_getElem?_eq_some hworker)]
      exact ⟨_, rfl, hslot⟩
  active_of_outstanding := by
    intro other otherHeld houtstanding hother
    have hbefore : office.Outstanding other := by
      rcases houtstanding with hrun | ⟨result, hwaits⟩
      · rw [hrunning] at hrun
        exact Or.inl (List.mem_of_mem_erase hrun)
      · rcases hqueued other result hwaits with ⟨_, hold⟩ | ⟨rfl, hran, _⟩
        · exact Or.inr ⟨result, hold⟩
        · exact Or.inl hran
    rw [hworkers] at hother
    rw [hsessions]
    rcases getElem?_set_eq_some hother with ⟨rfl, rfl⟩ | ⟨_, hold⟩
    · obtain ⟨session, hsession, hactive⟩ := hsound.active_of_outstanding hbefore hworker
      exact ⟨session, hsession, hactive⟩
    · exact hsound.active_of_outstanding hbefore hold
  worker_of_active := by
    rw [hsessions, hworkers]
    intro index session other hsession hactive
    exact worker_set hworker (hsound.worker_of_active hsession hactive)
  busy_eq := by
    rw [hsessions]
    exact hsound.busy_eq
  not_applied_of_active := by
    rw [hsessions, happlied]
    exact hsound.not_applied_of_active
  lt_of_applied := by
    rw [happlied, hworkers, List.length_set]
    exact hsound.lt_of_applied

/-- The worker that ends moves from the running threads into the queue. -/
theorem Sound.enqueued {office : Office} (hsound : office.Sound) {worker : Nat} {held : Worker}
    (hrunning : worker ∈ office.running)
    (hworker : office.desk.workers[worker]? = some held) (result : Job.Result) :
    Sound ⟨office.desk.enqueued worker held result, office.running.erase worker⟩ := by
  have hslot : ({ held.slot with posted := true } : ResultSlot) = ⟨true, false⟩ := by
    obtain ⟨same, hsame, hslot⟩ := hsound.slot_of_running hrunning
    rw [hworker] at hsame
    cases hsame
    rw [hslot]
  refine hsound.slot hworker rfl rfl rfl hsound.isOpen rfl ?_ ?_
  · rw [Desk.enqueued, List.map_append, List.map_singleton, ← List.concat_eq_append]
    refine List.Nodup.concat (fun hmem ↦ ?_) hsound.queue_nodup
    obtain ⟨⟨_, other⟩, hqueued, rfl⟩ := List.mem_map.mp hmem
    exact hsound.not_running_of_queued hqueued hrunning
  · intro other otherResult hother
    rcases List.mem_append.mp hother with hold | hnew
    · refine Or.inl ⟨?_, hold⟩
      rintro rfl
      exact hsound.not_running_of_queued hold hrunning
    · cases List.mem_singleton.mp hnew
      exact Or.inr ⟨rfl, hrunning, hslot⟩

/-- The delivery to run next is taken out of the queue, and then its worker is no longer
outstanding. -/
theorem Sound.dequeued {office : Office} (hsound : office.Sound) {worker : Nat} {held : Worker}
    {result : Job.Result} {rest : List (Nat × Job.Result)}
    (hqueue : office.desk.loop.queue = (worker, result) :: rest)
    (hworker : office.desk.workers[worker]? = some held) :
    Sound { office with desk := office.desk.dequeued worker held rest } ∧
      ¬ Outstanding { office with desk := office.desk.dequeued worker held rest } worker := by
  have hqueued : (worker, result) ∈ office.desk.loop.queue := by
    rw [hqueue]
    exact List.mem_cons_self
  have hnotRunning := hsound.not_running_of_queued hqueued
  have hnodup := hsound.queue_nodup
  rw [hqueue, List.map_cons, List.nodup_cons] at hnodup
  have hne {other : Nat} {otherResult : Job.Result} (hother : (other, otherResult) ∈ rest) :
      worker ≠ other := by
    rintro rfl
    exact hnodup.1 (List.mem_map.mpr ⟨_, hother, rfl⟩)
  constructor
  · refine hsound.slot hworker rfl rfl rfl hsound.isOpen (List.erase_of_not_mem hnotRunning).symm
      hnodup.2 fun other otherResult hother ↦ Or.inl ⟨hne hother, ?_⟩
    rw [hqueue]
    exact List.mem_cons_of_mem _ hother
  · rintro (hrunning | ⟨otherResult, hother⟩)
    · exact hnotRunning hrunning
    · exact hne hother rfl

/-- The result of a worker that is no longer outstanding is settled in its session. -/
theorem Sound.settled {office : Office} (hsound : office.Sound) {worker : Nat} {held : Worker}
    (hworker : office.desk.workers[worker]? = some held) (hidle : ¬ office.Outstanding worker)
    (howns : office.desk.owns worker = true) (result : Job.Result) :
    Sound { office with desk := office.desk.settled worker held result } := by
  obtain ⟨session, hsession, _, hactive, _⟩ := (Desk.owns_iff hworker).mp howns
  have hsettled {index : Nat} {after : Session}
      (hafter : (office.desk.settled worker held result).sessions[index]? = some after) :
      (index = held.session ∧ after.active = none ∧ after.busy = false) ∨
        (index ≠ held.session ∧ office.desk.sessions[index]? = some after) := by
    rw [Desk.settled, List.getElem?_modify] at hafter
    obtain ⟨before, hbefore, heq⟩ := Option.map_eq_some_iff.mp hafter
    split_ifs at heq with hindex
    · subst heq
      exact Or.inl ⟨hindex.symm, rfl, rfl⟩
    · subst heq
      exact Or.inr ⟨fun h ↦ hindex h.symm, hbefore⟩
  exact {
    isOpen := hsound.isOpen
    running_nodup := hsound.running_nodup
    queue_nodup := hsound.queue_nodup
    applied_nodup := by
      rw [Desk.settled, List.map_append, List.map_singleton, ← List.concat_eq_append]
      refine List.Nodup.concat (fun hmem ↦ ?_) hsound.applied_nodup
      obtain ⟨⟨_, other⟩, happlied, rfl⟩ := List.mem_map.mp hmem
      exact hsound.not_applied_of_active hsession hactive other happlied
    slot_of_running := hsound.slot_of_running
    slot_of_queued := hsound.slot_of_queued
    active_of_outstanding := by
      intro other otherHeld houtstanding hother
      obtain ⟨before, hbefore, hbeforeActive⟩ :=
        hsound.active_of_outstanding houtstanding hother
      have hne : held.session ≠ otherHeld.session := by
        intro heq
        rw [← heq, hsession] at hbefore
        cases hbefore
        rw [hactive] at hbeforeActive
        cases hbeforeActive
        exact hidle houtstanding
      refine ⟨before, ?_, hbeforeActive⟩
      rw [Desk.settled, List.getElem?_modify, hbefore]
      simp [hne]
    worker_of_active := by
      intro index after other hafter hafterActive
      rcases hsettled hafter with ⟨_, hnone, _⟩ | ⟨_, hbefore⟩
      · rw [hnone] at hafterActive
        cases hafterActive
      · exact hsound.worker_of_active hbefore hafterActive
    busy_eq := by
      intro index after hafter
      rcases hsettled hafter with ⟨_, hnone, hbusy⟩ | ⟨_, hbefore⟩
      · rw [hnone, hbusy]
        rfl
      · exact hsound.busy_eq hbefore
    not_applied_of_active := by
      intro index after other hafter hafterActive otherResult happlied
      rcases hsettled hafter with ⟨_, hnone, _⟩ | ⟨hindex, hbefore⟩
      · rw [hnone] at hafterActive
        cases hafterActive
      · rcases List.mem_append.mp happlied with hold | hnew
        · exact hsound.not_applied_of_active hbefore hafterActive otherResult hold
        · rw [List.mem_singleton] at hnew
          cases hnew
          obtain ⟨same, hsame, howner⟩ := hsound.worker_of_active hbefore hafterActive
          rw [hworker] at hsame
          cases hsame
          exact hindex howner.symm
    lt_of_applied := by
      intro other otherResult happlied
      rcases List.mem_append.mp happlied with hold | hnew
      · exact hsound.lt_of_applied hold
      · rw [List.mem_singleton] at hnew
        cases hnew
        exact lt_length_of_getElem?_eq_some hworker }

/-- A result of a worker that is no longer outstanding is applied or discarded. -/
theorem Sound.apply {office : Office} (hsound : office.Sound) {worker : Nat} {held : Worker}
    (hworker : office.desk.workers[worker]? = some held) (hidle : ¬ office.Outstanding worker)
    (result : Job.Result) :
    Sound { office with desk := office.desk.apply worker result } := by
  cases howns : office.desk.owns worker with
  | true =>
    obtain ⟨entries, heq⟩ := Desk.apply_of_owns hworker howns result
    rw [heq]
    exact (hsound.settled hworker hidle howns result).note entries
  | false =>
    obtain ⟨entries, _, heq⟩ := Desk.apply_of_not_owns hworker howns result
    rw [heq]
    exact hsound.note entries

/-! ### Steps and runs -/

/-- A new worker is not outstanding before its thread is started, and it is the active one of its
session. -/
theorem Sound.begun_worker {office : Office} (hsound : office.Sound) {session : Nat}
    {asking : Session} {worker : Worker}
    (hasking : office.desk.sessions[session]? = some asking)
    (howner : worker.session = session) :
    (office.desk.begun session asking worker).workers[office.desk.workers.length]? =
        some worker ∧
      (office.desk.begun session asking worker).sessions[worker.session]? =
          some (asking.begin office.desk.workers.length) ∧
        ¬ office.Outstanding office.desk.workers.length := by
  refine ⟨List.getElem?_concat_length, ?_, hsound.not_outstanding_new⟩
  rw [howner]
  exact List.getElem?_set_self (lt_length_of_getElem?_eq_some hasking)

theorem Sound.of_effect {engines : Engines} {office next : Office} (hsound : office.Sound)
    (heffect : Effect engines office next) : next.Sound := by
  cases heffect with
  | quiet hquiet => exact hsound.quiet hquiet
  | @started session asking _ _ _ worker _ entries hasking _ hbusy _ hworker _ hnext =>
    subst hnext
    have howner : worker.session = session := by
      rw [hworker]
      rfl
    have hslot : worker.slot = ⟨false, false⟩ := by
      rw [hworker]
      rfl
    obtain ⟨hnew, hsession, hidle⟩ := hsound.begun_worker hasking howner
    exact ((hsound.begun hasking hbusy howner).note entries).started hnew hslot hidle hsession
      rfl
  | @refused session asking _ _ _ worker fault _ entries hasking _ hbusy _ hworker _ hnext =>
    subst hnext
    have howner : worker.session = session := by
      rw [hworker]
      rfl
    obtain ⟨hnew, _, hidle⟩ := hsound.begun_worker hasking howner
    exact ((hsound.begun hasking hbusy howner).note entries).apply hnew hidle _
  | finished entries hrunning hheld _ hnext =>
    subst hnext
    exact (hsound.enqueued hrunning hheld _).note entries
  | delivered hqueue hheld _ hnext =>
    subst hnext
    obtain ⟨hdequeued, hidle⟩ := hsound.dequeued hqueue hheld
    exact hdequeued.apply (Desk.getElem?_workers_dequeued hheld _) hidle _

theorem sound_of_reachable {engines : Engines} {office : Office}
    (hreachable : Reachable engines office) : office.Sound := by
  induction hreachable with
  | refl => exact sound_empty
  | tail _ hstep ih => exact ih.of_effect (ih.effect hstep)

end Office

end DeskAssistant
