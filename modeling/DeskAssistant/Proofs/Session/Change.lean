import DeskAssistant.Proofs.Session.Sound

/-!
# Changes of a session

What one step does to one session. Its work is left alone, a job begins, one of its own results is
applied, or one of its own results is discarded; `change_of_effect` says that there is nothing
else. `Discards` names the steps that discard the result of an open session. The session is in the
registry then, but another one is current there, or none.
-/

set_option autoImplicit false
set_option relaxedAutoImplicit false

namespace DeskAssistant.Office

/-- The session may show a result: it is open, and it is the current one if it is kept in the
registry. -/
def MayShow (office : Office) (index : Nat) (session : Session) : Prop :=
  session.alive = true ∧ (session.inRegistry = true → office.desk.current = some index)

/-- The step discards a result of the open session: the next delivery is for it, or the thread of
its new job is refused, while it may show nothing. -/
inductive Discards (office : Office) (index : Nat) : Office → Prop
  | delivery {session : Session} {worker : Nat} {held : Worker} {result : Job.Result}
      {rest : List (Nat × Job.Result)} (hsession : office.desk.sessions[index]? = some session)
      (halive : session.alive = true) (hshow : ¬ office.MayShow index session)
      (hqueue : office.desk.loop.queue = (worker, result) :: rest)
      (hheld : office.desk.workers[worker]? = some held) (howner : held.session = index) :
      Discards office index office.deliver
  | refusal {session : Session} {prompt : String} (options : Prompt.Options)
      (provider : Provider) (fault : Fault)
      (hsession : office.desk.sessions[index]? = some session) (halive : session.alive = true)
      (hshow : ¬ office.MayShow index session) (hbusy : session.busy = false)
      (hprompt : prompt ≠ "") :
      Discards office index (office.ask index prompt options provider (some fault)).2

inductive Change (office next : Office) (index : Nat) (before : Session) : Session → Prop
  /-- Its work is left alone, and the same of its jobs are outstanding. -/
  | kept {after : Session} (hwork : before.SameWork after)
      (houtstanding : ∀ {worker : Nat} {held : Worker},
        office.desk.workers[worker]? = some held → held.session = index →
          (next.Outstanding worker ↔ office.Outstanding worker)) :
      Change office next index before after
  /-- A job begins, and its thread is started. -/
  | begun (hbusy : before.busy = false)
      (hnew : next.Outstanding office.desk.workers.length) :
      Change office next index before (before.begin office.desk.workers.length)
  /-- A result of its own is applied: of a job that was outstanding, or of one that begins. -/
  | settled {middle : Session} (worker : Nat) (held : Worker) (result : Job.Result)
      (hmiddle : (middle = before ∧ before.active = some worker ∧ office.Outstanding worker) ∨
        (middle = before.begin worker ∧ before.busy = false))
      (happlied : next.desk.applied = office.desk.applied ++ [(worker, result)])
      (hheld : next.desk.workers[worker]? = some held) (howner : held.session = index) :
      Change office next index before (middle.settle result)
  /-- A result of its own is discarded, and its job stays the active one. -/
  | discarded {after : Session} {worker : Nat}
      (hafter : after = before ∨ after = before.begin worker)
      (hactive : after.active = some worker) (hidle : ¬ next.Outstanding worker)
      (hdiscards : before.alive = true → Discards office index next) :
      Change office next index before after

/-! ### Sessions of a changed desk -/

section Sessions

variable {desk : Desk} {index : Nat} {before : Session}

theorem getElem?_sessions_begun {session : Nat} {asking : Session} (worker : Worker)
    (hasking : desk.sessions[session]? = some asking)
    (hbefore : desk.sessions[index]? = some before) :
    (session = index ∧ asking = before ∧ (desk.begun session asking worker).sessions[index]? =
        some (before.begin desk.workers.length)) ∨
      (session ≠ index ∧ (desk.begun session asking worker).sessions[index]? = some before) := by
  by_cases hindex : session = index
  · subst hindex
    rw [hasking, Option.some.injEq] at hbefore
    subst hbefore
    exact Or.inl ⟨rfl, rfl, List.getElem?_set_self (lt_length_of_getElem?_eq_some hasking)⟩
  · refine Or.inr ⟨hindex, ?_⟩
    rw [Desk.begun, List.getElem?_set_ne hindex]
    exact hbefore

theorem getElem?_sessions_apply {worker : Nat} {held : Worker}
    (hworker : desk.workers[worker]? = some held) (result : Job.Result)
    (hbefore : desk.sessions[index]? = some before) :
    (desk.apply worker result).sessions[index]? =
      some (if desk.owns worker ∧ held.session = index then before.settle result else before) := by
  obtain ⟨_, _, _, hsessions, _⟩ := Desk.apply_frame hworker result
  rw [hsessions]
  by_cases howns : desk.owns worker = true
  · by_cases hindex : held.session = index <;>
      simp [howns, hindex, hbefore]
  · simp [howns, hbefore]

/-- A new job is owned by its session when the session may show a result. -/
theorem owns_begun_iff {office : Office} {session : Nat} {asking : Session} {worker : Worker}
    (hasking : office.desk.sessions[session]? = some asking) (howner : worker.session = session)
    (entries : List Entry) :
    ((office.desk.begun session asking worker).note entries).owns office.desk.workers.length =
      true ↔ office.MayShow session asking := by
  have hheld := office.desk.getElem?_workers_begun session asking worker entries
  have hbegun : ((office.desk.begun session asking worker).note
      entries).sessions[worker.session]? = some (asking.begin office.desk.workers.length) := by
    rw [howner]
    exact List.getElem?_set_self (lt_length_of_getElem?_eq_some hasking)
  rw [Desk.owns_iff hheld]
  constructor
  · rintro ⟨same, hsame, halive, _, hcurrent⟩
    cases hbegun.symm.trans hsame
    exact ⟨halive, howner ▸ hcurrent⟩
  · rintro ⟨halive, hcurrent⟩
    exact ⟨_, hbegun, halive, rfl, howner ▸ hcurrent⟩

/-- A delivered job is owned by its session when the session may show a result. -/
theorem owns_dequeued_iff {office : Office} {worker : Nat} {held : Worker} {session : Session}
    (hheld : office.desk.workers[worker]? = some held)
    (hsession : office.desk.sessions[held.session]? = some session)
    (hactive : session.active = some worker) (rest : List (Nat × Job.Result)) :
    (office.desk.dequeued worker held rest).owns worker = true ↔
      office.MayShow held.session session := by
  rw [Desk.owns_iff (Desk.getElem?_workers_dequeued hheld rest)]
  constructor
  · rintro ⟨same, hsame, halive, _, hcurrent⟩
    cases hsession.symm.trans hsame
    exact ⟨halive, hcurrent⟩
  · rintro ⟨halive, hcurrent⟩
    exact ⟨session, hsession, halive, hactive, hcurrent⟩

end Sessions

/-! ### Changes of the effects -/

section Effects

variable {engines : Engines} {office next : Office} {index : Nat} {before after : Session}

theorem change_of_quiet (hquiet : Quiet office next)
    (hbefore : office.desk.sessions[index]? = some before)
    (hafter : next.desk.sessions[index]? = some after) :
    Change office next index before after := by
  obtain ⟨same, hsame, hwork⟩ := hquiet.session_after hbefore
  rw [hafter, Option.some.injEq] at hsame
  subst hsame
  refine .kept hwork fun _ _ ↦ ?_
  rw [Outstanding, Outstanding, hquiet.running_eq, hquiet.loop_eq]

theorem change_of_started {session : Nat} {asking : Session} {worker : Worker}
    {entries : List Entry} (hasking : office.desk.sessions[session]? = some asking)
    (hbusy : asking.busy = false)
    (hnext : next = ⟨(office.desk.begun session asking worker).note entries,
      office.running ++ [office.desk.workers.length]⟩)
    (hbefore : office.desk.sessions[index]? = some before)
    (hafter : next.desk.sessions[index]? = some after) :
    Change office next index before after := by
  subst hnext
  have hnew : office.desk.workers.length ∈ office.running ++ [office.desk.workers.length] :=
    List.mem_append_right _ (List.mem_singleton_self _)
  rcases getElem?_sessions_begun worker hasking hbefore with ⟨_, rfl, hbegun⟩ | ⟨_, hsame⟩
  · cases hbegun.symm.trans hafter
    exact .begun hbusy (Or.inl hnew)
  · cases hsame.symm.trans hafter
    refine .kept ⟨rfl, id⟩ fun {other otherHeld} hother _ ↦ ?_
    have hne : other ≠ office.desk.workers.length :=
      Nat.ne_of_lt (lt_length_of_getElem?_eq_some hother)
    simp [Outstanding, hne, Desk.begun, Desk.note]

theorem change_of_refused (hsound : office.Sound) {session : Nat} {asking : Session}
    {prompt : String} {options : Prompt.Options} {provider : Provider} {worker : Worker}
    {fault : Fault} {entries : List Entry}
    (hasking : office.desk.sessions[session]? = some asking) (halive : asking.alive = true)
    (hbusy : asking.busy = false) (hprompt : prompt ≠ "") (howner : worker.session = session)
    (hask : (office.ask session prompt options provider (some fault)).2 = next)
    (hnext : next = ⟨((office.desk.begun session asking worker).note entries).apply
      office.desk.workers.length (Desk.startResult fault), office.running⟩)
    (hbefore : office.desk.sessions[index]? = some before)
    (hafter : next.desk.sessions[index]? = some after) :
    Change office next index before after := by
  have hheld := office.desk.getElem?_workers_begun session asking worker entries
  obtain ⟨hworkers, hloop, _, _, happlied⟩ := Desk.apply_frame hheld (Desk.startResult fault)
  have houtstanding (other : Nat) : next.Outstanding other ↔ office.Outstanding other := by
    rw [hnext, Outstanding, Outstanding, hloop]
    rfl
  have hidle : ¬ next.Outstanding office.desk.workers.length := by
    rw [houtstanding]
    exact hsound.not_outstanding_new
  rcases getElem?_sessions_begun worker hasking hbefore with
    ⟨hindex, rfl, hbegun⟩ | ⟨hindex, hsame⟩
  · have hsession := getElem?_sessions_apply hheld (Desk.startResult fault) hbegun
    rw [hnext, hsession, Option.some.injEq] at hafter
    by_cases howns : ((office.desk.begun session asking worker).note
        entries).owns office.desk.workers.length = true
    · rw [if_pos ⟨howns, howner.trans hindex⟩] at hafter
      subst hafter
      rw [if_pos howns] at happlied
      refine .settled _ worker _ (Or.inr ⟨rfl, hbusy⟩) ?_ ?_ (howner.trans hindex)
      · rw [hnext]
        exact happlied
      · rw [hnext, hworkers]
        exact hheld
    · rw [if_neg fun h ↦ howns h.1] at hafter
      subst hafter
      refine .discarded (Or.inr rfl) rfl hidle fun _ ↦ ?_
      rw [← hask]
      subst hindex
      exact .refusal options provider fault hasking halive
        (fun hshow ↦ howns ((owns_begun_iff hasking howner entries).mpr hshow)) hbusy hprompt
  · have hsession := getElem?_sessions_apply hheld (Desk.startResult fault) hsame
    rw [hnext, hsession, if_neg fun h ↦ hindex (howner.symm.trans h.2), Option.some.injEq]
      at hafter
    subst hafter
    exact .kept ⟨rfl, id⟩ fun _ _ ↦ houtstanding _

theorem change_of_finished {worker : Nat} {held : Worker} {result : Job.Result}
    {entries : List Entry} (hsound : office.Sound) (hrunning : worker ∈ office.running)
    (hnext : next = ⟨(office.desk.enqueued worker held result).note entries,
      office.running.erase worker⟩)
    (hbefore : office.desk.sessions[index]? = some before)
    (hafter : next.desk.sessions[index]? = some after) :
    Change office next index before after := by
  subst hnext
  cases hbefore.symm.trans hafter
  refine .kept ⟨rfl, id⟩ fun {other _} _ _ ↦ ?_
  simp only [Outstanding, hsound.running_nodup.mem_erase_iff, Desk.enqueued, Desk.note,
    List.mem_append, List.mem_singleton, Prod.mk.injEq, exists_or, exists_and_left,
    exists_eq, and_true]
  by_cases heq : other = worker
  · subst heq
    simp [hrunning]
  · simp [heq]

theorem change_of_delivered (hsound : office.Sound) {worker : Nat} {held : Worker}
    {result : Job.Result} {rest : List (Nat × Job.Result)}
    (hqueue : office.desk.loop.queue = (worker, result) :: rest)
    (hheld : office.desk.workers[worker]? = some held) (hdeliver : office.deliver = next)
    (hnext : next = ⟨(office.desk.dequeued worker held rest).apply worker result,
      office.running⟩)
    (hbefore : office.desk.sessions[index]? = some before)
    (hafter : next.desk.sessions[index]? = some after) :
    Change office next index before after := by
  have hqueued : (worker, result) ∈ office.desk.loop.queue := by
    rw [hqueue]
    exact List.mem_cons_self
  have hused := Desk.getElem?_workers_dequeued hheld rest
  obtain ⟨hworkers, hloop, _, _, happlied⟩ := Desk.apply_frame hused result
  have houtstanding (other : Nat) : next.Outstanding other ↔
      Outstanding { office with desk := office.desk.dequeued worker held rest } other := by
    rw [hnext, Outstanding, Outstanding, hloop]
  have hsession := getElem?_sessions_apply hused result
    (show (office.desk.dequeued worker held rest).sessions[index]? = some before from hbefore)
  by_cases hindex : held.session = index
  · subst hindex
    obtain ⟨same, hsame, hactive⟩ := hsound.active_of_outstanding (Or.inr ⟨result, hqueued⟩) hheld
    cases hbefore.symm.trans hsame
    rw [hnext, hsession, Option.some.injEq] at hafter
    by_cases howns : (office.desk.dequeued worker held rest).owns worker = true
    · rw [if_pos ⟨howns, rfl⟩] at hafter
      subst hafter
      rw [if_pos howns] at happlied
      refine .settled worker { held with slot := { held.slot with consumed := true } } _
        (Or.inl ⟨rfl, hactive, Or.inr ⟨result, hqueued⟩⟩) ?_ ?_ rfl
      · rw [hnext]
        exact happlied
      · rw [hnext, hworkers]
        exact hused
    · rw [if_neg fun h ↦ howns h.1] at hafter
      subst hafter
      refine .discarded (Or.inl rfl) hactive ?_ fun halive ↦ ?_
      · rw [houtstanding]
        exact (hsound.dequeued hqueue hheld).2
      · rw [← hdeliver]
        exact .delivery hbefore halive
          (fun hshow ↦ howns ((owns_dequeued_iff hheld hbefore hactive rest).mpr hshow)) hqueue
          hheld rfl
  · rw [hnext, hsession, if_neg fun h ↦ hindex h.2, Option.some.injEq] at hafter
    subst hafter
    refine .kept ⟨rfl, id⟩ fun {other otherHeld} hother howner ↦ ?_
    have hne : other ≠ worker := by
      rintro rfl
      cases hheld.symm.trans hother
      exact hindex howner
    rw [houtstanding]
    simp [Outstanding, hqueue, hne, Desk.dequeued]

theorem change_of_effect (hsound : office.Sound) (heffect : Effect engines office next)
    (hbefore : office.desk.sessions[index]? = some before)
    (hafter : next.desk.sessions[index]? = some after) :
    Change office next index before after := by
  cases heffect with
  | quiet hquiet => exact change_of_quiet hquiet hbefore hafter
  | started options provider entries hasking _ hbusy _ _ _ hnext =>
    exact change_of_started hasking hbusy hnext hbefore hafter
  | refused options provider fault entries hasking halive hbusy hprompt hworker hask hnext =>
    exact change_of_refused hsound hasking halive hbusy hprompt (by rw [hworker]; rfl)
      (by rw [hask]) hnext hbefore hafter
  | finished entries hrunning _ _ hnext =>
    exact change_of_finished hsound hrunning hnext hbefore hafter
  | delivered hqueue hheld hdeliver hnext =>
    exact change_of_delivered hsound hqueue hheld hdeliver hnext hbefore hafter

end Effects

/-! ### Deliveries -/

/-- The delivery to run next is applied to its session, which then shows the result and has no job
any more, exactly when that session may show it; otherwise no session changes. -/
theorem deliver_of_sound {office : Office} (hsound : office.Sound) {worker : Nat}
    {result : Job.Result} {rest : List (Nat × Job.Result)}
    (hqueue : office.desk.loop.queue = (worker, result) :: rest) :
    ∃ held session, office.desk.workers[worker]? = some held ∧
      office.desk.sessions[held.session]? = some session ∧
      office.deliver.desk.loop.queue = rest ∧
      (office.MayShow held.session session →
        office.deliver.desk.applied = office.desk.applied ++ [(worker, result)] ∧
        office.deliver.desk.sessions = office.desk.sessions.set held.session { session with
          busy := false
          active := none
          lastReply := result.replyText
          lastInsert := result.insertText }) ∧
      (¬ office.MayShow held.session session →
        office.deliver.desk.applied = office.desk.applied ∧
        office.deliver.desk.sessions = office.desk.sessions) := by
  have hqueued : (worker, result) ∈ office.desk.loop.queue := by
    rw [hqueue]
    exact List.mem_cons_self
  obtain ⟨held, hheld, hdeliver⟩ := hsound.exists_deliver_eq hqueue
  obtain ⟨session, hsession, hactive⟩ :=
    hsound.active_of_outstanding (Or.inr ⟨result, hqueued⟩) hheld
  have hused := Desk.getElem?_workers_dequeued hheld rest
  have howns := owns_dequeued_iff hheld hsession hactive rest
  obtain ⟨_, hloop, _, hsessions, happlied⟩ := Desk.apply_frame hused result
  refine ⟨held, session, hheld, hsession, ?_, fun hmay ↦ ?_, fun hmay ↦ ?_⟩
  · rw [hdeliver, hloop]
    rfl
  · rw [hdeliver, hsessions, happlied, if_pos (howns.mpr hmay), if_pos (howns.mpr hmay)]
    refine ⟨rfl, ?_⟩
    change office.desk.sessions.modify held.session (·.settle result) = _
    rw [List.modify_eq_set_getElem?, hsession]
    rfl
  · have hnot : ¬ (office.desk.dequeued worker held rest).owns worker = true :=
      fun h ↦ hmay (howns.mp h)
    rw [hdeliver, hsessions, happlied, if_neg hnot, if_neg hnot]
    exact ⟨rfl, rfl⟩

end DeskAssistant.Office
