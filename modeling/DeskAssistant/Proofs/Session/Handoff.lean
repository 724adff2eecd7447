import DeskAssistant.Proofs.Session.Change

/-!
# Exactly-once handoff

Where applied results come from. Each worker was made by one ask, and it carries the request and
the snapshot of that moment whatever happens to the context later (`AskedFor`); a result that is
applied is what the engine gave for them, or what stands for a thread that was refused
(`Explains`). `Traced` says this of the workers, the queue and the applied results of an office,
and every step keeps it. `handsOffOnce_of_reachable` puts it together: at most one result for each
job, in its own session, and at delivery exactly if the session is open and current.
-/

set_option autoImplicit false
set_option relaxedAutoImplicit false

namespace DeskAssistant.Office

/-! ### Where a job and its result come from -/

/-- At an earlier moment of the run the worker's session was open and not busy, and it was asked
for this job: the worker's snapshot is what the session's source showed then. `refusal` is the
fault with which the thread was refused, if it was. -/
def AskedFor (engines : Engines) (office : Office) (worker : Nat) (held : Worker)
    (refusal : Option Fault) : Prop :=
  ∃ (before : Office) (asking : Session) (prompt : String) (options : Prompt.Options)
    (provider : Provider),
    Reachable engines before ∧ before.desk.sessions[held.session]? = some asking ∧
      asking.alive = true ∧ asking.busy = false ∧ prompt ≠ "" ∧
      worker = before.desk.workers.length ∧
      held.snapshot = (Snapshot.capture asking.source).2 ∧
      held.request =
        ⟨provider, Prompt.full prompt held.snapshot options, options.toolsEnabled⟩ ∧
      Reaches engines (before.ask held.session prompt options provider refusal).2 office

/-- The result is what the engine gave for the worker's request and snapshot, or, when the thread
was refused, what stands for the refusal. -/
def Explains (engines : Engines) (held : Worker) : Option Fault → Job.Result → Prop
  | none, result => ∃ outcome, engines held.session held.request held.snapshot outcome ∧
      result = Desk.reported outcome
  | some fault, result => result = Desk.startResult fault

theorem AskedFor.step {engines : Engines} {office next : Office} {worker : Nat} {held : Worker}
    {refusal : Option Fault} (hasked : AskedFor engines office worker held refusal)
    (hstep : Step engines office next) : AskedFor engines next worker held refusal := by
  obtain ⟨before, asking, prompt, options, provider, hreachable, hasking, halive, hbusy, hprompt,
    hnumber, hsnapshot, hrequest, hreaches⟩ := hasked
  exact ⟨before, asking, prompt, options, provider, hreachable, hasking, halive, hbusy, hprompt,
    hnumber, hsnapshot, hrequest, hreaches.tail hstep⟩

/-- The ask of this moment. -/
theorem askedFor_ask {engines : Engines} {office : Office} {session : Nat} {asking : Session}
    {prompt : String} (options : Prompt.Options) (provider : Provider) (refusal : Option Fault)
    (hreachable : Reachable engines office)
    (hasking : office.desk.sessions[session]? = some asking) (halive : asking.alive = true)
    (hbusy : asking.busy = false) (hprompt : prompt ≠ "") :
    AskedFor engines (office.ask session prompt options provider refusal).2
      office.desk.workers.length (.ofAsk asking session prompt options provider
        (Snapshot.capture asking.source).2) refusal :=
  ⟨office, asking, prompt, options, provider, hreachable, hasking, halive, hbusy, hprompt, rfl,
    rfl, rfl, .refl⟩

/-! ### The invariant -/

structure Traced (engines : Engines) (office : Office) : Prop where
  asked : ∀ {worker : Nat} {held : Worker}, office.desk.workers[worker]? = some held →
    ∃ refusal, AskedFor engines office worker held refusal ∧
      (office.Outstanding worker → refusal = none)
  queued : ∀ {worker : Nat} {held : Worker} {result : Job.Result},
    (worker, result) ∈ office.desk.loop.queue → office.desk.workers[worker]? = some held →
      Explains engines held none result
  applied : ∀ {worker : Nat} {result : Job.Result}, (worker, result) ∈ office.desk.applied →
    ∃ held refusal, office.desk.workers[worker]? = some held ∧
      AskedFor engines office worker held refusal ∧ Explains engines held refusal result

theorem traced_empty (engines : Engines) : Traced engines {} where
  asked := by simp
  queued := by simp
  applied := by simp

theorem Traced.quiet {engines : Engines} {office next : Office} (htraced : Traced engines office)
    (hstep : Step engines office next) (hquiet : Quiet office next) : Traced engines next where
  asked := by
    intro worker held hheld
    rw [hquiet.workers_eq] at hheld
    obtain ⟨refusal, hasked, hnone⟩ := htraced.asked hheld
    refine ⟨refusal, hasked.step hstep, fun houtstanding ↦ hnone ?_⟩
    rw [Outstanding, hquiet.running_eq, hquiet.loop_eq] at houtstanding
    exact houtstanding
  queued := by
    rw [hquiet.loop_eq, hquiet.workers_eq]
    exact htraced.queued
  applied := by
    intro worker result happlied
    rw [hquiet.applied_eq] at happlied
    obtain ⟨held, refusal, hheld, hasked, hexplains⟩ := htraced.applied happlied
    rw [hquiet.workers_eq]
    exact ⟨held, refusal, hheld, hasked.step hstep, hexplains⟩

/-- A new job changes neither the queue nor what it explains: its number is new. -/
theorem Traced.begun {engines : Engines} {office next : Office} (hsound : office.Sound)
    (htraced : Traced engines office) (hstep : Step engines office next) {worker : Worker}
    {refusal : Option Fault} {late : List (Nat × Job.Result)}
    (hworkers : next.desk.workers = office.desk.workers ++ [worker])
    (hloop : next.desk.loop = office.desk.loop)
    (hrunning : ∀ other, other ∈ next.running → other ∈ office.running ∨
      (other = office.desk.workers.length ∧ refusal = none))
    (happlied : next.desk.applied = office.desk.applied ++ late)
    (hlate : ∀ other result, (other, result) ∈ late →
      other = office.desk.workers.length ∧ Explains engines worker refusal result)
    (hnew : AskedFor engines next office.desk.workers.length worker refusal) :
    Traced engines next := by
  have hbound {other : Nat} (houtstanding : office.Outstanding other) :
      other < office.desk.workers.length := by
    obtain ⟨held, hheld⟩ := hsound.worker_of_outstanding houtstanding
    exact lt_length_of_getElem?_eq_some hheld
  have hbefore {other : Nat} (houtstanding : next.Outstanding other) :
      office.Outstanding other ∨ (other = office.desk.workers.length ∧ refusal = none) := by
    rcases houtstanding with hother | ⟨result, hqueued⟩
    · exact (hrunning other hother).imp Or.inl id
    · rw [hloop] at hqueued
      exact Or.inl (Or.inr ⟨result, hqueued⟩)
  refine ⟨?_, ?_, ?_⟩
  · intro other held hheld
    rw [hworkers] at hheld
    rcases getElem?_concat_eq_some hheld with hold | ⟨rfl, rfl⟩
    · obtain ⟨cause, hasked, hnone⟩ := htraced.asked hold
      refine ⟨cause, hasked.step hstep, fun houtstanding ↦ ?_⟩
      rcases hbefore houtstanding with hout | ⟨rfl, _⟩
      · exact hnone hout
      · exact absurd (lt_length_of_getElem?_eq_some hold) (Nat.lt_irrefl _)
    · refine ⟨refusal, hnew, fun houtstanding ↦ ?_⟩
      rcases hbefore houtstanding with hout | ⟨_, hnone⟩
      · exact absurd (hbound hout) (Nat.lt_irrefl _)
      · exact hnone
  · intro other held result hqueued hheld
    rw [hloop] at hqueued
    rw [hworkers] at hheld
    rcases getElem?_concat_eq_some hheld with hold | ⟨rfl, _⟩
    · exact htraced.queued hqueued hold
    · exact absurd (hbound (Or.inr ⟨result, hqueued⟩)) (Nat.lt_irrefl _)
  · intro other result hother
    rw [happlied] at hother
    rcases List.mem_append.mp hother with hold | hrecent
    · obtain ⟨held, cause, hheld, hasked, hexplains⟩ := htraced.applied hold
      refine ⟨held, cause, ?_, hasked.step hstep, hexplains⟩
      rw [hworkers]
      exact getElem?_append_of_eq_some hheld _
    · obtain ⟨rfl, hexplains⟩ := hlate other result hrecent
      refine ⟨worker, refusal, ?_, hnew, hexplains⟩
      rw [hworkers]
      exact List.getElem?_concat_length

/-- When the slot of one worker changes, every worker keeps its job; what is new in the queue and
among the applied results has to be explained. -/
theorem Traced.slot {engines : Engines} {office next : Office} (htraced : Traced engines office)
    (hstep : Step engines office next) {worker : Nat} {held : Worker} {slot : ResultSlot}
    (hheld : office.desk.workers[worker]? = some held)
    (hworkers : next.desk.workers = office.desk.workers.set worker { held with slot })
    (houtstanding : ∀ other, next.Outstanding other → office.Outstanding other)
    (hqueued : ∀ other result, (other, result) ∈ next.desk.loop.queue →
      (other, result) ∈ office.desk.loop.queue ∨
        (other = worker ∧ Explains engines held none result))
    (happlied : ∀ other result, (other, result) ∈ next.desk.applied →
      (other, result) ∈ office.desk.applied ∨
        (other = worker ∧ (worker, result) ∈ office.desk.loop.queue)) :
    Traced engines next := by
  refine ⟨?_, ?_, ?_⟩
  · intro other otherHeld hother
    rw [hworkers] at hother
    rcases getElem?_set_eq_some hother with ⟨rfl, rfl⟩ | ⟨_, hold⟩
    · obtain ⟨cause, hasked, hnone⟩ := htraced.asked hheld
      exact ⟨cause, hasked.step hstep, fun hout ↦ hnone (houtstanding _ hout)⟩
    · obtain ⟨cause, hasked, hnone⟩ := htraced.asked hold
      exact ⟨cause, hasked.step hstep, fun hout ↦ hnone (houtstanding _ hout)⟩
  · intro other otherHeld result hresult hother
    rw [hworkers] at hother
    rcases getElem?_set_eq_some hother with ⟨rfl, rfl⟩ | ⟨hne, hold⟩
    · rcases hqueued _ _ hresult with hbefore | ⟨_, hexplains⟩
      · have hexplains := htraced.queued hbefore hheld
        exact hexplains
      · exact hexplains
    · rcases hqueued _ _ hresult with hbefore | ⟨heq, _⟩
      · exact htraced.queued hbefore hold
      · exact absurd heq hne
  · intro other result hresult
    -- The worker as it was, whether or not it is the one whose slot changed.
    have hkept {otherHeld : Worker} (hother : office.desk.workers[other]? = some otherHeld) :
        ∃ slot, next.desk.workers[other]? = some { otherHeld with slot } := by
      rw [hworkers]
      by_cases heq : worker = other
      · subst heq
        rw [hheld] at hother
        cases hother
        exact ⟨slot, List.getElem?_set_self (lt_length_of_getElem?_eq_some hheld)⟩
      · rw [List.getElem?_set_ne heq]
        exact ⟨otherHeld.slot, hother⟩
    rcases happlied other result hresult with hbefore | ⟨rfl, hbefore⟩
    · obtain ⟨otherHeld, cause, hother, hasked, hexplains⟩ := htraced.applied hbefore
      obtain ⟨after, hafter⟩ := hkept hother
      exact ⟨{ otherHeld with slot := after }, cause, hafter, hasked.step hstep, by
        cases cause <;> exact hexplains⟩
    · obtain ⟨cause, hasked, hnone⟩ := htraced.asked hheld
      have hcause := hnone (Or.inr ⟨result, hbefore⟩)
      subst hcause
      obtain ⟨after, hafter⟩ := hkept hheld
      have hexplains := htraced.queued hbefore hheld
      exact ⟨{ held with slot := after }, none, hafter, hasked.step hstep, hexplains⟩

theorem Traced.of_effect {engines : Engines} {office next : Office} (hsound : office.Sound)
    (htraced : Traced engines office) (hreachable : Reachable engines office)
    (hstep : Step engines office next) (heffect : Effect engines office next) :
    Traced engines next := by
  cases heffect with
  | quiet hquiet => exact htraced.quiet hstep hquiet
  | @started session asking prompt options provider worker _ entries hasking halive hbusy hprompt
      hworker hask hnext =>
    have hnew := askedFor_ask options provider none hreachable hasking halive hbusy hprompt
    rw [hask, ← hworker] at hnew
    subst hnext
    refine htraced.begun hsound hstep rfl rfl ?_ (List.append_nil _).symm (by simp) hnew
    intro other hother
    rcases List.mem_append.mp hother with hold | hnewWorker
    · exact Or.inl hold
    · exact Or.inr ⟨List.mem_singleton.mp hnewWorker, rfl⟩
  | @refused session asking prompt options provider worker fault _ entries hasking halive hbusy
      hprompt hworker hask hnext =>
    have hnew := askedFor_ask options provider (some fault) hreachable hasking halive hbusy
      hprompt
    rw [hask, ← hworker] at hnew
    subst hnext
    have hheld := office.desk.getElem?_workers_begun session asking worker entries
    obtain ⟨hworkers, hloop, _, _, happlied⟩ :=
      Desk.apply_frame hheld (Desk.startResult fault)
    cases howns : ((office.desk.begun session asking worker).note entries).owns
        office.desk.workers.length with
    | true =>
      rw [if_pos howns] at happlied
      refine htraced.begun hsound hstep hworkers hloop (fun _ ↦ Or.inl) happlied ?_ hnew
      intro other result hother
      cases List.mem_singleton.mp hother
      exact ⟨rfl, rfl⟩
    | false =>
      rw [if_neg (by rw [howns]; decide)] at happlied
      exact htraced.begun hsound hstep hworkers hloop (fun _ ↦ Or.inl)
        (happlied.trans (List.append_nil _).symm) (by simp) hnew
  | @finished worker held outcome _ entries hrunning hheld houtcome hnext =>
    subst hnext
    have hqueued : ∀ other result,
        (other, result) ∈ office.desk.loop.queue ++ [(worker, Desk.reported outcome)] →
          (other, result) ∈ office.desk.loop.queue ∨
            (other = worker ∧ Explains engines held none result) := by
      intro other result hother
      rcases List.mem_append.mp hother with hold | hrecent
      · exact Or.inl hold
      · cases List.mem_singleton.mp hrecent
        exact Or.inr ⟨rfl, outcome, houtcome, rfl⟩
    refine htraced.slot hstep hheld rfl ?_ hqueued fun _ _ h ↦ Or.inl h
    rintro other (hother | ⟨result, hother⟩)
    · exact Or.inl (List.mem_of_mem_erase hother)
    · rcases hqueued other result hother with hold | ⟨rfl, _⟩
      · exact Or.inr ⟨result, hold⟩
      · exact Or.inl hrunning
  | @delivered worker held result rest _ hqueue hheld _ hnext =>
    subst hnext
    obtain ⟨hworkers, hloop, _, _, happlied⟩ :=
      Desk.apply_frame (Desk.getElem?_workers_dequeued hheld rest) result
    have hrest : ∀ other otherResult,
        (other, otherResult) ∈ ((office.desk.dequeued worker held rest).apply worker
          result).loop.queue → (other, otherResult) ∈ office.desk.loop.queue := by
      intro other otherResult hother
      rw [hloop] at hother
      rw [hqueue]
      exact List.mem_cons_of_mem _ hother
    refine htraced.slot hstep hheld hworkers ?_ (fun _ _ h ↦ Or.inl (hrest _ _ h)) ?_
    · rintro other (hother | ⟨otherResult, hother⟩)
      · exact Or.inl hother
      · exact Or.inr ⟨otherResult, hrest _ _ hother⟩
    · intro other otherResult hother
      rw [happlied] at hother
      split_ifs at hother
      · rcases List.mem_append.mp hother with hold | hrecent
        · exact Or.inl hold
        · cases List.mem_singleton.mp hrecent
          refine Or.inr ⟨rfl, ?_⟩
          rw [hqueue]
          exact List.mem_cons_self
      · exact Or.inl hother

theorem traced_of_reachable {engines : Engines} {office : Office}
    (hreachable : Reachable engines office) : Traced engines office := by
  induction hreachable with
  | refl => exact traced_empty engines
  | tail hreaches hstep ih =>
    have hsound := sound_of_reachable hreaches
    exact ih.of_effect hsound hreaches hstep (hsound.effect hstep)

/-! ### What a session shows -/

/-- The reply of a session changes only when a result of one of its own workers is applied. -/
theorem reply_of_change {office next : Office} {index : Nat} {before after : Session}
    (hchange : Change office next index before after) :
    (after.lastReply = before.lastReply ∧ after.lastInsert = before.lastInsert) ∨
      ∃ worker held result, next.desk.applied = office.desk.applied ++ [(worker, result)] ∧
        next.desk.workers[worker]? = some held ∧ held.session = index ∧
        after.lastReply = result.replyText ∧ after.lastInsert = result.insertText := by
  cases hchange with
  | kept hwork _ =>
    rw [hwork.1]
    exact Or.inl ⟨rfl, rfl⟩
  | begun _ _ => exact Or.inl ⟨rfl, rfl⟩
  | settled worker held result _ happlied hheld howner =>
    exact Or.inr ⟨worker, held, result, happlied, hheld, howner, rfl, rfl⟩
  | discarded hafter _ _ _ =>
    rcases hafter with rfl | rfl
    · exact Or.inl ⟨rfl, rfl⟩
    · exact Or.inl ⟨rfl, rfl⟩

/-! ### Exactly once -/

/-- Each job hands at most one result over, to the session that asked for it. -/
structure HandsOffOnce (engines : Engines) (office : Office) : Prop where
  applied_nodup : (office.desk.applied.map Prod.fst).Nodup
  /-- An applied result is what the engine gave on the request and snapshot of the ask, or it
  stands for the refusal of the thread. -/
  applied_explained : ∀ {worker : Nat} {result : Job.Result},
    (worker, result) ∈ office.desk.applied → ∃ held refusal,
      office.desk.workers[worker]? = some held ∧
        AskedFor engines office worker held refusal ∧ Explains engines held refusal result
  /-- Whatever step comes next, a session shows something new only from one of its own jobs. -/
  shown_own : ∀ {next : Office}, Step engines office next →
    ∀ {index : Nat} {before after : Session}, office.desk.sessions[index]? = some before →
      next.desk.sessions[index]? = some after →
        (after.lastReply = before.lastReply ∧ after.lastInsert = before.lastInsert) ∨
          ∃ worker held result,
            next.desk.applied = office.desk.applied ++ [(worker, result)] ∧
              next.desk.workers[worker]? = some held ∧ held.session = index ∧
              after.lastReply = result.replyText ∧ after.lastInsert = result.insertText
  /-- A delivery is applied exactly when the session of its job may show it. -/
  delivered : ∀ {worker : Nat} {result : Job.Result} {rest : List (Nat × Job.Result)},
    office.desk.loop.queue = (worker, result) :: rest → ∃ held session,
      office.desk.workers[worker]? = some held ∧
        office.desk.sessions[held.session]? = some session ∧
        office.deliver.desk.loop.queue = rest ∧
        (office.MayShow held.session session →
          office.deliver.desk.applied = office.desk.applied ++ [(worker, result)] ∧
          office.deliver.desk.sessions = office.desk.sessions.set held.session { session with
            busy := false
            active := none
            lastReply := result.replyText
            lastInsert := result.insertText }) ∧
        (¬ office.MayShow held.session session →
          office.deliver.desk.applied = office.desk.applied ∧
          office.deliver.desk.sessions = office.desk.sessions)

theorem handsOffOnce_of_reachable {engines : Engines} {office : Office}
    (hreachable : Reachable engines office) : HandsOffOnce engines office := by
  have hsound := sound_of_reachable hreachable
  exact {
    applied_nodup := hsound.applied_nodup
    applied_explained := (traced_of_reachable hreachable).applied
    shown_own := fun hstep _ _ _ hbefore hafter ↦
      reply_of_change (change_of_effect hsound (hsound.effect hstep) hbefore hafter)
    delivered := deliver_of_sound hsound }

/-- An office after its only session was asked, lost its context, and was handed a reply. -/
def afterOneJob : Office :=
  let blank : ContextSource := .fixed fun _ ↦ none
  let opened : Office := { desk := Desk.openSession {} (.fresh true true blank) }
  let asked := (opened.ask 0 "Explain the error." {} .codex none).2
  let changed : Office := { asked with desk := asked.desk.changeSource 0 fun _ ↦ .missing }
  (changed.finish 0 (.ok { replyText := "Use the cluster option." })).deliver

theorem reachable_afterOneJob : Reachable (fun _ _ _ _ ↦ True) afterOneJob :=
  Relation.ReflTransGen.refl
    |>.tail (.openSession _ true true (.fixed fun _ ↦ none))
    |>.tail (.ask _ 0 "Explain the error." {} .codex none)
    |>.tail (.changeSource _ 0 fun _ ↦ .missing)
    |>.tail (.finish _ (by decide) rfl trivial)
    |>.tail (.deliver _)

theorem handsOffOnce_afterOneJob :
    afterOneJob.desk.applied.length = 1 ∧ HandsOffOnce (fun _ _ _ _ ↦ True) afterOneJob :=
  ⟨by decide, handsOffOnce_of_reachable reachable_afterOneJob⟩

end DeskAssistant.Office
