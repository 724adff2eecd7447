import DeskAssistant.Proofs.Session.Change

/-!
# Stuck sessions

A session is stuck when it is open and busy although none of its jobs is outstanding: no thread and
no delivery is left that could make it idle, and it refuses every ask. This happens exactly when
one of its results was discarded while it was open. A result that is discarded leaves the session
as it is, and a session that was replaced in the registry is still open
(`stuck_iff_wasDiscarded`). A session outside the registry is never stuck.
-/

set_option autoImplicit false
set_option relaxedAutoImplicit false

namespace DeskAssistant.Office

/-- The session is open and busy, and none of its jobs is outstanding. -/
def Stuck (office : Office) (index : Nat) : Prop :=
  office.desk.isAlive index = true ∧ office.desk.isBusy index = true ∧
    ∀ {worker : Nat} {held : Worker}, office.desk.workers[worker]? = some held →
      held.session = index → ¬ office.Outstanding worker

/-! ### One step -/

theorem isAlive_iff {desk : Desk} {index : Nat} : desk.isAlive index = true ↔
    ∃ session, desk.sessions[index]? = some session ∧ session.alive = true := by
  simp [Desk.isAlive, Option.any_eq_true]

theorem isBusy_iff {desk : Desk} {index : Nat} : desk.isBusy index = true ↔
    ∃ session, desk.sessions[index]? = some session ∧ session.busy = true := by
  simp [Desk.isBusy, Option.any_eq_true]

/-- The session has an active job that is not outstanding. -/
def Deserted (office : Office) (index : Nat) : Prop :=
  ∃ session worker, office.desk.sessions[index]? = some session ∧
    session.active = some worker ∧ ¬ office.Outstanding worker

/-- A session is stuck on its active job. -/
theorem Sound.stuck_iff {office : Office} (hsound : office.Sound) {index : Nat} :
    office.Stuck index ↔ office.desk.isAlive index = true ∧ office.Deserted index := by
  refine and_congr_right fun _ ↦ ?_
  constructor
  · rintro ⟨hbusy, hidle⟩
    obtain ⟨session, hsession, hbusy⟩ := isBusy_iff.mp hbusy
    rw [hsound.busy_eq hsession] at hbusy
    obtain ⟨worker, hactive⟩ := Option.isSome_iff_exists.mp hbusy
    obtain ⟨held, hheld, howner⟩ := hsound.worker_of_active hsession hactive
    exact ⟨session, worker, hsession, hactive, hidle hheld howner⟩
  · rintro ⟨session, worker, hsession, hactive, hidle⟩
    refine ⟨isBusy_iff.mpr ⟨session, hsession, ?_⟩, ?_⟩
    · rw [hsound.busy_eq hsession, hactive]
      rfl
    · rintro other held hheld rfl houtstanding
      obtain ⟨same, hsame, hother⟩ := hsound.active_of_outstanding houtstanding hheld
      cases hsession.symm.trans hsame
      cases hactive.symm.trans hother
      exact hidle houtstanding

section Steps

variable {engines : Engines} {office next : Office} {index : Nat}

theorem Effect.quiet_or_length_eq (heffect : Effect engines office next) :
    Quiet office next ∨ next.desk.sessions.length = office.desk.sessions.length := by
  have happly {desk : Desk} {worker : Nat} {held : Worker}
      (hheld : desk.workers[worker]? = some held) (result : Job.Result) :
      (desk.apply worker result).sessions.length = desk.sessions.length := by
    obtain ⟨_, _, _, hsessions, _⟩ := Desk.apply_frame hheld result
    rw [hsessions]
    split_ifs <;> simp
  cases heffect with
  | quiet hquiet => exact Or.inl hquiet
  | started _ _ _ _ _ _ _ _ _ hnext => exact Or.inr (by simp [hnext, Desk.note, Desk.begun])
  | @refused session asking _ _ _ worker _ _ entries _ _ _ _ _ _ hnext =>
    have hheld := office.desk.getElem?_workers_begun session asking worker entries
    refine Or.inr ?_
    rw [hnext, happly hheld]
    simp [Desk.note, Desk.begun]
  | finished _ _ _ _ hnext => exact Or.inr (by simp [hnext, Desk.note, Desk.enqueued])
  | delivered _ hheld _ hnext =>
    refine Or.inr ?_
    rw [hnext, happly (Desk.getElem?_workers_dequeued hheld _)]
    rfl

theorem exists_session_before (heffect : Effect engines office next) {after : Session}
    (hafter : next.desk.sessions[index]? = some after) (hactive : after.active ≠ none) :
    ∃ before, office.desk.sessions[index]? = some before := by
  rcases heffect.quiet_or_length_eq with hquiet | hlength
  · rcases hquiet.session_before hafter with ⟨before, hbefore, _⟩ | ⟨_, _, _, rfl⟩
    · exact ⟨before, hbefore⟩
    · exact absurd rfl hactive
  · exact ⟨_, List.getElem?_eq_getElem (hlength ▸ lt_length_of_getElem?_eq_some hafter)⟩

theorem exists_session_after (heffect : Effect engines office next) {before : Session}
    (hbefore : office.desk.sessions[index]? = some before) :
    ∃ after, next.desk.sessions[index]? = some after := by
  rcases heffect.quiet_or_length_eq with hquiet | hlength
  · obtain ⟨after, hafter, _⟩ := hquiet.session_after hbefore
    exact ⟨after, hafter⟩
  · exact ⟨_, List.getElem?_eq_getElem (hlength ▸ lt_length_of_getElem?_eq_some hbefore)⟩

/-- A session gets stuck only in a step that discards one of its results. -/
theorem Stuck.before (hsound : office.Sound) (hnext : next.Sound)
    (heffect : Effect engines office next) (hstuck : next.Stuck index) :
    office.Stuck index ∨ office.Discards index next := by
  obtain ⟨hopen, after, worker, hafter, hactive, hidle⟩ := hnext.stuck_iff.mp hstuck
  obtain ⟨same, hsame, halive⟩ := isAlive_iff.mp hopen
  cases hafter.symm.trans hsame
  obtain ⟨before, hbefore⟩ := exists_session_before heffect hafter (by simp [hactive])
  cases change_of_effect hsound heffect hbefore hafter with
  | kept hwork houtstanding =>
    have hsame : before.active = some worker := by
      rw [hwork.1] at hactive
      exact hactive
    obtain ⟨held, hheld, howner⟩ := hsound.worker_of_active hbefore hsame
    refine Or.inl (hsound.stuck_iff.mpr ⟨isAlive_iff.mpr ⟨before, hbefore, hwork.2 halive⟩,
      before, worker, hbefore, hsame, fun hbeforehand ↦ hidle ?_⟩)
    exact (houtstanding hheld howner).mpr hbeforehand
  | begun _ hnew =>
    cases hactive
    exact absurd hnew hidle
  | settled _ _ _ _ _ _ _ => cases hactive
  | discarded hkept _ _ hdiscards =>
    refine Or.inr (hdiscards ?_)
    rcases hkept with rfl | rfl
    · exact halive
    · exact halive

/-- Nothing clears the active job of a session once it is not outstanding. -/
theorem Deserted.of_effect (hsound : office.Sound) (heffect : Effect engines office next)
    (hdeserted : office.Deserted index) : next.Deserted index := by
  obtain ⟨before, worker, hbefore, hactive, hidle⟩ := hdeserted
  obtain ⟨after, hafter⟩ := exists_session_after heffect hbefore
  have hbusy : before.busy = true := by
    rw [hsound.busy_eq hbefore, hactive]
    rfl
  cases change_of_effect hsound heffect hbefore hafter with
  | kept hwork houtstanding =>
    obtain ⟨held, hheld, howner⟩ := hsound.worker_of_active hbefore hactive
    refine ⟨after, worker, hafter, ?_, fun h ↦ hidle ((houtstanding hheld howner).mp h)⟩
    rw [hwork.1]
    exact hactive
  | begun hnotBusy _ => exact absurd hbusy (by simp [hnotBusy])
  | settled other _ _ hmiddle _ _ _ =>
    rcases hmiddle with ⟨_, hother, houtstanding⟩ | ⟨_, hnotBusy⟩
    · cases hactive.symm.trans hother
      exact absurd houtstanding hidle
    · exact absurd hbusy (by simp [hnotBusy])
  | discarded _ hother hotherIdle _ => exact ⟨after, _, hafter, hother, hotherIdle⟩

theorem Deserted.of_reaches (hreachable : Reachable engines office)
    (hdeserted : office.Deserted index) (hreaches : Reaches engines office next) :
    next.Deserted index := by
  induction hreaches with
  | refl => exact hdeserted
  | tail hmiddle hstep ih =>
    have hsound := sound_of_reachable (hreachable.trans hmiddle)
    exact ih.of_effect hsound (hsound.effect hstep)

end Steps

/-! ### Asks whose thread is refused -/

section Refusals

variable {office : Office} {index : Nat} {session : Session}

/-- An ask whose thread is refused makes a job and gives it up at once. -/
theorem ask_refused_eq (hsession : office.desk.sessions[index]? = some session)
    (halive : session.alive = true) (hbusy : session.busy = false) {prompt : String}
    (hprompt : prompt ≠ "") (options : Prompt.Options) (provider : Provider) (fault : Fault) :
    ∃ worker entries, worker.session = index ∧
      office.ask index prompt options provider (some fault) =
        (false, ⟨((office.desk.begun index session worker).note entries).apply
          office.desk.workers.length (Desk.startResult fault), office.running⟩) := by
  rcases office.desk.ask_cases index prompt options provider with
    ⟨_, _, hguard, _⟩ | ⟨asking, entries, hasking, _, _, _, heq⟩
  · exact absurd (hguard session hsession halive hbusy) hprompt
  · cases hsession.symm.trans hasking
    obtain ⟨noted, hnoted⟩ := Desk.startFailed_eq ((office.desk.begun index session
      (.ofAsk session index prompt options provider
        (Snapshot.capture session.source).2)).note entries) office.desk.workers.length fault
    rw [Desk.note_note] at hnoted
    exact ⟨.ofAsk session index prompt options provider (Snapshot.capture session.source).2,
      entries ++ noted, rfl, by simp only [Office.ask, heq, hnoted]⟩

/-- It settles the session when the session may show a result, and else leaves it with the job. -/
theorem session_ask_refused (hsession : office.desk.sessions[index]? = some session)
    (halive : session.alive = true) (hbusy : session.busy = false) {prompt : String}
    (hprompt : prompt ≠ "") (options : Prompt.Options) (provider : Provider) (fault : Fault) :
    ∃ next, office.ask index prompt options provider (some fault) = (false, next) ∧
      next.running = office.running ∧ next.desk.loop = office.desk.loop ∧
      (office.MayShow index session → next.desk.sessions[index]? =
        some ((session.begin office.desk.workers.length).settle (Desk.startResult fault))) ∧
      (¬ office.MayShow index session → next.desk.sessions[index]? =
        some (session.begin office.desk.workers.length)) := by
  obtain ⟨worker, entries, howner, hask⟩ :=
    ask_refused_eq hsession halive hbusy hprompt options provider fault
  have hbegun : ((office.desk.begun index session worker).note entries).sessions[index]? =
      some (session.begin office.desk.workers.length) :=
    List.getElem?_set_self (lt_length_of_getElem?_eq_some hsession)
  have hheld := office.desk.getElem?_workers_begun index session worker entries
  have hafter := getElem?_sessions_apply hheld (Desk.startResult fault) hbegun
  have howns := owns_begun_iff hsession howner entries
  refine ⟨_, hask, rfl, (Desk.apply_frame hheld _).2.1, fun hshow ↦ ?_, fun hshow ↦ ?_⟩
  · rw [hafter, if_pos ⟨howns.mpr hshow, howner⟩]
  · rw [hafter, if_neg fun h ↦ hshow (howns.mp h.1)]

/-- An ask on an idle session that answers no leaves it busy exactly when it made a job that the
session may not show. -/
theorem isBusy_ask_iff (hsession : office.desk.sessions[index]? = some session)
    (hbusy : session.busy = false) {prompt : String} {options : Prompt.Options}
    {provider : Provider} {refusal : Option Fault}
    (hno : (office.ask index prompt options provider refusal).1 = false) :
    (office.ask index prompt options provider refusal).2.desk.isBusy index = true ↔
      session.alive = true ∧ prompt ≠ "" ∧ ¬ office.MayShow index session := by
  by_cases hguard : session.alive = true ∧ prompt ≠ ""
  · obtain ⟨halive, hprompt⟩ := hguard
    cases refusal with
    | none =>
      rcases office.desk.ask_cases index prompt options provider with
        ⟨_, _, hguard, _⟩ | ⟨_, _, _, _, _, _, heq⟩
      · exact absurd (hguard session hsession halive hbusy) hprompt
      · simp only [Office.ask, heq] at hno
        exact absurd hno (by decide)
    | some fault =>
      obtain ⟨next, hask, _, _, hshown, hkept⟩ :=
        session_ask_refused hsession halive hbusy hprompt options provider fault
      rw [hask, isBusy_iff]
      by_cases hshow : office.MayShow index session
      · rw [hshown hshow]
        simp [Session.settle, hshow]
      · rw [hkept hshow]
        simp [Session.begin, hshow, halive, hprompt]
  · have hnotBusy : (office.ask index prompt options provider refusal).2.desk.isBusy index =
        office.desk.isBusy index := by
      rcases office.desk.ask_cases index prompt options provider with
        ⟨_, _, _, heq⟩ | ⟨asking, _, hasking, halive, _, hprompt, _⟩
      · simp only [Office.ask, heq]
        rfl
      · cases hsession.symm.trans hasking
        exact absurd ⟨halive, hprompt⟩ hguard
    rw [hnotBusy, isBusy_iff, hsession]
    constructor
    · rintro ⟨same, hsame, hsameBusy⟩
      cases hsame
      exact absurd hbusy (by simp [hsameBusy])
    · rintro ⟨halive, hprompt, _⟩
      exact absurd ⟨halive, hprompt⟩ hguard

end Refusals

/-! ### Discarded results -/

section Discarded

variable {engines : Engines} {office next : Office} {index : Nat}

theorem Discards.step (hdiscards : office.Discards index next) : Step engines office next := by
  cases hdiscards with
  | delivery _ _ _ _ _ _ => exact .deliver office
  | refusal options provider fault _ _ _ _ _ => exact .ask office index _ options provider _

/-- A session whose result was discarded is left with an active job. -/
theorem Discards.deserted (hsound : office.Sound) (hdiscards : office.Discards index next) :
    next.Deserted index := by
  cases hdiscards with
  | @delivery session worker held result rest hsession _ hshow hqueue hheld howner =>
    obtain ⟨same, found, hsame, hfound, hrest, _, hkept⟩ := deliver_of_sound hsound hqueue
    cases hheld.symm.trans hsame
    subst howner
    cases hsession.symm.trans hfound
    have hqueued : (worker, result) ∈ office.desk.loop.queue := by
      rw [hqueue]
      exact List.mem_cons_self
    obtain ⟨same, hsame, hactive⟩ := hsound.active_of_outstanding (Or.inr ⟨result, hqueued⟩) hheld
    cases hsession.symm.trans hsame
    refine ⟨session, worker, ?_, hactive, ?_⟩
    · rw [(hkept hshow).2]
      exact hsession
    · rw [Outstanding, hrest]
      exact (hsound.dequeued hqueue hheld).2
  | @refusal session prompt options provider fault hsession halive hshow hbusy hprompt =>
    obtain ⟨after, hask, hrunning, hloop, _, hkept⟩ :=
      session_ask_refused hsession halive hbusy hprompt options provider fault
    rw [hask]
    refine ⟨_, _, hkept hshow, rfl, ?_⟩
    rw [Outstanding, hrunning, hloop]
    exact hsound.not_outstanding_new

/-- At an earlier moment of the run a result of the session was discarded while it was open. -/
def WasDiscarded (engines : Engines) (office : Office) (index : Nat) : Prop :=
  ∃ before after, Reachable engines before ∧ before.Discards index after ∧
    Reaches engines after office

theorem Stuck.wasDiscarded (hreachable : Reachable engines office)
    (hstuck : office.Stuck index) : WasDiscarded engines office index := by
  induction hreachable with
  | refl =>
    obtain ⟨hopen, _⟩ := hstuck
    simp [Desk.isAlive] at hopen
  | tail hreaches hstep ih =>
    have hsound := sound_of_reachable hreaches
    have heffect := hsound.effect hstep
    rcases hstuck.before hsound (hsound.of_effect heffect) heffect with hbefore | hdiscards
    · obtain ⟨before, after, hbefore, hdiscards, hafter⟩ := ih hbefore
      exact ⟨before, after, hbefore, hdiscards, hafter.tail hstep⟩
    · exact ⟨_, _, hreaches, hdiscards, .refl⟩

/-- The exact condition: a session is stuck if it is open and one of its results was discarded
while it was; and an ask on an idle session that answers no leaves the session busy if it made a
job whose result the session may not show. -/
theorem stuck_iff_wasDiscarded (hreachable : Reachable engines office) (index : Nat) :
    (office.Stuck index ↔
        office.desk.isAlive index = true ∧ WasDiscarded engines office index) ∧
      ∀ {session : Session} {prompt : String} {options : Prompt.Options} {provider : Provider}
        {refusal : Option Fault}, office.desk.sessions[index]? = some session →
        session.busy = false →
        (office.ask index prompt options provider refusal).1 = false →
          ((office.ask index prompt options provider refusal).2.desk.isBusy index = true ↔
            session.alive = true ∧ prompt ≠ "" ∧ ¬ office.MayShow index session) := by
  refine ⟨⟨fun hstuck ↦ ⟨hstuck.1, hstuck.wasDiscarded hreachable⟩, ?_⟩,
    fun hsession hbusy hno ↦ isBusy_ask_iff hsession hbusy hno⟩
  rintro ⟨hopen, before, after, hbefore, hdiscards, hafter⟩
  have hdeserted := hdiscards.deserted (sound_of_reachable hbefore)
  exact (sound_of_reachable hreachable).stuck_iff.mpr
    ⟨hopen, hdeserted.of_reaches (hbefore.tail hdiscards.step) hafter⟩

/-- Two registered sessions, of which the second one replaces the first. -/
def replaced : Office :=
  let blank : ContextSource := .fixed fun _ ↦ none
  { desk := (Desk.openSession {} (.fresh true true blank)).openSession (.fresh true true blank) }

/-- The first session was asked before the second one replaced it, and then its result came. -/
def replacedWhileBusy : Office :=
  let blank : ContextSource := .fixed fun _ ↦ none
  let opened : Office := { desk := Desk.openSession {} (.fresh true true blank) }
  let asked := (opened.ask 0 "Explain the error." {} .codex none).2
  let replaced : Office := { asked with desk := asked.desk.openSession (.fresh true true blank) }
  (replaced.finish 0 (.ok { replyText := "Use the cluster option." })).deliver

theorem reachable_replaced : Reachable (fun _ _ _ _ ↦ True) replaced :=
  Relation.ReflTransGen.refl
    |>.tail (.openSession _ true true (.fixed fun _ ↦ none))
    |>.tail (.openSession _ true true (.fixed fun _ ↦ none))

theorem reachable_replacedWhileBusy : Reachable (fun _ _ _ _ ↦ True) replacedWhileBusy :=
  Relation.ReflTransGen.refl
    |>.tail (.openSession _ true true (.fixed fun _ ↦ none))
    |>.tail (.ask _ 0 "Explain the error." {} .codex none)
    |>.tail (.openSession _ true true (.fixed fun _ ↦ none))
    |>.tail (.finish _ (by decide) rfl trivial)
    |>.tail (.deliver _)

theorem not_outstanding_replacedWhileBusy (worker : Nat) :
    ¬ replacedWhileBusy.Outstanding worker := by
  rintro (hrunning | ⟨result, hqueued⟩)
  · exact absurd hrunning (List.not_mem_nil : worker ∉ [])
  · exact absurd hqueued (List.not_mem_nil : (worker, result) ∉ [])

theorem wasDiscarded_replacedWhileBusy :
    WasDiscarded (fun _ _ _ _ ↦ True) replacedWhileBusy 0 ∧
      (replaced.ask 0 "Explain the error." {} .codex (some .threadRefused)).2.desk.isBusy 0 =
        true := by
  have hstuck : replacedWhileBusy.Stuck 0 :=
    ⟨by decide, by decide, fun _ _ ↦ not_outstanding_replacedWhileBusy _⟩
  refine ⟨((stuck_iff_wasDiscarded reachable_replacedWhileBusy 0).1.mp hstuck).2, ?_⟩
  have hsession : replaced.desk.sessions[0]? =
      some (.fresh true true (.fixed fun _ ↦ none)) := rfl
  refine ((stuck_iff_wasDiscarded reachable_replaced 0).2 hsession rfl (by decide)).mpr
    ⟨rfl, by decide, ?_⟩
  rintro ⟨_, hcurrent⟩
  exact absurd (hcurrent rfl) (by decide)

/-- An open and busy session with nothing outstanding can be reached. -/
theorem busy_replacedWhileBusy :
    Reachable (fun _ _ _ _ ↦ True) replacedWhileBusy ∧
      replacedWhileBusy.desk.isAlive 0 = true ∧ replacedWhileBusy.desk.isBusy 0 = true ∧
        ∀ worker, ¬ replacedWhileBusy.Outstanding worker :=
  ⟨reachable_replacedWhileBusy, by decide, by decide, not_outstanding_replacedWhileBusy⟩

end Discarded

/-! ### Sessions outside the registry -/

theorem Change.inRegistry_eq {office next : Office} {index : Nat} {before after : Session}
    (hchange : Change office next index before after) : after.inRegistry = before.inRegistry := by
  cases hchange with
  | kept hwork _ =>
    rw [hwork.1]
  | begun _ _ => rfl
  | settled _ _ _ hmiddle _ _ _ =>
    rcases hmiddle with ⟨rfl, _⟩ | ⟨rfl, _⟩
    · rfl
    · rfl
  | discarded hafter _ _ _ =>
    rcases hafter with rfl | rfl
    · rfl
    · rfl

theorem Discards.inRegistry {office next : Office} {index : Nat} {before : Session}
    (hdiscards : office.Discards index next)
    (hbefore : office.desk.sessions[index]? = some before) : before.inRegistry = true := by
  by_contra hregistry
  cases hdiscards with
  | delivery hsession halive hshow _ _ _ =>
    cases hbefore.symm.trans hsession
    exact hshow ⟨halive, fun h ↦ absurd h hregistry⟩
  | refusal _ _ _ hsession halive hshow _ _ =>
    cases hbefore.symm.trans hsession
    exact hshow ⟨halive, fun h ↦ absurd h hregistry⟩

theorem inRegistry_of_stuck {engines : Engines} {office : Office} {index : Nat}
    {session : Session} (hreachable : Reachable engines office) (hstuck : office.Stuck index)
    (hsession : office.desk.sessions[index]? = some session) : session.inRegistry = true := by
  induction hreachable generalizing session with
  | refl => simp at hsession
  | tail hreaches hstep ih =>
    have hsound := sound_of_reachable hreaches
    have heffect := hsound.effect hstep
    have hnext := hsound.of_effect heffect
    obtain ⟨_, same, worker, hsame, hactive, _⟩ := hnext.stuck_iff.mp hstuck
    cases hsession.symm.trans hsame
    obtain ⟨before, hbefore⟩ := exists_session_before heffect hsession (by simp [hactive])
    rw [(change_of_effect hsound heffect hbefore hsession).inRegistry_eq]
    rcases hstuck.before hsound hnext heffect with hstuckBefore | hdiscards
    · exact ih hstuckBefore hbefore
    · exact hdiscards.inRegistry hbefore

end DeskAssistant.Office
