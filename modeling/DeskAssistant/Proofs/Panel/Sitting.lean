import DeskAssistant.Program.Window
import DeskAssistant.Proofs.Panel.Face
import DeskAssistant.Proofs.Sequence
import DeskAssistant.Proofs.Session.Growth
import DeskAssistant.Proofs.Session.InStep

/-!
# Sittings at a panel

A sitting is a panel in use. Events follow each other in any order: the user edits, switches,
clicks and closes, started workers end, the loop runs a delivery, another surface takes the
session's place in the registry or leaves it, the context changes.

The panel knows nothing of the session but what it is told. What it shows is a fold over the
history of the desk (`Sitting.Coupled`, which every event keeps), the calls in this history are
those that the state of the session accounts for (`Session.Kept`), and the fold over such calls can
be computed (`Panel.face_of_kept`). So in every sitting the panel and its session agree, and text
leaves the panel only as the user has asked (`Sitting.safe_of_run`). The window of the
program is one of these sittings (`Window.exists_sitting_eq`).
-/

set_option autoImplicit false
set_option relaxedAutoImplicit false

namespace DeskAssistant

variable {σ : Type}

/-! ### Events -/

/-- What can happen to a panel in use and to the session behind it. -/
inductive Surface.Event (σ : Type) where
  | edit (prompt : String)
  | toggle (toggle : Toggle) (value : Bool)
  | select (index : Int)
  /-- The user will give these answers to the next questions. -/
  | answers (answers : List Bool)
  | display
  | click (around : Surroundings σ) (button : Button)
  | close (around : Surroundings σ)
  /-- A started worker does its job. -/
  | work (around : Surroundings σ) (worker : Nat)
  /-- The loop runs its next delivery. -/
  | deliver
  /-- The session takes its place in the registry. -/
  | register
  /-- The session's place in the registry is taken from it. -/
  | release
  | changeSource (source : ContextSource)
  /-- What the agents and the preferences depend on changes. -/
  | elsewhere (state : σ)

def Surface.Event.isClick : Surface.Event σ → Bool
  | .click _ _ => true
  | _ => false

/-- A surface with the workers whose threads were started and have not ended. -/
structure Sitting (σ : Type) where
  surface : Surface σ
  running : List Nat := []

namespace Sitting

def withPanel (sitting : Sitting σ) (panel : Panel) : Sitting σ :=
  { sitting with surface := { sitting.surface with panel } }

def withDesk (sitting : Sitting σ) (desk : Desk) : Sitting σ :=
  { sitting with surface := { sitting.surface with desk } }

/-- The sitting after an event. Only a started worker can do its job. -/
def act (sitting : Sitting σ) : Surface.Event σ → Sitting σ
  | .edit prompt => sitting.withPanel { sitting.surface.panel with prompt }
  | .toggle toggle value => sitting.withPanel { sitting.surface.panel with
      options := toggle.set value sitting.surface.panel.options }
  | .select index => sitting.withPanel (sitting.surface.panel.select index)
  | .answers answers => { sitting with surface := { sitting.surface with answers } }
  | .display => { sitting with surface := sitting.surface.display }
  | .click around button =>
    let surface := sitting.surface.click around button
    { surface
      running := sitting.running ++
        Office.startedBy around.starting sitting.surface.desk surface.desk }
  | .close around => { sitting with surface := (sitting.surface.close around).2 }
  | .work around worker =>
    if worker ∈ sitting.running then
      { surface := (sitting.surface.work around worker).2
        running := sitting.running.erase worker }
    else sitting
  | .deliver =>
    { sitting with surface := sitting.surface.follow sitting.surface.desk.runNext }
  | .register => sitting.withDesk (sitting.surface.desk.register 0)
  | .release => sitting.withDesk (sitting.surface.desk.release 0)
  | .changeSource source => sitting.withDesk (sitting.surface.desk.changeSource 0 source)
  | .elsewhere state => { sitting with surface := { sitting.surface with state } }

/-- A fresh panel with a session of its own. -/
def start (agent : String) (options : Prompt.Options) (inRegistry reports : Bool)
    (source : ContextSource) (state : σ) (clipboard : String) : Sitting σ where
  surface :=
    { panel := .fresh agent options
      desk := Desk.openSession {} (.fresh inRegistry reports source)
      state
      attached := some 0
      clipboard }

def run (sitting : Sitting σ) (events : List (Surface.Event σ)) : Sitting σ :=
  events.foldl act sitting

end Sitting

/-! ### The panel beside its session -/

/-- Engines that may end a job in any way. -/
def Engines.any : Engines := fun _ _ _ _ ↦ True

theorem Engines.converse_any : Engines.Converse any := fun _ _ _ _ _ _ ↦ trivial

/-- What a click leaves alone unless it asks. -/
structure Surface.KeepsDesk (before after : Surface σ) : Prop where
  desk_eq : after.desk = before.desk
  panel_eq : after.panel = before.panel
  attached_eq : after.attached = before.attached

theorem Surface.keepsDesk_copyClicked (surface : Surface σ) :
    surface.KeepsDesk surface.copyClicked := by
  unfold copyClicked
  split
  · exact ⟨rfl, rfl, rfl⟩
  · split_ifs <;> exact ⟨rfl, rfl, rfl⟩

theorem Surface.keepsDesk_insertClicked (around : Surroundings σ) (surface : Surface σ) :
    surface.KeepsDesk (surface.insertClicked around) := by
  unfold insertClicked
  split
  · exact ⟨rfl, rfl, rfl⟩
  · split_ifs <;> exact ⟨rfl, rfl, rfl⟩

/-- Closing a panel closes its session and adds records to the history. -/
theorem Surface.exists_close_eq (around : Surroundings σ) (surface : Surface σ) :
    ∃ records : List Log.Record, (surface.close around).2.desk =
        (surface.attached.elim surface.desk surface.desk.close).note
          (records.map Entry.record) ∧
      (surface.close around).2.panel.face = surface.panel.face ∧
      (surface.close around).2.attached = surface.attached := by
  unfold close
  dsimp only
  split
  · exact ⟨_, rfl, rfl, rfl⟩
  · exact ⟨_, rfl, rfl, rfl⟩

namespace Sitting

/-- The panel shows what the history of its only session tells. -/
structure Coupled (sitting : Sitting σ) : Prop where
  attached_eq : sitting.surface.attached = some 0
  length_eq : sitting.surface.desk.sessions.length = 1
  reachable : Office.Reachable .any ⟨sitting.surface.desk, sitting.running⟩
  face_eq : ∀ fresh : Panel, fresh.face = (true, "", "") →
    sitting.surface.panel.face = (fresh.receiveAll sitting.surface.desk.history).face

variable {sitting next : Sitting σ}

/-- The desk has gone on, and the panel received what is new in its history. -/
theorem Coupled.advance (hcoupled : sitting.Coupled)
    (hextends : sitting.surface.desk.Extends next.surface.desk)
    (hreaches : Office.Reaches .any ⟨sitting.surface.desk, sitting.running⟩
      ⟨next.surface.desk, next.running⟩)
    (hattached : next.surface.attached = sitting.surface.attached)
    (hface : next.surface.panel.face = (sitting.surface.panel.receiveAll
      (next.surface.desk.history.drop sitting.surface.desk.history.length)).face) :
    next.Coupled where
  attached_eq := hattached.trans hcoupled.attached_eq
  length_eq := hextends.length_eq.trans hcoupled.length_eq
  reachable := hcoupled.reachable.trans hreaches
  face_eq := by
    intro fresh hfresh
    obtain ⟨entries, hhistory⟩ := hextends.exists_history_eq
    rw [hface, hhistory, List.drop_left, Panel.receiveAll_append]
    exact Panel.face_receiveAll (hcoupled.face_eq fresh hfresh) entries

/-- Neither the desk nor what the panel shows of it has changed. -/
theorem Coupled.of_desk_eq (hcoupled : sitting.Coupled)
    (hdesk : next.surface.desk = sitting.surface.desk) (hrunning : next.running = sitting.running)
    (hattached : next.surface.attached = sitting.surface.attached)
    (hface : next.surface.panel.face = sitting.surface.panel.face) : next.Coupled where
  attached_eq := hattached.trans hcoupled.attached_eq
  length_eq := by rw [hdesk, hcoupled.length_eq]
  reachable := by
    rw [hdesk, hrunning]
    exact hcoupled.reachable
  face_eq := fun fresh hfresh ↦ by rw [hface, hdesk, hcoupled.face_eq fresh hfresh]

/-- What is new in the history is no call to the panel. -/
theorem Coupled.unseen (hcoupled : sitting.Coupled)
    (hlength : next.surface.desk.sessions.length = sitting.surface.desk.sessions.length)
    (records : List Log.Record) (hhistory : next.surface.desk.history =
      sitting.surface.desk.history ++ records.map Entry.record)
    (hreaches : Office.Reaches .any ⟨sitting.surface.desk, sitting.running⟩
      ⟨next.surface.desk, next.running⟩)
    (hattached : next.surface.attached = sitting.surface.attached)
    (hface : next.surface.panel.face = sitting.surface.panel.face) : next.Coupled := by
  refine hcoupled.advance ⟨hlength, _, hhistory⟩ hreaches hattached ?_
  rw [hhistory, List.drop_left, Panel.receiveAll_records, hface]

theorem coupled_start (agent : String) (options : Prompt.Options) (inRegistry reports : Bool)
    (source : ContextSource) (state : σ) (clipboard : String) :
    (start agent options inRegistry reports source state clipboard).Coupled where
  attached_eq := rfl
  length_eq := by cases inRegistry <;> rfl
  reachable := .single (.openSession {} inRegistry reports source)
  face_eq := by
    intro fresh hfresh
    cases inRegistry <;> exact hfresh.symm

theorem startedBy_self (starting : Starting) (desk : Desk) :
    Office.startedBy starting desk desk = [] := by
  simp [Office.startedBy]

theorem Coupled.keepsDesk (hcoupled : sitting.Coupled) {surface : Surface σ}
    (hkeeps : sitting.surface.KeepsDesk surface) (starting : Starting) :
    Coupled { surface, running := sitting.running ++
      Office.startedBy starting sitting.surface.desk surface.desk } := by
  refine hcoupled.of_desk_eq hkeeps.desk_eq ?_ hkeeps.attached_eq
    (congrArg Panel.face hkeeps.panel_eq)
  dsimp only
  rw [hkeeps.desk_eq, startedBy_self, List.append_nil]

theorem Coupled.click (hcoupled : sitting.Coupled) (around : Surroundings σ) (button : Button) :
    (sitting.act (.click around button)).Coupled := by
  unfold act Surface.click
  dsimp only
  split_ifs with henabled
  · exact hcoupled.keepsDesk ⟨rfl, rfl, rfl⟩ around.starting
  · cases button with
    | copy => exact hcoupled.keepsDesk sitting.surface.keepsDesk_copyClicked around.starting
    | insert =>
      exact hcoupled.keepsDesk (sitting.surface.keepsDesk_insertClicked around) around.starting
    | ask =>
      have hsound := Office.sound_of_reachable hcoupled.reachable
      have hnew : sitting.surface.desk.workers.length ∉ sitting.running :=
        fun h ↦ hsound.not_outstanding_new (Or.inl h)
      dsimp only [Surface.askClicked]
      rw [hcoupled.attached_eq]
      exact hcoupled.advance (Desk.extends_askAndStart _ _ _ _ _ _ _ _)
        (Office.reaches_askAndStart Engines.converse_any hnew _ _ _ _ _ _ _)
        rfl rfl

theorem Coupled.close (hcoupled : sitting.Coupled) (around : Surroundings σ) :
    (sitting.act (.close around)).Coupled := by
  obtain ⟨records, hdesk, hface, hattached⟩ := sitting.surface.exists_close_eq around
  rw [hcoupled.attached_eq, Option.elim_some] at hdesk
  obtain ⟨current, hclose⟩ := sitting.surface.desk.exists_close_eq 0
  have hsilent : ∀ entry ∈ records.map Entry.record, entry.isSilent = true := by
    simp [Entry.isSilent]
  refine hcoupled.unseen ?_ records ?_ ?_ hattached hface
  · refine (congrArg (·.sessions.length) hdesk).trans ?_
    rw [hclose]
    exact List.length_modify _ _ _
  · refine (congrArg Desk.history hdesk).trans ?_
    rw [hclose]
    rfl
  · dsimp only [Sitting.act]
    rw [hdesk]
    exact (Relation.ReflTransGen.single (.close _ 0)).tail (.note _ hsilent)

theorem Coupled.work (hcoupled : sitting.Coupled) (around : Surroundings σ) (worker : Nat) :
    (sitting.act (.work around worker)).Coupled := by
  unfold Sitting.act
  dsimp only
  split_ifs with hrunning
  · have hsound := Office.sound_of_reachable hcoupled.reachable
    obtain ⟨held, hheld, -⟩ := hsound.slot_of_running hrunning
    exact hcoupled.advance (Desk.extends_work _ _ _ _)
      (Office.reaches_work Engines.converse_any hheld hrunning _ _) rfl rfl
  · exact hcoupled

theorem Coupled.act (hcoupled : sitting.Coupled) (event : Surface.Event σ) :
    (sitting.act event).Coupled := by
  have hone : 0 < sitting.surface.desk.sessions.length := by
    rw [hcoupled.length_eq]
    exact Nat.one_pos
  cases event with
  | edit _ | toggle _ _ | select _ | answers _ | display | elsewhere _ =>
    exact hcoupled.of_desk_eq rfl rfl rfl rfl
  | click around button => exact hcoupled.click around button
  | close around => exact hcoupled.close around
  | work around worker => exact hcoupled.work around worker
  | deliver => exact hcoupled.advance (Desk.extends_runNext _) (.single (.deliver _)) rfl rfl
  | register =>
    exact hcoupled.unseen rfl [] (List.append_nil _).symm (.single (.register _ hone)) rfl rfl
  | release =>
    obtain ⟨current, hrelease⟩ := sitting.surface.desk.exists_release_eq 0
    exact hcoupled.unseen (congrArg (·.sessions.length) hrelease) []
      ((congrArg Desk.history hrelease).trans (List.append_nil _).symm) (.single (.release _ 0))
      rfl rfl
  | changeSource source =>
    exact hcoupled.unseen (List.length_modify _ _ _) [] (List.append_nil _).symm
      (.single (.changeSource _ 0 source)) rfl rfl

theorem Coupled.run (hcoupled : sitting.Coupled) (events : List (Surface.Event σ)) :
    (sitting.run events).Coupled := by
  induction events generalizing sitting with
  | nil => exact hcoupled
  | cons event events ih => exact ih (hcoupled.act event)

/-! ### Agreement -/

/-- The panel shows what its one session is. While the buttons are enabled nothing of the session
is under way. -/
structure Agrees (sitting : Sitting σ) (session : Session) : Prop where
  sessions_eq : sitting.surface.desk.sessions = [session]
  enabled_eq : sitting.surface.panel.enabled = !session.busy
  status_eq : sitting.surface.panel.status = if session.busy then "Working..." else ""
  reply_eq : sitting.surface.panel.reply = session.lastReply
  idle : session.busy = false → sitting.running = [] ∧ sitting.surface.desk.loop.queue = []

section OneSession

variable {session : Session} (hcoupled : sitting.Coupled)
  (hsessions : sitting.surface.desk.sessions = [session])
include hcoupled hsessions

/-- All calls in the history are to the panel, and the state of its session accounts for them. -/
theorem Coupled.face_eq_of_session : sitting.surface.panel.face =
    (!session.busy, if session.busy then "Working..." else "", session.lastReply) := by
  have hpaced := Office.paced_of_reachable hcoupled.reachable
  have hsession : sitting.surface.desk.sessions[0]? = some session := by
    rw [hsessions]
    rfl
  have hothers (other : Nat) (hother : other ≠ 0) :
      sitting.surface.desk.history.filterMap (·.call? other) = [] := by
    have hledger := hpaced other
    rw [hsessions, List.getElem?_eq_none (Nat.one_le_iff_ne_zero.mpr hother)] at hledger
    exact hledger.1
  have hface := hcoupled.face_eq (.fresh "codex" {}) rfl
  rw [Panel.receiveAll_eq_foldl _ hothers] at hface
  exact hface.trans (Panel.face_of_kept (hpaced.kept hsession) rfl)

/-- An outstanding worker would be the active one of the session. -/
theorem Coupled.not_outstanding (hbusy : session.busy = false) (worker : Nat) :
    ¬ Office.Outstanding ⟨sitting.surface.desk, sitting.running⟩ worker := by
  intro houtstanding
  have hsound := Office.sound_of_reachable hcoupled.reachable
  obtain ⟨held, hheld⟩ := hsound.worker_of_outstanding houtstanding
  obtain ⟨owner, howner, hactive⟩ := hsound.active_of_outstanding houtstanding hheld
  have hmem := List.mem_of_getElem? howner
  rw [hsessions, List.mem_singleton] at hmem
  subst hmem
  rw [hsound.active_eq_none howner hbusy] at hactive
  cases hactive

end OneSession

theorem Coupled.exists_agrees (hcoupled : sitting.Coupled) :
    ∃ session, sitting.Agrees session := by
  obtain ⟨session, hsessions⟩ := List.length_eq_one_iff.mp hcoupled.length_eq
  have hface := hcoupled.face_eq_of_session hsessions
  simp only [Panel.face, Prod.mk.injEq] at hface
  obtain ⟨henabled, hstatus, hreply⟩ := hface
  refine ⟨session, hsessions, henabled, hstatus, hreply, fun hbusy ↦ ⟨?_, ?_⟩⟩
  · exact List.eq_nil_iff_forall_not_mem.mpr fun worker hrunning ↦
      hcoupled.not_outstanding hsessions hbusy worker (Or.inl hrunning)
  · exact List.eq_nil_iff_forall_not_mem.mpr fun delivery hqueued ↦
      hcoupled.not_outstanding hsessions hbusy delivery.1 (Or.inr ⟨delivery.2, hqueued⟩)

/-! ### Text that leaves the panel -/

/-- The text that the last applied result leaves to insert: what it proposes, or else its whole
reply. -/
def textToInsert (sitting : Sitting σ) : String :=
  match (sitting.surface.desk.results 0).getLast? with
  | none => ""
  | some result => if result.insertText = "" then result.replyText else result.insertText

/-- What an event inserts. -/
def insertedBy (sitting : Sitting σ) (session : Session) : Surface.Event σ → List String
  | .click around .insert =>
    if around.hasEditor = true ∧ session.busy = false ∧
        sitting.surface.answers.head? = some true ∧ sitting.textToInsert ≠ "" then
      [sitting.textToInsert]
    else []
  | _ => []

/-- The clipboard after an event. -/
def clipboardAfter (sitting : Sitting σ) (session : Session) : Surface.Event σ → String
  | .click _ .copy =>
    if session.busy = false ∧ session.lastReply ≠ "" then session.lastReply
    else sitting.surface.clipboard
  | _ => sitting.surface.clipboard

/-- Only a click that the user has confirmed inserts, and only a click copies. -/
structure Careful (sitting next : Sitting σ) (session : Session) (event : Surface.Event σ) :
    Prop where
  inserted_eq : next.surface.inserted =
    sitting.surface.inserted ++ sitting.insertedBy session event
  clipboard_eq : next.surface.clipboard = sitting.clipboardAfter session event

variable {session : Session} {event : Surface.Event σ}

theorem Agrees.getElem?_sessions (hagrees : sitting.Agrees session) :
    sitting.surface.desk.sessions[0]? = some session := by
  rw [hagrees.sessions_eq]
  rfl

theorem Coupled.attachedSession_eq (hcoupled : sitting.Coupled)
    (hagrees : sitting.Agrees session) : sitting.surface.attachedSession = some session := by
  rw [Surface.attachedSession, hcoupled.attached_eq, Option.bind_some, hagrees.getElem?_sessions]

/-- The session and its results have the same text to insert. -/
theorem Coupled.textToInsert_eq (hcoupled : sitting.Coupled) (hagrees : sitting.Agrees session) :
    session.textToInsert = sitting.textToInsert := by
  have hkept := (Office.paced_of_reachable hcoupled.reachable).kept hagrees.getElem?_sessions
  rw [Session.textToInsert, hkept.lastReply_eq, hkept.lastInsert_eq, textToInsert]
  cases (sitting.surface.desk.results 0).getLast? with
  | none => rfl
  | some result => simp

theorem careful_of_eq (hinserted : next.surface.inserted = sitting.surface.inserted)
    (hclipboard : next.surface.clipboard = sitting.surface.clipboard)
    (hnone : sitting.insertedBy session event = [])
    (hkept : sitting.clipboardAfter session event = sitting.surface.clipboard) :
    Careful sitting next session event where
  inserted_eq := by rw [hinserted, hnone, List.append_nil]
  clipboard_eq := hclipboard.trans hkept.symm

theorem Coupled.careful_insert (hcoupled : sitting.Coupled) (hagrees : sitting.Agrees session)
    (hbusy : session.busy = false) (around : Surroundings σ) (running : List Nat) :
    Careful sitting { surface := sitting.surface.insertClicked around, running } session
      (.click around .insert) := by
  unfold Surface.insertClicked
  rw [hcoupled.attachedSession_eq hagrees]
  dsimp only
  rw [hcoupled.textToInsert_eq hagrees]
  split_ifs with hempty heditor hconfirmed
  · refine careful_of_eq rfl rfl (if_neg ?_) rfl
    exact fun h ↦ h.2.2.2 (String.isEmpty_iff.mp hempty)
  · refine careful_of_eq rfl rfl (if_neg fun h ↦ ?_) rfl
    simp [h.1] at heditor
  · refine ⟨congrArg (sitting.surface.inserted ++ ·) (if_pos ⟨?_, hbusy, ?_, ?_⟩).symm, rfl⟩
    · simpa using heditor
    · cases hhead : sitting.surface.answers.head? <;> simp_all
    · exact fun h ↦ hempty (String.isEmpty_iff.mpr h)
  · refine careful_of_eq rfl rfl (if_neg fun h ↦ hconfirmed ?_) rfl
    rw [h.2.2.1]
    rfl

theorem Coupled.careful_copy (hcoupled : sitting.Coupled) (hagrees : sitting.Agrees session)
    (hbusy : session.busy = false) (around : Surroundings σ) (running : List Nat) :
    Careful sitting { surface := sitting.surface.copyClicked, running } session
      (.click around .copy) := by
  unfold Surface.copyClicked
  rw [hcoupled.attachedSession_eq hagrees]
  dsimp only
  split_ifs with hempty
  · exact careful_of_eq rfl rfl rfl (if_neg fun h ↦ h.2 (String.isEmpty_iff.mp hempty))
  · exact ⟨(List.append_nil _).symm,
      (if_pos ⟨hbusy, fun h ↦ hempty (String.isEmpty_iff.mpr h)⟩).symm⟩

/-- A disabled button does nothing. -/
theorem careful_of_busy (hbusy : session.busy = true) (around : Surroundings σ) (button : Button)
    (running : List Nat) :
    Careful sitting { surface := sitting.surface, running } session (.click around button) := by
  refine careful_of_eq rfl rfl ?_ ?_
  · cases button <;> simp [insertedBy, hbusy]
  · cases button <;> simp [clipboardAfter, hbusy]

theorem Coupled.careful_click (hcoupled : sitting.Coupled) (hagrees : sitting.Agrees session)
    (around : Surroundings σ) (button : Button) :
    Careful sitting (sitting.act (.click around button)) session (.click around button) := by
  unfold Sitting.act Surface.click
  dsimp only
  rw [hagrees.enabled_eq, Bool.not_not]
  split_ifs with hbusy
  · exact careful_of_busy hbusy around button _
  · have hidle : session.busy = false := Bool.eq_false_iff.mpr hbusy
    cases button with
    | ask =>
      unfold Surface.askClicked
      rw [hcoupled.attached_eq]
      exact careful_of_eq rfl rfl rfl rfl
    | copy => exact hcoupled.careful_copy hagrees hidle around _
    | insert => exact hcoupled.careful_insert hagrees hidle around _

theorem Coupled.careful (hcoupled : sitting.Coupled) (hagrees : sitting.Agrees session)
    (event : Surface.Event σ) : Careful sitting (sitting.act event) session event := by
  cases event with
  | edit _ | toggle _ _ | select _ | answers _ | display | deliver | register | release
  | changeSource _ | elsewhere _ => exact careful_of_eq rfl rfl rfl rfl
  | work around worker =>
    unfold Sitting.act
    dsimp only
    split_ifs <;> exact careful_of_eq rfl rfl rfl rfl
  | close around =>
    unfold Sitting.act Surface.close
    dsimp only
    split <;> exact careful_of_eq rfl rfl rfl rfl
  | click around button => exact hcoupled.careful_click hagrees around button

/-! ### While a question is open -/

/-- Without a click a session that is not busy stays what it is, but for where it reads its context
and whether it is open. So it does not matter what comes between a click and the answer to the
question that it opens. -/
def Steady (sitting : Sitting σ) (session : Session) : Prop :=
  session.busy = false → ∀ events : List (Surface.Event σ),
    (∀ event ∈ events, event.isClick = false) →
      ∃ alive source, (sitting.run events).surface.desk.sessions =
        [{ session with alive, source }]

theorem Agrees.exists_sessions_act_eq (hagrees : sitting.Agrees session)
    (hattached : sitting.surface.attached = some 0) (hbusy : session.busy = false)
    (hclick : event.isClick = false) :
    ∃ alive source, (sitting.act event).surface.desk.sessions =
      [{ session with alive, source }] := by
  have hsessions := hagrees.sessions_eq
  obtain ⟨hrunning, hqueue⟩ := hagrees.idle hbusy
  have hsame : ∃ alive source, sitting.surface.desk.sessions =
      [{ session with alive, source }] := ⟨session.alive, session.source, hsessions⟩
  cases event with
  | edit _ | toggle _ _ | select _ | answers _ | display | register | elsewhere _ => exact hsame
  | click _ _ => cases hclick
  | work around worker =>
    have hidle : sitting.act (.work around worker) = sitting :=
      if_neg (by rw [hrunning]; exact List.not_mem_nil)
    rwa [hidle]
  | deliver =>
    have hidle : sitting.surface.desk.runNext = sitting.surface.desk := Desk.runNext_of_nil hqueue
    dsimp only [Sitting.act, Surface.follow]
    rwa [hidle]
  | release =>
    obtain ⟨current, hrelease⟩ := sitting.surface.desk.exists_release_eq 0
    dsimp only [Sitting.act, withDesk]
    rwa [hrelease]
  | close around =>
    obtain ⟨records, hdesk, -, -⟩ := sitting.surface.exists_close_eq around
    obtain ⟨current, hclose⟩ := sitting.surface.desk.exists_close_eq 0
    rw [hattached, Option.elim_some, hclose] at hdesk
    dsimp only [Sitting.act]
    rw [hdesk]
    exact ⟨false, session.source, by simp [Desk.note, hsessions]⟩
  | changeSource source =>
    refine ⟨session.alive, source, ?_⟩
    dsimp only [Sitting.act, withDesk, Desk.changeSource]
    rw [hsessions]
    rfl

theorem Coupled.steady (hcoupled : sitting.Coupled) (hagrees : sitting.Agrees session) :
    sitting.Steady session := by
  intro hbusy events hclicks
  induction events generalizing sitting session with
  | nil => exact ⟨session.alive, session.source, hagrees.sessions_eq⟩
  | cons event events ih =>
    obtain ⟨hclick, hrest⟩ := List.forall_mem_cons.mp hclicks
    obtain ⟨alive, source, hsessions⟩ :=
      hagrees.exists_sessions_act_eq hcoupled.attached_eq hbusy hclick
    obtain ⟨next, hnext⟩ := (hcoupled.act event).exists_agrees
    have heq : next = { session with alive, source } :=
      List.singleton_inj.mp (hnext.sessions_eq.symm.trans hsessions)
    subst heq
    exact (ih (hcoupled.act event) hnext hbusy hrest :)

/-- Whatever the user does and whenever workers and deliveries come in between: the panel shows
what its session is, and text leaves it only as the user has asked. -/
theorem safe_of_run (agent : String) (options : Prompt.Options) (inRegistry reports : Bool)
    (source : ContextSource) (state : σ) (clipboard : String)
    (events : List (Surface.Event σ)) :
    let sitting := (start agent options inRegistry reports source state clipboard).run events
    ∃ session, sitting.Agrees session ∧ sitting.Steady session ∧
      ∀ event, Careful sitting (sitting.act event) session event := by
  have hcoupled :=
    (coupled_start agent options inRegistry reports source state clipboard).run events
  obtain ⟨session, hagrees⟩ := hcoupled.exists_agrees
  exact ⟨session, hagrees, hcoupled.steady hagrees, hcoupled.careful hagrees⟩

/-- A reply that is inserted once the user has confirmed it. -/
example :
    let around : Surroundings (List (List Job.ScriptedReply)) :=
      { agents := Desk.scripted, hasEditor := true }
    ((start "codex" {} true true (.fixed fun _ ↦ none) [[.text "Use the cluster option."]] "").run
      [.edit "Explain the error.", .click around .ask, .work around 0, .deliver, .answers [true],
        .click around .insert]).surface.inserted = ["Use the cluster option."] := by
  decide +kernel

end Sitting

/-! ### The window of the program -/

/-- A window that was opened is the start of a sitting. -/
theorem Window.exists_sitting_eq {toolkit : Toolkit} {arguments : Arguments}
    {provider : Provider} {answers : List Bool} {program after : Program σ} {window : Window σ}
    (h : opened toolkit arguments provider answers program = (.ok window, after)) :
    ∃ agent options source state, { surface := window.surface : Sitting (Program σ) } =
      (Sitting.start agent options true false source state "").run
        [.answers answers, .display] := by
  unfold opened at h
  obtain ⟨_, _, -, h⟩ := Sequence.exists_of_bind_eq_ok h
  obtain ⟨_, _, -, h⟩ := Sequence.exists_of_bind_eq_ok h
  obtain ⟨preferences, _, -, h⟩ := Sequence.exists_of_bind_eq_ok h
  obtain ⟨_, _, -, h⟩ := Sequence.exists_of_bind_eq_ok h
  obtain ⟨panel, _, hpanel, h⟩ := Sequence.exists_of_bind_eq_ok h
  obtain ⟨source, _, -, h⟩ := Sequence.exists_of_bind_eq_ok h
  obtain ⟨_, _, -, h⟩ := Sequence.exists_of_bind_eq_ok h
  obtain ⟨state, _, -, h⟩ := Sequence.exists_of_bind_eq_ok h
  cases h
  rw [Opening.settle_apply, Prod.mk.injEq] at hpanel
  obtain ⟨options, rfl⟩ := Panel.exists_fresh_of_ofPreferences hpanel.1
  exact ⟨preferences.provider, options, source, state, rfl⟩

/-- In an open window the panel shows what its session is. -/
theorem Window.exists_agrees_of_opened {toolkit : Toolkit} {arguments : Arguments}
    {provider : Provider} {answers : List Bool} {program after : Program σ} {window : Window σ}
    (h : opened toolkit arguments provider answers program = (.ok window, after))
    (events : List (Surface.Event (Program σ))) :
    ∃ session, (Sitting.run { surface := window.surface } events).Agrees session := by
  obtain ⟨agent, options, source, state, hsitting⟩ := exists_sitting_eq h
  rw [hsitting]
  exact (((Sitting.coupled_start _ _ _ _ _ _ _).run _).run events).exists_agrees

end DeskAssistant
