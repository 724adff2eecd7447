import DeskAssistant.Panel.Widget
import DeskAssistant.Proofs.Session.Cycles

/-!
# What a panel shows of its session

A session tells its panel when it is busy, a status and a reply, and nothing else of a panel changes
by that: its `face`. All calls that are ever made to one panel can be received one after the other
(`Panel.receiveAll_eq_foldl`), a whole cycle leaves only the reply of its result behind
(`Panel.foldl_receive_cycles`), and so a panel that was told all that its session tells shows the
state of the session (`Panel.face_of_kept`).
-/

set_option autoImplicit false
set_option relaxedAutoImplicit false

namespace DeskAssistant.Panel

/-- What the session determines of the panel: whether the buttons are enabled, the status and the
reply. -/
def face (panel : Panel) : Bool × String × String := (panel.enabled, panel.status, panel.reply)

variable {panel other : Panel}

theorem face_receive (h : panel.face = other.face) (notice : Notice) :
    (panel.receive notice).face = (other.receive notice).face := by
  simp only [face, Prod.mk.injEq] at h
  obtain ⟨henabled, hstatus, hreply⟩ := h
  cases notice <;> simp [receive, face, henabled, hstatus, hreply]

theorem face_receiveAll (h : panel.face = other.face) (entries : List Entry) :
    (panel.receiveAll entries).face = (other.receiveAll entries).face := by
  induction entries generalizing panel other with
  | nil => exact h
  | cons entry entries ih =>
    cases entry with
    | record _ => exact ih h
    | notice _ notice => exact ih (face_receive h notice)

theorem receiveAll_append (panel : Panel) (first second : List Entry) :
    panel.receiveAll (first ++ second) = (panel.receiveAll first).receiveAll second :=
  List.foldl_append

theorem receiveAll_records (panel : Panel) (records : List Log.Record) :
    panel.receiveAll (records.map Entry.record) = panel := by
  induction records with
  | nil => rfl
  | cons record records ih => exact ih

/-- Where all calls are to one surface, its panel receives them one after the other. -/
theorem receiveAll_eq_foldl (panel : Panel) {entries : List Entry} {index : Nat}
    (hothers : ∀ other, other ≠ index → entries.filterMap (·.call? other) = []) :
    panel.receiveAll entries = (entries.filterMap (·.call? index)).foldl receive panel := by
  induction entries generalizing panel with
  | nil => rfl
  | cons entry entries ih =>
    simp only [List.filterMap_eq_nil_iff, List.forall_mem_cons] at hothers
    have hrest (panel : Panel) := ih panel fun other hother ↦
      List.filterMap_eq_nil_iff.mpr (hothers other hother).2
    cases entry with
    | record _ => exact hrest panel
    | notice session told =>
      by_cases hsilent : (Entry.notice session told).isSilent = true
      · rw [List.filterMap_cons_none (Entry.call?_eq_none hsilent index), ← hrest panel]
        cases told <;> first | rfl | cases hsilent
      · have hcall (other : Nat) : (Entry.notice session told).call? other =
            if session = other then some told else none := by
          cases told <;> first | rfl | exact absurd rfl hsilent
        have hsession : session = index := by
          by_contra hother
          have hnone := (hothers session hother).1
          rw [hcall, if_pos rfl] at hnone
          cases hnone
        rw [List.filterMap_cons_some (by rw [hcall, if_pos hsession])]
        exact hrest (panel.receive told)

/-- A whole cycle leaves the reply of its result behind. -/
theorem foldl_receive_cycles (panel : Panel) (henabled : panel.enabled = true)
    (hstatus : panel.status = "") (reports : Bool) (results : List Job.Result) :
    (results.flatMap (Session.cycle reports)).foldl receive panel =
      { panel with reply := (results.getLast?.map (·.replyText)).getD panel.reply } := by
  induction results generalizing panel with
  | nil => rfl
  | cons result results ih =>
    have hcycle : (Session.cycle reports result).foldl receive panel =
        { panel with reply := result.replyText } := by
      cases reports <;>
        simp [Session.cycle, Session.opening, Session.closing, receive, henabled, hstatus]
    rw [List.flatMap_cons, List.foldl_append, hcycle,
      ih { panel with reply := result.replyText } henabled hstatus, List.getLast?_cons]
    cases results.getLast? <;> rfl

/-- A panel that was told all that a session tells shows its state. -/
theorem face_of_kept {session : Session} {calls : List Notice} {numbers : List Nat}
    {results : List Job.Result} (hkept : session.Kept calls numbers results) {fresh : Panel}
    (hfresh : fresh.face = (true, "", "")) : (calls.foldl receive fresh).face =
      (!session.busy, if session.busy then "Working..." else "", session.lastReply) := by
  simp only [face, Prod.mk.injEq] at hfresh
  obtain ⟨henabled, hstatus, hreply⟩ := hfresh
  rw [hkept.calls_eq, List.foldl_append, foldl_receive_cycles fresh henabled hstatus,
    hreply, ← hkept.lastReply_eq]
  cases session.busy <;>
    simp [Session.opening, receive, face, Desk.workingStatus, henabled, hstatus]

end DeskAssistant.Panel
