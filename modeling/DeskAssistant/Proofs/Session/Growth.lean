import DeskAssistant.Proofs.Session.Office

/-!
# Desks that go on

Whatever a desk does, its history only grows and it keeps its sessions; only opening one adds to
them. `Desk.Extends` says this of a desk and a later one, and each operation on jobs has a lemma:
`extends_ask`, `extends_apply`, `extends_finish`, `extends_runNext`, `extends_work` and
`extends_askAndStart`. A desk whose loop is drained has no delivery and no task left
(`idle_drain`).
-/

set_option autoImplicit false
set_option relaxedAutoImplicit false

namespace DeskAssistant

variable {σ : Type}

/-- The desk has the same number of sessions, and more may have been added to its history. -/
structure Desk.Extends (desk next : Desk) : Prop where
  length_eq : next.sessions.length = desk.sessions.length
  exists_history_eq : ∃ entries, next.history = desk.history ++ entries

namespace Desk

variable {desk middle next : Desk}

theorem Extends.refl (desk : Desk) : desk.Extends desk := ⟨rfl, [], by simp⟩

theorem Extends.trans (hfirst : desk.Extends middle) (hsecond : middle.Extends next) :
    desk.Extends next := by
  obtain ⟨first, hfirstEq⟩ := hfirst.exists_history_eq
  obtain ⟨second, hsecondEq⟩ := hsecond.exists_history_eq
  refine ⟨hsecond.length_eq.trans hfirst.length_eq, first ++ second, ?_⟩
  rw [hsecondEq, hfirstEq, List.append_assoc]

theorem Extends.note (h : desk.Extends next) (entries : List Entry) :
    desk.Extends (next.note entries) :=
  h.trans ⟨rfl, entries, rfl⟩

theorem extends_ask (desk : Desk) (session : Nat) (prompt : String) (options : Prompt.Options)
    (provider : Provider) : desk.Extends (desk.ask session prompt options provider).2 := by
  obtain ⟨entries, _, _, heq⟩ | ⟨asking, entries, _, _, _, _, heq⟩ :=
    desk.ask_cases session prompt options provider
  · rw [heq]
    exact (Extends.refl desk).note entries
  · rw [heq]
    exact ⟨List.length_set, entries, rfl⟩

theorem extends_apply (desk : Desk) (worker : Nat) (result : Job.Result) :
    desk.Extends (desk.apply worker result) := by
  cases hheld : desk.workers[worker]? with
  | none =>
    rw [apply, hheld]
    exact .refl desk
  | some held =>
    cases howns : desk.owns worker with
    | true =>
      obtain ⟨entries, heq⟩ := apply_of_owns hheld howns result
      rw [heq]
      exact ⟨List.length_modify _ _ _, entries, rfl⟩
    | false =>
      obtain ⟨entries, _, heq⟩ := apply_of_not_owns hheld howns result
      rw [heq]
      exact (Extends.refl desk).note entries

theorem extends_post (desk : Desk) (worker : Nat) (result : Job.Result) :
    desk.Extends (desk.post worker result).2 := by
  unfold post
  split
  · exact .refl desk
  · split
    · exact .refl desk
    · dsimp only
      split
      · exact ⟨rfl, [], by simp⟩
      · exact ⟨rfl, _, rfl⟩

theorem extends_finish (desk : Desk) (worker : Nat) (outcome : Except Fault Job.Result) :
    desk.Extends (desk.finish worker outcome).2 := by
  cases outcome with
  | ok result => exact desk.extends_post worker result
  | error fault => exact ((Extends.refl desk).note _).trans (extends_post _ worker _)

theorem extends_runNext (desk : Desk) : desk.Extends desk.runNext := by
  unfold runNext
  split
  · exact .refl desk
  · unfold deliver
    split
    · exact ⟨rfl, [], by simp⟩
    · split
      · exact ⟨rfl, [], by simp⟩
      · refine Extends.trans ?_ (extends_apply _ _ _)
        exact ⟨rfl, [], by simp⟩

theorem extends_work (desk : Desk) (agents : Agents σ) (worker : Nat) (state : σ) :
    desk.Extends (desk.work agents worker state).2.1 := by
  cases hheld : desk.workers[worker]? with
  | none =>
    rw [work, hheld]
    exact .refl desk
  | some held =>
    obtain ⟨entries, _, heq⟩ := work_eq hheld agents state
    rw [heq]
    exact ((Extends.refl desk).note entries).trans (extends_finish _ worker _)

theorem extends_askAndStart (desk : Desk) (agents : Agents σ) (starting : Starting)
    (session : Nat) (prompt : String) (options : Prompt.Options) (provider : Provider)
    (state : σ) :
    desk.Extends
      (desk.askAndStart agents starting session prompt options provider state).2.1 := by
  have hask := desk.extends_ask session prompt options provider
  unfold askAndStart
  revert hask
  cases desk.ask session prompt options provider with
  | mk worker asked =>
    intro hask
    cases worker with
    | none => exact hask
    | some worker =>
      cases starting with
      | deferred => exact hask
      | immediate => exact hask.trans (extends_work asked agents worker state)
      | impossible => exact (hask.note _).trans (extends_apply _ worker _)

/-! ### Loops that are drained -/

theorem loop_apply (desk : Desk) (worker : Nat) (result : Job.Result) :
    (desk.apply worker result).loop = desk.loop := by
  unfold apply
  split
  · rfl
  · split_ifs <;> rfl

/-- One delivery less waits. -/
theorem loop_runNext (desk : Desk) :
    desk.runNext.loop = { desk.loop with queue := desk.loop.queue.tail } := by
  cases hqueue : desk.loop.queue with
  | nil => rw [runNext_of_nil hqueue, List.tail_nil, ← hqueue]
  | cons delivery rest =>
    unfold runNext EventLoop.next?
    rw [hqueue]
    dsimp only
    unfold deliver
    split
    · rfl
    · split
      · rfl
      · rw [loop_apply]
        rfl

theorem loop_runAll (desk : Desk) : desk.runAll.loop = { desk.loop with queue := [] } := by
  have hloop (count : Nat) : (Nat.repeat runNext count desk).loop =
      { desk.loop with queue := desk.loop.queue.drop count } := by
    induction count with
    | zero => rfl
    | succ count ih => rw [Nat.repeat, loop_runNext, ih, List.tail_drop]
  rw [runAll, hloop, List.drop_length]

/-- A loop that is drained has nothing left to do. -/
theorem idle_drain (hopen : desk.loop.isOpen = true) :
    desk.drain.loop.queue = [] ∧ ∀ task ∈ desk.drain.tasks, task.isPending = false := by
  rw [drain, if_pos hopen]
  refine ⟨congrArg EventLoop.queue desk.loop_runAll, fun task htask ↦ ?_⟩
  obtain ⟨earlier, -, rfl⟩ := List.mem_map.mp htask
  exact earlier.isPending_cancel

end Desk

end DeskAssistant
