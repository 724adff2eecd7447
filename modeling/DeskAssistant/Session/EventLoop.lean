/-!
# Event loops

The user interface runs on one event loop. Other threads hand it callbacks, which it runs one after
the other in the order in which they came. A loop that is closed drops what was waiting and takes no
further callbacks. Before it is closed the tasks on it are cancelled and waited for. A task may
accept the cancellation, end normally, or fail because of it.
-/

set_option autoImplicit false
set_option relaxedAutoImplicit false

namespace DeskAssistant

structure EventLoop (α : Type) where
  isOpen : Bool := true
  /-- The callbacks that wait, the oldest first. -/
  queue : List α := []
  deriving Repr, DecidableEq

namespace EventLoop

variable {α : Type}

/-- The loop with one more callback; a closed loop takes none. -/
def schedule? (loop : EventLoop α) (callback : α) : Option (EventLoop α) :=
  if loop.isOpen then some { loop with queue := loop.queue ++ [callback] } else none

/-- The callback to run next, and the loop without it. -/
def next? (loop : EventLoop α) : Option (α × EventLoop α) :=
  match loop.queue with
  | [] => none
  | callback :: rest => some (callback, { loop with queue := rest })

def close (_loop : EventLoop α) : EventLoop α := { isOpen := false }

end EventLoop

/-! ### Tasks -/

inductive TaskStatus where
  | pending
  | done
  | cancelled
  | failed
  deriving Repr, DecidableEq

/-- A task on a loop, with the status in which it ends when it is cancelled. -/
structure LoopTask where
  status : TaskStatus := .pending
  onCancel : TaskStatus := .cancelled
  onCancel_ne_pending : onCancel ≠ .pending := by decide

namespace LoopTask

def isPending (task : LoopTask) : Bool := task.status = .pending

/-- The task after it was cancelled. One that has ended stays as it is. -/
def cancel (task : LoopTask) : LoopTask :=
  if task.isPending then { task with status := task.onCancel } else task

theorem isPending_cancel (task : LoopTask) : task.cancel.isPending = false := by
  unfold cancel
  split
  · exact decide_eq_false task.onCancel_ne_pending
  · next hended => exact Bool.eq_false_iff.mpr hended

end LoopTask

end DeskAssistant
