import DeskAssistant.Fault
import DeskAssistant.Log.Record
import DeskAssistant.Session.EventLoop

/-!
# Slots for results

A slot carries one result from a worker to the event loop. Only the first post to a slot is
accepted: it takes the slot and then schedules the delivery, and these are two steps between which
other threads and the loop may act. The delivery happens at most once. `Handoff` is a slot together
with its loop and with what was delivered.
-/

set_option autoImplicit false
set_option relaxedAutoImplicit false

namespace DeskAssistant

structure ResultSlot where
  posted : Bool := false
  consumed : Bool := false
  deriving Repr, DecidableEq

namespace ResultSlot

/-- Takes the slot for a post, which fails when an earlier post has taken it. -/
def take (slot : ResultSlot) : Except Fault ResultSlot :=
  if slot.posted then .error .slotTaken else .ok { slot with posted := true }

/-- Uses the slot for a delivery; `none` when it has been used. -/
def consume? (slot : ResultSlot) : Option ResultSlot :=
  if slot.consumed then none else some { slot with consumed := true }

/-- What is noted when a result comes after the loop was closed. -/
def dropped : Log.Record :=
  { level := Log.warning
    source := "llmdesk.ui.job_bridge"
    template := "UI event loop is closed; dropping assistant result" }

end ResultSlot

/-- One slot on one loop. -/
structure Handoff (ρ : Type) where
  slot : ResultSlot := {}
  loop : EventLoop ρ := {}
  delivered : List ρ := []
  records : List Log.Record := []

namespace Handoff

variable {ρ : Type}

/-- The second step of a post: the loop is asked to deliver the result. -/
def schedule (handoff : Handoff ρ) (result : ρ) : Handoff ρ :=
  match handoff.loop.schedule? result with
  | some loop => { handoff with loop }
  | none => { handoff with records := handoff.records ++ [ResultSlot.dropped] }

/-- Both steps of a post. -/
def post (handoff : Handoff ρ) (result : ρ) : Except Fault Unit × Handoff ρ :=
  match handoff.slot.take with
  | .error fault => (.error fault, handoff)
  | .ok slot => (.ok (), { handoff with slot }.schedule result)

/-- Delivers a result unless one was delivered before. -/
def deliver (handoff : Handoff ρ) (result : ρ) : Handoff ρ :=
  match handoff.slot.consume? with
  | none => handoff
  | some slot => { handoff with slot, delivered := handoff.delivered ++ [result] }

/-- Runs the callback that the loop has to run next. -/
def runNext (handoff : Handoff ρ) : Handoff ρ :=
  match handoff.loop.next? with
  | none => handoff
  | some (result, loop) => { handoff with loop }.deliver result

/-- Runs the callbacks that are waiting. -/
def runAll (handoff : Handoff ρ) : Handoff ρ := Nat.repeat runNext handoff.loop.queue.length handoff

def closeLoop (handoff : Handoff ρ) : Handoff ρ := { handoff with loop := handoff.loop.close }

end Handoff

end DeskAssistant
