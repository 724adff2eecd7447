import DeskAssistant.Session.Slot
import Mathlib.Logic.Relation
import Mathlib.Tactic.Common

/-!
# A slot is used once

Any number of threads post to one slot. A post takes the slot under a lock and asks the loop for the
delivery afterwards; between these two steps, and at any other time, other threads may post, the
loop may run what is waiting, and it may be closed. `Race` is a hand-off with all posts to it in the
order in which they came to the lock, and its steps are what can happen next, in any order.

`Progress` says how far the first post has come: it has taken the slot, its result waits, was
delivered, or was dropped by a closed loop. In every race the first post to the lock has won
(`WonBy`), a step takes it further or leaves it where it is (`WonBy.step`), and the last two are
final. So one post returns and all others are refused, and one result at most is delivered, by the
loop (`singleUse_of_reachable`).
-/

set_option autoImplicit false
set_option relaxedAutoImplicit false

namespace DeskAssistant

/-! ### Posts and the loop in any order -/

/-- How far a post has come. -/
inductive PostStage where
  /-- It has taken the slot and has not asked the loop yet. -/
  | scheduling
  | ended (outcome : Except Fault Unit)
  deriving DecidableEq

/-- A call with which a thread posts a result. -/
structure Posting (ρ : Type) where
  result : ρ
  stage : PostStage
  deriving DecidableEq

/-- A hand-off and the posts to it, in the order in which they came to the lock. -/
structure Race (ρ : Type) where
  handoff : Handoff ρ := {}
  posts : List (Posting ρ) := []

namespace Race

variable {ρ : Type}

/-- A thread comes to the lock with a result: it takes the slot, or is refused. -/
def enter (race : Race ρ) (result : ρ) : Race ρ :=
  match race.handoff.slot.take with
  | .error fault => { race with posts := race.posts ++ [⟨result, .ended (.error fault)⟩] }
  | .ok slot =>
    { handoff := { race.handoff with slot }, posts := race.posts ++ [⟨result, .scheduling⟩] }

/-- A post that has taken the slot asks the loop to deliver its result, and returns. -/
def leave (race : Race ρ) (index : Nat) (result : ρ) : Race ρ where
  handoff := race.handoff.schedule result
  posts := race.posts.set index ⟨result, .ended (.ok ())⟩

inductive Step : Race ρ → Race ρ → Prop
  | enter (race : Race ρ) (result : ρ) : Step race (race.enter result)
  | leave (race : Race ρ) {index : Nat} {result : ρ}
      (hpost : race.posts[index]? = some ⟨result, .scheduling⟩) :
      Step race (race.leave index result)
  | runNext (race : Race ρ) : Step race { race with handoff := race.handoff.runNext }
  | closeLoop (race : Race ρ) : Step race { race with handoff := race.handoff.closeLoop }

/-- Some run of steps leads from one race to the other. -/
def Reaches : Race ρ → Race ρ → Prop := Relation.ReflTransGen Step

/-- Some run of steps leads to the race from an unused slot on an open loop. -/
def Reachable (race : Race ρ) : Prop := Reaches {} race

/-- A post without anything between its two steps is a run of steps and ends as it does here. -/
theorem reaches_post (race : Race ρ) (result : ρ) :
    Reaches race ⟨(race.handoff.post result).2,
      race.posts ++ [⟨result, .ended (race.handoff.post result).1⟩]⟩ := by
  have henter := Step.enter race result
  unfold enter at henter
  unfold Handoff.post
  cases htake : race.handoff.slot.take with
  | error fault =>
    rw [htake] at henter
    exact .single henter
  | ok slot =>
    rw [htake] at henter
    let entered : Race ρ :=
      { handoff := { race.handoff with slot }, posts := race.posts ++ [⟨result, .scheduling⟩] }
    have hpost : entered.posts[race.posts.length]? = some ⟨result, .scheduling⟩ :=
      List.getElem?_concat_length
    have hleave : Step entered (entered.leave race.posts.length result) := .leave entered hpost
    rw [leave, List.set_append_right _ _ (Nat.le_refl _), Nat.sub_self, List.set_cons_zero]
      at hleave
    exact (Relation.ReflTransGen.single henter).tail hleave

/-- Running everything that waits is a run of steps. -/
theorem reaches_runAll (race : Race ρ) :
    Reaches race { race with handoff := race.handoff.runAll } := by
  unfold Handoff.runAll
  generalize race.handoff.loop.queue.length = count
  induction count with
  | zero => exact .refl
  | succ count ih => exact ih.tail (.runNext _)

end Race

/-! ### How far the first post has come -/

/-- How far a post has come that has taken the slot. -/
inductive Progress where
  | scheduling
  /-- Its result waits for the loop. -/
  | waiting
  | delivered
  /-- Its result came to a closed loop, or the loop was closed while it waited. -/
  | dropped
  deriving DecidableEq

namespace Progress

def stage : Progress → PostStage
  | scheduling => .scheduling
  | _ => .ended (.ok ())

/-- Nothing more becomes of the result. -/
def isFinal : Progress → Bool
  | delivered | dropped => true
  | _ => false

/-- A post that has come as far as `progress` may later have come as far as `later`. -/
def Leads (progress later : Progress) : Prop :=
  (later = scheduling → progress = scheduling) ∧ (progress.isFinal = true → later = progress)

theorem Leads.refl (progress : Progress) : progress.Leads progress := ⟨id, fun _ ↦ rfl⟩

theorem Leads.trans {progress middle later : Progress} (hfirst : progress.Leads middle)
    (hsecond : middle.Leads later) : progress.Leads later := by
  refine ⟨fun hlater ↦ hfirst.1 (hsecond.1 hlater), fun hfinal ↦ ?_⟩
  have hmiddle := hfirst.2 hfinal
  rw [hsecond.2 (hmiddle ▸ hfinal), hmiddle]

end Progress

namespace Handoff

variable {ρ : Type}

/-- The hand-off once the post of `first`, which has taken the slot, has come so far. -/
def IsAt (handoff : Handoff ρ) (first : ρ) : Progress → Prop
  | .scheduling =>
    handoff.slot = ⟨true, false⟩ ∧ handoff.loop.queue = [] ∧ handoff.delivered = []
  | .waiting =>
    handoff.slot = ⟨true, false⟩ ∧ handoff.loop = ⟨true, [first]⟩ ∧ handoff.delivered = []
  | .delivered =>
    handoff.slot = ⟨true, true⟩ ∧ handoff.loop.queue = [] ∧ handoff.delivered = [first]
  | .dropped =>
    handoff.slot = ⟨true, false⟩ ∧ handoff.loop = ⟨false, []⟩ ∧ handoff.delivered = []

variable {handoff : Handoff ρ} {first : ρ} {progress : Progress}

theorem IsAt.posted (h : handoff.IsAt first progress) : handoff.slot.posted = true := by
  cases progress <;> exact congrArg ResultSlot.posted h.1

/-- A post that has taken the slot waits on an open loop and is dropped by a closed one. -/
theorem IsAt.schedule (h : handoff.IsAt first .scheduling) :
    (handoff.schedule first).IsAt first (if handoff.loop.isOpen then .waiting else .dropped) := by
  obtain ⟨hslot, hqueue, hdelivered⟩ := h
  obtain ⟨slot, ⟨isOpen, queue⟩, delivered, records⟩ := handoff
  subst hslot hqueue hdelivered
  cases isOpen <;> exact ⟨rfl, rfl, rfl⟩

theorem runNext_of_nil (h : handoff.loop.queue = []) : handoff.runNext = handoff := by
  unfold runNext EventLoop.next?
  rw [h]

theorem IsAt.runNext_waiting (h : handoff.IsAt first .waiting) :
    handoff.runNext.IsAt first .delivered := by
  obtain ⟨hslot, hloop, hdelivered⟩ := h
  obtain ⟨slot, loop, delivered, records⟩ := handoff
  subst hslot hloop hdelivered
  exact ⟨rfl, rfl, rfl⟩

theorem IsAt.runNext (h : handoff.IsAt first progress) :
    ∃ later, handoff.runNext.IsAt first later ∧ progress.stage = later.stage ∧
      progress.Leads later := by
  cases progress with
  | waiting => exact ⟨.delivered, h.runNext_waiting, rfl, nofun, nofun⟩
  | scheduling | delivered =>
    rw [runNext_of_nil h.2.1]
    exact ⟨_, h, rfl, .refl _⟩
  | dropped =>
    rw [runNext_of_nil (congrArg EventLoop.queue h.2.1)]
    exact ⟨_, h, rfl, .refl _⟩

/-- A result that waits is delivered when the loop runs what is waiting. -/
theorem IsAt.runAll (h : handoff.IsAt first progress) (hopen : handoff.loop.isOpen = true)
    (hprogress : progress ≠ .scheduling) : handoff.runAll.IsAt first .delivered := by
  unfold Handoff.runAll
  cases progress with
  | scheduling => exact absurd rfl hprogress
  | waiting =>
    rw [h.2.1]
    exact h.runNext_waiting
  | delivered =>
    rw [h.2.1]
    exact h
  | dropped =>
    rw [h.2.1] at hopen
    cases hopen

theorem IsAt.closeLoop (h : handoff.IsAt first progress) :
    ∃ later, handoff.closeLoop.IsAt first later ∧ progress.stage = later.stage ∧
      progress.Leads later := by
  cases progress with
  | scheduling => exact ⟨.scheduling, ⟨h.1, rfl, h.2.2⟩, rfl, .refl _⟩
  | waiting => exact ⟨.dropped, ⟨h.1, rfl, h.2.2⟩, rfl, nofun, nofun⟩
  | delivered => exact ⟨.delivered, ⟨h.1, rfl, h.2.2⟩, rfl, .refl _⟩
  | dropped => exact ⟨.dropped, ⟨h.1, rfl, h.2.2⟩, rfl, .refl _⟩

end Handoff

namespace Race

variable {ρ : Type}

/-! ### What every step keeps -/

/-- The post of `first` has taken the slot and has come so far, and all other posts were
refused. -/
structure WonBy (race : Race ρ) (first : ρ) (progress : Progress) : Prop where
  exists_posts_eq : ∃ others, race.posts = ⟨first, progress.stage⟩ :: others ∧
    ∀ other ∈ others, other.stage = .ended (.error .slotTaken)
  isAt : race.handoff.IsAt first progress

/-- Nothing was posted yet. -/
structure Unused (race : Race ρ) : Prop where
  posts_eq : race.posts = []
  slot_eq : race.handoff.slot = {}
  queue_eq : race.handoff.loop.queue = []
  delivered_eq : race.handoff.delivered = []

variable {race next later : Race ρ} {first : ρ} {progress : Progress}

/-- A post that comes to the lock later is refused, and nothing else changes. -/
theorem WonBy.enter_eq (h : race.WonBy first progress) (result : ρ) : race.enter result =
    { race with posts := race.posts ++ [⟨result, .ended (.error .slotTaken)⟩] } := by
  have htake : race.handoff.slot.take = .error .slotTaken := if_pos h.isAt.posted
  rw [enter, htake]

theorem WonBy.enter (h : race.WonBy first progress) (result : ρ) :
    (race.enter result).WonBy first progress := by
  obtain ⟨others, hposts, hrefused⟩ := h.exists_posts_eq
  rw [h.enter_eq]
  refine ⟨⟨others ++ [⟨result, .ended (.error .slotTaken)⟩], ?_, ?_⟩, h.isAt⟩
  · rw [hposts]
    rfl
  · intro other hother
    rcases List.mem_append.mp hother with hearlier | hlast
    · exact hrefused other hearlier
    · rw [List.mem_singleton.mp hlast]

/-- Only the first post can be between its two steps. -/
theorem WonBy.eq_of_scheduling (h : race.WonBy first progress) {index : Nat} {result : ρ}
    (hpost : race.posts[index]? = some ⟨result, .scheduling⟩) :
    index = 0 ∧ result = first ∧ progress = .scheduling := by
  obtain ⟨others, hposts, hrefused⟩ := h.exists_posts_eq
  rw [hposts] at hpost
  cases index with
  | zero =>
    obtain ⟨hresult, hstage⟩ := Posting.mk.inj (Option.some.inj hpost)
    refine ⟨rfl, hresult.symm, ?_⟩
    cases progress with
    | scheduling => rfl
    | _ => cases hstage
  | succ index => cases hrefused _ (List.mem_of_getElem? hpost)

theorem WonBy.leave (h : race.WonBy first .scheduling) : (race.leave 0 first).WonBy first
    (if race.handoff.loop.isOpen then .waiting else .dropped) := by
  obtain ⟨others, hposts, hrefused⟩ := h.exists_posts_eq
  refine ⟨⟨others, ?_, hrefused⟩, h.isAt.schedule⟩
  rw [Race.leave, hposts, List.set_cons_zero]
  split_ifs <;> rfl

/-- The post returns when it has asked the loop, whatever the loop does with it. -/
theorem WonBy.getElem?_posts_leave (h : race.WonBy first progress) :
    (race.leave 0 first).posts[0]? = some ⟨first, .ended (.ok ())⟩ := by
  obtain ⟨others, hposts, _⟩ := h.exists_posts_eq
  rw [Race.leave, hposts]
  rfl

/-- A step that leaves the posts alone. -/
theorem WonBy.of_handoff (h : race.WonBy first progress) {handoff : Handoff ρ}
    (hlater : ∃ later, handoff.IsAt first later ∧ progress.stage = later.stage ∧
      progress.Leads later) :
    ∃ later, WonBy { race with handoff } first later ∧ progress.Leads later := by
  obtain ⟨later, hat, hstage, hleads⟩ := hlater
  exact ⟨later, ⟨hstage ▸ h.exists_posts_eq, hat⟩, hleads⟩

theorem WonBy.step (h : race.WonBy first progress) (hstep : Step race next) :
    ∃ later, next.WonBy first later ∧ progress.Leads later := by
  cases hstep with
  | enter result => exact ⟨progress, h.enter result, .refl progress⟩
  | leave hpost =>
    obtain ⟨rfl, rfl, rfl⟩ := h.eq_of_scheduling hpost
    exact ⟨_, h.leave, fun _ ↦ rfl, nofun⟩
  | runNext => exact h.of_handoff h.isAt.runNext
  | closeLoop => exact h.of_handoff h.isAt.closeLoop

theorem WonBy.of_reaches (h : race.WonBy first progress) (hreaches : Reaches race later) :
    ∃ last, later.WonBy first last ∧ progress.Leads last := by
  induction hreaches with
  | refl => exact ⟨progress, h, .refl progress⟩
  | tail _ hstep ih =>
    obtain ⟨middle, hmiddle, hbefore⟩ := ih
    obtain ⟨last, hlast, hbehind⟩ := hmiddle.step hstep
    exact ⟨last, hlast, hbefore.trans hbehind⟩

theorem Unused.step (h : race.Unused) (hstep : Step race next) :
    next.Unused ∨ ∃ first, next.WonBy first .scheduling := by
  obtain ⟨hposts, hslot, hqueue, hdelivered⟩ := h
  cases hstep with
  | enter result =>
    refine Or.inr ⟨result, ?_⟩
    have htake : race.handoff.slot.take = .ok ⟨true, false⟩ := by
      rw [hslot]
      rfl
    rw [enter, htake]
    exact ⟨⟨[], by rw [hposts]; rfl, nofun⟩, rfl, hqueue, hdelivered⟩
  | leave hpost =>
    rw [hposts] at hpost
    cases hpost
  | runNext =>
    rw [Handoff.runNext_of_nil hqueue]
    exact Or.inl ⟨hposts, hslot, hqueue, hdelivered⟩
  | closeLoop => exact Or.inl ⟨hposts, hslot, rfl, hdelivered⟩

theorem unused_or_wonBy_of_reachable (hreachable : Reachable race) :
    race.Unused ∨ ∃ first progress, race.WonBy first progress := by
  induction hreachable with
  | refl => exact Or.inl ⟨rfl, rfl, rfl, rfl⟩
  | tail _ hstep ih =>
    rcases ih with hunused | ⟨first, progress, hwon⟩
    · exact (hunused.step hstep).imp_right fun ⟨first, hwon⟩ ↦ ⟨first, _, hwon⟩
    · obtain ⟨later, hlater, _⟩ := hwon.step hstep
      exact Or.inr ⟨first, later, hlater⟩

/-! ### One post, one delivery -/

/-- One post at most uses the slot, and its result is delivered once at most. -/
structure SingleUse (race : Race ρ) : Prop where
  /-- The first post to the lock has returned, or it has the slot and will return. -/
  first_returns : ∀ {post : Posting ρ}, race.posts[0]? = some post →
    post.stage = .ended (.ok ()) ∨ (post.stage = .scheduling ∧
      (race.leave 0 post.result).posts[0]? = some ⟨post.result, .ended (.ok ())⟩)
  /-- Every other post was refused. -/
  other_refused : ∀ {index : Nat} {post : Posting ρ}, race.posts[index + 1]? = some post →
    post.stage = .ended (.error .slotTaken)
  posted_iff : race.handoff.slot.posted = true ↔ race.posts ≠ []
  consumed_iff : race.handoff.slot.consumed = true ↔ race.handoff.delivered ≠ []
  posted_of_consumed : race.handoff.slot.consumed = true → race.handoff.slot.posted = true
  /-- What was delivered is the result of the first post, once. -/
  delivered_eq : race.handoff.delivered = [] ∨
    ∃ post, race.posts[0]? = some post ∧ race.handoff.delivered = [post.result]
  /-- Only the loop delivers, while it is open. -/
  delivered_by_loop : ∀ {next : Race ρ}, Step race next →
    next.handoff.delivered ≠ race.handoff.delivered →
      race.handoff.loop.isOpen = true ∧ next = { race with handoff := race.handoff.runNext }
  /-- What was given to an open loop is delivered once the loop runs what is waiting. -/
  delivered_of_open : ∀ {index : Nat} {result : ρ},
    race.posts[index]? = some ⟨result, .scheduling⟩ → race.handoff.loop.isOpen = true →
      ∀ {middle later : Race ρ}, Reaches (race.leave index result) middle →
        middle.handoff.loop.isOpen = true →
          Reaches { middle with handoff := middle.handoff.runAll } later →
            later.handoff.delivered = [result]
  /-- What was given to a closed loop is never delivered, and later posts are refused as ever. -/
  dropped_of_closed : ∀ {index : Nat} {result : ρ},
    race.posts[index]? = some ⟨result, .scheduling⟩ → race.handoff.loop.isOpen = false →
      (race.leave index result).posts[index]? = some ⟨result, .ended (.ok ())⟩ ∧
        ∀ {later : Race ρ}, Reaches (race.leave index result) later →
          later.handoff.slot = ⟨true, false⟩ ∧ later.handoff.delivered = [] ∧
            ∀ late, later.enter late =
              { later with posts := later.posts ++ [⟨late, .ended (.error .slotTaken)⟩] }

theorem Unused.singleUse (h : race.Unused) : race.SingleUse := by
  obtain ⟨hposts, hslot, hqueue, hdelivered⟩ := h
  refine ⟨?_, ?_, ?_, ?_, ?_, Or.inl hdelivered, fun hstep hnew ↦ absurd ?_ hnew, ?_, ?_⟩
  · simp [hposts]
  · simp [hposts]
  · simp [hposts, hslot]
  · simp [hslot, hdelivered]
  · simp [hslot]
  · rw [hdelivered]
    rcases Unused.step ⟨hposts, hslot, hqueue, hdelivered⟩ hstep with hunused | ⟨first, hwon⟩
    · exact hunused.delivered_eq
    · exact hwon.isAt.2.2
  · simp [hposts]
  · simp [hposts]

/-- A step that delivers something is one of the loop. -/
theorem WonBy.eq_runNext_of_delivered_ne (h : race.WonBy first progress) (hstep : Step race next)
    (hnew : next.handoff.delivered ≠ race.handoff.delivered) :
    race.handoff.loop.isOpen = true ∧ next = { race with handoff := race.handoff.runNext } := by
  cases hstep with
  | enter result =>
    rw [h.enter_eq] at hnew
    exact absurd rfl hnew
  | leave hpost =>
    obtain ⟨rfl, rfl, rfl⟩ := h.eq_of_scheduling hpost
    have hafter := h.leave.isAt
    refine absurd ?_ hnew
    rw [h.isAt.2.2]
    split_ifs at hafter <;> exact hafter.2.2
  | runNext =>
    refine ⟨?_, rfl⟩
    cases progress with
    | waiting => rw [h.isAt.2.1]
    | scheduling | delivered =>
      rw [Handoff.runNext_of_nil h.isAt.2.1] at hnew
      exact absurd rfl hnew
    | dropped =>
      rw [Handoff.runNext_of_nil (congrArg EventLoop.queue h.isAt.2.1)] at hnew
      exact absurd rfl hnew
  | closeLoop => exact absurd rfl hnew

theorem WonBy.delivered_of_open (h : race.WonBy first .scheduling)
    (hopen : race.handoff.loop.isOpen = true) {middle : Race ρ}
    (hmiddle : Reaches (race.leave 0 first) middle) (hstillOpen : middle.handoff.loop.isOpen = true)
    (hlater : Reaches { middle with handoff := middle.handoff.runAll } later) :
    later.handoff.delivered = [first] := by
  have hleft := h.leave
  rw [if_pos hopen] at hleft
  obtain ⟨progress, hwon, hleads⟩ := hleft.of_reaches hmiddle
  have hprogress : progress ≠ .scheduling := fun heq ↦ nomatch hleads.1 heq
  have hrun := hwon.isAt.runAll hstillOpen hprogress
  have hstage : progress.stage = Progress.delivered.stage := by
    cases progress with
    | scheduling => exact absurd rfl hprogress
    | _ => rfl
  have hafter : WonBy { middle with handoff := middle.handoff.runAll } first .delivered :=
    ⟨hstage ▸ hwon.exists_posts_eq, hrun⟩
  obtain ⟨last, hlast, hfinal⟩ := hafter.of_reaches hlater
  obtain rfl := hfinal.2 rfl
  exact hlast.isAt.2.2

theorem WonBy.dropped_of_closed (h : race.WonBy first .scheduling)
    (hclosed : race.handoff.loop.isOpen = false) (hlater : Reaches (race.leave 0 first) later) :
    later.WonBy first .dropped := by
  have hleft := h.leave
  rw [if_neg (by rw [hclosed]; decide)] at hleft
  obtain ⟨last, hlast, hfinal⟩ := hleft.of_reaches hlater
  obtain rfl := hfinal.2 rfl
  exact hlast

theorem WonBy.singleUse (h : race.WonBy first progress) : race.SingleUse := by
  obtain ⟨others, hposts, hrefused⟩ := h.exists_posts_eq
  have hposted := h.isAt.posted
  refine ⟨?_, ?_, ?_, ?_, fun _ ↦ hposted, ?_, h.eq_runNext_of_delivered_ne, ?_, ?_⟩
  · intro post hpost
    rw [hposts] at hpost
    obtain rfl := Option.some.inj hpost
    cases progress with
    | scheduling => exact Or.inr ⟨rfl, h.getElem?_posts_leave⟩
    | _ => exact Or.inl rfl
  · intro index post hpost
    rw [hposts] at hpost
    exact hrefused post (List.mem_of_getElem? hpost)
  · simp [hposts, hposted]
  · have hat := h.isAt
    cases progress <;> rw [hat.1, hat.2.2] <;> simp
  · have hat := h.isAt
    cases progress with
    | delivered => exact Or.inr ⟨_, by rw [hposts]; rfl, hat.2.2⟩
    | _ => exact Or.inl hat.2.2
  · intro index result hpost hopen middle later hmiddle hstillOpen hlater
    obtain ⟨rfl, rfl, rfl⟩ := h.eq_of_scheduling hpost
    exact h.delivered_of_open hopen hmiddle hstillOpen hlater
  · intro index result hpost hclosed
    obtain ⟨rfl, rfl, rfl⟩ := h.eq_of_scheduling hpost
    refine ⟨h.getElem?_posts_leave, fun hlater ↦ ?_⟩
    have hdropped := h.dropped_of_closed hclosed hlater
    exact ⟨hdropped.isAt.1, hdropped.isAt.2.2, hdropped.enter_eq⟩

theorem singleUse_of_reachable (hreachable : Reachable race) : race.SingleUse := by
  rcases unused_or_wonBy_of_reachable hreachable with hunused | ⟨first, progress, hwon⟩
  · exact hunused.singleUse
  · exact hwon.singleUse

/-- One post has taken the slot, a second one came to the lock before the first had asked the loop,
and then the loop was closed. -/
def closedBetween : Race String :=
  let entered : Race String := (Race.enter (Race.enter {} "first") "second")
  { entered with handoff := entered.handoff.closeLoop }

theorem reachable_closedBetween : closedBetween.Reachable :=
  Relation.ReflTransGen.refl
    |>.tail (.enter _ "first")
    |>.tail (.enter _ "second")
    |>.tail (.closeLoop _)

theorem singleUse_closedBetween :
    closedBetween.posts = [⟨"first", .scheduling⟩, ⟨"second", .ended (.error .slotTaken)⟩] ∧
      closedBetween.SingleUse :=
  ⟨rfl, singleUse_of_reachable reachable_closedBetween⟩

end Race

end DeskAssistant
