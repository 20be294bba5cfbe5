import FieldMachine.Proofs.Operand
import FieldMachine.Proofs.Queueing
import Mathlib.Data.List.Nodup

/-!
# Activities take their turns

Every activity is called once in each frame until it is over: for the first time in the
frame after the one in which it was queued, and always in the order in which the
activities were queued.

What activities do is left open here.  They may change whatever they find, and they may
queue others, but they cannot touch the queue in any other way (`Conduct`).  The
activities that instructions begin are one such conduct (`Conduct.tick_ofActivities`).

An activity changes from call to call, and others come and go before and behind it.  It is
known by its ticket all the while: the frame in which it was queued, and how many were
queued in that frame before it.  The tickets ride along with the queue of a field and do
not touch it (`Course.agenda_machine`).  What one frame makes of them
(`Course.mem_roll_succ`) is carried on over all frames of a course of ticks and of whatever
the host does in between (`Course.roll_ordered`, `Course.exists_call_iff`).  The law that
comes of it is `Course.InTurn`.
-/

namespace FieldMachine

set_option autoImplicit false

variable {σ : Type}

/-! ## What activities do -/

/-- What activities do when they are called in a frame: the machine after it, and what is left of
the activity.  A call leaves the queue alone, but for what it adds behind the others. -/
structure Conduct (σ : Type) where
  call : Nat → Activity → Machine σ → Machine σ × Option Activity
  queues : ∀ frame activity (machine : Machine σ),
    machine.world.OnlyQueues (call frame activity machine).1.world

namespace Conduct

/-- What the activities do that instructions begin. -/
def ofActivities (setting : Setting σ) : Conduct σ where
  call frame activity machine := activity.run setting frame machine
  queues frame activity machine :=
    machine.world.onlyQueues_of_agenda (activity.agenda_run setting frame machine)

variable (conduct : Conduct σ)

/-- One frame of some activities: the machine after it, and what is left of them. -/
def callAll (frame : Nat) : List Activity → Machine σ → Machine σ × List Activity
  | [], machine => (machine, [])
  | activity :: rest, machine =>
      let (machine, left) := conduct.call frame activity machine
      let (machine, others) := callAll frame rest machine
      (machine, left.toList ++ others)

/-- One frame of the background activities; the ones queued meanwhile join them at its end. -/
def finishTick (machine : Machine σ) : Machine σ :=
  let (machine, left) := conduct.callAll machine.world.frame machine.world.activities machine
  machine.updateWorld fun world =>
    { world with
      activities := left ++ world.spawned.toList
      spawned := #[]
      frame := world.frame + 1 }

/-- One frame of a field whose activities keep to a conduct. -/
def tick (setting : Setting σ) (elapsed : UInt64) (machine : Machine σ) : Machine σ :=
  conduct.finishTick (machine.beforeActivities setting elapsed)

theorem callAll_ofActivities (setting : Setting σ) (frame : Nat) (activities : List Activity)
    (machine : Machine σ) :
    (ofActivities setting).callAll frame activities machine =
      machine.runActivities setting frame activities := by
  induction activities generalizing machine with
  | nil => rfl
  | cons activity rest ih =>
      have later := ih (activity.run setting frame machine).1
      unfold callAll Machine.runActivities
      dsimp only [ofActivities] at later ⊢
      rw [later]

theorem tick_ofActivities (setting : Setting σ) (elapsed : UInt64) (machine : Machine σ) :
    (ofActivities setting).tick setting elapsed machine = machine.tick setting elapsed := by
  unfold tick finishTick
  rw [callAll_ofActivities]
  rfl

end Conduct

/-! ## Tickets -/

/-- What an activity is known by as long as it lasts: the frame in which it was queued, and how many
were queued before it in that frame. -/
structure Ticket where
  frame : Nat
  place : Nat
deriving DecidableEq

/-- The order in which activities were queued. -/
def Ticket.Before (first second : Ticket) : Prop :=
  first.frame < second.frame ∨ first.frame = second.frame ∧ first.place < second.place

theorem Ticket.Before.ne {first second : Ticket} (before : first.Before second) :
    first ≠ second := by
  rintro rfl
  simp [Before] at before

/-- The activities that were queued in a frame, with their tickets. -/
def Ticket.issue (frame : Nat) (arrivals : List Activity) : List (Ticket × Activity) :=
  arrivals.mapIdx fun place activity => (⟨frame, place⟩, activity)

section Issue

variable {frame : Nat} {arrivals : List Activity}

theorem Ticket.mem_issue {ticket : Ticket} {activity : Activity} :
    (ticket, activity) ∈ issue frame arrivals ↔
      ticket.frame = frame ∧ arrivals[ticket.place]? = some activity := by
  obtain ⟨queuedIn, place⟩ := ticket
  simp only [issue, List.mem_mapIdx, List.getElem?_eq_some_iff, Prod.mk.injEq, Ticket.mk.injEq]
  constructor
  · rintro ⟨index, inside, ⟨rfl, rfl⟩, same⟩
    exact ⟨rfl, inside, same⟩
  · rintro ⟨rfl, inside, same⟩
    exact ⟨place, inside, ⟨rfl, rfl⟩, same⟩

theorem Ticket.map_issue : (issue frame arrivals).map Prod.snd = arrivals := by
  refine List.ext_getElem (by simp [issue]) fun place _ _ => ?_
  simp [issue]

theorem Ticket.pairwise_issue :
    (issue frame arrivals).Pairwise fun first second => first.1.Before second.1 := by
  rw [List.pairwise_iff_getElem]
  intro first second _ _ before
  simp only [issue, List.getElem_mapIdx]
  exact .inr ⟨rfl, before⟩

end Issue

/-! ## Calls -/

/-- A call of an activity in a frame. -/
structure Call (σ : Type) where
  ticket : Ticket
  frame : Nat
  activity : Activity
  machine : Machine σ

namespace Call

variable (conduct : Conduct σ) (call : Call σ)

/-- The machine after the call. -/
def after : Machine σ := (conduct.call call.frame call.activity call.machine).1

/-- What the call leaves of the activity, unless it is over. -/
def left : Option Activity := (conduct.call call.frame call.activity call.machine).2

/-- The activities that the call queues. -/
def queued : List Activity := call.machine.world.queuedUntil (call.after conduct).world

/-- What the call leaves of the activity, with its ticket. -/
def goesOn : Option (Ticket × Activity) := (call.left conduct).map (call.ticket, ·)

end Call

namespace Conduct

variable (conduct : Conduct σ) {frame : Nat} {roll : List (Ticket × Activity)} {machine : Machine σ}

/-- The calls of some activities in one frame. -/
def calls (frame : Nat) : List (Ticket × Activity) → Machine σ → List (Call σ)
  | [], _ => []
  | (ticket, activity) :: rest, machine =>
      let call : Call σ := { ticket, frame, activity, machine }
      call :: calls frame rest (call.after conduct)

/-- Calls that lead from one machine to another: each is made where the one before has led. -/
inductive Lead : List (Call σ) → Machine σ → Machine σ → Prop
  | done (machine : Machine σ) : Lead [] machine machine
  | call {calls : List (Call σ)} {last : Machine σ} (call : Call σ)
      (rest : Lead calls (call.after conduct) last) : Lead (call :: calls) call.machine last

variable {conduct}

/-- Everyone on the roll is called, in the order of the roll. -/
theorem map_calls :
    (conduct.calls frame roll machine).map (fun call => (call.ticket, call.activity)) = roll := by
  induction roll generalizing machine with
  | nil => rfl
  | cons entry rest ih => exact congrArg (entry :: ·) ih

theorem frame_of_mem_calls {call : Call σ} (among : call ∈ conduct.calls frame roll machine) :
    call.frame = frame := by
  induction roll generalizing machine with
  | nil => cases among
  | cons entry rest ih =>
      rcases List.mem_cons.mp among with rfl | later
      · rfl
      · exact ih later

/-- The tickets do not touch what the calls do. -/
theorem lead_calls :
    conduct.Lead (conduct.calls frame roll machine) machine
      (conduct.callAll frame (roll.map Prod.snd) machine).1 := by
  induction roll generalizing machine with
  | nil => exact .done machine
  | cons entry rest ih => exact .call ⟨entry.1, frame, entry.2, machine⟩ ih

/-- The tickets do not touch what the calls leave. -/
theorem left_calls :
    (conduct.callAll frame (roll.map Prod.snd) machine).2 =
      (conduct.calls frame roll machine).filterMap (Call.left conduct) := by
  induction roll generalizing machine with
  | nil => rfl
  | cons entry rest ih =>
      simp only [List.map_cons, callAll, calls, List.filterMap_cons, ih]
      unfold Call.left Call.after
      dsimp only
      cases (conduct.call frame entry.2 machine).2 <;> rfl

/-- Calls queue one after the other. -/
theorem Lead.queues {calls : List (Call σ)} {first last : Machine σ}
    (lead : conduct.Lead calls first last) :
    first.world.Queues (calls.flatMap (Call.queued conduct)) last.world := by
  induction lead with
  | done machine => exact .refl
  | call call rest ih =>
      have queued := conduct.queues call.frame call.activity call.machine
      exact World.Queues.trans queued ih

end Conduct

/-! ## What the host does between two ticks -/

/-- Something that the host does between two ticks. -/
inductive Chore (σ : Type)
  /-- It queues an activity. -/
  | spawn (activity : Activity)
  /-- Another operation on the field. -/
  | operate (move : Machine.Move) (spares : move.sparesQueue = true)
  /-- Anything else; it cannot touch the queue. -/
  | outside (change : Machine σ → Machine σ)
      (spares : ∀ machine, (change machine).world.agenda = machine.world.agenda)

namespace Chore

/-- The machine after something that the host does. -/
def perform (setting : Setting σ) (machine : Machine σ) : Chore σ → Machine σ
  | .spawn activity => machine.spawn activity
  | .operate move _ => machine.make setting move
  | .outside change _ => change machine

/-- The activity that the host queues. -/
def spawned? : Chore σ → Option Activity
  | .spawn activity => some activity
  | .operate .. | .outside .. => none

theorem queues_performAll (setting : Setting σ) (chores : List (Chore σ)) (machine : Machine σ) :
    machine.world.Queues (chores.filterMap spawned?)
      (chores.foldl (perform setting) machine).world := by
  induction chores generalizing machine with
  | nil => exact .refl
  | cons chore rest ih =>
      cases chore with
      | spawn activity => exact (World.Queues.spawn activity).trans (ih (machine.spawn activity))
      | operate move spares =>
          exact (World.Queues.of_agenda (machine.agenda_make spares)).trans
            (ih (machine.make setting move))
      | outside change spares =>
          exact (World.Queues.of_agenda (spares machine)).trans (ih (change machine))

end Chore

/-! ## Courses -/

/-- A field from its entry on: what its activities do, what the host does before the tick of each
frame, and the time that passes in it. -/
structure Course (σ : Type) where
  setting : Setting σ
  conduct : Conduct σ
  session : Session
  random : Random
  host : σ
  chores : Nat → List (Chore σ)
  elapsed : Nat → UInt64

namespace Course

variable (course : Course σ) (frame : Nat)

/-- What the host makes of a machine before the tick of a frame. -/
def prepare (machine : Machine σ) : Machine σ :=
  (course.chores frame).foldl (Chore.perform course.setting) machine

/-- The machine at the beginning of a frame. -/
def machine : Nat → Machine σ
  | 0 => .enter course.setting course.session course.random course.host
  | frame + 1 =>
      course.conduct.tick course.setting (course.elapsed frame)
        (course.prepare frame (machine frame))

/-- The machine before the tick of a frame. -/
def ready : Machine σ := course.prepare frame (course.machine frame)

/-- The machine in the tick of a frame after all lanes have had their turns. -/
def turned : Machine σ :=
  (course.ready frame).beforeActivities course.setting (course.elapsed frame)

/-- The machine in the tick of a frame after all activities were called. -/
def called : Machine σ :=
  (course.conduct.callAll (course.turned frame).world.frame (course.turned frame).world.activities
    (course.turned frame)).1

/-- The activities that were queued in a frame. -/
def arrivals : List Activity := (course.called frame).world.spawned.toList

/-- The activities of a frame with their tickets. -/
def roll : Nat → List (Ticket × Activity)
  | 0 => []
  | frame + 1 =>
      (course.conduct.calls (course.turned frame).world.frame (roll frame)
        (course.turned frame)).filterMap (Call.goesOn course.conduct) ++
      Ticket.issue frame (course.arrivals frame)

/-- The calls of activities in the tick of a frame. -/
def calls : List (Call σ) :=
  course.conduct.calls (course.turned frame).world.frame (course.roll frame) (course.turned frame)

/-- The activities that instructions queue in the tick of a frame. -/
def begun : List Activity :=
  ((course.ready frame).tickMoments course.setting (course.elapsed frame)).flatMap
    (Moment.queued course.setting)

/-- Whether an activity is due in a frame: it was queued in an earlier one, and no call has put an
end to it since. -/
def Due (ticket : Ticket) : Prop :=
  ticket.frame < frame ∧ ticket.place < (course.arrivals ticket.frame).length ∧
    ∀ earlier < frame, ∀ call ∈ course.calls earlier, call.ticket = ticket →
      call.left course.conduct ≠ none

/-- The law that activities keep to. -/
structure InTurn : Prop where
  /-- In every frame the activities in the queue are called, and nothing else is; each is called
  where the call before has led. -/
  called : ∀ frame,
    (course.calls frame).map Call.activity = (course.turned frame).world.activities ∧
      course.conduct.Lead (course.calls frame) (course.turned frame) (course.called frame)
  /-- An activity is told the number of the frame. -/
  numbered : ∀ frame, ∀ call ∈ course.calls frame, call.frame = frame
  /-- In a frame the host queues activities, then instructions do, and then activities. -/
  queued : ∀ frame, course.arrivals frame =
    (course.chores frame).filterMap Chore.spawned? ++ course.begun frame ++
      (course.calls frame).flatMap (Call.queued course.conduct)
  /-- An activity is called first in the frame after the one in which it was queued. -/
  first : ∀ frame place activity, (course.arrivals frame)[place]? = some activity →
    ∃ call ∈ course.calls (frame + 1), call.ticket = ⟨frame, place⟩ ∧ call.activity = activity
  /-- What a call leaves is called in the next frame. -/
  next : ∀ frame, ∀ call ∈ course.calls frame, ∀ left, call.left course.conduct = some left →
    ∃ later ∈ course.calls (frame + 1), later.ticket = call.ticket ∧ later.activity = left
  /-- As long as an activity is due, it is called once in every frame. -/
  once : ∀ ticket frame, course.Due frame ticket →
    ((course.calls frame).map Call.ticket).count ticket = 1
  /-- Before and after that it is never called. -/
  never : ∀ ticket frame, ¬ course.Due frame ticket →
    ticket ∉ (course.calls frame).map Call.ticket
  /-- In every frame activities are called in the order in which they were queued. -/
  ordered : ∀ frame, (course.calls frame).Pairwise fun first second =>
    first.ticket.Before second.ticket

/-! ## One frame -/

variable {frame}

theorem queues_turned :
    (course.machine frame).world.Queues
      ((course.chores frame).filterMap Chore.spawned? ++ course.begun frame)
      (course.turned frame).world :=
  (Chore.queues_performAll course.setting (course.chores frame) _).trans
    (Machine.queues_beforeActivities course.setting (course.elapsed frame) (course.ready frame))

/-- Until the activities are called, the roll of a frame is the roll of its queue. -/
theorem turned_of_agenda
    (agenda : (course.machine frame).world.agenda =
      (frame, (course.roll frame).map Prod.snd, #[])) :
    (course.turned frame).world.frame = frame ∧
      (course.turned frame).world.activities = (course.roll frame).map Prod.snd :=
  ⟨course.queues_turned.frame.trans (congrArg Prod.fst agenda),
    course.queues_turned.activities.trans (congrArg (fun agenda => agenda.2.1) agenda)⟩

theorem lead_of_activities
    (listed : (course.turned frame).world.activities = (course.roll frame).map Prod.snd) :
    course.conduct.Lead (course.calls frame) (course.turned frame) (course.called frame) := by
  unfold called
  rw [listed]
  exact Conduct.lead_calls

theorem map_roll_succ :
    (course.roll (frame + 1)).map Prod.snd =
      (course.calls frame).filterMap (Call.left course.conduct) ++ course.arrivals frame := by
  have left (call : Call σ) :
      (call.goesOn course.conduct).map Prod.snd = call.left course.conduct := by
    simp [Call.goesOn, Function.comp_def]
  rw [roll, List.map_append, Ticket.map_issue, List.map_filterMap, funext left]
  rfl

/-- The tickets do not touch the queue. -/
theorem agenda_machine (frame : Nat) :
    (course.machine frame).world.agenda = (frame, (course.roll frame).map Prod.snd, #[]) := by
  induction frame with
  | zero => rfl
  | succ frame ih =>
      obtain ⟨number, listed⟩ := course.turned_of_agenda ih
      have called := (course.lead_of_activities listed).queues
      have left : (course.conduct.callAll (course.turned frame).world.frame
          (course.turned frame).world.activities (course.turned frame)).2 =
            (course.calls frame).filterMap (Call.left course.conduct) := by
        rw [listed]
        exact Conduct.left_calls
      have agenda : (course.machine (frame + 1)).world.agenda =
          ((course.called frame).world.frame + 1, (course.conduct.callAll
            (course.turned frame).world.frame (course.turned frame).world.activities
            (course.turned frame)).2 ++ course.arrivals frame, #[]) := rfl
      rw [agenda, called.frame, left, number, course.map_roll_succ]

theorem frame_turned (frame : Nat) : (course.turned frame).world.frame = frame :=
  (course.turned_of_agenda (course.agenda_machine frame)).1

theorem activities_turned (frame : Nat) :
    (course.turned frame).world.activities = (course.roll frame).map Prod.snd :=
  (course.turned_of_agenda (course.agenda_machine frame)).2

theorem lead_calls (frame : Nat) :
    course.conduct.Lead (course.calls frame) (course.turned frame) (course.called frame) :=
  course.lead_of_activities (course.activities_turned frame)

theorem arrivals_eq (frame : Nat) :
    course.arrivals frame =
      (course.chores frame).filterMap Chore.spawned? ++ course.begun frame ++
        (course.calls frame).flatMap (Call.queued course.conduct) := by
  have empty : (course.machine frame).world.spawned = #[] :=
    congrArg (fun agenda => agenda.2.2) (course.agenda_machine frame)
  have queued := (course.queues_turned.trans (course.lead_calls frame).queues).spawned
  rw [empty] at queued
  exact queued

/-- Whoever is on the roll is called, and nobody else. -/
theorem map_calls_eq :
    (course.calls frame).map (fun call => (call.ticket, call.activity)) = course.roll frame :=
  Conduct.map_calls

theorem mem_roll_iff {ticket : Ticket} {activity : Activity} :
    (ticket, activity) ∈ course.roll frame ↔
      ∃ call ∈ course.calls frame, call.ticket = ticket ∧ call.activity = activity := by
  rw [← course.map_calls_eq]
  simp

/-- Who is on the roll of the next frame: whatever the calls of this one have left, and what was
queued in it. -/
theorem mem_roll_succ {ticket : Ticket} {activity : Activity} :
    (ticket, activity) ∈ course.roll (frame + 1) ↔
      (∃ call ∈ course.calls frame, call.ticket = ticket ∧
        call.left course.conduct = some activity) ∨
      ticket.frame = frame ∧ (course.arrivals frame)[ticket.place]? = some activity := by
  have left : (ticket, activity) ∈ (course.calls frame).filterMap (Call.goesOn course.conduct) ↔
      ∃ call ∈ course.calls frame, call.ticket = ticket ∧
        call.left course.conduct = some activity := by
    simp only [List.mem_filterMap, Call.goesOn, Option.map_eq_some_iff, Prod.mk.injEq]
    grind
  rw [← left, ← Ticket.mem_issue, ← List.mem_append]
  rfl

/-! ## All frames -/

theorem pairwise_calls_iff :
    ((course.calls frame).Pairwise fun first second => first.ticket.Before second.ticket) ↔
      (course.roll frame).Pairwise fun first second => first.1.Before second.1 := by
  rw [← course.map_calls_eq, List.pairwise_map]

/-- The activities of a frame were queued in earlier ones, and they stand in the order in which they
were queued. -/
theorem roll_ordered (frame : Nat) :
    (∀ entry ∈ course.roll frame, entry.1.frame < frame) ∧
      (course.roll frame).Pairwise fun first second => first.1.Before second.1 := by
  induction frame with
  | zero => exact ⟨fun entry among => absurd among List.not_mem_nil, .nil⟩
  | succ frame ih =>
      obtain ⟨earlier, ordered⟩ := ih
      have goesOn (entry : Ticket × Activity)
          (among : entry ∈ (course.calls frame).filterMap (Call.goesOn course.conduct)) :
          entry.1.frame < frame := by
        obtain ⟨call, called, left⟩ := List.mem_filterMap.mp among
        obtain ⟨_, -, rfl⟩ := Option.map_eq_some_iff.mp left
        exact earlier (call.ticket, call.activity)
          (course.mem_roll_iff.mpr ⟨call, called, rfl, rfl⟩)
      have arrived (entry : Ticket × Activity)
          (among : entry ∈ Ticket.issue frame (course.arrivals frame)) : entry.1.frame = frame :=
        (Ticket.mem_issue.mp among).1
      refine ⟨fun entry among => ?_, List.pairwise_append.mpr ⟨?_, Ticket.pairwise_issue, ?_⟩⟩
      · rcases List.mem_append.mp among with old | new
        · exact Nat.lt_succ_of_lt (goesOn entry old)
        · exact arrived entry new ▸ Nat.lt_succ_self _
      · -- Whoever is over drops out; the others keep their order.
        have called := course.pairwise_calls_iff.mpr ordered
        refine called.filterMap _ fun first second before _ left _ leftToo => ?_
        obtain ⟨_, -, rfl⟩ := Option.map_eq_some_iff.mp left
        obtain ⟨_, -, rfl⟩ := Option.map_eq_some_iff.mp leftToo
        exact before
      · intro old among new amongToo
        exact .inl (arrived new amongToo ▸ goesOn old among)

theorem calls_ordered (frame : Nat) :
    (course.calls frame).Pairwise fun first second => first.ticket.Before second.ticket :=
  course.pairwise_calls_iff.mpr (course.roll_ordered frame).2

/-- No ticket is called twice in a frame. -/
theorem nodup_tickets (frame : Nat) : ((course.calls frame).map Call.ticket).Nodup :=
  List.pairwise_map.mpr ((course.calls_ordered frame).imp Ticket.Before.ne)

theorem eq_of_ticket {call other : Call σ} (among : call ∈ course.calls frame)
    (amongToo : other ∈ course.calls frame) (same : call.ticket = other.ticket) : call = other :=
  List.inj_on_of_nodup_map (course.nodup_tickets frame) among amongToo same

theorem frame_lt_of_mem_calls {call : Call σ} (among : call ∈ course.calls frame) :
    call.ticket.frame < frame :=
  (course.roll_ordered frame).1 _ (course.mem_roll_iff.mpr ⟨call, among, rfl, rfl⟩)

/-- Who is called in the next frame: whoever is called in this one and is not over, and whoever was
queued in it. -/
theorem exists_call_succ_iff {ticket : Ticket} :
    (∃ call ∈ course.calls (frame + 1), call.ticket = ticket) ↔
      (∃ call ∈ course.calls frame, call.ticket = ticket ∧ call.left course.conduct ≠ none) ∨
      ticket.frame = frame ∧ ticket.place < (course.arrivals frame).length := by
  have listed : (∃ call ∈ course.calls (frame + 1), call.ticket = ticket) ↔
      ∃ activity, (ticket, activity) ∈ course.roll (frame + 1) := by
    simp only [course.mem_roll_iff]
    grind
  rw [listed]
  simp only [course.mem_roll_succ, exists_or, exists_and_left, Option.ne_none_iff_exists',
    List.getElem?_eq_some_iff]
  grind

/-- An activity is called in the frames in which it is due, and in no others. -/
theorem exists_call_iff {ticket : Ticket} (frame : Nat) :
    (∃ call ∈ course.calls frame, call.ticket = ticket) ↔ course.Due frame ticket := by
  induction frame with
  | zero =>
      constructor
      · rintro ⟨call, ⟨⟩, -⟩
      · exact fun due => absurd due.1 (Nat.not_lt_zero _)
  | succ frame ih =>
      rw [course.exists_call_succ_iff]
      constructor
      · rintro (⟨call, among, same, goesOn⟩ | ⟨rfl, inside⟩)
        · obtain ⟨queued, inside, lasted⟩ := ih.mp ⟨call, among, same⟩
          refine ⟨Nat.lt_succ_of_lt queued, inside, fun earlier before other called own => ?_⟩
          rcases Nat.lt_succ_iff_lt_or_eq.mp before with before | rfl
          · exact lasted earlier before other called own
          · exact course.eq_of_ticket among called (same.trans own.symm) ▸ goesOn
        · refine ⟨Nat.lt_succ_self _, inside, fun earlier before other called own => ?_⟩
          have queued := course.frame_lt_of_mem_calls called
          rw [own] at queued
          exact absurd (Nat.lt_of_lt_of_le queued (Nat.le_of_lt_succ before)) (Nat.lt_irrefl _)
      · rintro ⟨queued, inside, lasted⟩
        rcases Nat.lt_succ_iff_lt_or_eq.mp queued with before | rfl
        · have due : course.Due frame ticket := ⟨before, inside, fun earlier sooner =>
            lasted earlier (Nat.lt_succ_of_lt sooner)⟩
          obtain ⟨call, among, same⟩ := ih.mpr due
          exact .inl ⟨call, among, same, lasted frame (Nat.lt_succ_self _) call among same⟩
        · exact .inr ⟨rfl, inside⟩

/-- Every activity is called once in each frame until it is over, from the frame after the one in
which it was queued on, and in the order in which the activities were queued.  This is so of
whatever activities do, and so of the ones that instructions begin. -/
theorem activities_take_turns (course : Course σ) :
    course.InTurn ∧ ∀ elapsed machine,
      (Conduct.ofActivities course.setting).tick course.setting elapsed machine =
        machine.tick course.setting elapsed := by
  refine ⟨⟨?called, ?numbered, course.arrivals_eq, ?first, ?next, ?once, ?never,
    course.calls_ordered⟩, Conduct.tick_ofActivities course.setting⟩
  case called =>
    intro frame
    refine ⟨?_, course.lead_calls frame⟩
    rw [course.activities_turned, ← course.map_calls_eq, List.map_map]
    rfl
  case numbered =>
    intro frame call among
    exact (Conduct.frame_of_mem_calls among).trans (course.frame_turned frame)
  case first =>
    intro frame place activity arrived
    exact course.mem_roll_iff.mp (course.mem_roll_succ.mpr (.inr ⟨rfl, arrived⟩))
  case next =>
    intro frame call among left goesOn
    exact course.mem_roll_iff.mp (course.mem_roll_succ.mpr (.inl ⟨call, among, rfl, goesOn⟩))
  case once =>
    intro ticket frame due
    obtain ⟨call, among, same⟩ := (course.exists_call_iff frame).mpr due
    exact List.count_eq_one_of_mem (course.nodup_tickets frame)
      (List.mem_map.mpr ⟨call, among, same⟩)
  case never =>
    intro ticket frame ended among
    exact ended ((course.exists_call_iff frame).mp (List.mem_map.mp among))

end Course

/-! ## A small field -/

namespace Relay

/-- An entity that fades the screen over three frames. -/
def setting : Setting Unit := .ofScripts [[0x25, 0x00, 0x00, 0x01, 0x00, 0x00, 0x00, 0x03, 0x00]]

/-- A countdown of two frames. -/
def successor : Activity := .countdown { id := 8, frames := 2, wake := none }

/-- Whether a call of an activity queues another one. -/
def passesOn : Activity → Bool
  | .countdown timer => timer.id = 7
  | _ => false

/-- The countdown with the number 7 queues another one whenever it is called. -/
def conduct : Conduct Unit where
  call frame activity machine :=
    let (machine, left) := activity.run setting frame machine
    (if passesOn activity then machine.spawn successor else machine, left)
  queues frame activity machine := by
    have ran : machine.world.Queues [] (activity.run setting frame machine).1.world :=
      .of_agenda (activity.agenda_run setting frame machine)
    dsimp only
    split
    · exact (ran.trans (.spawn successor)).onlyQueues
    · exact ran.onlyQueues

/-- The host starts the field with two countdowns in the queue. -/
def course : Course Unit where
  setting
  conduct
  session := Session.fresh setting.config
  random := .ofSeed 0
  host := ()
  chores
    | 0 => [.operate .start rfl, .spawn (.countdown { id := 7, frames := 1, wake := none }),
        .spawn (.countdown { id := 1, frames := 3, wake := none })]
    | _ => []
  elapsed _ := 0

/-- The tickets of the calls in a frame, and whether the activity goes on. -/
def calls (frame : Nat) : List (Ticket × Bool) :=
  (course.calls frame).map fun call => (call.ticket, (call.left conduct).isSome)

/-- One countdown ends where it queues another, which is called behind the fade from the next frame
on. -/
theorem turns_of_course :
    (List.range 6).map calls =
      [[],
        [(⟨0, 0⟩, false), (⟨0, 1⟩, true), (⟨0, 2⟩, true)],
        [(⟨0, 1⟩, true), (⟨0, 2⟩, true), (⟨1, 0⟩, true)],
        [(⟨0, 1⟩, false), (⟨0, 2⟩, true), (⟨1, 0⟩, false)],
        [(⟨0, 2⟩, false)],
        []] ∧
      course.InTurn :=
  ⟨by decide +kernel, course.activities_take_turns.1⟩

end Relay

end FieldMachine
