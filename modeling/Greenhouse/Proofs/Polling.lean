import Greenhouse.Poller
import Greenhouse.Proofs.Replies
import Mathlib.Logic.Function.Basic

/-!
# Greenhouse.Proofs.Polling

A poller in use, while its polling task goes on.

Starting a poller spawns a task.  Of that task the poller keeps two things: the means to signal it that
it is to stop, and a handle to wait by for its end.  A stop gives the signal and waits; it has the
poller to itself until then, so that meanwhile nobody else starts, stops, asks or subscribes.  The task
rests until a tick is due or the signal has come.  A tick goes through the entities one after the other,
and only a task at rest sees the signal.

The one that holds the poller, its receivers and its task go on in any order, and devices may reply
anything.  A history lists what happened, the latest first.

* `Owned` — what the poller keeps is the task that is alive, if there is one.
* `Inv` — besides, whether a poller counts as started is read off its history; the updates sent so far
  and those that the tick under way still owes make up whole ticks; and a task that has done nothing is
  about to tick.
* `inv_of_run` — so it is at every point of a history.
-/

namespace Greenhouse

/-- A poller can be made for any interval but zero, and nothing has been sent on it. -/
theorem Poller.new_eq_ok_iff {handles : List Handle} {interval : Nat} {p : Poller} :
    new handles interval = .ok p ↔ interval ≠ 0 ∧ p = ⟨handles, interval, .empty, false⟩ := by
  rw [new]
  split
  · next h => simp [h]
  · next h => simp [h, eq_comm]

namespace Polling

open Dialogue

/-! ## tasks -/

/-- Where a polling task is. -/
inductive Phase where
  | resting
  /-- In a tick, an entity is to be updated next, and others behind it. -/
  | facing (h : Handle) (rest : List Handle)
  /-- The update of an entity is in progress. -/
  | updating (h : Handle) (rest : List Handle)
  /-- What is to be sent about an entity is known. -/
  | sending (h : Handle) (u : Update) (rest : List Handle)
  | ended

namespace Phase

/-- On to the next entity of a tick; to rest if there is none. -/
def onward : List Handle → Phase
  | [] => resting
  | h :: rest => facing h rest

/-- The entities that the tick under way still owes an update. -/
def remaining : Phase → List Handle
  | facing h rest | updating h rest | sending h _ rest => h :: rest
  | resting | ended => []

/-- A task that faces some entities owes each of them an update. -/
@[simp] theorem remaining_onward (hs : List Handle) : (onward hs).remaining = hs := by
  cases hs <;> rfl

end Phase

/-- A polling task. -/
structure Task where
  phase : Phase
  /-- Whether the time for a tick has come. -/
  due : Bool
  /-- Whether it has been signalled to stop. -/
  signalled : Bool

namespace Task

/-- A new task: its first tick is due at once.  No time passes without an interval, so that a task
without one breaks down right away. -/
def fresh (interval : Nat) : Task :=
  ⟨if interval = 0 then .ended else .resting, true, false⟩

/-- A new task is at rest, and its first tick is due at once. -/
theorem fresh_of_ne_zero {interval : Nat} (h : interval ≠ 0) :
    fresh interval = ⟨.resting, true, false⟩ := by
  rw [fresh, if_neg h]

/-- Whether a task has not ended. -/
def isAlive (task : Task) : Bool :=
  match task.phase with
  | .ended => false
  | _ => true

/-- Whether a task has an update in progress. -/
def isUpdating (task : Task) : Bool :=
  match task.phase with
  | .updating .. => true
  | _ => false

/-- Where a task is decides whether it is alive. -/
theorem isAlive_of_phase {task task' : Task} (h : task.phase = task'.phase) :
    task.isAlive = task'.isAlive := by
  rw [isAlive, isAlive, h]

/-- A task with entities to update, or with none left, is alive. -/
theorem isAlive_onward {hs : List Handle} {due signalled : Bool} :
    (⟨.onward hs, due, signalled⟩ : Task).isAlive := by
  cases hs <;> rfl

/-- A task that has ended owes nothing. -/
theorem remaining_of_not_isAlive {task : Task} (h : task.isAlive = false) :
    task.phase.remaining = [] := by
  rw [isAlive] at h
  split at h
  · next hp => rw [hp, Phase.remaining]
  · cases h

/-- A task that waits for an entity is alive. -/
theorem isAlive_of_isUpdating {task : Task} (h : task.isUpdating) : task.isAlive := by
  rw [isUpdating] at h
  split at h
  · next hp => rw [isAlive, hp]
  · cases h

end Task

/-- Whether the holder of a poller may use it. -/
inductive Control where
  | free
  /-- A stop is under way, waiting for the end of a task if there is one. -/
  | stopping (awaited : Option Nat)

/-! ## the poller with its tasks and receivers -/

/-- A poller in use. -/
structure State where
  entities : List Entity
  feed : Feed Update
  /-- The number of the next update of each receiver. -/
  receivers : List Nat
  tasks : Nat → Task
  /-- How many tasks there have been. -/
  spawned : Nat
  /-- The task that the poller can signal. -/
  sender : Option Nat
  /-- The task that the poller can wait for. -/
  handle : Option Nat
  control : Control

namespace State

/-- A poller that has just been made. -/
def initial (p : Poller) (entities : List Entity) : State :=
  ⟨entities, p.feed, [], fun _ => ⟨.ended, false, false⟩, 0, none, none, .free⟩

/-- Whether a task is alive. -/
def isAlive (s : State) (t : Nat) : Bool := (s.tasks t).isAlive

/-- What the poller says of whether it is running: it has a handle on a task that has not ended. -/
def isRunning (s : State) : Bool := s.handle.any s.isAlive

/-- The task that the poller has a handle on, or else the one that a stop waits for. -/
def worker (s : State) : Option Nat :=
  match s.control with
  | .free => s.handle
  | .stopping awaited => awaited

/-- The entities that the tick under way still owes an update. -/
def remaining (s : State) : List Handle :=
  match s.worker with
  | some t => (s.tasks t).phase.remaining
  | none => []

/-- Signals the task that the poller can signal, if there is one. -/
def signal (s : State) : Nat → Task := fun t =>
  if s.sender = some t then { s.tasks t with signalled := true } else s.tasks t

/-- Spawns a task.  To replace the means of signalling a task is a signal to it. -/
def launch (p : Poller) (s : State) : State :=
  { s with
    tasks := Function.update s.signal s.spawned (.fresh p.interval)
    spawned := s.spawned + 1
    sender := some s.spawned
    handle := some s.spawned }

/-- Signals the task and takes it over, to wait for it. -/
def halt (s : State) : State :=
  { s with tasks := s.signal, sender := none, handle := none, control := .stopping s.handle }

/-- One task changes. -/
def change (s : State) (t : Nat) (task : Task) : State :=
  { s with tasks := Function.update s.tasks t task }

/-- One task moves on. -/
def move (s : State) (t : Nat) (phase : Phase) : State := s.change t { s.tasks t with phase }

/-- An entity has changed. -/
def put (s : State) (h : Handle) (e : Entity) : State := { s with entities := s.entities.set h e }

/-- An update goes out.  (Not to be unfolded when states are compared, which would compare feeds.) -/
@[irreducible] def broadcast (s : State) (u : Update) : State := { s with feed := s.feed.send u }

variable (s : State) (t : Nat)

/-- A signal does not move a task. -/
@[simp] theorem phase_signal : (s.signal t).phase = (s.tasks t).phase := by
  rw [signal]
  split <;> rfl

/-- A signal does not bring a tick forward. -/
@[simp] theorem due_signal : (s.signal t).due = (s.tasks t).due := by
  rw [signal]
  split <;> rfl

/-- The task that a start spawns is new. -/
theorem tasks_launch_self (p : Poller) : (s.launch p).tasks s.spawned = .fresh p.interval :=
  Function.update_self ..

/-- The other tasks get the signal at most. -/
theorem tasks_launch_of_ne (p : Poller) (h : t ≠ s.spawned) : (s.launch p).tasks t = s.signal t :=
  Function.update_of_ne h ..

@[simp] theorem tasks_change_self (task : Task) : (s.change t task).tasks t = task :=
  Function.update_self ..

/-- The other tasks stay as they are. -/
theorem tasks_change_of_ne (task : Task) {t' : Nat} (h : t' ≠ t) :
    (s.change t task).tasks t' = s.tasks t' := Function.update_of_ne h ..

@[simp] theorem phase_move_self (phase : Phase) : ((s.move t phase).tasks t).phase = phase := by
  rw [move, tasks_change_self]

/-- Where a task was before it moved on does not matter. -/
@[simp] theorem move_move (phase phase' : Phase) :
    (s.move t phase).move t phase' = s.move t phase' := by
  simp [move, change]

section Broadcast

variable (u : Update)

@[simp] theorem feed_broadcast : (s.broadcast u).feed = s.feed.send u := by simp only [broadcast]

@[simp] theorem entities_broadcast : (s.broadcast u).entities = s.entities := by simp only [broadcast]

@[simp] theorem receivers_broadcast : (s.broadcast u).receivers = s.receivers := by
  simp only [broadcast]

@[simp] theorem tasks_broadcast : (s.broadcast u).tasks = s.tasks := by simp only [broadcast]

@[simp] theorem spawned_broadcast : (s.broadcast u).spawned = s.spawned := by simp only [broadcast]

@[simp] theorem control_broadcast : (s.broadcast u).control = s.control := by simp only [broadcast]

@[simp] theorem worker_broadcast : (s.broadcast u).worker = s.worker := by
  simp only [broadcast, worker]

end Broadcast

@[simp] theorem isAlive_change_self (task : Task) : (s.change t task).isAlive t = task.isAlive := by
  rw [isAlive, tasks_change_self]

end State

/-! ## what can happen -/

/-- What happens. -/
inductive Event where
  | start
  /-- A stop begins. -/
  | stop
  /-- A stop is completed. -/
  | stopped
  /-- The poller is asked whether it is running. -/
  | ask (answer : Bool)
  | subscribe (r : Nat)
  | receive (r : Nat) (receipt : Feed.Receipt Update)
  /-- The time for the next tick of a task comes. -/
  | elapse (t : Nat)
  | tick (t : Nat)
  /-- The update of an entity begins. -/
  | refresh (t : Nat) (h : Handle)
  /-- The update of an entity is over, with these replies. -/
  | settle (t : Nat) (replies : List Reply)
  | send (t : Nat) (h : Handle) (u : Update)
  /-- A task sees that it is to stop, and ends. -/
  | obey (t : Nat)

/-- The task whose step an event is. -/
def Event.task? : Event → Option Nat
  | tick t | refresh t _ | settle t _ | send t _ _ | obey t => some t
  | start | stop | stopped | ask _ | subscribe _ | receive .. | elapse _ => none

/-- One step, with a poller as it was made. -/
inductive Step (p : Poller) (s : State) : Event → State → Prop where
  | stay (hs : s.control = .free) (hr : s.isRunning) : Step p s .start s
  | launch (hs : s.control = .free) (hr : s.isRunning = false) : Step p s .start (s.launch p)
  | stop (hs : s.control = .free) : Step p s .stop s.halt
  | stopped {awaited : Option Nat} (hs : s.control = .stopping awaited)
      (hend : ∀ t, awaited = some t → s.isAlive t = false) :
      Step p s .stopped { s with control := .free }
  | ask (hs : s.control = .free) : Step p s (.ask s.isRunning) s
  | subscribe (hs : s.control = .free) :
      Step p s (.subscribe s.receivers.length) { s with receivers := s.receivers ++ [s.feed.sent] }
  | receive {r next next' : Nat} {receipt : Feed.Receipt Update}
      (hr : s.receivers[r]? = some next) (hf : s.feed.receive next = (receipt, next')) :
      Step p s (.receive r receipt) { s with receivers := s.receivers.set r next' }
  | elapse {t : Nat} (ht : s.isAlive t) (hd : (s.tasks t).due = false) :
      Step p s (.elapse t) (s.change t { s.tasks t with due := true })
  | tick {t : Nat} (ht : (s.tasks t).phase = .resting) (hd : (s.tasks t).due) :
      Step p s (.tick t) (s.change t ⟨.onward p.entities, false, (s.tasks t).signalled⟩)
  | refresh {t : Nat} {h : Handle} {rest : List Handle} (ht : (s.tasks t).phase = .facing h rest) :
      Step p s (.refresh t h) (s.move t (.updating h rest))
  /-- Devices may reply anything. -/
  | settle {t : Nat} {h : Handle} {rest : List Handle} {e e' : Entity} {outcome : Outcome}
      {replies : List Reply} (ht : (s.tasks t).phase = .updating h rest)
      (he : s.entities[h]? = some e) (ho : e.update.outcome? replies = some (outcome, e')) :
      Step p s (.settle t replies)
        ((s.move t (.sending h (.ofOutcome e.uniqueId outcome) rest)).put h e')
  | send {t : Nat} {h : Handle} {u : Update} {rest : List Handle}
      (ht : (s.tasks t).phase = .sending h u rest) :
      Step p s (.send t h u) ((s.move t (.onward rest)).broadcast u)
  | obey {t : Nat} (ht : (s.tasks t).phase = .resting) (hs : (s.tasks t).signalled) :
      Step p s (.obey t) (s.move t .ended)

/-- What can happen from some state on, the latest first, and the state that it leads to. -/
inductive Run (p : Poller) (s₀ : State) : List Event → State → Prop where
  | nil : Run p s₀ [] s₀
  | cons {es : List Event} {s s' : State} {e : Event} (h : Run p s₀ es s) (hstep : Step p s e s') :
      Run p s₀ (e :: es) s'

/-! ## what a history says -/

/-- Whether the poller has been started since it was last stopped for good. -/
def isStarted : List Event → Bool
  | [] => false
  | .start :: _ => true
  | .stopped :: _ => false
  | _ :: es => isStarted es

/-- How many ticks have begun. -/
def ticks : List Event → Nat
  | [] => 0
  | .tick _ :: es => ticks es + 1
  | _ :: es => ticks es

/-- What has been sent, each update with the place of its entity, the oldest first. -/
def sent : List Event → List (Handle × Update)
  | [] => []
  | .send _ h u :: es => sent es ++ [(h, u)]
  | _ :: es => sent es

/-- Whether a task has done nothing. -/
def isNew (t : Nat) (es : List Event) : Prop := ∀ e ∈ es, e.task? ≠ some t

/-- A task is new as long as no step is its own. -/
theorem isNew_cons {t : Nat} {e : Event} {es : List Event} :
    isNew t (e :: es) ↔ e.task? ≠ some t ∧ isNew t es := List.forall_mem_cons

variable {p : Poller} {es : List Event} {s s' : State} {e : Event} {t : Nat}

/-- Only a task that is alive takes a step. -/
theorem isAlive_of_step (h : Step p s e s') (ht : e.task? = some t) : s.isAlive t := by
  cases h with
  | tick hp _ | refresh hp | settle hp _ _ | send hp | obey hp _ =>
    cases ht
    rw [State.isAlive, Task.isAlive, hp]
  | _ => cases ht

/-! ## who is alive -/

/-- What the poller keeps is the task that is alive, if there is one: one that can be used has both its
means to signal and its handle, or neither; during a stop the task that is waited for is signalled. -/
structure Owned (s : State) : Prop where
  unborn : ∀ t, s.spawned ≤ t → s.isAlive t = false
  worker : ∀ t, s.isAlive t → s.worker = some t
  free : s.control = .free → s.sender = s.handle ∧
    ∀ t, s.handle = some t → s.isAlive t ∧ (s.tasks t).signalled = false
  stopping : ∀ awaited, s.control = .stopping awaited → s.sender = none ∧ s.handle = none ∧
    ∀ t, awaited = some t → (s.tasks t).signalled

namespace Owned

/-- A poller that can be used has its worker by the handle. -/
theorem worker_of_free (hs : s.control = .free) : s.worker = s.handle := by
  rw [State.worker, hs]

/-- During a stop the worker is the task that is waited for. -/
theorem worker_of_stopping {awaited : Option Nat} (hs : s.control = .stopping awaited) :
    s.worker = awaited := by
  rw [State.worker, hs]

/-- A poller that can be used says that it is running just if it has a handle. -/
theorem isRunning_iff (h : Owned s) (hs : s.control = .free) : s.isRunning = s.worker.isSome := by
  rw [worker_of_free hs, State.isRunning]
  cases hh : s.handle with
  | none => rfl
  | some t => exact ((h.free hs).2 t hh).1

/-- A task that is alive and signalled is waited for. -/
theorem stopping_of_signalled (h : Owned s) (ht : s.isAlive t) (hsig : (s.tasks t).signalled) :
    s.control = .stopping (some t) := by
  have hw := h.worker t ht
  cases hc : s.control with
  | free =>
    rw [worker_of_free hc] at hw
    rw [((h.free hc).2 t hw).2] at hsig
    cases hsig
  | stopping awaited =>
    rw [worker_of_stopping hc] at hw
    rw [hw]

/-- Only a task that has been spawned is alive. -/
theorem lt_spawned (h : Owned s) (ht : s.isAlive t) : t < s.spawned := by
  refine Nat.lt_of_not_le fun hle => ?_
  rw [h.unborn t hle] at ht
  cases ht

/-- A task that moves on, to its end only if it is signalled. -/
theorem change (h : Owned s) (ht : s.isAlive t) {task : Task}
    (hsig : task.signalled = (s.tasks t).signalled) (hend : task.isAlive ∨ task.signalled) :
    Owned (s.change t task) where
  unborn t' hle := by
    have hne : t' ≠ t := by
      rintro rfl
      exact absurd (h.lt_spawned ht) (Nat.not_lt.mpr hle)
    rw [State.isAlive, State.tasks_change_of_ne _ _ _ hne]
    exact h.unborn t' hle
  worker t' ht' := by
    by_cases heq : t' = t
    · rw [heq]
      exact h.worker t ht
    · rw [State.isAlive, State.tasks_change_of_ne _ _ _ heq] at ht'
      exact h.worker t' ht'
  free hs := by
    refine ⟨(h.free hs).1, fun t' ht' => ?_⟩
    obtain ⟨halive, hunsignalled⟩ := (h.free hs).2 t' ht'
    by_cases heq : t' = t
    · subst heq
      have hsig' : task.signalled = false := hsig.trans hunsignalled
      rw [State.isAlive_change_self, State.tasks_change_self]
      exact ⟨hend.resolve_right (by simp [hsig']), hsig'⟩
    · rw [State.isAlive, State.tasks_change_of_ne _ _ _ heq]
      exact ⟨halive, hunsignalled⟩
  stopping awaited hs := by
    obtain ⟨hsender, hhandle, hwait⟩ := h.stopping awaited hs
    refine ⟨hsender, hhandle, fun t' ht' => ?_⟩
    by_cases heq : t' = t
    · subst heq
      rw [State.tasks_change_self, hsig]
      exact hwait t' ht'
    · rw [State.tasks_change_of_ne _ _ _ heq]
      exact hwait t' ht'

/-- Entities, feed and receivers do not bear on who is alive. -/
theorem frame (h : Owned s) (entities : List Entity) (feed : Feed Update) (receivers : List Nat) :
    Owned { s with entities := entities, feed := feed, receivers := receivers } :=
  ⟨h.unborn, h.worker, h.free, h.stopping⟩

/-- What an entity remembers does not bear on who is alive. -/
theorem put (h : Owned s) (i : Handle) (e : Entity) : Owned (s.put i e) := h.frame _ _ _

/-- An update that goes out does not bear on who is alive. -/
theorem broadcast (h : Owned s) (u : Update) : Owned (s.broadcast u) := by
  rw [State.broadcast]
  exact h.frame _ _ _

/-- Nobody is alive but the worker. -/
theorem nobody (h : Owned s) (hw : ∀ t, s.worker = some t → s.isAlive t = false) (t : Nat) :
    s.isAlive t = false := by
  rw [Bool.eq_false_iff]
  intro ht
  rw [hw t (h.worker t ht)] at ht
  cases ht

/-- A signal does not end a task. -/
theorem isAlive_signal (s : State) (t : Nat) : (s.signal t).isAlive = s.isAlive t :=
  Task.isAlive_of_phase (s.phase_signal t)

/-- A poller that can be used and is not running has nobody. -/
theorem worker_eq_none (h : Owned s) (hs : s.control = .free) (hr : s.isRunning = false) :
    s.worker = none := by
  rw [h.isRunning_iff hs] at hr
  exact Option.isNone_iff_eq_none.mp (Option.isSome_eq_false_iff.mp hr)

/-- A start with nobody alive leaves the new task as the only one, with sender and handle. -/
theorem launch (h : Owned s) (hp : p.interval ≠ 0) (hs : s.control = .free)
    (hr : s.isRunning = false) : Owned (s.launch p) := by
  have hnobody := h.nobody fun t hw => by
    rw [h.worker_eq_none hs hr] at hw
    cases hw
  have hother : ∀ t, t ≠ s.spawned → (s.launch p).isAlive t = false := by
    intro t hne
    rw [State.isAlive, State.tasks_launch_of_ne _ _ _ hne, isAlive_signal, hnobody]
  have hfresh : (s.launch p).isAlive s.spawned ∧
      ((s.launch p).tasks s.spawned).signalled = false := by
    rw [State.isAlive, State.tasks_launch_self, Task.fresh_of_ne_zero hp]
    exact ⟨rfl, rfl⟩
  refine ⟨fun t hle => hother t (Nat.ne_of_gt hle), fun t ht => ?_, fun _ => ⟨rfl, fun t ht => ?_⟩,
    fun awaited hc => ?_⟩
  · rw [worker_of_free (s := s.launch p) hs]
    refine congrArg some (Eq.symm (Decidable.byContradiction fun hne => ?_))
    rw [hother t hne] at ht
    cases ht
  · cases Option.some.inj ht
    exact hfresh
  · cases hs.symm.trans hc

/-- A stop hands the worker over, signalled, to be waited for. -/
theorem halt (h : Owned s) (hs : s.control = .free) : Owned s.halt where
  unborn t hle := (isAlive_signal s t).trans (h.unborn t hle)
  worker t ht := by
    have ht : s.isAlive t := (isAlive_signal s t).symm.trans ht
    exact (worker_of_free hs).symm.trans (h.worker t ht)
  free hc := by cases hc
  stopping awaited hc := by
    cases hc
    refine ⟨rfl, rfl, fun t ht => ?_⟩
    have hsender : s.sender = some t := (h.free hs).1.trans ht
    show (s.signal t).signalled
    rw [State.signal, if_pos hsender]

/-- Once the task that a stop waits for has ended, nobody is alive. -/
theorem nobody_of_end (h : Owned s) {awaited : Option Nat} (hs : s.control = .stopping awaited)
    (hend : ∀ t, awaited = some t → s.isAlive t = false) (t : Nat) : s.isAlive t = false :=
  h.nobody (by rwa [worker_of_stopping hs]) t

/-- Once the awaited task has ended, the poller can be used and has no task. -/
theorem stopped (h : Owned s) {awaited : Option Nat} (hs : s.control = .stopping awaited)
    (hend : ∀ t, awaited = some t → s.isAlive t = false) :
    Owned { s with control := .free } := by
  obtain ⟨hsender, hhandle, -⟩ := h.stopping awaited hs
  have hnobody := h.nobody_of_end hs hend
  refine ⟨h.unborn, fun t ht => ?_, fun _ => ⟨hsender.trans hhandle.symm, fun t ht => ?_⟩,
    fun awaited hc => by cases hc⟩
  · cases (hnobody t).symm.trans ht
  · cases hhandle.symm.trans ht

/-- Every step keeps the task that is alive with the poller. -/
theorem step (h : Owned s) (hp : p.interval ≠ 0) (hstep : Step p s e s') : Owned s' := by
  have halive : ∀ t, e.task? = some t → s.isAlive t := fun t => isAlive_of_step hstep
  cases hstep with
  | stay _ _ => exact h
  | launch hs hr => exact h.launch hp hs hr
  | stop hs => exact h.halt hs
  | stopped hs hend => exact h.stopped hs hend
  | ask _ => exact h
  | subscribe _ => exact h.frame _ _ _
  | receive _ _ => exact h.frame _ _ _
  | elapse ht _ => exact h.change ht rfl (.inl ht)
  | tick _ _ => exact h.change (halive _ rfl) rfl (.inl Task.isAlive_onward)
  | refresh _ => exact h.change (halive _ rfl) rfl (.inl rfl)
  | settle _ _ _ =>
    refine Owned.put ?_ _ _
    exact h.change (halive _ rfl) rfl (.inl rfl)
  | send _ =>
    refine Owned.broadcast ?_ _
    exact h.change (halive _ rfl) rfl (.inl Task.isAlive_onward)
  | obey _ hs => exact h.change (halive _ rfl) rfl (.inr hs)

end Owned

/-! ## what holds at every point of a history -/

/-- What holds at every point of a history. -/
structure Inv (p : Poller) (es : List Event) (s : State) : Prop where
  owned : Owned s
  started : isStarted es = s.worker.isSome
  blocks : (sent es).map Prod.fst ++ s.remaining = (List.replicate (ticks es) p.entities).flatten
  unborn : ∀ t, s.spawned ≤ t → isNew t es
  ready : ∀ t, t < s.spawned → isNew t es → (s.tasks t).phase = .resting ∧ (s.tasks t).due

/-- A history is started just as long as there is a worker. -/
theorem started_step (h : Inv p es s) (hstep : Step p s e s') :
    isStarted (e :: es) = s'.worker.isSome := by
  have howned := h.owned
  have hstarted := h.started
  cases hstep with
  | stay hs hr => exact hr.symm.trans (howned.isRunning_iff hs)
  | launch hs hr => rw [Owned.worker_of_free (s := s.launch p) hs]; rfl
  | stop hs => exact hstarted.trans (by rw [Owned.worker_of_free hs]; rfl)
  | stopped hs hend =>
    have hw : ({ s with control := .free } : State).worker = none := (howned.stopping _ hs).2.1
    rw [hw]
    rfl
  | send _ => rw [State.worker_broadcast]; exact hstarted
  | _ => exact hstarted

/-- What the tick under way owes is up to the task that moves on. -/
theorem remaining_change (hw : s.worker = some t) (task : Task) :
    (s.change t task).remaining = task.phase.remaining := by
  have hw' : (s.change t task).worker = some t := hw
  rw [State.remaining, hw']
  simp

/-- What the tick owes is what the worker still faces. -/
theorem remaining_of_worker (hw : s.worker = some t) :
    s.remaining = (s.tasks t).phase.remaining := by
  rw [State.remaining, hw]

/-- Without a worker no tick is under way. -/
theorem remaining_of_no_worker (hw : s.worker = none) : s.remaining = [] := by
  rw [State.remaining, hw]

/-- Where nobody is alive nothing is owed. -/
theorem remaining_eq_nil (h : ∀ t, s.isAlive t = false) : s.remaining = [] := by
  rw [State.remaining]
  split
  · next t _ => exact Task.remaining_of_not_isAlive (h t)
  · rfl

/-- A task that moves on within a tick, or between ticks, owes what it owed. -/
theorem remaining_change_of_eq (hw : s.worker = some t) {task : Task}
    (hp : task.phase.remaining = (s.tasks t).phase.remaining) :
    (s.change t task).remaining = s.remaining := by
  rw [remaining_change hw, hp, remaining_of_worker hw]

theorem remaining_broadcast (s : State) (u : Update) : (s.broadcast u).remaining = s.remaining := by
  rw [State.remaining, State.remaining, State.worker_broadcast, State.tasks_broadcast]

/-- What is sent and what is owed together make up whole ticks, and every step keeps to that. -/
theorem blocks_step (h : Inv p es s) (hstep : Step p s e s') :
    (sent (e :: es)).map Prod.fst ++ s'.remaining =
      (List.replicate (ticks (e :: es)) p.entities).flatten := by
  have howned := h.owned
  have hblocks := h.blocks
  have halive : ∀ t, e.task? = some t → s.worker = some t :=
    fun t ht => howned.worker t (isAlive_of_step hstep ht)
  -- a step that sends nothing and begins no tick leaves what is owed as it is
  have unmoved : s'.remaining = s.remaining →
      (sent es).map Prod.fst ++ s'.remaining = (List.replicate (ticks es) p.entities).flatten :=
    fun heq => by rw [heq, hblocks]
  cases hstep with
  | stay _ _ => exact hblocks
  | launch hs hr =>
    have hw : (s.launch p).worker = some s.spawned := Owned.worker_of_free hs
    refine unmoved ?_
    rw [remaining_of_worker hw, remaining_of_no_worker (howned.worker_eq_none hs hr),
      State.tasks_launch_self, Task.fresh]
    split <;> rfl
  | stop hs =>
    refine unmoved ?_
    rw [State.remaining, State.remaining, Owned.worker_of_free hs]
    show (match s.handle with | some t => (s.signal t).phase.remaining | none => []) = _
    simp only [State.phase_signal]
  | stopped hs hend =>
    have hw : ({ s with control := .free } : State).worker = none := (howned.stopping _ hs).2.1
    refine unmoved ?_
    rw [remaining_of_no_worker hw, remaining_eq_nil (howned.nobody_of_end hs hend)]
  | ask _ => exact hblocks
  | subscribe _ => exact hblocks
  | receive _ _ => exact hblocks
  | elapse ht _ => exact unmoved (remaining_change_of_eq (howned.worker _ ht) rfl)
  | @tick t ht _ =>
    have hw := halive t rfl
    rw [remaining_of_worker hw, ht] at hblocks
    show (sent es).map Prod.fst ++ _ = (List.replicate (ticks es + 1) p.entities).flatten
    rw [remaining_change hw, Phase.remaining_onward, List.replicate_succ', List.flatten_concat,
      ← hblocks]
    simp [Phase.remaining]
  | refresh ht => exact unmoved (remaining_change_of_eq (halive _ rfl) (by rw [ht]; rfl))
  | settle ht _ _ => exact unmoved (remaining_change_of_eq (halive _ rfl) (by rw [ht]; rfl))
  | @send t h u rest ht =>
    have hw := halive t rfl
    rw [remaining_of_worker hw, ht] at hblocks
    show (sent es ++ [(h, u)]).map Prod.fst ++ _ = (List.replicate (ticks es) p.entities).flatten
    rw [← hblocks, remaining_broadcast, State.move, remaining_change hw, Phase.remaining_onward]
    simp [Phase.remaining]
  | obey ht _ => exact unmoved (remaining_change_of_eq (halive _ rfl) (by rw [ht]; rfl))

/-- What a tick owes is owed to entities of the poller. -/
theorem mem_of_mem_remaining (h : Inv p es s) {i : Handle} (hi : i ∈ s.remaining) :
    i ∈ p.entities := by
  have hmem := List.mem_append_right ((sent es).map Prod.fst) hi
  rw [h.blocks, List.mem_flatten] at hmem
  obtain ⟨block, hblock, hi⟩ := hmem
  rwa [(List.mem_replicate.mp hblock).2] at hi

/-! ## tasks that have done nothing -/

/-- What others do leaves a task that has been spawned where it is, and a tick that is due stays
due. -/
theorem task_of_step_of_ne (hstep : Step p s e s') (ht : e.task? ≠ some t) (hborn : t < s.spawned) :
    (s'.tasks t).phase = (s.tasks t).phase ∧ ((s.tasks t).due → (s'.tasks t).due) := by
  have other : ∀ {t' : Nat} {task : Task}, e.task? = some t' →
      ((s.change t' task).tasks t).phase = (s.tasks t).phase ∧
        ((s.tasks t).due → ((s.change t' task).tasks t).due) := by
    intro t' task ht'
    have hne : t ≠ t' := by
      rintro rfl
      exact ht ht'
    rw [State.tasks_change_of_ne _ _ _ hne]
    exact ⟨rfl, id⟩
  cases hstep with
  | launch _ _ =>
    rw [State.tasks_launch_of_ne _ _ _ (Nat.ne_of_lt hborn), State.phase_signal, State.due_signal]
    exact ⟨rfl, id⟩
  | stop _ =>
    show (s.signal t).phase = _ ∧ (_ → (s.signal t).due)
    rw [State.phase_signal, State.due_signal]
    exact ⟨rfl, id⟩
  | @elapse t' _ _ =>
    by_cases heq : t = t'
    · subst heq
      rw [State.tasks_change_self]
      exact ⟨rfl, fun _ => rfl⟩
    · rw [State.tasks_change_of_ne _ _ _ heq]
      exact ⟨rfl, id⟩
  | tick _ _ => exact other rfl
  | refresh _ => exact other rfl
  | settle _ _ _ => exact other rfl
  | send _ => rw [State.tasks_broadcast]; exact other rfl
  | obey _ _ => exact other rfl
  | _ => exact ⟨rfl, id⟩

/-- A step spawns no task, or starts the poller. -/
theorem spawned_of_step (hstep : Step p s e s') : s'.spawned = s.spawned ∨ s' = s.launch p := by
  cases hstep with
  | launch _ _ => exact .inr rfl
  | send _ => exact .inl (State.spawned_broadcast ..)
  | _ => exact .inl rfl

/-- A task that has not been spawned has done nothing. -/
theorem unborn_step (h : Inv p es s) (hstep : Step p s e s') (t : Nat) (hle : s'.spawned ≤ t) :
    isNew t (e :: es) := by
  have hle : s.spawned ≤ t := by
    obtain heq | rfl := spawned_of_step hstep
    · exact heq ▸ hle
    · exact Nat.le_of_succ_le hle
  refine isNew_cons.mpr ⟨fun ht => ?_, h.unborn t hle⟩
  exact absurd (h.owned.lt_spawned (isAlive_of_step hstep ht)) (Nat.not_lt.mpr hle)

/-- A task that has done nothing is at rest, with its first tick due. -/
theorem ready_step (h : Inv p es s) (hp : p.interval ≠ 0) (hstep : Step p s e s') (t : Nat)
    (hborn : t < s'.spawned) (hnew : isNew t (e :: es)) :
    (s'.tasks t).phase = .resting ∧ (s'.tasks t).due := by
  obtain ⟨hne, hnew⟩ := isNew_cons.mp hnew
  by_cases hlt : t < s.spawned
  · obtain ⟨hphase, hdue⟩ := task_of_step_of_ne hstep hne hlt
    obtain ⟨hresting, hready⟩ := h.ready t hlt hnew
    exact ⟨hphase.trans hresting, hdue hready⟩
  · -- the task has just been spawned
    obtain heq | rfl := spawned_of_step hstep
    · exact absurd (heq ▸ hborn) hlt
    · have heq : t = s.spawned := Nat.le_antisymm (Nat.le_of_lt_succ hborn) (Nat.not_lt.mp hlt)
      rw [heq, State.tasks_launch_self, Task.fresh_of_ne_zero hp]
      exact ⟨rfl, rfl⟩

/-! ## every history -/

/-- A poller that has just been made has no task and no history. -/
theorem inv_initial (p : Poller) (entities : List Entity) : Inv p [] (.initial p entities) where
  owned := {
    unborn _ _ := rfl
    worker _ ht := by cases ht
    free _ := ⟨rfl, fun _ ht => by cases ht⟩
    stopping _ hc := by cases hc }
  started := rfl
  blocks := rfl
  unborn _ _ := by simp [isNew]
  ready _ ht := by cases ht

/-- One step keeps the invariant, whoever takes it. -/
theorem inv_step (h : Inv p es s) (hp : p.interval ≠ 0) (hstep : Step p s e s') :
    Inv p (e :: es) s' where
  owned := h.owned.step hp hstep
  started := started_step h hstep
  blocks := blocks_step h hstep
  unborn := unborn_step h hstep
  ready := ready_step h hp hstep

/-- The invariant holds at every point of a history. -/
theorem inv_of_run {entities : List Entity} (hp : p.interval ≠ 0)
    (h : Run p (.initial p entities) es s) : Inv p es s := by
  induction h with
  | nil => exact inv_initial p entities
  | cons _ hstep ih => exact inv_step ih hp hstep

/-- No entity comes or goes. -/
theorem length_entities_of_run {s₀ : State} (h : Run p s₀ es s) :
    s.entities.length = s₀.entities.length := by
  induction h with
  | nil => rfl
  | cons _ hstep ih =>
    cases hstep with
    | settle _ _ _ => exact List.length_set.trans ih
    | send _ => rw [State.entities_broadcast]; exact ih
    | _ => exact ih

end Polling

end Greenhouse
