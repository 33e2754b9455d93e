import Greenhouse.Proofs.Polling
import Greenhouse.Proofs.Ticks

/-!
# Greenhouse.Proofs.Lifecycle

Starting and stopping a poller.

A task that is alive gets through its tick by steps of its own, and what that does is what a tick of
the poller does (`run_tick`).  So a stop that is under way comes to its end, and a poller that is
started ticks at once.

* `realises_ticks`, `realises_start`, `realises_stop` — what the operations of a poller come to, steps
  come to.
* `orderly_of_run` — how starts and stops go, for every history.
-/

namespace Greenhouse.Polling

open Dialogue

variable {p : Poller} {es : List Event} {s s' : State} {e : Event} {t : Nat}

/-! ## longer runs -/

namespace Run

/-- Two runs in a row are one. -/
theorem trans {s₀ : State} {es' : List Event} (h : Run p s₀ es s) (h' : Run p s es' s') :
    Run p s₀ (es' ++ es) s' := by
  induction h' with
  | nil => exact h
  | cons _ hstep ih => exact ih.cons hstep

theorem of_step (hstep : Step p s e s') : Run p s [e] s' := Run.nil.cons hstep

end Run

/-- A run of steps of one task. -/
def Alone (p : Poller) (t : Nat) (s s' : State) : Prop :=
  ∃ es, Run p s es s' ∧ ∀ e ∈ es, e.task? = some t

namespace Alone

theorem refl (s : State) : Alone p t s s := ⟨[], .nil, by simp⟩

theorem trans {s'' : State} (h : Alone p t s s') (h' : Alone p t s' s'') : Alone p t s s'' := by
  obtain ⟨es, hrun, hown⟩ := h
  obtain ⟨es', hrun', hown'⟩ := h'
  exact ⟨es' ++ es, hrun.trans hrun', List.forall_mem_append.mpr ⟨hown', hown⟩⟩

theorem cons {s'' : State} (hstep : Step p s e s') (ht : e.task? = some t)
    (h : Alone p t s' s'') : Alone p t s s'' :=
  trans ⟨[e], .of_step hstep, List.forall_mem_singleton.mpr ht⟩ h

end Alone

/-! ## getting through a tick -/

/-- A task is at rest, its tick having sent some updates and left the entities so. -/
def State.afterTick (s : State) (t : Nat) (us : List Update) (entities : List Entity) : State :=
  { s.move t .resting with feed := s.feed.sendAll us, entities := entities }

/-- A task at rest that has nothing to send leaves everything as it is. -/
theorem afterTick_of_resting (ht : (s.tasks t).phase = .resting) :
    s.afterTick t [] s.entities = s := by
  have htask : { s.tasks t with phase := .resting } = s.tasks t := by rw [← ht]
  simp [State.afterTick, State.move, State.change, htask, Feed.sendAll]

/-- Where a task was before it came to rest does not matter. -/
theorem afterTick_move (phase : Phase) (us : List Update) (entities : List Entity) :
    (s.move t phase).afterTick t us entities = s.afterTick t us entities := by
  rw [State.afterTick, State.move_move]
  rfl

theorem afterTick_put (h : Handle) (e : Entity) (us : List Update) (entities : List Entity) :
    (s.put h e).afterTick t us entities = s.afterTick t us entities := rfl

/-- One more update, sent first. -/
theorem afterTick_broadcast (u : Update) (us : List Update) (entities : List Entity) :
    (s.broadcast u).afterTick t us entities = s.afterTick t (u :: us) entities := by
  simp only [State.afterTick, State.move, State.change, State.broadcast, Feed.sendAll,
    List.foldl_cons]

/-- A task sends what it has to send, and goes on. -/
theorem alone_of_sending {h : Handle} {u : Update} {rest : List Handle}
    (ht : (s.tasks t).phase = .sending h u rest) :
    ∃ s', Alone p t s s' ∧ (s'.tasks t).phase = .onward rest ∧ s'.entities = s.entities ∧
      ∀ us entities, s'.afterTick t us entities = s.afterTick t (u :: us) entities := by
  refine ⟨(s.move t (.onward rest)).broadcast u, .cons (.send ht) rfl (.refl _), by simp, ?_, ?_⟩
  · rw [State.entities_broadcast]
    rfl
  · intro us entities
    rw [afterTick_broadcast, afterTick_move]

variable {σ : Type} (device : Device σ)

/-- The update of an entity by a task comes to what it comes to with a device, and is sent. -/
theorem alone_of_updating {h : Handle} {rest : List Handle} {e : Entity}
    (ht : (s.tasks t).phase = .updating h rest) (he : s.entities[h]? = some e) (d : σ) :
    let r := e.update.run device d
    ∃ s', Alone p t s s' ∧ (s'.tasks t).phase = .onward rest ∧
      s'.entities = s.entities.set h r.value.2 ∧
      ∀ us entities, s'.afterTick t us entities =
        s.afterTick t (Update.ofOutcome e.uniqueId r.value.1 :: us) entities := by
  intro r
  let u := Update.ofOutcome e.uniqueId r.value.1
  have hsettle : Step p s (.settle t (e.update.replies device d))
      ((s.move t (.sending h u rest)).put h r.value.2) :=
    .settle ht he (outcome?_replies device e.update d)
  obtain ⟨s', hsend, hphase, hentities, hafter⟩ := alone_of_sending (p := p) (t := t)
    (s := (s.move t (.sending h u rest)).put h r.value.2) (s.phase_move_self t _)
  refine ⟨s', .cons hsettle rfl hsend, hphase, hentities, fun us entities => ?_⟩
  rw [hafter, afterTick_put, afterTick_move]

/-- A task that faces some entities updates them, as it is done for a tick. -/
theorem run_onward {hs : List Handle} (ht : (s.tasks t).phase = .onward hs)
    (hknown : ∀ h ∈ hs, h < s.entities.length) (d : σ) :
    Alone p t s (s.afterTick t ((pollAll hs s.entities).run device d).value.1
      ((pollAll hs s.entities).run device d).value.2) := by
  induction hs generalizing s d with
  | nil =>
    show Alone p t s (s.afterTick t [] s.entities)
    rw [afterTick_of_resting ht]
    exact .refl s
  | cons h hs ih =>
    obtain ⟨hh, hhs⟩ := List.forall_mem_cons.mp hknown
    have he : s.entities[h]? = some (s.entities.get ⟨h, hh⟩) := List.getElem?_eq_getElem hh
    have hrefresh : Step p s (.refresh t h) (s.move t (.updating h hs)) := .refresh ht
    obtain ⟨s', hupdate, ht', hentities, hafter⟩ := alone_of_updating (p := p) device
      (s.phase_move_self t (.updating h hs)) he d
    have hrest := ih ht' (by rw [hentities, List.length_set]; exact hhs)
      ((s.entities.get ⟨h, hh⟩).update.run device d).state
    rw [hafter, hentities, afterTick_move] at hrest
    rw [run_pollAll_cons device he]
    exact .cons hrefresh rfl (hupdate.trans hrest)

/-- Wherever a task is, it gets to rest by itself. -/
theorem exists_afterTick (ht : s.isAlive t)
    (hknown : ∀ h ∈ (s.tasks t).phase.remaining, h < s.entities.length) :
    ∃ us entities, Alone p t s (s.afterTick t us entities) := by
  -- any device will do
  let device : Device Unit := fun _ d => (.silence, d)
  cases hphase : (s.tasks t).phase with
  | resting =>
    refine ⟨[], s.entities, ?_⟩
    rw [afterTick_of_resting hphase]
    exact .refl s
  | facing h rest =>
    rw [hphase] at hknown
    have honward : (s.tasks t).phase = .onward (h :: rest) := hphase
    exact ⟨_, _, run_onward device honward hknown ()⟩
  | updating h rest =>
    rw [hphase] at hknown
    obtain ⟨hh, hrest⟩ := List.forall_mem_cons.mp hknown
    obtain ⟨s', hupdate, ht', hentities, hafter⟩ := alone_of_updating (p := p) device hphase
      (List.getElem?_eq_getElem hh) ()
    have htick := run_onward (p := p) device ht'
      (by rw [hentities, List.length_set]; exact hrest) ()
    rw [hafter] at htick
    exact ⟨_, _, hupdate.trans htick⟩
  | sending h u rest =>
    rw [hphase] at hknown
    obtain ⟨s', hsend, ht', hentities, hafter⟩ := alone_of_sending (p := p) hphase
    have htick := run_onward (p := p) device ht'
      (by rw [hentities]; exact (List.forall_mem_cons.mp hknown).2) ()
    rw [hafter] at htick
    exact ⟨_, _, hsend.trans htick⟩
  | ended =>
    rw [State.isAlive, Task.isAlive, hphase] at ht
    cases ht

/-! ## the operations of a poller, by steps -/

/-- The poller as the one that holds it sees it. -/
def State.poller (p : Poller) (s : State) : Poller :=
  { p with feed := s.feed, isRunning := s.isRunning }

theorem isRunning_change {task : Task} (h : task.isAlive = s.isAlive t) :
    (s.change t task).isRunning = s.isRunning := by
  have halive : (s.change t task).isAlive = s.isAlive := by
    funext t'
    by_cases heq : t' = t
    · rw [heq, State.isAlive_change_self, h]
    · rw [State.isAlive, State.tasks_change_of_ne _ _ _ heq, State.isAlive]
  exact congrArg s.handle.any halive

theorem poller_change {task : Task} (h : task.isAlive = s.isAlive t) :
    (s.change t task).poller p = s.poller p := by
  rw [State.poller, isRunning_change h]
  rfl

/-- A tick of the task is a tick of the poller. -/
theorem run_tick (ht : (s.tasks t).phase = .resting) (hd : (s.tasks t).due)
    (hknown : ∀ h ∈ p.entities, h < s.entities.length) (d : σ) :
    ∃ s₁ s', Step p s (.tick t) s₁ ∧ Alone p t s₁ s' ∧
      (s'.poller p, s'.entities) = (((s.poller p).tick s.entities).run device d).value ∧
      s'.tasks t = ⟨.resting, false, (s.tasks t).signalled⟩ ∧
      s'.control = s.control ∧ s'.handle = s.handle := by
  let s₁ := s.change t ⟨.onward p.entities, false, (s.tasks t).signalled⟩
  have hs₁ : s₁.tasks t = ⟨.onward p.entities, false, (s.tasks t).signalled⟩ :=
    State.tasks_change_self ..
  have halive : s.isAlive t := isAlive_of_step (p := p) (.tick ht hd) rfl
  have hrunning : s₁.isRunning = s.isRunning :=
    isRunning_change (Task.isAlive_onward.trans halive.symm)
  have hrest : (s₁.move t .resting).isRunning = s₁.isRunning :=
    isRunning_change (by rw [State.isAlive, hs₁, Task.isAlive_onward]; rfl)
  refine ⟨s₁, _, .tick ht hd, run_onward device (congrArg Task.phase hs₁) hknown d, ?_, ?_, rfl, rfl⟩
  · have hpoller : ∀ us entities, (s₁.afterTick t us entities).poller p =
        { s.poller p with feed := s.feed.sendAll us } := by
      intro us entities
      rw [State.poller, State.poller, ← hrunning, ← hrest]
      rfl
    rw [hpoller, Poller.run_tick]
    rfl
  · show (s₁.move t .resting).tasks t = _
    rw [State.move, State.tasks_change_self, hs₁]

/-- The poller can be used, and its task is at rest, if it has one. -/
structure Idle (s : State) : Prop where
  free : s.control = .free
  resting : ∀ t, s.handle = some t → (s.tasks t).phase = .resting

/-- What some work on a poller comes to with a device, steps come to, between times of rest. -/
def Realises (p : Poller) (s : State) (device : Device σ) (d : σ)
    (work : Dialogue (Poller × List Entity)) : Prop :=
  ∃ es s', Run p s es s' ∧ Idle s' ∧ (s'.poller p, s'.entities) = (work.run device d).value

/-- Ticks of the poller, one now and the others at intervals. -/
theorem realises_ticks (n : Nat) (hidle : Idle s) (ht : s.handle = some t) (hd : (s.tasks t).due)
    (hknown : ∀ h ∈ p.entities, h < s.entities.length) (d : σ) :
    Realises p s device d (Poller.ticks n (s.poller p) s.entities) := by
  induction n generalizing s d with
  | zero => exact ⟨[], s, .nil, hidle, rfl⟩
  | succ n ih =>
    obtain ⟨s₁, s₂, htick, ⟨es, hrun, -⟩, hvalue, htask, hcontrol, hhandle⟩ :=
      run_tick device (hidle.resting t ht) hd hknown d
    -- the time for the next tick comes
    let s' := s₂.change t { s₂.tasks t with due := true }
    have helapse : Step p s₂ (.elapse t) s' := by
      refine .elapse ?_ (by rw [htask])
      rw [State.isAlive, htask]
      rfl
    have hrun' := ((Run.of_step htick).trans hrun).cons helapse
    have hpoller : s'.poller p = s₂.poller p := poller_change rfl
    have hpair : (s'.poller p, s'.entities) =
        (((s.poller p).tick s.entities).run device d).value := by
      rw [hpoller]
      exact hvalue
    have htask' : s'.tasks t = ⟨.resting, true, (s.tasks t).signalled⟩ := by
      rw [State.tasks_change_self, htask]
    have hidle' : Idle s' := by
      refine ⟨hcontrol.trans hidle.free, fun t' ht' => ?_⟩
      cases (hhandle.trans ht).symm.trans ht'
      rw [htask']
    obtain ⟨es', s₃, hrest, hidle₃, hvalue'⟩ := ih hidle' (hhandle.trans ht) (by rw [htask'])
      (by rw [length_entities_of_run hrun']; exact hknown)
      (((s.poller p).tick s.entities).run device d).state
    refine ⟨_, s₃, hrun'.trans hrest, hidle₃, ?_⟩
    rw [Poller.run_ticks_succ]
    dsimp only
    rw [← hpair]
    exact hvalue'

/-- A poller that is started is running, and else as it was. -/
theorem poller_launch (hp : p.interval ≠ 0) :
    (s.launch p).poller p = { s.poller p with isRunning := true } := by
  have hrunning : (s.launch p).isRunning := by
    show (s.launch p).isAlive s.spawned
    rw [State.isAlive, State.tasks_launch_self, Task.fresh_of_ne_zero hp]
    rfl
  rw [State.poller, hrunning]
  rfl

/-- Starting the poller until some updates have gone out. -/
theorem realises_start (updates : Nat) (hp : p.interval ≠ 0) (hidle : Idle s)
    (hknown : ∀ h ∈ p.entities, h < s.entities.length) (d : σ) :
    Realises p s device d ((s.poller p).start updates s.entities) := by
  rw [Poller.start]
  split
  · next hr => exact ⟨_, s, .of_step (.stay hidle.free hr), hidle, rfl⟩
  · next hr =>
    have hlaunch : Step p s .start (s.launch p) := .launch hidle.free (Bool.eq_false_iff.mpr hr)
    have htask : (s.launch p).tasks s.spawned = ⟨.resting, true, false⟩ := by
      rw [State.tasks_launch_self, Task.fresh_of_ne_zero hp]
    have hidle' : Idle (s.launch p) := by
      refine ⟨hidle.free, fun t ht => ?_⟩
      cases ht
      rw [htask]
    obtain ⟨es, s', hrun, hidle', hvalue⟩ := realises_ticks (s := s.launch p) (t := s.spawned) device
      ((s.poller p).ticksFor updates) hidle' rfl (by rw [htask]) hknown d
    refine ⟨_, s', (Run.of_step hlaunch).trans hrun, hidle', ?_⟩
    rw [hvalue, poller_launch hp]
    rfl

/-- A task at rest that is to stop ends, and with it the stop. -/
theorem run_obey (hs : s.control = .stopping (some t)) (ht : (s.tasks t).phase = .resting)
    (hsignalled : (s.tasks t).signalled) :
    Run p s [.stopped, .obey t] { s.move t .ended with control := .free } := by
  have hstopped : Step p (s.move t .ended) .stopped { s.move t .ended with control := .free } := by
    refine .stopped hs fun t' ht' => ?_
    cases ht'
    rw [State.move, State.isAlive_change_self]
    rfl
  exact (Run.of_step (.obey ht hsignalled)).cons hstopped

/-- Stopping the poller. -/
theorem realises_stop (howned : Owned s) (hidle : Idle s) (d : σ) :
    Realises p s device d (do return (← (s.poller p).stop, s.entities)) := by
  have hhalt : Step p s .stop s.halt := .stop hidle.free
  have hvalue : ((do return (← (s.poller p).stop, s.entities) :
      Dialogue (Poller × List Entity)).run device d).value =
        ({ s.poller p with isRunning := false }, s.entities) := by
    rw [Poller.stop]
    split <;> simp [run_bind]
  obtain ⟨hsender, hhandle⟩ := howned.free hidle.free
  cases ht : s.handle with
  | none =>
    have hstopped : Step p s.halt .stopped { s.halt with control := .free } := by
      refine @Step.stopped p s.halt s.handle rfl fun t ht' => ?_
      cases ht.symm.trans ht'
    exact ⟨_, _, (Run.of_step hhalt).cons hstopped, ⟨rfl, fun _ ht => by cases ht⟩, hvalue.symm⟩
  | some t =>
    have hphase : (s.halt.tasks t).phase = .resting :=
      (s.phase_signal t).trans (hidle.resting t ht)
    have hsignalled : (s.halt.tasks t).signalled := by
      show (s.signal t).signalled
      rw [State.signal, if_pos (hsender.trans ht)]
    have hobey := run_obey (p := p) (congrArg Control.stopping ht) hphase hsignalled
    exact ⟨_, _, (Run.of_step hhalt).trans hobey, ⟨rfl, fun _ ht => by cases ht⟩, hvalue.symm⟩

/-! ## starts and stops -/

/-- A stop that is under way can be completed, by steps of the task that it waits for. -/
theorem exists_run_stopped (h : Inv p es s) (hknown : ∀ h ∈ p.entities, h < s.entities.length)
    {awaited : Option Nat} (hs : s.control = .stopping awaited) :
    ∃ es' s', Run p s (.stopped :: es') s' ∧
      ∀ e ∈ es', ∃ t, awaited = some t ∧ e.task? = some t := by
  by_cases hend : ∀ t, awaited = some t → s.isAlive t = false
  · exact ⟨[], _, .of_step (.stopped hs hend), by simp⟩
  · simp only [not_forall, Bool.not_eq_false] at hend
    obtain ⟨t, rfl, ht⟩ := hend
    have howed : ∀ h ∈ (s.tasks t).phase.remaining, h < s.entities.length := by
      intro i hi
      rw [← remaining_of_worker (Owned.worker_of_stopping hs)] at hi
      exact hknown i (mem_of_mem_remaining h hi)
    obtain ⟨us, entities, es', hrun, hown⟩ := exists_afterTick (p := p) ht howed
    -- the task is at rest, and sees the signal
    have hsignalled : ((s.afterTick t us entities).tasks t).signalled := by
      show ((s.move t .resting).tasks t).signalled
      rw [State.move, State.tasks_change_self]
      exact (h.owned.stopping _ hs).2.2 t rfl
    have hobey := run_obey (p := p) (s := s.afterTick t us entities) hs (s.phase_move_self t _)
      hsignalled
    refine ⟨.obey t :: es', _, hrun.trans hobey, fun e he => ⟨t, rfl, ?_⟩⟩
    obtain rfl | he := List.mem_cons.mp he
    · rfl
    · exact hown e he

/-- What a poller that is stopped for good does when it is started. -/
theorem exists_tick_of_launch (hp : p.interval ≠ 0)
    (hknown : ∀ h ∈ p.entities, h < s.entities.length) (d : σ) :
    ∃ s₁ s₂, Step p (s.launch p) (.tick s.spawned) s₁ ∧ Alone p s.spawned s₁ s₂ ∧
      (s₂.poller p, s₂.entities) =
        ((((s.launch p).poller p).tick s.entities).run device d).value := by
  have htask : (s.launch p).tasks s.spawned = ⟨.resting, true, false⟩ := by
    rw [State.tasks_launch_self, Task.fresh_of_ne_zero hp]
  obtain ⟨s₁, s₂, htick, hrest, hvalue, -⟩ :=
    run_tick (s := s.launch p) device (by rw [htask]) (by rw [htask]) hknown d
  exact ⟨s₁, s₂, htick, hrest, hvalue⟩

/-- How starts and stops of a poller go, at some point of a history. -/
structure Orderly (p : Poller) (es : List Event) (s : State) : Prop where
  /-- At most one task is alive. -/
  one_task : ∀ t t', s.isAlive t → s.isAlive t' → t = t'
  /-- At most one update of an entity is in progress. -/
  one_update : ∀ t t', (s.tasks t).isUpdating → (s.tasks t').isUpdating → t = t'
  /-- The poller says that it is running from a start until the next stop is completed. -/
  running : ∀ answer s',
    Step p s (.ask answer) s' ↔ s.control = .free ∧ answer = isStarted es ∧ s' = s
  /-- To start it once more changes nothing. -/
  start_again : isStarted es → ∀ s', Step p s .start s' → s' = s
  /-- To stop it once more has nothing to wait for, and changes nothing. -/
  stop_again : isStarted es = false → ∀ s', Step p s .stop s' →
    s' = { s with control := .stopping none } ∧ Step p s' .stopped s
  /-- Nothing is sent after a stop is completed, up to the next start. -/
  silent : ∀ t h u s', Step p s (.send t h u) s' → isStarted es
  /-- What has been sent, with what the tick under way still owes, makes up whole ticks. -/
  whole : (sent es).map Prod.fst ++ s.remaining = (List.replicate (ticks es) p.entities).flatten
  /-- When a stop is completed, no tick is under way and no task is alive. -/
  stopped : ∀ s', Step p s .stopped s' → s.remaining = [] ∧ ∀ t, s'.isAlive t = false
  /-- A stop can be completed by what the task that it waits for does. -/
  stop_ends : ∀ awaited, s.control = .stopping awaited → ∃ es' s', Run p s (.stopped :: es') s' ∧
    ∀ e ∈ es', ∃ t, awaited = some t ∧ e.task? = some t
  /-- The first thing that a task does is to tick, unless it is to stop already. -/
  first : ∀ t e s', isNew t es → Step p s e s' → e.task? = some t →
    e = .tick t ∨ e = .obey t ∧ s.control = .stopping (some t)
  /-- To start a poller that is not running spawns a task.  At once and by itself it can do all that a
  tick of the poller does, with any device. -/
  start_ticks : isStarted es = false → ∀ s', Step p s .start s' →
    s' = s.launch p ∧ isNew s.spawned es ∧ ∀ {σ : Type} (device : Device σ) (d : σ),
      ∃ s₁ s₂, Step p s' (.tick s.spawned) s₁ ∧ Alone p s.spawned s₁ s₂ ∧
        (s₂.poller p, s₂.entities) = (((s'.poller p).tick s.entities).run device d).value

namespace Inv

/-- What the holder of a poller gets to hear agrees with its history. -/
theorem isRunning_eq (h : Inv p es s) (hs : s.control = .free) : s.isRunning = isStarted es :=
  (h.owned.isRunning_iff hs).trans h.started.symm

/-- The poller can be asked whenever it can be used, and answers as its history says. -/
theorem ask_iff (h : Inv p es s) {answer : Bool} :
    Step p s (.ask answer) s' ↔ s.control = .free ∧ answer = isStarted es ∧ s' = s := by
  constructor
  · intro hstep
    cases hstep with
    | ask hs => exact ⟨hs, h.isRunning_eq hs, rfl⟩
  · rintro ⟨hs, rfl, rfl⟩
    rw [← h.isRunning_eq hs]
    exact .ask hs

/-- To start a poller that is running changes nothing. -/
theorem eq_of_start (h : Inv p es s) (hstarted : isStarted es) (hstep : Step p s .start s') :
    s' = s := by
  cases hstep with
  | stay _ _ => rfl
  | launch hs hr =>
    rw [h.isRunning_eq hs, hstarted] at hr
    cases hr

/-- To start a poller that is not running spawns a task. -/
theorem eq_launch_of_start (h : Inv p es s) (hstarted : isStarted es = false)
    (hstep : Step p s .start s') : s' = s.launch p := by
  cases hstep with
  | stay hs hr =>
    rw [h.isRunning_eq hs, hstarted] at hr
    cases hr
  | launch _ _ => rfl

/-- Where nobody is running there is nobody to signal. -/
theorem halt_eq (h : Inv p es s) (hstarted : isStarted es = false) (hs : s.control = .free) :
    s.halt = { s with control := .stopping none } := by
  have hw := h.owned.worker_eq_none hs ((h.isRunning_eq hs).trans hstarted)
  have hhandle : s.handle = none := (Owned.worker_of_free hs).symm.trans hw
  have hsender : s.sender = none := (h.owned.free hs).1.trans hhandle
  have hsignal : s.signal = s.tasks := by
    funext t
    rw [State.signal, hsender, if_neg (by simp)]
  rw [State.halt, hsignal, hhandle, ← hsender]

/-- To stop a poller that is not running waits for nobody, and is undone at once. -/
theorem stop_of_not_started (h : Inv p es s) (hstarted : isStarted es = false)
    (hstep : Step p s .stop s') :
    s' = { s with control := .stopping none } ∧ Step p s' .stopped s := by
  cases hstep with
  | stop hs =>
    have hback : { ({ s with control := .stopping none } : State) with control := .free } = s := by
      rw [← hs]
    have hend := @Step.stopped p { s with control := .stopping none } none rfl
      fun _ ht => by cases ht
    rw [hback] at hend
    rw [h.halt_eq hstarted hs]
    exact ⟨rfl, hend⟩

/-- A task takes a step only while the poller is started. -/
theorem isStarted_of_step (h : Inv p es s) (hstep : Step p s e s') (ht : e.task? = some t) :
    isStarted es := by
  rw [h.started, h.owned.worker t (isAlive_of_step hstep ht)]
  rfl

/-- A task that has done nothing is about to tick, or is to stop already. -/
theorem first_step (h : Inv p es s) (hnew : isNew t es) (hstep : Step p s e s')
    (ht : e.task? = some t) : e = .tick t ∨ e = .obey t ∧ s.control = .stopping (some t) := by
  have halive := isAlive_of_step hstep ht
  obtain ⟨hresting, -⟩ := h.ready t (h.owned.lt_spawned halive) hnew
  cases hstep with
  | tick _ _ =>
    cases ht
    exact .inl rfl
  | obey _ hs =>
    cases ht
    exact .inr ⟨rfl, h.owned.stopping_of_signalled halive hs⟩
  | refresh hp | settle hp _ _ | send hp =>
    cases ht
    cases hresting.symm.trans hp
  | _ => cases ht

end Inv

/-- Starts and stops of a poller with an interval, however they and what its tasks, receivers and
devices do follow each other. -/
theorem orderly_of_run {handles : List Handle} {interval : Nat} {entities : List Entity}
    (hnew : Poller.new handles interval = .ok p) (hknown : ∀ h ∈ handles, h < entities.length)
    (h : Run p (.initial p entities) es s) : Orderly p es s := by
  obtain ⟨hinterval, rfl⟩ := Poller.new_eq_ok_iff.mp hnew
  have hinv := inv_of_run hinterval h
  have hknown' : ∀ h ∈ handles, h < s.entities.length := by
    rw [length_entities_of_run h]
    exact hknown
  have one_task : ∀ t t', s.isAlive t → s.isAlive t' → t = t' := fun t t' ht ht' =>
    Option.some.inj ((hinv.owned.worker t ht).symm.trans (hinv.owned.worker t' ht'))
  exact {
    one_task
    one_update t t' ht ht' :=
      one_task t t' (Task.isAlive_of_isUpdating ht) (Task.isAlive_of_isUpdating ht')
    running answer s' := hinv.ask_iff
    start_again hstarted s' := hinv.eq_of_start hstarted
    stop_again hstarted s' := hinv.stop_of_not_started hstarted
    silent t h u s' hstep := hinv.isStarted_of_step hstep rfl
    whole := hinv.blocks
    stopped s' hstep := by
      cases hstep with
      | stopped hs hend =>
        have hnobody := hinv.owned.nobody_of_end hs hend
        exact ⟨remaining_eq_nil hnobody, hnobody⟩
    stop_ends awaited := exists_run_stopped hinv hknown'
    first t e s' := hinv.first_step
    start_ticks hstarted s' hstep := by
      rw [hinv.eq_launch_of_start hstarted hstep]
      exact ⟨rfl, hinv.unborn _ (Nat.le_refl _), fun device d =>
        exists_tick_of_launch device hinterval hknown' d⟩ }

/-- A poller of one entity is stopped while its first tick is under way: the tick goes on to its end,
and nothing can be sent behind it. -/
theorem orderly_of_run_stop_in_tick :
    ∃ p entities es s, Poller.new [0] 10 = .ok p ∧ Run p (.initial p entities) es s ∧
      isStarted es = false ∧ (sent es).map Prod.fst = [0] ∧
      ∀ t h u s', ¬ Step p s (.send t h u) s' := by
  let e : Entity := .rehearsed ⟨"a", "", "", fun _ => .error (.channelError .closed), 0, none⟩
  let p : Poller := ⟨[0], 10, .empty, false⟩
  have h0 := @Run.nil p (.initial p [e])
  have h1 := h0.cons (.launch rfl rfl)
  have h2 := h1.cons (.tick (t := 0) rfl rfl)
  have h3 := h2.cons (.refresh (t := 0) rfl)
  have h4 := h3.cons (.stop rfl)
  have h5 := h4.cons (@Step.settle p _ 0 0 [] e _ _ [] rfl rfl rfl)
  have h6 := h5.cons (.send (t := 0) rfl)
  have h7 := h6.cons (.obey (t := 0) (by rw [State.tasks_broadcast]; rfl)
    (by rw [State.tasks_broadcast]; rfl))
  have h8 := h7.cons (@Step.stopped p _ (some 0) (State.control_broadcast ..) (by rintro t ⟨⟩; rfl))
  have hnew : Poller.new [0] 10 = .ok p := rfl
  have horderly := orderly_of_run hnew (by simp) h8
  refine ⟨p, [e], _, _, hnew, h8, rfl, rfl, fun t h u s' hstep => ?_⟩
  cases horderly.silent t h u s' hstep

end Greenhouse.Polling
