import Greenhouse.Proofs.Receivers
import Mathlib.Data.Finset.Insert
import Mathlib.Data.Finset.Erase

/-!
# Greenhouse.Proofs.Closing

The whole life of a poller, and how the stream of its updates ends.

Updates go out through copies of one sender.  The poller has a copy as long as there is a poller, and
each of its tasks has one until the task ends.  A task ends when it has been signalled and comes to
rest, or, once the poller is gone, wherever it is: the poller's end cancels the task that it has a
handle on.  An update that such a task has begun goes on, but nobody hears of it.  The stream is closed
when the last copy of the sender is gone.

* `Feed.Holds.parting_receive` — what is still to be got from a feed that has ended.
* `Life.Manned` — which copies of the sender there are.
* `Life.of_closed` — after the end nothing is sent, and each receiver gets what is left for it.
* `Life.closing_of_run` — when a receiver is told of the end, and what it gets before that.
-/

namespace Greenhouse

/-! ## feeds that have ended -/

namespace Feed

variable {α : Type} {f : Feed α} {all : List α}

/-- What can still be got from a feed that has ended when some items are pending: how many are no
longer kept, if any, and then all the others. -/
def farewell (pending : List α) : List (Receipt α) :=
  if capacity < pending.length then
    .interrupted (.lagged (pending.length - capacity)) ::
      (pending.drop (pending.length - capacity)).map .item
  else pending.map .item

/-- Whoever is not too far behind gets all that is left. -/
theorem farewell_of_le {pending : List α} (h : pending.length ≤ capacity) :
    farewell pending = pending.map .item := if_neg (Nat.not_lt.mpr h)

/-- Whoever is further behind is told how far, and gets what is kept. -/
theorem farewell_of_lt {pending : List α} (h : capacity < pending.length) :
    farewell pending = .interrupted (.lagged (pending.length - capacity)) ::
      (pending.drop (pending.length - capacity)).map .item := if_pos h

/-- What a receiver gets of a feed that has ended when some items were pending at the end and it has
got something so often since then: its piece of the farewell, or the news of the end. -/
def parting (pending : List α) (times : Nat) : Receipt α :=
  ((farewell pending)[times]?).getD (.interrupted .closed)

/-- The news of the end comes at once only if nothing waits. -/
theorem parting_zero_eq_closed_iff {pending : List α} :
    parting pending 0 = .interrupted .closed ↔ pending = [] := by
  constructor
  · intro h
    by_cases hlt : capacity < pending.length
    · rw [parting, farewell_of_lt hlt] at h
      cases h
    · rw [parting, farewell_of_le (Nat.le_of_not_lt hlt)] at h
      cases pending with
      | nil => rfl
      | cons a as => cases h
  · rintro rfl
    rfl

/-- Nobody is told of the end of a feed that goes on. -/
theorem fst_receive_ne_closed (hf : f.isClosed = false) (next : Nat) :
    (f.receive next).1 ≠ .interrupted .closed := by
  simp only [receive, hf]
  split
  · simp
  · split <;> simp

/-- The end of a feed makes a difference only to those that nothing is left for. -/
theorem receive_close (hf : f.isClosed = false) (next : Nat) :
    f.close.receive next = match f.receive next with
      | (.nothing, _) => (.interrupted .closed, next)
      | other => other := by
  simp only [receive, close, hf]
  split
  · rfl
  · split <;> rfl

namespace Holds

/-- A receiver of a feed that has ended gets what the farewell begins with, and then the rest of it. -/
theorem farewell_receive (h : f.Holds all) (next : Nat) :
    (f.close.receive next).1 = (farewell (all.drop next)).head?.getD (.interrupted .closed) ∧
      farewell (all.drop (f.close.receive next).2) = (farewell (all.drop next)).tail := by
  have hlength : (all.drop next).length = all.length - next := List.length_drop
  rw [receive_close h.isOpen]
  by_cases hlt : next + capacity < all.length
  · have hmissed : all.length - capacity - next = all.length - next - capacity := by omega
    have hbehind : next + (all.length - next - capacity) = all.length - capacity := by omega
    have hkept : (all.drop (all.length - capacity)).length ≤ capacity := by
      rw [List.length_drop]
      omega
    have hfarewell := farewell_of_lt (by omega : capacity < (all.drop next).length)
    rw [hlength, List.drop_drop, hbehind] at hfarewell
    rw [h.receive_of_lt hlt, hfarewell, hmissed]
    dsimp only [List.head?_cons, Option.getD_some, List.tail_cons]
    exact ⟨rfl, farewell_of_le hkept⟩
  · have hfarewell := farewell_of_le (by omega : (all.drop next).length ≤ capacity)
    rw [h.receive_of_le (Nat.le_of_not_lt hlt), hfarewell]
    cases ha : all[next]? with
    | none =>
      have hnone : all.drop next = [] := List.drop_eq_nil_of_le (List.getElem?_eq_none_iff.mp ha)
      rw [hnone] at hfarewell ⊢
      exact ⟨rfl, hfarewell⟩
    | some a =>
      obtain ⟨hnext, ha⟩ := List.getElem?_eq_some_iff.mp ha
      have hcons : all.drop next = a :: all.drop (next + 1) := by
        rw [List.drop_eq_getElem_cons hnext, ha]
      have hrest : (all.drop (next + 1)).length ≤ capacity := by
        rw [List.length_drop]
        omega
      rw [hcons]
      exact ⟨rfl, farewell_of_le hrest⟩

/-- After the end a receiver gets one piece after the other. -/
theorem parting_receive (h : f.Holds all) (next : Nat) :
    (f.close.receive next).1 = parting (all.drop next) 0 ∧
      ∀ times, parting (all.drop (f.close.receive next).2) times =
        parting (all.drop next) (times + 1) := by
  obtain ⟨hfirst, hrest⟩ := h.farewell_receive next
  rw [List.head?_eq_getElem?] at hfirst
  exact ⟨hfirst, fun times => by rw [parting, hrest, List.getElem?_tail, parting]⟩

end Holds

end Feed

/-! ## a poller, in use or gone -/

/-- Who has a copy of the sender. -/
inductive Owner where
  | poller
  | task (t : Nat)
deriving DecidableEq

/-- Whether an event is something that whoever holds the poller does with it. -/
def Polling.Event.isHolders : Polling.Event → Bool
  | start | stop | stopped | ask _ | subscribe _ => true
  | receive .. | elapse _ | tick _ | refresh .. | settle .. | send .. | obey _ => false

/-- The entity whose update a task has in progress, if it has one. -/
def Polling.Phase.inProgress : Phase → List Handle
  | updating h _ => [h]
  | resting | facing .. | sending .. | ended => []

/-- A poller, in use or gone. -/
structure Life where
  state : Polling.State
  /-- Whose copies of the sender there are. -/
  senders : Finset Owner
  /-- The task that the end of the poller has cancelled. -/
  cancelled : Option Nat
  /-- The entities that tasks have left in the middle of an update. -/
  left : List Handle

namespace Life

open Feed Polling.State

/-- A poller that has just been made. -/
def initial (p : Poller) (entities : List Entity) : Life :=
  ⟨.initial p entities, {.poller}, none, []⟩

/-- The feed as receivers see it, which is closed once there is no copy of the sender. -/
def feed (s : Life) : Feed Update :=
  if s.senders = ∅ then s.state.feed.close else s.state.feed

/-- Whose copies of the sender there are after an event: a task that is spawned gets one, and a task
that ends gives its own up. -/
def copies (s : Life) : Polling.Event → Finset Owner
  | .start => if s.state.isRunning then s.senders else insert (.task s.state.spawned) s.senders
  | .obey t => s.senders.erase (.task t)
  | _ => s.senders

/-- What happens. -/
inductive Event where
  /-- Something that the poller's holder or a task does, or time. -/
  | polling (e : Polling.Event)
  | receive (r : Nat) (receipt : Receipt Update)
  /-- The one that waits in a stop gives up waiting. -/
  | abandon
  /-- The poller goes. -/
  | drop
  /-- A cancelled task goes. -/
  | vanish (t : Nat)
  /-- An update that a task has left is over, with these replies. -/
  | late (h : Handle) (replies : List Reply)

/-- One step, with a poller as it was made. -/
inductive Step (p : Poller) (s : Life) : Event → Life → Prop where
  | polling {e : Polling.Event} {s' : Polling.State} (hholder : e.isHolders → .poller ∈ s.senders)
      (hreceipt : ∀ r, e.isReceiptOf r = false) (hstep : Polling.Step p s.state e s') :
      Step p s (.polling e) { s with state := s', senders := s.copies e }
  | receive {r next next' : Nat} {receipt : Receipt Update}
      (hr : s.state.receivers[r]? = some next) (hf : s.feed.receive next = (receipt, next')) :
      Step p s (.receive r receipt) { s with state := s.state.seek r next' }
  | abandon {awaited : Option Nat} (hs : s.state.control = .stopping awaited) :
      Step p s .abandon { s with state := { s.state with control := .free } }
  /-- With the poller goes the means to signal its task, which is a signal to it. -/
  | drop (hs : s.state.control = .free) (hp : .poller ∈ s.senders) :
      Step p s .drop { s with
        state := { s.state.halt with control := .free }
        senders := s.senders.erase .poller
        cancelled := s.state.handle }
  | vanish {t : Nat} (ht : s.cancelled = some t) (halive : s.state.isAlive t) :
      Step p s (.vanish t) { s with
        state := s.state.move t .ended
        senders := s.senders.erase (.task t)
        left := (s.state.tasks t).phase.inProgress ++ s.left }
  | late {h : Handle} {e e' : Entity} {outcome : Outcome} {replies : List Reply} (hh : h ∈ s.left)
      (he : s.state.entities[h]? = some e) (ho : e.update.outcome? replies = some (outcome, e')) :
      Step p s (.late h replies) { s with state := s.state.put h e', left := s.left.erase h }

/-- What can happen from some point of a life on, the latest first, and what it leads to. -/
inductive Run (p : Poller) (s₀ : Life) : List Event → Life → Prop where
  | nil : Run p s₀ [] s₀
  | cons {es : List Event} {s s' : Life} {e : Event} (h : Run p s₀ es s) (hstep : Step p s e s') :
      Run p s₀ (e :: es) s'

/-! ## what a history says -/

/-- What happened while the poller was in use, and what receivers got but for the news that the stream
is closed. -/
def events : List Event → List Polling.Event
  | [] => []
  | .polling e :: es => e :: events es
  | .receive _ (.interrupted .closed) :: es => events es
  | .receive r receipt :: es => .receive r receipt :: events es
  | .abandon :: es | .drop :: es | .vanish _ :: es | .late .. :: es => events es

/-- What a receiver has got, the oldest first. -/
def got (r : Nat) : List Event → List (Receipt Update)
  | [] => []
  | .receive r' receipt :: es => if r' = r then got r es ++ [receipt] else got r es
  | _ :: es => got r es

variable {p : Poller} {es : List Event} {s s' : Life} {e : Event} {t r : Nat}

/-! ## who has a copy of the sender -/

/-- Besides the poller, the tasks that are alive have a copy of the sender, and nobody else. -/
structure Manned (s : Life) : Prop where
  task : ∀ t, .task t ∈ s.senders ↔ s.state.isAlive t
  unborn : ∀ t, s.state.spawned ≤ t → s.state.isAlive t = false

/-- Who is alive does not depend on a task that stays alive, or stays ended. -/
theorem isAlive_change {s : Polling.State} {task : Polling.Task} (h : task.isAlive = s.isAlive t)
    (t' : Nat) : (s.change t task).isAlive t' = s.isAlive t' := by
  by_cases heq : t' = t
  · rw [heq, isAlive_change_self, h]
  · rw [isAlive, tasks_change_of_ne _ _ _ heq, isAlive]

/-- The end of a task leaves the others alive. -/
theorem isAlive_end (s : Polling.State) (t t' : Nat) :
    (s.move t .ended).isAlive t' ↔ t' ≠ t ∧ s.isAlive t' := by
  by_cases heq : t' = t
  · rw [heq, move, isAlive_change_self]
    simp [Polling.Task.isAlive]
  · rw [move, isAlive, tasks_change_of_ne _ _ _ heq, isAlive]
    simp [heq]

/-- A start adds one task to those alive. -/
theorem isAlive_launch (hp : p.interval ≠ 0) (s : Polling.State) (t : Nat) :
    (s.launch p).isAlive t ↔ t = s.spawned ∨ s.isAlive t := by
  by_cases heq : t = s.spawned
  · rw [heq, isAlive, tasks_launch_self, Polling.Task.fresh_of_ne_zero hp]
    simp [Polling.Task.isAlive]
  · rw [isAlive, tasks_launch_of_ne _ _ _ heq, Polling.Owned.isAlive_signal]
    simp [heq]

namespace Manned

/-- A poller that has just been made is the only one with a sender. -/
theorem initial {entities : List Entity} : Manned (.initial p entities) where
  task t := by simp [Life.initial, Polling.State.initial, isAlive, Polling.Task.isAlive]
  unborn t _ := rfl

/-- What changes neither the copies of the sender nor who is alive. -/
theorem keep (h : Manned s) (hsenders : ∀ t, .task t ∈ s'.senders ↔ .task t ∈ s.senders)
    (halive : ∀ t, s'.state.isAlive t = s.state.isAlive t)
    (hspawned : s'.state.spawned = s.state.spawned) : Manned s' where
  task t := by rw [hsenders, halive, h.task]
  unborn t ht := by rw [halive, h.unborn t (hspawned ▸ ht)]

/-- A task that ends gives up its copy. -/
theorem leave (h : Manned s) (hsenders : s'.senders = s.senders.erase (.task t))
    (hstate : s'.state = s.state.move t .ended) : Manned s' where
  task t' := by
    rw [hsenders, hstate, Finset.mem_erase, h.task, isAlive_end]
    simp
  unborn t' ht' := by
    rw [hstate] at ht' ⊢
    rw [Bool.eq_false_iff, ne_eq, isAlive_end, h.unborn t' ht']
    simp

/-- A task that is spawned gets a copy. -/
theorem launch (h : Manned s) (hp : p.interval ≠ 0)
    (hsenders : s'.senders = insert (.task s.state.spawned) s.senders)
    (hstate : s'.state = s.state.launch p) : Manned s' where
  task t := by
    rw [hsenders, hstate, Finset.mem_insert, h.task, isAlive_launch hp]
    simp
  unborn t ht := by
    rw [hstate] at ht ⊢
    have ht : s.state.spawned + 1 ≤ t := ht
    have hne : t ≠ s.state.spawned := by omega
    rw [Bool.eq_false_iff, ne_eq, isAlive_launch hp, h.unborn t (by omega)]
    simp [hne]

/-- What the poller and its tasks do hands out and gives up the copies as it should. -/
theorem polling (h : Manned s) (hp : p.interval ≠ 0) {e : Polling.Event} {s' : Polling.State}
    (hstep : Polling.Step p s.state e s') :
    Manned { s with state := s', senders := s.copies e } := by
  have halive : ∀ t, e.task? = some t → s.state.isAlive t := fun t => Polling.isAlive_of_step hstep
  have hmove : ∀ {t : Nat} {task : Polling.Task}, e.task? = some t → task.isAlive →
      ∀ t', (s.state.change t task).isAlive t' = s.state.isAlive t' :=
    fun ht htask => isAlive_change (htask.trans (halive _ ht).symm)
  cases hstep with
  | stay hs hr => exact h.keep (fun t => by simp [copies, hr]) (fun t => rfl) rfl
  | launch hs hr => exact h.launch hp (by simp [copies, hr]) rfl
  | obey ht hs => exact h.leave rfl rfl
  | stop hs => exact h.keep (fun t => Iff.rfl) (Polling.Owned.isAlive_signal _) rfl
  | elapse ht hd => exact h.keep (fun t => Iff.rfl) (isAlive_change rfl) rfl
  | tick ht hd =>
    exact h.keep (fun t => Iff.rfl) (hmove rfl Polling.Task.isAlive_onward) rfl
  | refresh ht => exact h.keep (fun t => Iff.rfl) (hmove rfl rfl) rfl
  | settle ht he ho => exact h.keep (fun t => Iff.rfl) (hmove rfl rfl) rfl
  | send ht =>
    refine h.keep (fun t => Iff.rfl) (fun t => ?_) (spawned_broadcast ..)
    rw [isAlive, tasks_broadcast]
    exact hmove rfl Polling.Task.isAlive_onward t
  | _ => exact h.keep (fun t => Iff.rfl) (fun t => rfl) rfl

/-- Every step keeps the sender with the poller and the tasks that are alive. -/
theorem step (h : Manned s) (hp : p.interval ≠ 0) (hstep : Step p s e s') : Manned s' := by
  cases hstep with
  | polling _ _ hstep => exact h.polling hp hstep
  | receive _ _ => exact h.keep (fun t => Iff.rfl) (fun t => rfl) rfl
  | abandon _ => exact h.keep (fun t => Iff.rfl) (fun t => rfl) rfl
  | drop _ _ =>
    refine h.keep (fun t => ?_) (Polling.Owned.isAlive_signal _) rfl
    rw [Finset.mem_erase]
    simp
  | vanish _ _ => exact h.leave rfl rfl
  | late _ _ _ => exact h.keep (fun t => Iff.rfl) (fun t => rfl) rfl

/-- At every point of a history only the poller and the tasks that are alive have the sender. -/
theorem of_run {entities : List Entity} (hp : p.interval ≠ 0)
    (h : Run p (.initial p entities) es s) : Manned s := by
  induction h with
  | nil => exact initial
  | cons _ hstep ih => exact ih.step hp hstep

end Manned

/-- The poller has its copy of the sender until it goes. -/
theorem poller_mem_senders {entities : List Entity} (h : Run p (.initial p entities) es s) :
    .poller ∈ s.senders ↔ .drop ∉ es := by
  induction h with
  | nil => simp [Life.initial]
  | @cons es s s' e _ hstep ih =>
    cases hstep with
    | @polling e _ hholder _ _ =>
      have hcopies : .poller ∈ s.copies e ↔ .poller ∈ s.senders := by
        unfold copies
        split
        · split <;> simp
        · simp
        · rfl
      simpa [hcopies] using ih
    | drop _ _ => simp
    | vanish _ _ => simpa using ih
    | _ => simpa using ih

/-- There is no copy of the sender just if the poller and its tasks are gone. -/
theorem senders_eq_empty_iff (hm : Manned s) :
    s.senders = ∅ ↔ .poller ∉ s.senders ∧ ∀ t, s.state.isAlive t = false := by
  rw [Finset.eq_empty_iff_forall_notMem]
  constructor
  · refine fun h => ⟨h _, fun t => Bool.eq_false_iff.mpr fun ht => h _ ((hm.task t).mpr ht)⟩
  · rintro ⟨hpoller, htasks⟩ (_ | t)
    · exact hpoller
    · rw [hm.task, htasks]
      exact Bool.false_ne_true

/-! ## what receivers get -/

/-- As long as somebody can send, the feed goes on. -/
theorem feed_of_open (h : s.senders ≠ ∅) : s.feed = s.state.feed := if_neg h

/-- With the last sender gone the feed has ended. -/
theorem feed_of_closed (h : s.senders = ∅) : s.feed = s.state.feed.close := if_pos h

/-- A receiver gets what it would get from a feed that goes on, or is told of the end. -/
theorem receive_cases (hf : s.state.feed.isClosed = false) (next : Nat) :
    s.feed.receive next = s.state.feed.receive next ∨
      s.feed.receive next = (.interrupted .closed, next) := by
  by_cases hsenders : s.senders = ∅
  · rw [feed_of_closed hsenders, receive_close hf]
    split
    · exact .inr rfl
    · exact .inl rfl
  · exact .inl (by rw [feed_of_open hsenders])

/-- The news of the end is the only receipt that a poller's history does not have. -/
theorem events_receive {receipt : Receipt Update} (h : receipt ≠ .interrupted .closed) :
    events (.receive r receipt :: es) = .receive r receipt :: events es := by
  rw [events]
  exact h

/-- A receiver that stays where it is changes nothing. -/
theorem seek_self {s : Polling.State} {next : Nat} (h : s.receivers[r]? = some next) :
    s.seek r next = s := by
  obtain ⟨hr, rfl⟩ := List.getElem?_eq_some_iff.mp h
  rw [Polling.State.seek, List.set_getElem_self]

/-- The receipts of a receiver but for the news that the stream is closed stand for all that has been
sent since it subscribed, up to its position. -/
theorem tracked_step (h : Polling.Tracked (events es) s.state) (hstep : Step p s e s') :
    Polling.Tracked (events (e :: es)) s'.state := by
  cases hstep with
  | polling _ _ hstep => exact h.step hstep
  | @receive r next next' receipt hr hf =>
    obtain hsame | hend := receive_cases h.feed.isOpen next
    · have hopen := fst_receive_ne_closed h.feed.isOpen next
      rw [← hsame, hf] at hopen
      rw [events_receive hopen]
      exact h.receive hr (hsame.symm.trans hf)
    · cases hf.symm.trans hend
      rw [seek_self hr]
      exact h
  | abandon _ => exact ⟨h.feed, h.receivers⟩
  | drop _ _ => exact ⟨h.feed, h.receivers⟩
  | vanish _ _ => exact ⟨h.feed, h.receivers⟩
  | late _ _ _ => exact ⟨h.feed, h.receivers⟩

/-- Receivers are tracked at every point of a history, whether the poller is still there or not. -/
theorem tracked_of_run {entities : List Entity} (hp : p.feed = .empty)
    (h : Run p (.initial p entities) es s) : Polling.Tracked (events es) s.state := by
  induction h with
  | nil => exact .initial hp
  | cons _ hstep ih => exact tracked_step ih hstep

/-- A receiver can always get something, and that depends on the feed alone. -/
theorem exists_receive_iff {next : Nat} (hr : s.state.receivers[r]? = some next)
    (receipt : Receipt Update) :
    (∃ s', Step p s (.receive r receipt) s') ↔ receipt = (s.feed.receive next).1 := by
  constructor
  · rintro ⟨s', hstep⟩
    cases hstep with
    | receive hr' hf =>
      cases hr.symm.trans hr'
      rw [hf]
  · rintro rfl
    exact ⟨_, .receive hr rfl⟩

/-- What a receiver gets comes last among what it has got. -/
@[simp] theorem got_receive_self {receipt : Receipt Update} :
    got r (.receive r receipt :: es) = got r es ++ [receipt] := if_pos rfl

theorem got_receive_of_ne {r' : Nat} {receipt : Receipt Update} (h : r' ≠ r) :
    got r (.receive r' receipt :: es) = got r es := if_neg h

/-- To receive sends nothing. -/
theorem sent_events_receive (r : Nat) (receipt : Receipt Update) (es : List Event) :
    Polling.sent (events (.receive r receipt :: es)) = Polling.sent (events es) := by
  by_cases h : receipt = .interrupted .closed
  · rw [h, events]
  · rw [events_receive h]
    rfl

/-- A receiver is told of the end just if there is no copy of the sender and nothing is pending. -/
theorem exists_closed_iff (h : Polling.Tracked (events es) s.state) {next : Nat}
    (hr : s.state.receivers[r]? = some next) :
    (∃ s', Step p s (.receive r (.interrupted .closed)) s') ↔
      s.senders = ∅ ∧ (Polling.log (events es)).drop next = [] := by
  rw [exists_receive_iff hr, eq_comm]
  by_cases hs : s.senders = ∅
  · rw [feed_of_closed hs, (h.feed.parting_receive next).1, parting_zero_eq_closed_iff,
      and_iff_right hs]
  · rw [feed_of_open hs]
    exact iff_of_false (fst_receive_ne_closed h.feed.isOpen next) fun hand => hs hand.1

/-! ## after the end -/

/-- Once the poller and its tasks are gone, nobody does anything that they did. -/
theorem not_polling_of_closed (hm : Manned s) (hs : s.senders = ∅) {e : Polling.Event} :
    ¬ Step p s (.polling e) s' := by
  intro hstep
  obtain ⟨hpoller, htasks⟩ := (senders_eq_empty_iff hm).mp hs
  cases hstep with
  | polling hholder hreceipt hstep =>
    have halive : ∀ t, e.task? ≠ some t := fun t ht => by
      have ht := Polling.isAlive_of_step hstep ht
      rw [htasks] at ht
      cases ht
    cases hstep with
    | @receive r _ _ _ _ _ => cases (decide_eq_true rfl).symm.trans (hreceipt r)
    | elapse ht _ => rw [htasks] at ht; cases ht
    | tick _ _ | refresh _ | settle _ _ _ | send _ | obey _ _ => exact halive _ rfl
    | _ => exact hpoller (hholder rfl)

/-- After the end nothing is sent any more.  A receiver gets what is left for it, piece by piece, and
behind that it is told of the end, every time. -/
theorem of_closed (hp : p.interval ≠ 0) (hm : Manned s) (hs : s.senders = ∅) {all : List Update}
    (hfeed : s.state.feed.Holds all) {next : Nat} (hr : s.state.receivers[r]? = some next)
    (h : Run p s es s') :
    (Manned s' ∧ s'.senders = ∅ ∧ s'.state.feed = s.state.feed ∧ Polling.sent (events es) = []) ∧
    (∀ i receipt, (got r es)[i]? = some receipt → receipt = parting (all.drop next) i) ∧
    ∃ next', s'.state.receivers[r]? = some next' ∧
      ∀ i, parting (all.drop next') i = parting (all.drop next) ((got r es).length + i) := by
  induction h with
  | nil =>
    refine ⟨⟨hm, hs, rfl, rfl⟩, fun i receipt hi => (by cases hi), next, hr, fun i => ?_⟩
    rw [got, List.length_nil, Nat.zero_add]
  | @cons es s₁ s' e _ hstep ih =>
    obtain ⟨⟨hm₁, hs₁, hfeed₁, hsent⟩, hgot, next₁, hr₁, hleft⟩ := ih
    have hm' := hm₁.step hp hstep
    obtain ⟨hpoller, htasks⟩ := (senders_eq_empty_iff hm₁).mp hs₁
    cases hstep with
    | polling hholder hreceipt hstep =>
      exact absurd (Step.polling hholder hreceipt hstep) (not_polling_of_closed hm₁ hs₁)
    | drop _ hmem => exact absurd hmem hpoller
    | vanish _ halive => rw [htasks] at halive; cases halive
    | abandon _ => exact ⟨⟨hm', hs₁, hfeed₁, hsent⟩, hgot, next₁, hr₁, hleft⟩
    | late _ _ _ => exact ⟨⟨hm', hs₁, hfeed₁, hsent⟩, hgot, next₁, hr₁, hleft⟩
    | @receive r' next₂ next' receipt hr' hf =>
      refine ⟨⟨hm', hs₁, hfeed₁, (sent_events_receive r' receipt es).trans hsent⟩, ?_⟩
      by_cases heq : r' = r
      · subst heq
        cases hr₁.symm.trans hr'
        rw [got_receive_self, List.length_append, List.length_singleton]
        rw [feed_of_closed hs₁, hfeed₁] at hf
        obtain ⟨hfirst, hrest⟩ := hfeed.parting_receive next₁
        rw [hf] at hfirst hrest
        refine ⟨fun i receipt' hi => ?_, next', ?_, fun i => ?_⟩
        · obtain hlt | hge := Nat.lt_or_ge i (got r' es).length
          · rw [List.getElem?_append_left hlt] at hi
            exact hgot i receipt' hi
          · -- the latest receipt
            obtain ⟨rfl, rfl⟩ : receipt = receipt' ∧ i = (got r' es).length := by
              rw [List.getElem?_append_right hge, List.getElem?_singleton] at hi
              split at hi
              · exact ⟨Option.some.inj hi, by omega⟩
              · cases hi
            exact hfirst.trans (hleft 0)
        · exact List.getElem?_set_self (List.getElem?_eq_some_iff.mp hr').1
        · rw [hrest, hleft, Nat.add_right_comm]
          rfl
      · rw [got_receive_of_ne heq]
        exact ⟨hgot, next₁, (List.getElem?_set_ne heq).trans hr₁, hleft⟩

/-- When a receiver is told that the stream is closed, and what it gets then, however starts, stops,
ticks, subscriptions, receipts and the end of the poller follow each other.  What it has got stands for
the updates sent since it subscribed, but for those that are pending.  As long as there is a poller it
is told of no end; it is told just if the poller and its tasks are gone and nothing is pending.  Once
they are gone nothing more is sent, and the receiver gets what is left for it: first how many of the
pending updates are no longer kept, if there are such, then all others in their order, and from then on
the news of the end, as often as it asks. -/
theorem closing_of_run {handles : List Handle} {interval : Nat} {entities : List Entity}
    (hnew : Poller.new handles interval = .ok p) (h : Run p (.initial p entities) es s)
    (hr : r < s.state.receivers.length) :
    (Error.channelError .closed).message = "Channel error: Poller closed" ∧
    (.drop ∉ es → ∀ s', ¬ Step p s (.receive r (.interrupted .closed)) s') ∧
    ∃ pending,
      (∃ parts, List.Forall₂ Receipt.StandsFor (Polling.receipts r (events es)) parts ∧
        Polling.since r (events es) = parts.flatten ++ pending) ∧
      ((∃ s', Step p s (.receive r (.interrupted .closed)) s') ↔
        .drop ∈ es ∧ (∀ t, s.state.isAlive t = false) ∧ pending = []) ∧
      (.drop ∈ es → (∀ t, s.state.isAlive t = false) → ∀ es' s', Run p s es' s' →
        Polling.sent (events es') = [] ∧
        (∀ i receipt, (got r es')[i]? = some receipt → receipt = parting pending i) ∧
        ∃ s'', Step p s' (.receive r (parting pending (got r es').length)) s'') := by
  obtain ⟨hinterval, hp⟩ := Poller.new_eq_ok_iff.mp hnew
  have hinterval : p.interval ≠ 0 := by rwa [hp]
  have hm := Manned.of_run hinterval h
  have htracked := tracked_of_run (by rw [hp]) h
  have hended : s.senders = ∅ ↔ .drop ∈ es ∧ ∀ t, s.state.isAlive t = false := by
    rw [senders_eq_empty_iff hm, poller_mem_senders h, not_not]
  obtain ⟨next, hnext⟩ : ∃ next, s.state.receivers[r]? = some next :=
    ⟨_, List.getElem?_eq_getElem hr⟩
  obtain ⟨-, parts, hparts, hsince⟩ := htracked.receivers r next hnext
  have hclosed := exists_closed_iff (p := p) htracked hnext
  rw [hended, and_assoc] at hclosed
  refine ⟨rfl, fun hdrop s' hstep => hdrop (hclosed.mp ⟨s', hstep⟩).1, _, ⟨parts, hparts, hsince⟩,
    hclosed, fun hdrop htasks es' s' hrun => ?_⟩
  have hs := hended.mpr ⟨hdrop, htasks⟩
  obtain ⟨⟨-, hs', hfeed, hsent⟩, hgot, next', hnext', hleft⟩ :=
    of_closed hinterval hm hs htracked.feed hnext hrun
  refine ⟨hsent, hgot, (exists_receive_iff hnext' _).mpr ?_⟩
  rw [feed_of_closed hs', hfeed, (htracked.feed.parting_receive next').1]
  exact (hleft 0).symm

/-- A poller goes when one update is out that its receiver has not got yet.  The receiver gets that
update, and then the news of the end. -/
theorem closing_of_run_dropped :
    ∃ p entities es s es' s' u, Poller.new [0] 10 = .ok p ∧ Run p (.initial p entities) es s ∧
      Event.drop ∈ es ∧ (∀ t, s.state.isAlive t = false) ∧ Run p s es' s' ∧
      got 0 es' = [.item u, .interrupted .closed] := by
  let e : Entity := .rehearsed ⟨"a", "", "", fun _ => .error (.channelError .closed), 0, none⟩
  let p : Poller := ⟨[0], 10, .empty, false⟩
  let u : Update := .failed "a" (.channelError .closed)
  have polling {es : List Event} {s : Life} {e' : Polling.Event} {s' : Polling.State}
      (h : Run p (.initial p [e]) es s) (hdrop : .drop ∉ es)
      (hreceipt : ∀ r, e'.isReceiptOf r = false) (hstep : Polling.Step p s.state e' s') :=
    h.cons (.polling (fun _ => (poller_mem_senders h).mpr hdrop) hreceipt hstep)
  have h0 := @Run.nil p (.initial p [e])
  have h1 := polling h0 (by simp) (fun _ => rfl) (.subscribe rfl)
  have h2 := polling h1 (by simp) (fun _ => rfl) (.launch rfl rfl)
  have h3 := polling h2 (by simp) (fun _ => rfl) (.tick (t := 0) rfl rfl)
  have h4 := polling h3 (by simp) (fun _ => rfl) (.refresh (t := 0) rfl)
  have h5 := polling h4 (by simp) (fun _ => rfl)
    (@Polling.Step.settle p _ 0 0 [] e _ _ [] rfl rfl rfl)
  have h6 := polling h5 (by simp) (fun _ => rfl) (@Polling.Step.send p _ 0 0 u _ rfl)
  have h7 := h6.cons (.drop (by rw [control_broadcast]; rfl)
    ((poller_mem_senders h6).mpr (by simp)))
  have h8 := h7.cons (.vanish (t := 0) (by simp only [broadcast]; rfl)
    (by simp only [broadcast]; rfl))
  have hnew : Poller.new [0] 10 = .ok p := rfl
  obtain ⟨-, hdead⟩ := (senders_eq_empty_iff (Manned.of_run (by decide) h8)).mp (by decide)
  obtain ⟨-, -, pending, ⟨parts, hparts, hsince⟩, -, hend⟩ := closing_of_run (r := 0) hnew h8
    (by simp only [broadcast]; exact Nat.zero_lt_one)
  -- the receiver has got nothing, so that the one update is pending
  obtain rfl : pending = [u] := by
    cases hparts
    exact hsince.symm
  obtain ⟨-, -, _, h9⟩ := hend (by simp) hdead [] _ .nil
  obtain ⟨-, -, _, h10⟩ := hend (by simp) hdead _ _ (Run.nil.cons h9)
  exact ⟨p, [e], _, _, _, _, u, hnew, h8, by simp, hdead, (Run.nil.cons h9).cons h10, rfl⟩

end Life

end Greenhouse
