import Greenhouse.Proofs.Calls

/-!
# Greenhouse.Proofs.Turns

Calls of one adapter by any number of threads at once.

A thread in a call waits for its turn, has its exchange with the device, stores the level if there is
one, gives the turn back and returns.  What is remembered has a guard of its own, held for a moment
only, so that a reader takes one step and at any time.  Threads and readers go on in any order, and
every reply is up to the device; a history lists what happened, the latest first.

What a history says of a thread is read off its own events: the call it is in, and the replies that it
has received there (`present`).

* `Inv` — the thread that has the turn is the only one with an exchange; what every thread is about to
  return is what its own replies decide; the levels stored are the levels of the exchanges, in their
  order, up to the one that is about to be stored.
* `inv_step` — every step keeps it.
* `exchanges_in_turn` — what follows for threads and readers, for every history.
-/

namespace Greenhouse.Turns

open Dialogue

/-! ## threads and what they do -/

/-- What happens. -/
inductive Event where
  | start (t : Nat) (c : Adapter.Call)
  | take (t : Nat)
  | send (t : Nat) (request : Request)
  | receive (t : Nat) (reply : Reply)
  | store (t : Nat) (p : Power)
  | release (t : Nat)
  | finish (t : Nat) (result : Except Error (Option EntityState))
  /-- A reader looks at what is remembered. -/
  | look (seen : Option Power)

/-- The thread that an event is about; a reader is none. -/
def Event.thread? : Event → Option Nat
  | start t _ | take t | send t _ | receive t _ | store t _ | release t | finish t _ => some t
  | look _ => none

/-- Where a thread is in its call. -/
inductive Phase where
  | idle
  | waiting (c : Adapter.Call) (d : Dialogue (Except Error Power))
  /-- It has the turn, and its exchange is to go on as `d`. -/
  | talking (c : Adapter.Call) (d : Dialogue (Except Error Power))
  /-- It has the turn, and what `d` asks is out. -/
  | listening (c : Adapter.Call) (d : Dialogue (Except Error Power))
  /-- It has the turn, and the level of its exchange is stored. -/
  | settled (c : Adapter.Call) (p : Power)
  | leaving (result : Except Error (Option EntityState))

namespace Phase

/-- Whether a thread has the turn. -/
def hasTurn : Phase → Bool
  | talking .. | listening .. | settled .. => true
  | _ => false

/-- Whether a thread has an exchange outstanding: one that has begun, and neither failed nor had its
level stored. -/
def isOutstanding : Phase → Bool
  | talking .. | listening .. => true
  | _ => false

/-- The level that a thread is about to store. -/
def pending : Phase → List Power
  | talking _ d =>
    match d.value? with
    | some (.ok p) => [p]
    | _ => []
  | _ => []

end Phase

/-- An adapter that is shared by threads. -/
structure State where
  /-- The level that is remembered. -/
  last : Option Power
  /-- The thread that has the turn. -/
  holder : Option Nat
  phase : Nat → Phase

namespace State

/-- No call has been made. -/
def initial : State := ⟨none, none, fun _ => .idle⟩

/-- One thread moves on. -/
def move (s : State) (t : Nat) (p : Phase) : State :=
  { s with phase := fun t' => if t' = t then p else s.phase t' }

/-- The level that is about to be stored. -/
def pending (s : State) : List Power :=
  match s.holder with
  | some t => (s.phase t).pending
  | none => []

variable (s : State) (t : Nat) (p : Phase)

/-- A thread that is moved is where it was moved to. -/
@[simp] theorem phase_move_self : (s.move t p).phase t = p := if_pos rfl

/-- The others stay where they are. -/
theorem phase_move_of_ne {t' : Nat} (h : t' ≠ t) : (s.move t p).phase t' = s.phase t' := if_neg h

@[simp] theorem holder_move : (s.move t p).holder = s.holder := rfl

end State

/-- One step of a thread or of a reader, for an adapter with the identity of `a`. -/
inductive Step (a : Adapter) (s : State) : Event → State → Prop where
  | start {t : Nat} {c : Adapter.Call} {d : Dialogue (Except Error Power)}
      (ht : s.phase t = .idle) (hc : a.kind.knows c) (hd : a.exchange c = .ok d) :
      Step a s (.start t c) (s.move t (.waiting c d))
  /-- A call that is refused does not wait for a turn. -/
  | refuse {t : Nat} {c : Adapter.Call} {e : Error}
      (ht : s.phase t = .idle) (hc : a.kind.knows c) (he : a.exchange c = .error e) :
      Step a s (.start t c) (s.move t (.leaving (.error e)))
  | take {t : Nat} {c : Adapter.Call} {d : Dialogue (Except Error Power)}
      (ht : s.phase t = .waiting c d) (hs : s.holder = none) :
      Step a s (.take t) { s.move t (.talking c d) with holder := some t }
  | send {t : Nat} {c : Adapter.Call} {d : Dialogue (Except Error Power)} {request : Request}
      (ht : s.phase t = .talking c d) (hd : d.question? = some request) :
      Step a s (.send t request) (s.move t (.listening c d))
  /-- The device may reply anything. -/
  | receive {t : Nat} {c : Adapter.Call} {d d' : Dialogue (Except Error Power)} {reply : Reply}
      (ht : s.phase t = .listening c d) (hd : d.hear? reply = some d') :
      Step a s (.receive t reply) (s.move t (.talking c d'))
  | store {t : Nat} {c : Adapter.Call} {d : Dialogue (Except Error Power)} {p : Power}
      (ht : s.phase t = .talking c d) (hd : d.value? = some (.ok p)) :
      Step a s (.store t p) { s.move t (.settled c p) with last := some p }
  | release {t : Nat} {c : Adapter.Call} {p : Power} (ht : s.phase t = .settled c p) :
      Step a s (.release t) { s.move t (.leaving (.ok (a.answer c p))) with holder := none }
  /-- A call whose exchange failed stores nothing. -/
  | giveUp {t : Nat} {c : Adapter.Call} {d : Dialogue (Except Error Power)} {e : Error}
      (ht : s.phase t = .talking c d) (hd : d.value? = some (.error e)) :
      Step a s (.release t) { s.move t (.leaving (.error e)) with holder := none }
  | finish {t : Nat} {result : Except Error (Option EntityState)}
      (ht : s.phase t = .leaving result) :
      Step a s (.finish t result) (s.move t .idle)
  | look : Step a s (.look s.last) s

/-- What can happen from the start, the latest first, and the state that it leads to. -/
inductive Run (a : Adapter) : List Event → State → Prop where
  | nil : Run a [] .initial
  | cons {es : List Event} {s s' : State} {e : Event} (h : Run a es s) (hstep : Step a s e s') :
      Run a (e :: es) s'

/-! ## what a history says -/

/-- The latest call of a thread, and the replies that it has received in it. -/
def present (t : Nat) : List Event → Option (Adapter.Call × List Reply)
  | [] => none
  | .start t' c :: es => if t' = t then some (c, []) else present t es
  | .receive t' reply :: es =>
    if t' = t then (present t es).map fun p => (p.1, p.2 ++ [reply]) else present t es
  | _ :: es => present t es

/-- What the latest exchange of a thread has come to, if it is over. -/
def result? (a : Adapter) (t : Nat) (es : List Event) : Option (Except Error Power) :=
  (present t es).bind fun p => (a.exchange p.1).toOption.bind (·.outcome? p.2)

/-- The replies that successful exchanges ended with, the latest first.  An exchange ends with the
reply that leaves nothing to ask. -/
def acknowledgements (a : Adapter) : List Event → List Reply
  | [] => []
  | .receive t reply :: es =>
    match result? a t (.receive t reply :: es) with
    | some (.ok _) => reply :: acknowledgements a es
    | _ => acknowledgements a es
  | _ :: es => acknowledgements a es

/-- The levels that were stored, the latest first. -/
def stored : List Event → List Power
  | [] => []
  | .store _ p :: es => p :: stored es
  | _ :: es => stored es

section Present

variable {t : Nat} {e : Event} {es : List Event}

/-- A call begins with no reply heard. -/
@[simp] theorem present_start_self {c : Adapter.Call} :
    present t (.start t c :: es) = some (c, []) := if_pos rfl

/-- A reply is heard in the call that is being made. -/
@[simp] theorem present_receive_self {reply : Reply} :
    present t (.receive t reply :: es) = (present t es).map fun p => (p.1, p.2 ++ [reply]) :=
  if_pos rfl

/-- What other threads and readers do is nothing to a thread. -/
theorem present_cons_of_ne (h : e.thread? ≠ some t) : present t (e :: es) = present t es := by
  cases e with
  | start t' c => exact if_neg fun heq => h (congrArg some heq)
  | receive t' reply => exact if_neg fun heq => h (congrArg some heq)
  | _ => rfl

end Present

variable {a : Adapter} {es : List Event} {s s' : State} {e : Event}

/-- A step moves one thread at most. -/
theorem phase_of_step_of_ne (h : Step a s e s') {t : Nat} (hne : e.thread? ≠ some t) :
    s'.phase t = s.phase t := by
  cases h with
  | look => rfl
  | _ => exact State.phase_move_of_ne _ _ _ fun heq => hne (congrArg some heq.symm)

/-! ## the turn -/

/-- The thread that has the turn is the one that is noted as its holder. -/
def State.Ordered (s : State) : Prop := ∀ t, s.holder = some t ↔ (s.phase t).hasTurn

namespace State.Ordered

/-- A thread that moves on without taking or giving back the turn. -/
theorem move (h : s.Ordered) {t : Nat} {p : Phase} (hp : p.hasTurn = (s.phase t).hasTurn)
    (last : Option Power) : ({ s.move t p with last := last } : State).Ordered := by
  intro t'
  show s.holder = some t' ↔ ((s.move t p).phase t').hasTurn
  by_cases heq : t' = t
  · subst heq
    rw [State.phase_move_self, hp]
    exact h t'
  · rw [State.phase_move_of_ne _ _ _ heq]
    exact h t'

/-- A thread that takes the turn, which nobody has. -/
theorem take (h : s.Ordered) (hs : s.holder = none) {t : Nat} {p : Phase} (hp : p.hasTurn) :
    ({ s.move t p with holder := some t } : State).Ordered := by
  intro t'
  show some t = some t' ↔ ((s.move t p).phase t').hasTurn
  by_cases heq : t' = t
  · subst heq
    simp [hp]
  · rw [State.phase_move_of_ne _ _ _ heq, ← h t', hs]
    simp [Ne.symm heq]

/-- A thread that gives the turn back. -/
theorem release (h : s.Ordered) {t : Nat} {p : Phase} (ht : (s.phase t).hasTurn)
    (hp : p.hasTurn = false) : ({ s.move t p with holder := none } : State).Ordered := by
  intro t'
  show none = some t' ↔ ((s.move t p).phase t').hasTurn
  by_cases heq : t' = t
  · subst heq
    simp [hp]
  · have hholder : s.holder = some t := (h t).mpr ht
    rw [State.phase_move_of_ne _ _ _ heq, ← h t', hholder]
    simp [Ne.symm heq]

/-- Every step keeps the turn with the one that is noted as its holder. -/
theorem step (h : s.Ordered) (hstep : Step a s e s') : s'.Ordered := by
  cases hstep with
  | start ht _ _ => exact h.move (by rw [ht]; rfl) _
  | refuse ht _ _ => exact h.move (by rw [ht]; rfl) _
  | take ht hs => exact h.take hs rfl
  | send ht _ => exact h.move (by rw [ht]; rfl) _
  | receive ht _ => exact h.move (by rw [ht]; rfl) _
  | store ht _ => exact h.move (by rw [ht]; rfl) _
  | release ht => exact h.release (by rw [ht]; rfl) rfl
  | giveUp ht _ => exact h.release (by rw [ht]; rfl) rfl
  | finish ht => exact h.move (by rw [ht]; rfl) _
  | look => exact h

/-- What is about to be stored is up to the thread that has the turn. -/
theorem pending_of_hasTurn (h : s.Ordered) {t : Nat} (ht : (s.phase t).hasTurn) :
    s.pending = (s.phase t).pending := by
  rw [State.pending, (h t).mpr ht]

/-- A thread without the turn changes nothing about what is to be stored. -/
theorem pending_move (h : s.Ordered) {t : Nat} {p : Phase} (ht : (s.phase t).hasTurn = false) :
    (s.move t p).pending = s.pending := by
  simp only [State.pending, State.holder_move]
  cases hs : s.holder with
  | none => rfl
  | some t' =>
    have hne : t' ≠ t := by
      rintro rfl
      rw [(h t').mp hs] at ht
      cases ht
    simp only [State.phase_move_of_ne _ _ _ hne]

end State.Ordered

/-! ## what a thread is up to -/

/-- Whether what a thread is up to follows from its call and the replies that it has received. -/
def Phase.Follows (a : Adapter) (now : Option (Adapter.Call × List Reply)) : Phase → Prop
  | .idle => True
  | .waiting c d => now = some (c, []) ∧ a.exchange c = .ok d
  | .talking c d | .listening c d =>
    ∃ rs whole, now = some (c, rs) ∧ a.exchange c = .ok whole ∧ whole.after? rs = some d
  | .settled c p =>
    ∃ rs whole, now = some (c, rs) ∧ a.exchange c = .ok whole ∧ whole.outcome? rs = some (.ok p)
  | .leaving result =>
    ∃ c rs, now = some (c, rs) ∧ ((a.call c).outcome? rs).map Prod.fst = some result

/-- What an exchange has come to decides what its call returns. -/
theorem outcome?_call {c : Adapter.Call} {d : Dialogue (Except Error Power)} {rs : List Reply}
    {r : Except Error Power} (hc : a.exchange c = .ok d) (hd : d.outcome? rs = some r) :
    ((a.call c).outcome? rs).map Prod.fst = some (r.map (a.answer c)) := by
  rw [Adapter.call_of_exchange hc,
    outcome?_bind (g := fun r => (r.map (a.answer c), a.keep r)) fun _ => rfl, hd]
  rfl

/-- Every step keeps to what the threads have received. -/
theorem follows_step (h : ∀ t, (s.phase t).Follows a (present t es)) (hstep : Step a s e s')
    (t : Nat) : (s'.phase t).Follows a (present t (e :: es)) := by
  by_cases hne : e.thread? = some t
  · have h := h t
    cases hstep with
    | start _ _ hd =>
      cases hne
      rw [State.phase_move_self]
      exact ⟨present_start_self, hd⟩
    | refuse _ _ he =>
      cases hne
      rw [State.phase_move_self]
      exact ⟨_, [], present_start_self, by rw [Adapter.call_of_refusal he]; rfl⟩
    | take ht _ =>
      cases hne
      rw [ht] at h
      show ((s.move t _).phase t).Follows a _
      rw [State.phase_move_self]
      exact ⟨[], _, h.1, h.2, rfl⟩
    | send ht _ =>
      cases hne
      rw [ht] at h
      rw [State.phase_move_self]
      exact h
    | receive ht hd =>
      cases hne
      rw [ht] at h
      obtain ⟨rs, whole, hnow, hc, hafter⟩ := h
      rw [State.phase_move_self, present_receive_self, hnow]
      exact ⟨rs ++ [_], whole, rfl, hc, by rw [after?_concat, hafter]; exact hd⟩
    | store ht hd =>
      cases hne
      rw [ht] at h
      obtain ⟨rs, whole, hnow, hc, hafter⟩ := h
      show ((s.move t _).phase t).Follows a _
      rw [State.phase_move_self]
      exact ⟨rs, whole, hnow, hc, by rw [outcome?, hafter]; exact hd⟩
    | release ht =>
      cases hne
      rw [ht] at h
      obtain ⟨rs, whole, hnow, hc, houtcome⟩ := h
      show ((s.move t _).phase t).Follows a _
      rw [State.phase_move_self]
      exact ⟨_, rs, hnow, outcome?_call hc houtcome⟩
    | giveUp ht hd =>
      cases hne
      rw [ht] at h
      obtain ⟨rs, whole, hnow, hc, hafter⟩ := h
      show ((s.move t _).phase t).Follows a _
      rw [State.phase_move_self]
      exact ⟨_, rs, hnow, outcome?_call hc (by rw [outcome?, hafter]; exact hd)⟩
    | finish _ =>
      cases hne
      rw [State.phase_move_self]
      trivial
    | look => cases hne
  · rw [phase_of_step_of_ne hstep hne, present_cons_of_ne hne]
    exact h t

/-! ## the order of levels -/

/-- What holds at every point of a history. -/
structure Inv (a : Adapter) (es : List Event) (s : State) : Prop where
  ordered : s.Ordered
  follows : ∀ t, (s.phase t).Follows a (present t es)
  last : s.last = (stored es).head?
  acknowledged : (acknowledgements a es).map Reply.level? = (s.pending ++ stored es).map some

/-- The last level stored is the one remembered. -/
theorem last_step (h : s.last = (stored es).head?) (hstep : Step a s e s') :
    s'.last = (stored (e :: es)).head? := by
  cases hstep with
  | store _ _ => rfl
  | _ => exact h

/-- No level is about to be stored by a thread that has something to ask. -/
theorem Phase.pending_of_question? {c : Adapter.Call} {d : Dialogue (Except Error Power)}
    {request : Request} (hd : d.question? = some request) : (Phase.talking c d).pending = [] := by
  cases hv : d.value? with
  | none => simp [Phase.pending, hv]
  | some r => rw [question?_eq_none hv] at hd; cases hd

/-- No exchange gives a level before the first reply. -/
theorem Phase.pending_of_fresh {c : Adapter.Call} {d : Dialogue (Except Error Power)}
    (hc : a.exchange c = .ok d) : (Phase.talking c d).pending = [] := by
  cases hv : d.value? with
  | none => simp [Phase.pending, hv]
  | some r =>
    cases r with
    | error _ => simp [Phase.pending, hv]
    | ok p => cases Adapter.level?_of_exchange hc (show d.outcome? [] = some (.ok p) from hv)

/-- A reply that an exchange ends with is acknowledged, and its level is about to be stored. -/
theorem acknowledgements_receive {t : Nat} {c : Adapter.Call} {d d' : Dialogue (Except Error Power)}
    {reply : Reply} (hfollows : (Phase.listening c d).Follows a (present t es))
    (hd : d.hear? reply = some d') :
    (acknowledgements a (.receive t reply :: es)).map Reply.level? =
      (Phase.talking c d').pending.map some ++ (acknowledgements a es).map Reply.level? := by
  obtain ⟨rs, whole, hnow, hc, hafter⟩ := hfollows
  have houtcome : whole.outcome? (rs ++ [reply]) = d'.value? := by
    rw [outcome?, after?_concat, hafter, Option.bind_some, hd, Option.bind_some]
  have hresult : result? a t (.receive t reply :: es) = d'.value? := by
    rw [result?, present_receive_self, hnow, ← houtcome]
    simp [hc, Except.toOption]
  rw [acknowledgements, hresult, Phase.pending]
  cases hv : d'.value? with
  | none => rfl
  | some r =>
    cases r with
    | error _ => rfl
    | ok p =>
      have hlevel := Adapter.level?_of_exchange hc (houtcome.trans hv)
      rw [List.getLast?_concat, Option.bind_some] at hlevel
      simp [hlevel]

/-- What has been acknowledged is stored, or is about to be, in the same order. -/
theorem acknowledged_step (h : Inv a es s) (hstep : Step a s e s') :
    (acknowledgements a (e :: es)).map Reply.level? = (s'.pending ++ stored (e :: es)).map some := by
  have hack := h.acknowledged
  -- where nothing is received or stored, what is about to be stored must stay
  have unmoved : s'.pending = s.pending →
      (acknowledgements a es).map Reply.level? = (s'.pending ++ stored es).map some :=
    fun heq => by rw [heq, hack]
  have hturn : ∀ {t p}, s.phase t = p → p.hasTurn → s.pending = p.pending :=
    fun hp ht => by rw [h.ordered.pending_of_hasTurn (hp ▸ ht), hp]
  have hordered := h.ordered.step hstep
  cases hstep with
  | start ht _ _ => exact unmoved (h.ordered.pending_move (by rw [ht]; rfl))
  | refuse ht _ _ => exact unmoved (h.ordered.pending_move (by rw [ht]; rfl))
  | @take t c d ht hs =>
    have hfollows := h.follows t
    rw [ht] at hfollows
    refine unmoved ?_
    rw [State.pending, State.pending, hs]
    simp [Phase.pending_of_fresh hfollows.2]
  | @send t c d request ht hd =>
    refine unmoved ?_
    rw [hturn ht rfl, Phase.pending_of_question? hd,
      hordered.pending_of_hasTurn (t := t) (by rw [State.phase_move_self]; rfl),
      State.phase_move_self]
    rfl
  | @receive t c d d' reply ht hd =>
    have hfollows := h.follows t
    rw [ht] at hfollows
    have hs : s.pending = [] := hturn ht rfl
    rw [acknowledgements_receive hfollows hd, hack, hs, List.nil_append,
      hordered.pending_of_hasTurn (t := t) (by rw [State.phase_move_self]; rfl),
      State.phase_move_self, ← List.map_append]
    rfl
  | @store t c d p ht hd =>
    have hs' : State.pending { s.move t (.settled c p) with last := some p } = [] := by
      have hself := s.phase_move_self t (.settled c p)
      rw [hordered.pending_of_hasTurn (t := t) (congrArg Phase.hasTurn hself)]
      exact congrArg Phase.pending hself
    have hs : s.pending = [p] := by
      rw [hturn ht rfl, Phase.pending, hd]
    rw [hs']
    rw [hs] at hack
    exact hack
  | release ht => exact unmoved (hturn ht rfl).symm
  | giveUp ht hd =>
    refine unmoved ?_
    rw [hturn ht rfl, Phase.pending, hd]
    rfl
  | finish ht => exact unmoved (h.ordered.pending_move (by rw [ht]; rfl))
  | look => exact hack

/-- At first nobody calls, and nothing is stored. -/
theorem inv_initial : Inv a [] .initial where
  ordered t := by simp [State.initial, Phase.hasTurn]
  follows _ := trivial
  last := rfl
  acknowledged := rfl

/-- One step keeps the invariant, whichever thread takes it. -/
theorem inv_step (h : Inv a es s) (hstep : Step a s e s') : Inv a (e :: es) s' where
  ordered := h.ordered.step hstep
  follows := follows_step h.follows hstep
  last := last_step h.last hstep
  acknowledged := acknowledged_step h hstep

/-- The invariant holds at every point of a history. -/
theorem inv_of_run (h : Run a es s) : Inv a es s := by
  induction h with
  | nil => exact inv_initial
  | cons _ hstep ih => exact inv_step ih hstep

/-! ## calls and readers -/

/-- Nothing is about to be stored by a thread that has no exchange outstanding. -/
theorem Phase.pending_of_not_outstanding {p : Phase} (h : p.isOutstanding = false) :
    p.pending = [] := by
  cases p with
  | talking c d => cases h
  | _ => rfl

/-- At most one level is about to be stored. -/
theorem Phase.length_pending_le (p : Phase) : p.pending.length ≤ 1 := by
  unfold Phase.pending
  split
  · split <;> simp
  · simp

/-- A state that a call returns is that of the level in the last reply to the call. -/
theorem level_of_state {c : Adapter.Call} {rs : List Reply} {state : EntityState}
    (h : ((a.call c).outcome? rs).map Prod.fst = some (.ok (some state))) :
    c = .update ∧ ∃ p, rs.getLast?.bind Reply.level? = some p ∧
      state = .ofPower a.uniqueId (some p) := by
  cases hc : a.exchange c with
  | error e =>
    rw [Adapter.call_of_refusal hc] at h
    cases rs with
    | nil => cases h
    | cons r rs => cases h
  | ok d =>
    rw [Adapter.call_of_exchange hc,
      outcome?_bind (g := fun r => (r.map (a.answer c), a.keep r)) fun _ => rfl,
      Option.map_map, Option.map_eq_some_iff] at h
    obtain ⟨r, hr, hs⟩ := h
    cases r with
    | error e => cases hs
    | ok p =>
      have hanswer : a.answer c p = some state := Except.ok.inj hs
      cases c with
      | update =>
        cases hanswer
        exact ⟨rfl, p, Adapter.level?_of_exchange hc hr, rfl⟩
      | _ => cases hanswer

/-- However threads and readers go on, and whatever the device replies: at most one thread has an
exchange outstanding; the levels of the successful exchanges are stored in the order of the
exchanges, so that the last one of them is remembered once no exchange is outstanding; a call returns
what its own replies decide, and a refresh the level in its own last reply; and a reader need not wait
for anything, changes nothing, and sees nothing but a level that a successful exchange has stored. -/
theorem exchanges_in_turn (h : Run a es s) :
    (∀ t t', (s.phase t).isOutstanding → (s.phase t').isOutstanding → t = t') ∧
    s.last = (stored es).head? ∧
    (acknowledgements a es).map Reply.level? = (s.pending ++ stored es).map some ∧
    s.pending.length ≤ 1 ∧
    ((∀ t, (s.phase t).isOutstanding = false) →
      s.last = (acknowledgements a es).head?.bind Reply.level?) ∧
    (∀ t result s', Step a s (.finish t result) s' →
      ∃ c rs, present t es = some (c, rs) ∧ ((a.call c).outcome? rs).map Prod.fst = some result ∧
        ∀ state, result = .ok (some state) → c = .update ∧
          ∃ p, rs.getLast?.bind Reply.level? = some p ∧ state = .ofPower a.uniqueId (some p)) ∧
    (∀ seen s', Step a s (.look seen) s' ↔ seen = s.last ∧ s' = s) ∧
    ∀ p, s.last = some p → ∃ reply ∈ acknowledgements a es, reply.level? = some p := by
  have hinv := inv_of_run h
  have hack := hinv.acknowledged
  have turn : ∀ {t}, (s.phase t).isOutstanding → s.holder = some t := by
    intro t ht
    refine (hinv.ordered t).mpr ?_
    cases hp : s.phase t <;> rw [hp] at ht <;> first | rfl | cases ht
  refine ⟨fun t t' ht ht' => ?_, hinv.last, hack, ?_, fun hnone => ?_, fun t result s' hstep => ?_,
    fun seen s' => ?_, fun p hp => ?_⟩
  · exact Option.some.inj ((turn ht).symm.trans (turn ht'))
  · rw [State.pending]
    split
    · exact Phase.length_pending_le _
    · exact Nat.zero_le 1
  · have hpending : s.pending = [] := by
      rw [State.pending]
      split
      · exact Phase.pending_of_not_outstanding (hnone _)
      · rfl
    rw [hpending, List.nil_append] at hack
    have hhead := congrArg List.head? hack
    rw [List.head?_map, List.head?_map, ← hinv.last] at hhead
    cases hr : (acknowledgements a es).head? with
    | none => rw [hr] at hhead; exact Option.map_eq_none_iff.mp hhead.symm
    | some reply =>
      rw [hr] at hhead
      obtain ⟨p, hlast, hp⟩ := Option.map_eq_some_iff.mp hhead.symm
      rw [hlast]
      exact hp
  · cases hstep with
    | finish ht =>
      have hfollows := hinv.follows t
      rw [ht] at hfollows
      obtain ⟨c, rs, hnow, hresult⟩ := hfollows
      exact ⟨c, rs, hnow, hresult, fun state hstate => level_of_state (hstate ▸ hresult)⟩
  · constructor
    · intro hstep
      cases hstep with
      | look => exact ⟨rfl, rfl⟩
    · rintro ⟨rfl, rfl⟩
      exact .look
  · rw [hinv.last] at hp
    have hmem : some p ∈ (s.pending ++ stored es).map some :=
      List.mem_map_of_mem (List.mem_append_right _ (List.mem_of_head? hp))
    rw [← hack] at hmem
    exact List.mem_map.mp hmem

/-- One thread has refreshed a light, the request of another one is out, and a reader looks. -/
theorem exchanges_in_turn_two_threads :
    ∃ es s, Run (.new .light .sample) es s ∧ (s.phase 1).isOutstanding ∧
      (∀ t, (s.phase t).isOutstanding → t = 1) ∧
      ∃ reply ∈ acknowledgements (.new .light .sample) es,
        s.last = reply.level? ∧ s.last = some ⟨8, by decide, by decide⟩ := by
  have h0 := Run.nil (a := .new .light .sample)
  have h1 := h0.cons (.start (t := 0) (c := .update) rfl rfl rfl)
  have h2 := h1.cons (.start (t := 1) (c := .turnOff) rfl rfl rfl)
  have h3 := h2.cons (.take (t := 0) rfl rfl)
  have h4 := h3.cons (.send (t := 0) rfl rfl)
  have h5 := h4.cons .look
  have h6 := h5.cons (@Step.receive _ _ 0 _ _ _ (.answer ⟨200, "OK", none, [0x38], true⟩) rfl rfl)
  have hp : ∀ {d : Dialogue (Except Error Power)} {p : Power},
      d.value?.bind Except.toOption = some p → d.value? = some (.ok p) := by
    intro d p hd
    obtain ⟨result, hresult, hp⟩ := Option.bind_eq_some_iff.mp hd
    cases result with
    | error e => cases hp
    | ok p' => rw [hresult, Option.some.inj hp]
  have h7 := h6.cons (.store (t := 0) (p := ⟨8, by decide, by decide⟩) rfl (hp (by decide +kernel)))
  have h8 := h7.cons .look
  have h9 := h8.cons (.release (t := 0) rfl)
  have h10 := h9.cons (.take (t := 1) rfl rfl)
  have h11 := h10.cons (.send (t := 1) rfl rfl)
  obtain ⟨hone, -, -, -, -, -, -, hseen⟩ := exchanges_in_turn h11
  obtain ⟨reply, hreply, hlevel⟩ := hseen ⟨8, by decide, by decide⟩ rfl
  exact ⟨_, _, h11, rfl, fun t ht => hone t 1 ht rfl, reply, hreply, hlevel.symm, rfl⟩

end Greenhouse.Turns
