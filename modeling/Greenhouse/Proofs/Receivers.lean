import Greenhouse.Proofs.Polling
import Mathlib.Data.List.Forall2

/-!
# Greenhouse.Proofs.Receivers

What the receivers of a poller's updates get, while the poller is in use.

A feed holds the latest of all that has been sent to it.  A receiver gets its receipts from there, and
each stands for some of the updates sent since it subscribed: an update for itself, an interruption for
as many as it tells, and nothing for none.

* `Feed.Holds.receive` — a receipt stands for the next that has been sent.
* `Tracked` — the receipts of a receiver stand for all that has been sent since it subscribed, up to its
  position.
* `exists_run_filter` — what a receiver does is nothing to the others and to the poller.
* `accounted_of_run` — how it stands with every receiver, for every history.
-/

namespace Greenhouse

/-! ## a feed holds the latest of all that has been sent -/

namespace Feed

variable {α : Type} {f : Feed α} {all : List α}

/-- A feed that all of this has been sent to, and that goes on. -/
structure Holds (f : Feed α) (all : List α) : Prop where
  dropped : f.dropped = all.length - capacity
  kept : f.kept = all.drop f.dropped
  isOpen : f.isClosed = false

/-- What a receipt stands for: an item for itself, and an interruption for what is gone. -/
inductive Receipt.StandsFor : Receipt α → List α → Prop where
  | item (a : α) : StandsFor (.item a) [a]
  | nothing : StandsFor .nothing []
  | lagged (missed : List α) : StandsFor (.interrupted (.lagged missed.length)) missed

/-- What a receiver gets that some items are pending for. -/
def upcoming (pending : List α) : Receipt α :=
  if capacity < pending.length then .interrupted (.lagged (pending.length - capacity))
  else match pending.head? with
    | some a => .item a
    | none => .nothing

/-- An item that a receiver is given is the first of those that wait. -/
theorem head?_of_upcoming_eq_item {pending : List α} {a : α} (h : upcoming pending = .item a) :
    pending.head? = some a := by
  rw [upcoming] at h
  split at h
  · cases h
  · split at h <;> cases h
    assumption

/-- There is nothing to receive exactly if nothing waits. -/
theorem upcoming_eq_nothing_iff {pending : List α} : upcoming pending = .nothing ↔ pending = [] := by
  constructor
  · intro h
    rw [upcoming] at h
    split at h
    · cases h
    · split at h
      · cases h
      · next hnone => exact List.head?_eq_none_iff.mp hnone
  · rintro rfl
    rfl

/-- A receiver is interrupted only to be told how far it is behind the items kept. -/
theorem lagged_of_upcoming_eq {pending : List α} {i : Interruption}
    (h : upcoming pending = .interrupted i) :
    ∃ n, i = .lagged n ∧ 0 < n ∧ pending.length = n + capacity := by
  rw [upcoming] at h
  split at h
  · next hlt =>
    cases h
    exact ⟨_, rfl, by omega, by omega⟩
  · split at h <;> cases h

/-- A feed starts with nothing sent. -/
theorem holds_empty : (empty : Feed α).Holds [] := ⟨(Nat.zero_sub _).symm, rfl, rfl⟩

namespace Holds

/-- What is not dropped is kept. -/
theorem length_kept (h : f.Holds all) : f.kept.length = all.length - f.dropped := by
  rw [h.kept, List.length_drop]

/-- Every item counts. -/
theorem sent (h : f.Holds all) : f.sent = all.length := by
  have hdropped := h.dropped
  rw [Feed.sent, h.length_kept]
  omega

/-- One more item is sent behind all others. -/
theorem send (h : f.Holds all) (a : α) : (f.send a).Holds (all ++ [a]) := by
  have hdropped := h.dropped
  have hlength := h.length_kept
  rw [Feed.send]
  refine ⟨?_, ?_, h.isOpen⟩
  · simp only [List.length_append, List.length_singleton, hlength]
    omega
  · have hle : f.dropped ≤ all.length := by omega
    dsimp only
    rw [← List.drop_drop, List.drop_append_of_le_length hle, ← h.kept]

/-- What a receiver gets that has missed something. -/
theorem receive_of_lt (h : f.Holds all) {next : Nat} (hlt : next + capacity < all.length) :
    f.receive next =
      (.interrupted (.lagged (all.length - capacity - next)), all.length - capacity) := by
  have hdropped := h.dropped
  rw [Feed.receive, if_pos (by omega), hdropped]

/-- What a receiver gets that has missed nothing. -/
theorem receive_of_le (h : f.Holds all) {next : Nat} (hle : all.length ≤ next + capacity) :
    f.receive next = match all[next]? with
      | some a => (.item a, next + 1)
      | none => (.nothing, next) := by
  have hdropped := h.dropped
  have hkept : f.kept[next - f.dropped]? = all[next]? := by
    rw [h.kept, List.getElem?_drop]
    congr 1
    omega
  rw [Feed.receive, if_neg (by omega), hkept, h.isOpen]
  rfl

/-- What a receiver gets depends on what is pending for it. -/
theorem fst_receive (h : f.Holds all) (next : Nat) :
    (f.receive next).1 = upcoming (all.drop next) := by
  rw [upcoming, List.length_drop, List.head?_drop]
  by_cases hlt : next + capacity < all.length
  · have hmissed : all.length - capacity - next = all.length - next - capacity := by omega
    rw [h.receive_of_lt hlt, if_pos (by omega), hmissed]
  · rw [h.receive_of_le (Nat.le_of_not_lt hlt), if_neg (by omega)]
    cases all[next]? <;> rfl

/-- What a receiver gets stands for the next that has been sent. -/
theorem receive (h : f.Holds all) {next : Nat} (hnext : next ≤ all.length) :
    ∃ part, (f.receive next).1.StandsFor part ∧
      all.drop next = part ++ all.drop (f.receive next).2 ∧ (f.receive next).2 ≤ all.length := by
  by_cases hlt : next + capacity < all.length
  · rw [h.receive_of_lt hlt]
    let missed := (all.drop next).take (all.length - capacity - next)
    have hlength : all.length - capacity - next = missed.length := by
      rw [List.length_take, List.length_drop]
      omega
    refine ⟨missed, ?_, ?_, Nat.sub_le ..⟩
    · rw [hlength]
      exact .lagged missed
    · have hend : next + (all.length - capacity - next) = all.length - capacity := by omega
      calc all.drop next
          = missed ++ (all.drop next).drop (all.length - capacity - next) :=
            (List.take_append_drop ..).symm
        _ = missed ++ all.drop (all.length - capacity) := by rw [List.drop_drop, hend]
  · rw [h.receive_of_le (Nat.le_of_not_lt hlt)]
    cases ha : all[next]? with
    | none => exact ⟨[], .nothing, rfl, hnext⟩
    | some a =>
      obtain ⟨hlt, ha⟩ := List.getElem?_eq_some_iff.mp ha
      exact ⟨[a], .item a, by rw [List.drop_eq_getElem_cons hlt, ha]; rfl, hlt⟩

end Holds

end Feed

namespace Polling

open Feed

/-! ## what a history says of a receiver -/

/-- All updates that have been sent, the oldest first. -/
def log (es : List Event) : List Update := (sent es).map Prod.snd

/-- The updates that have been sent since a receiver subscribed, the oldest first. -/
def since (r : Nat) : List Event → List Update
  | [] => []
  | .subscribe r' :: es => if r' = r then [] else since r es
  | .send _ _ u :: es => since r es ++ [u]
  | _ :: es => since r es

/-- What a receiver has got since it subscribed, the oldest first. -/
def receipts (r : Nat) : List Event → List (Receipt Update)
  | [] => []
  | .subscribe r' :: es => if r' = r then [] else receipts r es
  | .receive r' receipt :: es => if r' = r then receipts r es ++ [receipt] else receipts r es
  | _ :: es => receipts r es

/-- Whether an event is a receiver's getting something. -/
def Event.isReceiptOf (r : Nat) : Event → Bool
  | receive r' _ => r' = r
  | _ => false

variable {p : Poller} {es : List Event} {s s' : State} {e : Event} {r : Nat}

/-- What a task sends comes last in the log. -/
@[simp] theorem log_send {t : Nat} {h : Handle} {u : Update} :
    log (.send t h u :: es) = log es ++ [u] := List.map_append

/-- What was sent before a receiver subscribed does not count for it. -/
@[simp] theorem since_subscribe_self : since r (.subscribe r :: es) = [] := if_pos rfl

/-- It has received nothing yet. -/
@[simp] theorem receipts_subscribe_self : receipts r (.subscribe r :: es) = [] := if_pos rfl

/-- What it receives comes last among its receipts. -/
@[simp] theorem receipts_receive_self {receipt : Receipt Update} :
    receipts r (.receive r receipt :: es) = receipts r es ++ [receipt] := if_pos rfl

theorem since_subscribe_of_ne {r' : Nat} (h : r' ≠ r) :
    since r (.subscribe r' :: es) = since r es := if_neg h

theorem receipts_subscribe_of_ne {r' : Nat} (h : r' ≠ r) :
    receipts r (.subscribe r' :: es) = receipts r es := if_neg h

theorem receipts_receive_of_ne {r' : Nat} {receipt : Receipt Update} (h : r' ≠ r) :
    receipts r (.receive r' receipt :: es) = receipts r es := if_neg h

/-! ## receipts stand for what has been sent -/

/-- The feed holds what has been sent, and what a receiver has got stands for all that has been sent
since it subscribed, up to its position. -/
structure Tracked (es : List Event) (s : State) : Prop where
  feed : s.feed.Holds (log es)
  receivers : ∀ r next, s.receivers[r]? = some next → next ≤ (log es).length ∧
    ∃ parts, List.Forall₂ Receipt.StandsFor (receipts r es) parts ∧
      since r es = parts.flatten ++ (log es).drop next

namespace Tracked

/-- Nothing has been sent and nobody has subscribed. -/
theorem initial {entities : List Entity} (hp : p.feed = .empty) :
    Tracked [] (.initial p entities) where
  feed := by
    show p.feed.Holds []
    rw [hp]
    exact holds_empty
  receivers r next hr := by cases hr

/-- An update that goes out waits for every receiver. -/
theorem send (h : Tracked es s) (t : Nat) (i : Handle) (u : Update) :
    Tracked (.send t i u :: es) (s.broadcast u) where
  feed := by
    rw [State.feed_broadcast, log_send]
    exact h.feed.send u
  receivers r next hr := by
    rw [State.receivers_broadcast] at hr
    obtain ⟨hnext, parts, hparts, hsince⟩ := h.receivers r next hr
    refine ⟨?_, parts, hparts, ?_⟩
    · rw [log_send, List.length_append]
      exact Nat.le_add_right_of_le hnext
    · rw [log_send, List.drop_append_of_le_length hnext, ← List.append_assoc, ← hsince]
      rfl

/-- A new receiver has nothing waiting. -/
theorem subscribe (h : Tracked es s) :
    Tracked (.subscribe s.receivers.length :: es)
      { s with receivers := s.receivers ++ [s.feed.sent] } where
  feed := h.feed
  receivers r next hr := by
    show next ≤ (log es).length ∧ _
    by_cases heq : r = s.receivers.length
    · subst heq
      have hnext : next = (log es).length := by
        rw [List.getElem?_concat_length, h.feed.sent] at hr
        exact (Option.some.inj hr).symm
      refine ⟨Nat.le_of_eq hnext, [], ?_, ?_⟩
      · rw [receipts_subscribe_self]
        exact .nil
      · rw [since_subscribe_self, hnext]
        exact (List.drop_length ..).symm
    · have hlt : r < s.receivers.length := by
        have hlt := (List.getElem?_eq_some_iff.mp hr).1
        rw [List.length_append, List.length_singleton] at hlt
        omega
      rw [List.getElem?_append_left hlt] at hr
      rw [receipts_subscribe_of_ne (Ne.symm heq), since_subscribe_of_ne (Ne.symm heq)]
      exact h.receivers r next hr

/-- What a receiver is given is accounted for, to this receiver alone. -/
theorem receive (h : Tracked es s) {next next' : Nat} {receipt : Receipt Update}
    (hr : s.receivers[r]? = some next) (hf : s.feed.receive next = (receipt, next')) :
    Tracked (.receive r receipt :: es) { s with receivers := s.receivers.set r next' } where
  feed := h.feed
  receivers r' next'' hr' := by
    show next'' ≤ (log es).length ∧ _
    by_cases heq : r = r'
    · subst heq
      obtain ⟨hnext, parts, hparts, hsince⟩ := h.receivers r next hr
      obtain ⟨part, hpart, hsplit, hnext'⟩ := h.feed.receive hnext
      rw [hf] at hpart hsplit hnext'
      have heq : next'' = next' := by
        rw [List.getElem?_set_self (List.getElem?_eq_some_iff.mp hr).1] at hr'
        exact (Option.some.inj hr').symm
      refine ⟨heq ▸ hnext', parts ++ [part], ?_, ?_⟩
      · rw [receipts_receive_self]
        exact List.rel_append hparts (.cons hpart .nil)
      · rw [heq, List.flatten_concat, List.append_assoc]
        exact hsince.trans (congrArg _ hsplit)
    · rw [List.getElem?_set_ne heq] at hr'
      rw [receipts_receive_of_ne heq]
      exact h.receivers r' next'' hr'

/-- Every step keeps the receivers tracked. -/
theorem step (h : Tracked es s) (hstep : Step p s e s') : Tracked (e :: es) s' := by
  cases hstep with
  | @send t i u rest _ =>
    have hmove : Tracked es (s.move t (.onward rest)) := ⟨h.feed, h.receivers⟩
    exact hmove.send t i u
  | subscribe _ => exact h.subscribe
  | receive hr hf => exact h.receive hr hf
  | _ => exact ⟨h.feed, h.receivers⟩

/-- Receivers are tracked at every point of a history. -/
theorem of_run {entities : List Entity} (hp : p.feed = .empty)
    (h : Run p (.initial p entities) es s) : Tracked es s := by
  induction h with
  | nil => exact initial hp
  | cons _ hstep ih => exact ih.step hstep

end Tracked

/-! ## receivers do not meet -/

/-- A receiver is put at another position. -/
def State.seek (s : State) (r next : Nat) : State :=
  { s with receivers := s.receivers.set r next }

/-- Only the last place counts. -/
theorem seek_seek (s : State) (r next next' : Nat) :
    (s.seek r next).seek r next' = s.seek r next' := by
  simp [State.seek, List.set_set]

/-- The places of two receivers are independent. -/
theorem seek_comm {r' next' : Nat} (h : r ≠ r') (next : Nat) :
    (s.seek r next).seek r' next' = (s.seek r' next').seek r next := by
  simp only [State.seek, List.set_comm _ _ h]

/-- Nobody is moved who has not subscribed. -/
theorem seek_of_le {s : State} (h : s.receivers.length ≤ r) (next : Nat) : s.seek r next = s := by
  rw [State.seek, List.set_eq_of_length_le h]

/-- A receiver is where it is, if there is one. -/
theorem exists_seek_eq (s : State) (r : Nat) : ∃ next, s.seek r next = s := by
  by_cases hr : r < s.receivers.length
  · exact ⟨s.receivers.get ⟨r, hr⟩, by rw [State.seek, List.get_eq_getElem, List.set_getElem_self]⟩
  · exact ⟨0, seek_of_le (Nat.le_of_not_lt hr) 0⟩

/-- Whoever reads where, the same update goes out. -/
theorem seek_broadcast (s : State) (u : Update) (r next : Nat) :
    (s.broadcast u).seek r next = (s.seek r next).broadcast u := by
  simp only [State.seek, State.broadcast]

/-- What a receiver gets changes nothing but where it is. -/
theorem eq_seek_of_receive {receipt : Receipt Update} (h : Step p s (.receive r receipt) s') :
    ∃ next, s' = s.seek r next := by
  cases h with
  | receive _ _ => exact ⟨_, rfl⟩

/-- Where a receiver is does not bear on anything else that happens. -/
theorem step_seek (h : Step p s e s') (he : e.isReceiptOf r = false) (next : Nat) :
    ∃ next', Step p (s.seek r next) e (s'.seek r next') := by
  by_cases hr : r < s.receivers.length
  · refine ⟨next, ?_⟩
    cases h with
    | stay hs hr => exact .stay hs hr
    | launch hs hr => exact .launch hs hr
    | stop hs => exact .stop hs
    | stopped hs hend => exact .stopped hs hend
    | ask hs => exact .ask hs
    | subscribe hs =>
      have hlength : (s.seek r next).receivers.length = s.receivers.length := List.length_set
      have hsame : State.seek { s with receivers := s.receivers ++ [s.feed.sent] } r next =
          { s.seek r next with receivers := (s.seek r next).receivers ++ [s.feed.sent] } := by
        simp only [State.seek, List.set_append_left _ _ hr]
      rw [hsame, ← hlength]
      exact .subscribe hs
    | @receive r' _ next'' _ hr' hf =>
      have hne : r ≠ r' := by
        rintro rfl
        simp [Event.isReceiptOf] at he
      show Step p _ _ ((s.seek r' next'').seek r next)
      rw [seek_comm hne.symm]
      exact .receive ((List.getElem?_set_ne hne).trans hr') hf
    | elapse ht hd => exact .elapse ht hd
    | tick ht hd => exact .tick ht hd
    | refresh ht => exact .refresh ht
    | settle ht hi ho => exact .settle ht hi ho
    | send ht =>
      rw [seek_broadcast]
      exact .send ht
    | obey ht hs => exact .obey ht hs
  · obtain ⟨next', heq⟩ := exists_seek_eq s' r
    exact ⟨next', by rwa [heq, seek_of_le (Nat.le_of_not_lt hr)]⟩

/-- A history without what a receiver got is a history, to the same state but for that receiver. -/
theorem exists_run_filter {s₀ : State} (h : Run p s₀ es s) (r : Nat) :
    ∃ next, Run p s₀ (es.filter (!·.isReceiptOf r)) (s.seek r next) := by
  induction h with
  | nil =>
    obtain ⟨next, heq⟩ := exists_seek_eq s₀ r
    exact ⟨next, by rw [heq]; exact .nil⟩
  | @cons es s s' e _ hstep ih =>
    obtain ⟨next, hrun⟩ := ih
    cases he : e.isReceiptOf r with
    | true =>
      cases hstep with
      | @receive r' _ next'' receipt _ _ =>
        have heq : r' = r := of_decide_eq_true he
        refine ⟨next, ?_⟩
        have hseek : (s.seek r' next'').seek r next = s.seek r next := by
          rw [heq, seek_seek]
        rw [List.filter_cons_of_neg (by simp [he])]
        exact hseek ▸ hrun
      | _ => cases he
    | false =>
      obtain ⟨next', hstep'⟩ := step_seek hstep he next
      refine ⟨next', ?_⟩
      rw [List.filter_cons_of_pos (by simp [he])]
      exact hrun.cons hstep'

/-- Without what a receiver got, a history says the same of ticks, of what was sent, and of the other
receivers. -/
theorem filter_isReceiptOf (es : List Event) (r : Nat) :
    let rest := es.filter (!·.isReceiptOf r)
    ticks rest = ticks es ∧ sent rest = sent es ∧
      ∀ r', r' ≠ r → since r' rest = since r' es ∧ receipts r' rest = receipts r' es := by
  induction es with
  | nil => exact ⟨rfl, rfl, fun _ _ => ⟨rfl, rfl⟩⟩
  | cons e es ih =>
    obtain ⟨hticks, hsent, hothers⟩ := ih
    cases he : e.isReceiptOf r with
    | true =>
      cases e with
      | receive r' receipt =>
        have heq : r' = r := of_decide_eq_true he
        rw [List.filter_cons_of_neg (by simp [he])]
        refine ⟨hticks, hsent, fun r'' hne => ⟨(hothers r'' hne).1, ?_⟩⟩
        rw [receipts_receive_of_ne (heq ▸ hne.symm)]
        exact (hothers r'' hne).2
      | _ => cases he
    | false =>
      rw [List.filter_cons_of_pos (by simp [he])]
      refine ⟨?_, ?_, fun r' hne => ?_⟩
      · cases e <;> simp only [ticks, hticks]
      · cases e <;> simp only [sent, hsent]
      · obtain ⟨hsince, hreceipts⟩ := hothers r' hne
        cases e <;> simp only [since, receipts, hsince, hreceipts, and_self]

/-! ## accounts -/

/-- How it stands with a receiver for which some updates are pending. -/
structure Accounted (p : Poller) (es : List Event) (s : State) (r : Nat) (pending : List Update) :
    Prop where
  /-- What it has got stands for what has been sent since it subscribed, but for what is pending. -/
  split : ∃ parts, List.Forall₂ Receipt.StandsFor (receipts r es) parts ∧
    since r es = parts.flatten ++ pending
  /-- It need not wait for anything to be told how it stands. -/
  told : ∃ receipt s', Step p s (.receive r receipt) s'
  /-- An update that it gets is the next one. -/
  item : ∀ u s', Step p s (.receive r (.item u)) s' → pending.head? = some u
  /-- It gets nothing just if there is nothing pending. -/
  nothing : (∃ s', Step p s (.receive r .nothing) s') ↔ pending = []
  /-- An interruption tells how many updates are no longer kept. -/
  lagged : ∀ i s', Step p s (.receive r (.interrupted i)) s' → ∃ n,
    (Error.channelError i).message = "Channel error: Lagged by " ++ Text.Decimal.text n ++ " messages" ∧
      i = .lagged n ∧ 0 < n ∧ pending.length = n + capacity
  /-- A receiver that is not far behind is not interrupted. -/
  timely : pending.length ≤ 100 → ∀ i s', ¬ Step p s (.receive r (.interrupted i)) s'

/-- What a receiver can get. -/
theorem exists_receive_iff {next : Nat} (h : Tracked es s) (hr : s.receivers[r]? = some next)
    (receipt : Receipt Update) :
    (∃ s', Step p s (.receive r receipt) s') ↔ receipt = upcoming ((log es).drop next) := by
  rw [← h.feed.fst_receive]
  constructor
  · rintro ⟨s', hstep⟩
    cases hstep with
    | receive hr' hf =>
      cases hr.symm.trans hr'
      rw [hf]
  · rintro rfl
    exact ⟨_, .receive hr rfl⟩

/-- The text of a lag gives the number of items missed. -/
theorem message_lagged (n : Nat) : (Error.channelError (.lagged n)).message =
    "Channel error: Lagged by " ++ Text.Decimal.text n ++ " messages" := by
  have hjoin : ∀ s, "Channel error: " ++ ("Lagged by " ++ s ++ " messages") =
      "Channel error: Lagged by " ++ s ++ " messages" := by
    intro s
    simp only [← String.append_assoc, String.reduceAppend]
  exact hjoin _

/-- A receiver that is tracked is accounted for by what waits for it. -/
theorem Tracked.accounted (h : Tracked es s) (hr : r < s.receivers.length) :
    ∃ pending, Accounted p es s r pending := by
  have hget : s.receivers[r]? = some (s.receivers.get ⟨r, hr⟩) := List.getElem?_eq_getElem hr
  obtain ⟨-, parts, hparts, hsince⟩ := h.receivers r _ hget
  have hiff := exists_receive_iff (p := p) h hget
  let pending := (log es).drop (s.receivers.get ⟨r, hr⟩)
  have hlagged : ∀ i s', Step p s (.receive r (.interrupted i)) s' →
      ∃ n, i = .lagged n ∧ 0 < n ∧ pending.length = n + capacity :=
    fun i s' hstep => lagged_of_upcoming_eq ((hiff _).mp ⟨s', hstep⟩).symm
  refine ⟨pending, ⟨parts, hparts, hsince⟩, ⟨_, (hiff _).mpr rfl⟩, fun u s' hstep => ?_, ?_,
    fun i s' hstep => ?_, fun hle i s' hstep => ?_⟩
  · exact head?_of_upcoming_eq_item ((hiff _).mp ⟨s', hstep⟩).symm
  · rw [hiff, eq_comm]
    exact upcoming_eq_nothing_iff
  · obtain ⟨n, rfl, hn, hlength⟩ := hlagged i s' hstep
    exact ⟨n, message_lagged n, rfl, hn, hlength⟩
  · obtain ⟨n, -, hn, hlength⟩ := hlagged i s' hstep
    rw [hlength, capacity] at hle
    omega

/-- What the receivers of a poller get, however starts, stops, ticks, subscriptions and receipts follow
each other.  The receipts of a receiver stand for the updates sent since it subscribed, one after the
other, but for those that are pending, and what it gets next is up to those.  It changes nothing but
its own position: the history without its receipts leads to the same state but for that position, with
the same ticks, updates and receipts of others, and wherever it stands the same can happen next. -/
theorem accounted_of_run {handles : List Handle} {interval : Nat} {entities : List Entity}
    (hnew : Poller.new handles interval = .ok p) (h : Run p (.initial p entities) es s)
    (hr : r < s.receivers.length) :
    (∃ pending, Accounted p es s r pending) ∧
    (∀ receipt s', Step p s (.receive r receipt) s' → ∃ next, s' = s.seek r next) ∧
    (∃ next, Run p (.initial p entities) (es.filter (!·.isReceiptOf r)) (s.seek r next)) ∧
    ticks (es.filter (!·.isReceiptOf r)) = ticks es ∧
    sent (es.filter (!·.isReceiptOf r)) = sent es ∧
    (∀ r', r' ≠ r → since r' (es.filter (!·.isReceiptOf r)) = since r' es ∧
      receipts r' (es.filter (!·.isReceiptOf r)) = receipts r' es) ∧
    ∀ e s' next, e.isReceiptOf r = false → Step p s e s' →
      ∃ next', Step p (s.seek r next) e (s'.seek r next') := by
  obtain ⟨-, rfl⟩ := Poller.new_eq_ok_iff.mp hnew
  have htracked := Tracked.of_run rfl h
  obtain ⟨hticks, hsent, hothers⟩ := filter_isReceiptOf es r
  exact ⟨htracked.accounted hr, fun _ _ hstep => eq_seek_of_receive hstep, exists_run_filter h r,
    hticks, hsent, hothers, fun _ _ next he hstep => step_seek hstep he next⟩

/-- Of two receivers, one has got the update that has been sent, and has nothing pending. -/
theorem accounted_of_run_two_receivers :
    ∃ p entities es s u, Poller.new [0] 10 = .ok p ∧ Run p (.initial p entities) es s ∧
      receipts 0 es = [.item u] ∧ receipts 1 es = [] ∧ since 1 es = [u] ∧
      ∃ s', Step p s (.receive 0 .nothing) s' := by
  let e : Entity := .rehearsed ⟨"a", "", "", fun _ => .error (.channelError .closed), 0, none⟩
  let p : Poller := ⟨[0], 10, .empty, false⟩
  let u : Update := .failed "a" (.channelError .closed)
  have h0 := @Run.nil p (.initial p [e])
  have h1 := h0.cons (.subscribe rfl)
  have h2 := h1.cons (.launch rfl rfl)
  have h3 := h2.cons (.subscribe rfl)
  have h4 := h3.cons (.tick (t := 0) rfl rfl)
  have h5 := h4.cons (.refresh (t := 0) rfl)
  have h6 := h5.cons (@Step.settle p _ 0 0 [] e _ _ [] rfl rfl rfl)
  have h7 := h6.cons (@Step.send p _ 0 0 u _ rfl)
  have h8 := h7.cons (@Step.receive p _ 0 0 1 (.item u) (by rw [State.receivers_broadcast]; rfl)
    (by rw [State.feed_broadcast]; exact (holds_empty.send u).receive_of_le (by decide)))
  have hnew : Poller.new [0] 10 = .ok p := rfl
  obtain ⟨⟨pending, haccounted⟩, -⟩ := accounted_of_run (r := 0) hnew h8
    (by rw [List.length_set, State.receivers_broadcast]; exact Nat.zero_lt_two)
  -- the one receipt stands for the one update, so that nothing is pending
  obtain ⟨parts, hparts, hsince⟩ := haccounted.split
  have hpending : pending = [] := by
    obtain _ | ⟨⟨_⟩, ⟨_⟩⟩ := hparts
    exact (@List.append_cancel_left _ [u] _ _ hsince).symm
  exact ⟨p, [e], _, _, u, hnew, h8, rfl, rfl, rfl, haccounted.nothing.mpr hpending⟩

end Polling

end Greenhouse
