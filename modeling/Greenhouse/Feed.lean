import Greenhouse.Error

/-!
# Greenhouse.Feed

A stream of items for any number of receivers.

The sender never waits.  Every item has a number, and a feed keeps the latest items only; a receiver
holds the number of the item it is to get next.  A receiver that has fallen behind what is kept is told
once how many items it has missed, and goes on with the oldest that is kept.
-/

namespace Greenhouse

/-- A stream of items. -/
structure Feed (α : Type) where
  /-- How many items are no longer kept. -/
  dropped : Nat
  /-- The items that are kept, the oldest first. -/
  kept : List α
  /-- Whether there will be no more items. -/
  isClosed : Bool

namespace Feed

/-- How many items a feed keeps. -/
def capacity : Nat := 128

/-- A feed that nothing has been sent to. -/
def empty : Feed α := ⟨0, [], false⟩

/-- How many items have been sent. -/
def sent (f : Feed α) : Nat := f.dropped + f.kept.length

/-- Sends an item. -/
def send (f : Feed α) (a : α) : Feed α :=
  let kept := f.kept ++ [a]
  let excess := kept.length - capacity
  { f with dropped := f.dropped + excess, kept := kept.drop excess }

/-- Sends several items. -/
def sendAll (f : Feed α) (as : List α) : Feed α := as.foldl send f

/-- Ends a feed. -/
def close (f : Feed α) : Feed α := { f with isClosed := true }

/-- What a receiver gets. -/
inductive Receipt (α : Type) where
  | item (a : α)
  /-- There is nothing to get yet. -/
  | nothing
  | interrupted (interruption : Interruption)

/-- What the receiver gets whose next item has a number, and the number of its next item then. -/
def receive (f : Feed α) (next : Nat) : Receipt α × Nat :=
  if next < f.dropped then (.interrupted (.lagged (f.dropped - next)), f.dropped)
  else match f.kept[next - f.dropped]? with
    | some a => (.item a, next + 1)
    | none => (if f.isClosed then .interrupted .closed else .nothing, next)

/-- What the receiver gets up to the first time that it gets no item, of which there are at most
`fuel`. -/
def drainFrom (f : Feed α) : Nat → Nat → List α × Nat
  | 0, next => ([], next)
  | fuel + 1, next =>
    match f.receive next with
    | (.item a, next) =>
      let (as, next) := f.drainFrom fuel next
      (a :: as, next)
    | (_, next) => ([], next)

/-- All that the receiver gets before it first gets no item. -/
def drain (f : Feed α) (next : Nat) : List α × Nat := f.drainFrom (f.kept.length + 1) next

/-! ## small facts -/

/-- Every item sent counts, kept or not. -/
@[simp] theorem sent_send (f : Feed α) (a : α) : (f.send a).sent = f.sent + 1 := by
  simp only [sent, send, List.length_drop, List.length_append, List.length_singleton]
  omega

/-- After an item has been sent, no more items are kept than there is room for. -/
theorem length_kept_send_le (f : Feed α) (a : α) : (f.send a).kept.length ≤ capacity := by
  simp only [send, List.length_drop, List.length_append, List.length_singleton]
  omega

/-! ## several items -/

/-- Several items are sent one after the other. -/
theorem sendAll_cons (f : Feed α) (a : α) (as : List α) :
    f.sendAll (a :: as) = (f.send a).sendAll as := by
  simp only [sendAll, List.foldl_cons]

/-- Sending several items behind others is sending all of them. -/
theorem sendAll_append (f : Feed α) (as bs : List α) :
    f.sendAll (as ++ bs) = (f.sendAll as).sendAll bs := List.foldl_append

/-- Of several items every one counts. -/
theorem sent_sendAll (f : Feed α) (as : List α) : (f.sendAll as).sent = f.sent + as.length := by
  induction as generalizing f with
  | nil => rfl
  | cons a as ih =>
    rw [sendAll_cons, ih, sent_send, List.length_cons]
    omega

/-- What is kept after several items have been sent is the latest of what there was and of these. -/
theorem kept_sendAll (f : Feed α) (as : List α) (h : f.kept.length ≤ capacity ∨ as ≠ []) :
    (f.sendAll as).kept = (f.kept ++ as).drop (f.kept.length + as.length - capacity) := by
  induction as generalizing f with
  | nil =>
    have hle : f.kept.length ≤ capacity := h.resolve_right fun hne => hne rfl
    have hnone : f.kept.length + 0 - capacity = 0 := by omega
    rw [List.append_nil, List.length_nil, hnone]
    rfl
  | cons a as ih =>
    -- the first item leaves room, so that only the others push anything out
    have hsend : (f.send a).kept = (f.kept ++ [a]).drop (f.kept.length + 1 - capacity) := by
      simp [send]
    have hfirst : f.kept.length + 1 - capacity ≤ (f.kept ++ [a]).length := by
      rw [List.length_append, List.length_singleton]
      omega
    have hlength : (f.send a).kept.length =
        f.kept.length + 1 - (f.kept.length + 1 - capacity) := by
      rw [hsend, List.length_drop, List.length_append, List.length_singleton]
    have hcut : f.kept.length + 1 - capacity + ((f.send a).kept.length + as.length - capacity) =
        f.kept.length + (as.length + 1) - capacity := by
      omega
    rw [sendAll_cons, ih (f.send a) (.inl (length_kept_send_le f a)), List.length_cons, ← hcut,
      ← List.drop_drop, List.append_cons, List.drop_append_of_le_length hfirst, ← hsend]

/-- What a receiver gets that is to get the `i`-th of the items that were sent last: the item, or if it
is no longer kept, how many are gone. -/
theorem receive_sendAll (f : Feed α) {as : List α} {i : Nat} {a : α} (ha : as[i]? = some a) :
    (f.sendAll as).receive (f.sent + i) =
      if i + capacity < as.length then
        (.interrupted (.lagged (as.length - capacity - i)), f.sent + (as.length - capacity))
      else (.item a, f.sent + i + 1) := by
  obtain ⟨hi, -⟩ := List.getElem?_eq_some_iff.mp ha
  have hkept := kept_sendAll f as (.inr (List.ne_nil_of_length_pos (by omega)))
  have hsent := sent_sendAll f as
  have hdropped : (f.sendAll as).dropped = f.dropped + (f.kept.length + as.length - capacity) := by
    rw [sent, sent, hkept, List.length_drop, List.length_append] at hsent
    omega
  have hbefore : f.sent = f.dropped + f.kept.length := rfl
  rw [receive, hdropped]
  by_cases hlag : i + capacity < as.length
  · rw [if_pos (by omega), if_pos hlag]
    have hgone : f.dropped + (f.kept.length + as.length - capacity) =
        f.sent + (as.length - capacity) := by omega
    have hmissed : f.sent + (as.length - capacity) - (f.sent + i) = as.length - capacity - i := by
      omega
    rw [hgone, hmissed]
  · rw [if_neg (by omega), if_neg hlag, hkept, List.getElem?_drop]
    have hplace : f.kept.length + as.length - capacity + (f.sent + i -
        (f.dropped + (f.kept.length + as.length - capacity))) = f.kept.length + i := by omega
    rw [hplace, List.getElem?_append_right (Nat.le_add_right ..), Nat.add_sub_cancel_left, ha]

end Feed

end Greenhouse
