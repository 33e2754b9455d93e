import Greenhouse.Entity
import Greenhouse.Feed
import Greenhouse.Registry

/-!
# Greenhouse.Poller

Refreshing entities again and again, and telling receivers how it went.

A tick of a poller updates its entities one after the other, in order, and sends one update for each:
the state that it then has, or the error that its update ended in, a breakdown included.  One entity
that fails does not keep the others from being updated.

The first tick comes right after the start, the next ones at intervals.
-/

namespace Greenhouse

/-- How it went to update one entity. -/
inductive Update where
  | refreshed (state : EntityState)
  | failed (uniqueId : String) (error : Error)

namespace Update

/-- The entity that an update is about. -/
def uniqueId : Update → String
  | refreshed s => s.uniqueId
  | failed id _ => id

/-- The update of an entity whose update turned out so. -/
def ofOutcome (id : String) (o : Outcome) : Update :=
  match o.guarded with
  | .ok s => refreshed s
  | .error e => failed id e

/-- What is noted about an update of an entity. -/
def note (id : String) : Update → Note
  | refreshed s => .refreshed id s.power
  | failed _ e => .updateFailed id e

end Update

/-! ## ticks -/

/-- Updates one entity. -/
def Entity.poll (e : Entity) : Dialogue (Update × Entity) := do
  let (outcome, after) ← e.update
  let update := Update.ofOutcome e.uniqueId outcome
  .tell (update.note e.uniqueId)
  return (update, after)

/-- Updates the entities at some handles, one after the other.  A handle without an entity is passed
over. -/
def pollAll : List Handle → List Entity → Dialogue (List Update × List Entity)
  | [], entities => .done ([], entities)
  | h :: hs, entities =>
    match entities[h]? with
    | none => pollAll hs entities
    | some e => do
      let (update, e) ← e.poll
      let (updates, entities) ← pollAll hs (entities.set h e)
      return (update :: updates, entities)

/-! ## pollers -/

/-- A poller. -/
structure Poller where
  entities : List Handle
  /-- The time between two ticks, in milliseconds. -/
  interval : Nat
  feed : Feed Update
  isRunning : Bool

namespace Poller

/-- A poller that has not been started. -/
def new (entities : List Handle) (interval : Nat) : Except Error Poller :=
  if interval = 0 then .error (.invalidRequest .zeroInterval)
  else .ok ⟨entities, interval, .empty, false⟩

/-- One tick: updates the entities of a poller and sends how it went. -/
def tick (p : Poller) (entities : List Entity) : Dialogue (Poller × List Entity) := do
  let (updates, entities) ← pollAll p.entities entities
  return ({ p with feed := p.feed.sendAll updates }, entities)

/-- Several ticks. -/
def ticks : Nat → Poller → List Entity → Dialogue (Poller × List Entity)
  | 0, p, entities => .done (p, entities)
  | n + 1, p, entities => do
    let (p, entities) ← p.tick entities
    ticks n p entities

/-- How many ticks it takes until some number of updates went out: at least one, since the first
comes at once. -/
def ticksFor (p : Poller) (updates : Nat) : Nat :=
  max 1 ((updates + p.entities.length - 1) / p.entities.length)

/-- Starts a poller and stays until some number of updates went out.  Nothing happens if it runs
already. -/
def start (p : Poller) (updates : Nat) (entities : List Entity) :
    Dialogue (Poller × List Entity) :=
  if p.isRunning then .done (p, entities)
  else ticks (p.ticksFor updates) { p with isRunning := true } entities

/-- Stops a poller. -/
def stop (p : Poller) : Dialogue Poller := do
  if p.isRunning then .tell .pollerStopped
  return { p with isRunning := false }

/-- Ends a poller for good. -/
def drop (p : Poller) : Poller := { p with isRunning := false, feed := p.feed.close }

end Poller

end Greenhouse
