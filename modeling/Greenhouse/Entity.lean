import Greenhouse.Adapter

/-!
# Greenhouse.Entity

Everything that can be refreshed and shows a state.

Besides the adapters there are rehearsed entities, which need no device: a plan says how each of their
updates turns out.  With them every course that an update can take is at hand, breakdowns included.
-/

namespace Greenhouse

/-- How an update of an entity turns out. -/
inductive Outcome where
  | state (state : EntityState)
  | error (error : Error)
  /-- The update broke down half way, in the task of a number, and may have left a text. -/
  | breakdown (task : Nat) (text : Option String)

/-- An update as someone sees it who waits for it apart from the work: a breakdown is an error. -/
def Outcome.guarded : Outcome → Except Error EntityState
  | state s => .ok s
  | error e => .error e
  | breakdown task text => .error (.channelError (.brokeDown task text))

/-! ## rehearsed entities -/

/-- How a rehearsed update turns out. -/
inductive Rehearsal where
  | power (power : Option Power)
  | error (error : Error)
  | breakdown (task : Nat) (text : Option String)

/-- An entity whose updates follow a plan. -/
structure Rehearsed where
  uniqueId : String
  name : String
  host : String
  /-- How the update of each number turns out. -/
  plan : Nat → Rehearsal
  /-- How many updates there have been. -/
  count : Nat
  last : Option Power

namespace Rehearsed

/-- The state last known. -/
def state (r : Rehearsed) : EntityState := .ofPower r.uniqueId r.last

/-- The next update. -/
def update (r : Rehearsed) : Outcome × Rehearsed :=
  let next := { r with count := r.count + 1 }
  match r.plan r.count with
  | .power power =>
    let next := { next with last := power }
    (.state next.state, next)
  | .error e => (.error e, next)
  | .breakdown task text => (.breakdown task text, next)

end Rehearsed

/-! ## entities -/

/-- Something that can be refreshed and shows a state. -/
inductive Entity where
  | adapter (adapter : Adapter)
  | rehearsed (rehearsed : Rehearsed)

namespace Entity

/-- The adapter that an entity is, if it is one. -/
def adapter? : Entity → Option Adapter
  | adapter a => some a
  | rehearsed _ => none

/-- The identifier of an entity. -/
def uniqueId : Entity → String
  | adapter a => a.uniqueId
  | rehearsed r => r.uniqueId

/-- The name of an entity. -/
def name : Entity → String
  | adapter a => a.name
  | rehearsed r => r.name

/-- The picture that stands for an entity. -/
def icon : Entity → Option String
  | adapter a => a.kind.icon
  | rehearsed _ => none

/-- The device that an entity belongs to. -/
def deviceInfo : Entity → DeviceInfo
  | adapter a => a.deviceInfo
  | rehearsed r => .ofHost r.host

/-- The state last known. -/
def state : Entity → EntityState
  | adapter a => a.state
  | rehearsed r => r.state

/-- Refreshes an entity. -/
def update : Entity → Dialogue (Outcome × Entity)
  | adapter a => do
    let (result, a) ← a.refresh
    return (match result with | .ok s => .state s | .error e => .error e, adapter a)
  | rehearsed r =>
    let (outcome, r) := r.update
    .done (outcome, rehearsed r)

/-- Makes a call, if the entity knows it: a rehearsed entity can only be refreshed. -/
def call? (e : Entity) (c : Adapter.Call) :
    Option (Dialogue (Except Error (Option EntityState) × Entity)) :=
  match e, c with
  | adapter a, c =>
    if a.kind.knows c then
      some do
        let (result, a) ← a.call c
        return (result, adapter a)
    else none
  | rehearsed r, .update =>
    let (outcome, r) := r.update
    some (.done (outcome.guarded.map some, rehearsed r))
  | rehearsed _, _ => none

/-- An entity that is an adapter is that adapter. -/
theorem adapter?_eq_some_iff {e : Entity} {a : Adapter} : e.adapter? = some a ↔ e = adapter a := by
  cases e <;> simp [adapter?]

end Entity

end Greenhouse
