import Greenhouse.Enrolment
import Greenhouse.Poller

/-!
# Greenhouse.House

Everything that one home keeps: the enrolment of its devices, the devices that are set up, all
entities, the pollers, and the receivers of their updates.

Entities, pollers and receivers are named by their places in lists that only grow, so that a handle
stays good for ever.  Every operation gives its result and the house afterwards; one that talks to
devices is a dialogue.
-/

namespace Greenhouse

/-- A receiver of the updates of a poller. -/
structure Receiver where
  poller : Nat
  /-- The number of the update that it is to get next. -/
  next : Nat

/-- Everything that one home keeps. -/
structure House where
  enrolment : Enrolment
  registry : Registry
  entities : List Entity
  pollers : List Poller
  receivers : List Receiver

namespace House

/-- A home without anything. -/
def empty : House := ⟨.empty, .empty, [], [], []⟩

/-! ## enrolment and set-up -/

/-- A step of the enrolment form. -/
def submit (id : EntryId) (input : Option UserInput) (h : House) :
    Dialogue (Enrolment.Result × House) := do
  .tellAll (h.enrolment.notes input)
  let (result, enrolment) := h.enrolment.step id input
  return (result, { h with enrolment })

/-- Makes an entity known. -/
def add (e : Entity) (h : House) : Handle × House :=
  (h.entities.length, { h with entities := h.entities ++ [e] })

/-- Sets up the device of an entry, with a new client for its channels. -/
def setUp (provided : Except String Unit) (entry : Entry) (h : House) :
    Dialogue (Except Error Appliance × House) :=
  match h.registry.fittings? provided entry with
  | .error e => .done (.error e, h)
  | .ok fittings => do
    .tellAll (fittings.notes entry.data.host)
    let first := h.entities.length
    let device : Appliance := ⟨entry.id, entry.data.host, first, first + 1, first + 2⟩
    return (.ok device, { h with
      registry := h.registry.insert device
      entities := h.entities ++ fittings.toList.map .adapter })

/-- Takes down the device of an entry; whether there was one. -/
def unload (id : EntryId) (h : House) : Dialogue (Bool × House) :=
  match h.registry.find? id with
  | none => .done (false, h)
  | some device => do
    .tell (.unloaded device.host)
    return (true, { h with registry := h.registry.erase id })

/-! ## entities -/

/-- Puts an entity into the place of an earlier state of it. -/
def put (handle : Handle) (e : Entity) (h : House) : House :=
  { h with entities := h.entities.set handle e }

/-- Makes a call of an entity.  There is no result if there is no such entity, or if it does not know
the call. -/
def call (handle : Handle) (c : Adapter.Call) (h : House) :
    Dialogue (Option (Except Error (Option EntityState)) × House) :=
  match h.entities[handle]?.bind (·.call? c) with
  | none => .done (none, h)
  | some dialogue => do
    let (result, e) ← dialogue
    return (some result, h.put handle e)

/-- One side of an overlap: a call of an entity, or no more than a look at it, which asks nothing
and has no result. -/
def side? (handle : Handle) (c : Option Adapter.Call) (h : House) :
    Option (Dialogue (Option (Except Error (Option EntityState)) × Entity)) :=
  h.entities[handle]?.bind fun e =>
    match c with
    | none => some (.done (none, e))
    | some c => (e.call? c).map fun d => do
      let (result, e) ← d
      return (some result, e)

/-- What is seen of two calls that overlap. -/
structure Overlap where
  /-- How many requests are out before any is answered. -/
  held : Nat
  /-- The house meanwhile. -/
  meanwhile : House
  first : Option (Except Error (Option EntityState))
  second : Option (Except Error (Option EntityState))

/-- Makes two calls, the second while the first waits for its answer.  An entity makes its calls one
after the other, so a second call of the same entity waits until the first is done.  Calls of two
entities go on side by side. -/
def overlap (handle : Handle) (c : Option Adapter.Call) (handle' : Handle) (c' : Option Adapter.Call)
    (h : House) : Dialogue (Option Overlap × House) :=
  match h.side? handle c, h.side? handle' c' with
  | some d, some d' =>
    let meanwhile := (d.value?.map fun r => h.put handle r.2).getD h
    let waits := handle == handle' && d.asks
    let held := d.asks.toNat + (!waits && d'.asks).toNat
    if handle = handle' then do
      let (first, e) ← d
      let h := h.put handle e
      match h.side? handle c' with
      | none => return (none, h)
      | some d' => do
        let (second, e) ← d'
        return (some ⟨held, meanwhile, first, second⟩, h.put handle e)
    else do
      let ((first, e), second, e') ← d.abreast d'
      return (some ⟨held, meanwhile, first, second⟩, (h.put handle e).put handle' e')
  | _, _ => .done (none, h)

/-- Updates an entity apart from the work of the caller. -/
def updateApart (handle : Handle) (h : House) :
    Dialogue (Option (Except Error EntityState) × House) :=
  match h.entities[handle]? with
  | none => .done (none, h)
  | some e => do
    let (outcome, e) ← e.update
    return (some outcome.guarded, h.put handle e)

/-! ## pollers -/

/-- Makes a poller. -/
def addPoller (entities : List Handle) (interval : Nat) (h : House) :
    Except Error Nat × House :=
  match Poller.new entities interval with
  | .error e => (.error e, h)
  | .ok p => (.ok h.pollers.length, { h with pollers := h.pollers ++ [p] })

/-- Starts a poller and stays until some number of updates went out. -/
def start (poller updates : Nat) (h : House) : Dialogue House :=
  match h.pollers[poller]? with
  | none => .done h
  | some p => do
    let (p, entities) ← p.start updates h.entities
    return { h with pollers := h.pollers.set poller p, entities }

/-- Stops a poller. -/
def stop (poller : Nat) (h : House) : Dialogue House :=
  match h.pollers[poller]? with
  | none => .done h
  | some p => do
    let p ← p.stop
    return { h with pollers := h.pollers.set poller p }

/-- Ends a poller for good. -/
def dropPoller (poller : Nat) (h : House) : House :=
  { h with pollers := h.pollers.modify poller Poller.drop }

/-! ## receivers -/

/-- Makes a receiver of the updates that a poller is going to send. -/
def subscribe (poller : Nat) (h : House) : Option (Nat × House) :=
  h.pollers[poller]?.map fun p =>
    (h.receivers.length, { h with receivers := h.receivers ++ [⟨poller, p.feed.sent⟩] })

/-- The feed of a receiver. -/
def feedOf? (h : House) (r : Receiver) : Option (Feed Update) :=
  h.pollers[r.poller]?.map Poller.feed

/-- Moves a receiver on. -/
def advance (receiver next : Nat) (h : House) : House :=
  { h with receivers := h.receivers.modify receiver fun r => { r with next } }

/-- What a receiver gets next. -/
def receive (receiver : Nat) (h : House) : Option (Feed.Receipt Update × House) := do
  let r ← h.receivers[receiver]?
  let feed ← h.feedOf? r
  let (receipt, next) := feed.receive r.next
  return (receipt, h.advance receiver next)

/-- All that a receiver gets before it first gets no update. -/
def drain (receiver : Nat) (h : House) : Option (List Update × House) := do
  let r ← h.receivers[receiver]?
  let feed ← h.feedOf? r
  let (updates, next) := feed.drain r.next
  return (updates, h.advance receiver next)

end House

end Greenhouse
