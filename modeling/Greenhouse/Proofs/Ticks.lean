import Greenhouse.Poller
import Mathlib.Data.List.Forall2

/-!
# Greenhouse.Proofs.Ticks

A tick of a poller is a tour of its entities.

A tour updates entities directly, one after the other, and keeps how each update turned out
(`Tour.visit`).  A tick does the same to the entities and to the device; what it sends says of each
entity in turn how its update turned out (`Tells`).

* `run_pollAll` — updating entities for a poller is a tour of them.
* `run_ticks` — any number of ticks is one tour, and what they send is one block after the other.
* `ticks_eq_tour` — every block has just one update for each place in the poller's list.
-/

namespace Greenhouse

open Greenhouse.Text

/-- What some entities have come to, and their device with them, by updates made directly. -/
structure Tour (σ : Type) where
  entities : List Entity
  state : σ
  /-- What has been asked. -/
  requests : List Request
  /-- How the updates turned out, each with the identifier of its entity. -/
  outcomes : List (String × Outcome)

namespace Tour

variable {σ : Type} (device : Device σ)

/-- Nothing has been updated yet. -/
def start (entities : List Entity) (s : σ) : Tour σ := ⟨entities, s, [], []⟩

/-- Updates the entity at a handle, if there is one. -/
def visit (tour : Tour σ) (h : Handle) : Tour σ :=
  match tour.entities[h]? with
  | none => tour
  | some e =>
    let t := e.update.run device tour.state
    ⟨tour.entities.set h t.value.2, t.state, tour.requests ++ t.requests,
      tour.outcomes ++ [(e.uniqueId, t.value.1)]⟩

/-- Updates the entities at some handles, one after the other. -/
def visitAll (tour : Tour σ) (hs : List Handle) : Tour σ := hs.foldl (visit device) tour

@[simp] theorem visitAll_nil (tour : Tour σ) : tour.visitAll device [] = tour := rfl

theorem visitAll_cons (tour : Tour σ) (h : Handle) (hs : List Handle) :
    tour.visitAll device (h :: hs) = (tour.visit device h).visitAll device hs := rfl

/-- Two rounds of visits are one. -/
theorem visitAll_append (tour : Tour σ) (hs hs' : List Handle) :
    tour.visitAll device (hs ++ hs') = (tour.visitAll device hs).visitAll device hs' :=
  List.foldl_append

end Tour

/-- What an update that is sent says of how it turned out for the entity of an identifier: the state
that the entity then has, or the identifier and what went wrong. -/
inductive Tells : Update → String × Outcome → Prop where
  | state {st : EntityState} : Tells (.refreshed st) (st.uniqueId, .state st)
  | error {id : String} {e : Error} : Tells (.failed id e) (id, .error e)
  | panicked {id : String} {task : Nat} {i : Interruption}
      (h : (Error.channelError i).message =
        "Channel error: update task failed: task " ++ Decimal.text task ++ " panicked") :
      Tells (.failed id (.channelError i)) (id, .breakdown task none)
  | panickedWith {id : String} {task : Nat} {text : String} {i : Interruption}
      (h : (Error.channelError i).message = "Channel error: update task failed: task " ++
        Decimal.text task ++ " panicked with message " ++ quote text) :
      Tells (.failed id (.channelError i)) (id, .breakdown task (some text))

/-- An update that is sent about a breakdown reports it, with its text if it left one. -/
theorem Tells.of_brokeDown (id : String) (task : Nat) (text : Option String) :
    Tells (.failed id (.channelError (.brokeDown task text))) (id, .breakdown task text) := by
  have hfront : "Channel error: " ++ "update task failed: task " =
      "Channel error: update task failed: task " := by
    simp only [String.reduceAppend]
  have hback : " panicked" ++ " with message " = " panicked with message " := by
    simp only [String.reduceAppend]
  cases text with
  | none =>
    have hmessage : "Channel error: " ++
        ("update task failed: task " ++ Decimal.text task ++ " panicked" ++ "") =
        "Channel error: update task failed: task " ++ Decimal.text task ++ " panicked" := by
      rw [String.append_empty, ← String.append_assoc, ← String.append_assoc, hfront]
    exact .panicked hmessage
  | some text =>
    have hmessage : "Channel error: " ++
        ("update task failed: task " ++ Decimal.text task ++ " panicked" ++
          (" with message " ++ quote text)) =
        "Channel error: update task failed: task " ++ Decimal.text task ++
          " panicked with message " ++ quote text := by
      rw [← hfront, ← hback]
      simp only [String.append_assoc]
    exact .panickedWith hmessage

/-- An update that tells of a state gives it. -/
theorem Tells.eq_refreshed {u : Update} {id : String} {st : EntityState}
    (h : Tells u (id, .state st)) : u = .refreshed st := by
  generalize hx : (id, Outcome.state st) = x at h
  cases h with
  | state =>
    cases hx
    rfl
  | _ => cases hx

/-- An update that tells of an entity has its identifier. -/
theorem Tells.uniqueId_eq {u : Update} {x : String × Outcome} (h : Tells u x) : u.uniqueId = x.1 := by
  cases h <;> rfl

/-! ## one entity -/

namespace Entity

variable {σ : Type} (device : Device σ) (e : Entity) (s : σ)

/-- An update leaves an entity its identifier, and a state that it gives has that identifier. -/
theorem uniqueId_of_update : (e.update.run device s).value.2.uniqueId = e.uniqueId ∧
    ∀ st, (e.update.run device s).value.1 = .state st → st.uniqueId = e.uniqueId := by
  cases e with
  | adapter a =>
    simp only [update, Dialogue.run_bind, Adapter.run_refresh, Dialogue.run_pure]
    generalize (a.channel.get.run device s).value = result
    refine ⟨Adapter.uniqueId_keep a result, fun st hst => ?_⟩
    cases result with
    | error fault => cases hst
    | ok power =>
      cases hst
      exact Adapter.uniqueId_keep a (.ok power)
  | rehearsed r =>
    simp only [update, Dialogue.run_done, Rehearsed.update]
    cases r.plan r.count with
    | power power =>
      refine ⟨rfl, fun st hst => ?_⟩
      cases hst
      rfl
    | error fault => exact ⟨rfl, fun st hst => by cases hst⟩
    | breakdown task text => exact ⟨rfl, fun st hst => by cases hst⟩

/-- To poll an entity is to update it and to say what came of it. -/
theorem run_poll : e.poll.run device s =
    let t := e.update.run device s
    let u := Update.ofOutcome e.uniqueId t.value.1
    ⟨(u, t.value.2), t.requests, t.notes ++ [u.note e.uniqueId], t.state⟩ := by
  simp [poll, Dialogue.run_bind]

/-- What is sent about an update tells how it turned out. -/
theorem tells_ofOutcome : Tells (Update.ofOutcome e.uniqueId (e.update.run device s).value.1)
    (e.uniqueId, (e.update.run device s).value.1) := by
  have hown := (e.uniqueId_of_update device s).2
  cases h : (e.update.run device s).value.1 with
  | state st =>
    rw [← hown st h]
    exact .state
  | error fault => exact .error
  | breakdown task text => exact .of_brokeDown e.uniqueId task text

end Entity

/-! ## entities one after the other -/

variable {σ : Type} (device : Device σ)

/-- An entity that changes under its identifier leaves all identifiers as they were. -/
theorem map_uniqueId_set {entities : List Entity} {h : Handle} {e e' : Entity}
    (he : entities[h]? = some e) (hid : e'.uniqueId = e.uniqueId) :
    (entities.set h e').map Entity.uniqueId = entities.map Entity.uniqueId := by
  rw [List.map_set, hid]
  refine List.ext_getElem? fun i => ?_
  rw [List.getElem?_set]
  split
  · next heq =>
    subst heq
    rw [List.getElem?_map, he]
    simp [(List.getElem?_eq_some_iff.mp he).1]
  · rfl

/-- The first entity is updated first, and the others behind it on what it leaves. -/
theorem run_pollAll_cons {h : Handle} {hs : List Handle} {entities : List Entity} {e : Entity}
    (he : entities[h]? = some e) (s : σ) : (pollAll (h :: hs) entities).run device s =
      let t := e.update.run device s
      let u := Update.ofOutcome e.uniqueId t.value.1
      let t' := (pollAll hs (entities.set h t.value.2)).run device t.state
      ⟨(u :: t'.value.1, t'.value.2), t.requests ++ t'.requests,
        t.notes ++ [u.note e.uniqueId] ++ t'.notes, t'.state⟩ := by
  simp [pollAll, he, Dialogue.run_bind, Entity.run_poll]

/-- What updating entities for a poller comes to, as a tour of them: the tour goes on from where it
is, and learns just what is sent. -/
theorem run_pollAll (hs : List Handle) (tour : Tour σ) :
    let t := (pollAll hs tour.entities).run device tour.state
    ∃ outcomes, tour.visitAll device hs =
        ⟨t.value.2, t.state, tour.requests ++ t.requests, tour.outcomes ++ outcomes⟩ ∧
      List.Forall₂ Tells t.value.1 outcomes := by
  induction hs generalizing tour with
  | nil => exact ⟨[], by simp [pollAll], .nil⟩
  | cons h hs ih =>
    rw [Tour.visitAll_cons, Tour.visit]
    cases he : tour.entities[h]? with
    | none =>
      rw [pollAll, he]
      exact ih tour
    | some e =>
      let t := e.update.run device tour.state
      obtain ⟨outcomes, hvisit, htells⟩ := ih ⟨tour.entities.set h t.value.2, t.state,
        tour.requests ++ t.requests, tour.outcomes ++ [(e.uniqueId, t.value.1)]⟩
      rw [run_pollAll_cons device he]
      refine ⟨(e.uniqueId, t.value.1) :: outcomes, ?_, .cons (e.tells_ofOutcome device _) htells⟩
      simpa using hvisit

/-- An update is about the entity at a handle, by the identifiers of all entities. -/
def About (ids : List String) (u : Update) (h : Handle) : Prop := ids[h]? = some u.uniqueId

/-- Updates for a poller are about the entities at its handles, and all keep their identifiers. -/
theorem about_of_pollAll {hs : List Handle} {entities : List Entity}
    (hknown : ∀ h ∈ hs, h < entities.length) (s : σ) :
    let t := (pollAll hs entities).run device s
    t.value.2.map Entity.uniqueId = entities.map Entity.uniqueId ∧
      List.Forall₂ (About (entities.map Entity.uniqueId)) t.value.1 hs := by
  induction hs generalizing entities s with
  | nil => exact ⟨rfl, .nil⟩
  | cons h hs ih =>
    obtain ⟨hh, hhs⟩ := List.forall_mem_cons.mp hknown
    have he : entities[h]? = some (entities.get ⟨h, hh⟩) := List.getElem?_eq_getElem hh
    let e := entities.get ⟨h, hh⟩
    let t := e.update.run device s
    have hset : (entities.set h t.value.2).map Entity.uniqueId = entities.map Entity.uniqueId :=
      map_uniqueId_set he (e.uniqueId_of_update device s).1
    have hlater : ∀ h' ∈ hs, h' < (entities.set h t.value.2).length := by
      rw [List.length_set]
      exact hhs
    obtain ⟨hids, hblock⟩ := ih hlater t.state
    rw [hset] at hids hblock
    have hfirst : About (entities.map Entity.uniqueId)
        (Update.ofOutcome e.uniqueId t.value.1) h := by
      rw [About, List.getElem?_map, he, (e.tells_ofOutcome device s).uniqueId_eq]
      rfl
    rw [run_pollAll_cons device he]
    exact ⟨hids, .cons hfirst hblock⟩

/-! ## tick after tick -/

/-- A tick updates the entities of the poller and sends what came of it. -/
theorem Poller.run_tick (p : Poller) (entities : List Entity) (s : σ) :
    (p.tick entities).run device s =
      let t := (pollAll p.entities entities).run device s
      ⟨({ p with feed := p.feed.sendAll t.value.1 }, t.value.2), t.requests, t.notes, t.state⟩ := by
  simp [tick, Dialogue.run_bind]

/-- Ticks follow one another, each on what the former one leaves. -/
theorem Poller.run_ticks_succ (n : Nat) (p : Poller) (entities : List Entity) (s : σ) :
    (ticks (n + 1) p entities).run device s =
      let t := (p.tick entities).run device s
      let u := (ticks n t.value.1 t.value.2).run device t.state
      ⟨u.value, t.requests ++ u.requests, t.notes ++ u.notes, u.state⟩ := by
  simp [ticks, Dialogue.run_bind]

/-- What any number of ticks comes to, as one tour: each sends a block of its own, behind those of the
ticks before it. -/
theorem run_ticks (n : Nat) {p : Poller} (tour : Tour σ)
    (hknown : ∀ h ∈ p.entities, h < tour.entities.length) :
    let t := (Poller.ticks n p tour.entities).run device tour.state
    ∃ outcomes, ∃ blocks : List (List Update),
      tour.visitAll device (List.replicate n p.entities).flatten =
        ⟨t.value.2, t.state, tour.requests ++ t.requests, tour.outcomes ++ outcomes⟩ ∧
      t.value.1 = { p with feed := p.feed.sendAll blocks.flatten } ∧
      blocks.length = n ∧
      (∀ block ∈ blocks,
        List.Forall₂ (About (tour.entities.map Entity.uniqueId)) block p.entities) ∧
      List.Forall₂ Tells blocks.flatten outcomes := by
  induction n generalizing p tour with
  | zero => exact ⟨[], [], by simp [Poller.ticks], rfl, rfl, by simp, .nil⟩
  | succ n ih =>
    -- the first tick, and the tour up to its end
    let t := (pollAll p.entities tour.entities).run device tour.state
    obtain ⟨outcomes, htour, htells⟩ := run_pollAll device p.entities tour
    obtain ⟨hids, hblock⟩ := about_of_pollAll device hknown tour.state
    have hlength : t.value.2.length = tour.entities.length := by
      simpa using congrArg List.length hids
    -- the others go on from there
    obtain ⟨outcomes', blocks, htour', hpoller, hcount, hblocks, htells'⟩ :=
      ih (p := { p with feed := p.feed.sendAll t.value.1 }) (tour.visitAll device p.entities)
        fun h hh => by rw [htour]; exact lt_of_lt_of_eq (hknown h hh) hlength.symm
    rw [htour] at htour' hpoller hblocks
    rw [hids] at hblocks
    rw [Poller.run_ticks_succ, Poller.run_tick]
    refine ⟨outcomes ++ outcomes', t.value.1 :: blocks, ?_, ?_, by rw [List.length_cons, hcount],
      List.forall_mem_cons.mpr ⟨hblock, hblocks⟩, List.rel_append htells htells'⟩
    · rw [List.replicate_succ, List.flatten_cons, Tour.visitAll_append, htour, htour']
      simp [t]
    · rw [hpoller, List.flatten_cons, Feed.sendAll_append]

/-- Any number of ticks of a poller, from any state of the entities and of the device, against a tour
of its list as often: they leave the entities and the device the same, and ask the same.  They send
one block of updates for each tick, one behind the other; a block has one update for each place in the
list, in its order, about the entity there; and every update tells how the update made directly turned
out, whatever errors and breakdowns there were before it.

All of them have been sent then, and none besides: a receiver that subscribed before the ticks gets each
of them in turn, except for those that it has waited too long for, which it is told the number of. -/
theorem ticks_eq_tour (n : Nat) (p : Poller) (entities : List Entity)
    (hknown : ∀ h ∈ p.entities, h < entities.length) (s : σ) :
    let t := (Poller.ticks n p entities).run device s
    let tour := (Tour.start entities s).visitAll device (List.replicate n p.entities).flatten
    t.value.2 = tour.entities ∧ t.state = tour.state ∧ t.requests = tour.requests ∧
    ∃ blocks : List (List Update),
      t.value.1 = { p with feed := p.feed.sendAll blocks.flatten } ∧ blocks.length = n ∧
      (∀ block ∈ blocks, List.Forall₂ (About (entities.map Entity.uniqueId)) block p.entities) ∧
      List.Forall₂ Tells blocks.flatten tour.outcomes ∧
      t.value.1.feed.sent = p.feed.sent + blocks.flatten.length ∧
      ∀ i u, blocks.flatten[i]? = some u → t.value.1.feed.receive (p.feed.sent + i) =
        if i + Feed.capacity < blocks.flatten.length then
          (.interrupted (.lagged (blocks.flatten.length - Feed.capacity - i)),
            p.feed.sent + (blocks.flatten.length - Feed.capacity))
        else (.item u, p.feed.sent + i + 1) := by
  intro t tour
  obtain ⟨outcomes, blocks, htour, hpoller, hcount, hblocks, htells⟩ :=
    run_ticks device n (Tour.start entities s) hknown
  have htour : tour = ⟨t.value.2, t.state, t.requests, outcomes⟩ := htour
  have hfeed : t.value.1.feed = p.feed.sendAll blocks.flatten := congrArg Poller.feed hpoller
  rw [htour, hfeed]
  exact ⟨rfl, rfl, rfl, blocks, hpoller, hcount, hblocks, htells, p.feed.sent_sendAll _,
    fun i u hu => p.feed.receive_sendAll hu⟩

/-- Two ticks over an entity that breaks down each time, one that works, and the first once more: the
second is up to date all the same, each tick sends three updates, and a receiver of all of them gets as
its fifth the state that the second has in the second tick. -/
theorem ticks_eq_tour_breakdowns :
    let broken : Entity := .rehearsed ⟨"a", "", "", fun _ => .breakdown 7 (some "!"), 0, none⟩
    let sound : Entity := .rehearsed ⟨"b", "", "", fun _ => .power (some .full), 0, none⟩
    let t := (Poller.ticks 2 ⟨[0, 1, 0], 10, .empty, true⟩ [broken, sound]).run
      (fun _ s => (.silence, s)) ()
    t.value.2.map Entity.state = [.ofPower "a" none, .ofPower "b" (some .full)] ∧
      (∃ blocks : List (List Update),
        t.value.1.feed = Feed.empty.sendAll blocks.flatten ∧ blocks.length = 2 ∧
        ∀ block ∈ blocks, block.length = 3) ∧
      t.value.1.feed.sent = 6 ∧
      t.value.1.feed.receive 4 = (.item (.refreshed (.ofPower "b" (some .full))), 5) := by
  intro broken sound t
  obtain ⟨hentities, -, -, blocks, hpoller, hcount, hblocks, htells, hsent, hreceive⟩ :=
    ticks_eq_tour (fun _ s => (.silence, s)) 2 ⟨[0, 1, 0], 10, .empty, true⟩ [broken, sound]
      (by decide) ()
  have hlength : blocks.flatten.length = 6 := htells.length_eq.trans (by decide +kernel)
  have hplace : (4 : Nat) < blocks.flatten.length := by omega
  -- the fifth update tells how the fifth of the updates made directly turned out
  have hfifth : Tells (blocks.flatten.get ⟨4, hplace⟩) ("b", .state (.ofPower "b" (some .full))) :=
    htells.get hplace (by decide)
  have hupdate : blocks.flatten[4]? = some (.refreshed (.ofPower "b" (some .full))) := by
    rw [List.getElem?_eq_getElem hplace]
    exact congrArg some hfifth.eq_refreshed
  refine ⟨(congrArg (List.map Entity.state) hentities).trans (by decide +kernel), ⟨blocks,
    congrArg Poller.feed hpoller, hcount, fun block hblock => (hblocks block hblock).length_eq⟩, ?_, ?_⟩
  · rw [hsent, hlength]
    rfl
  · have hkept : ¬ 4 + Feed.capacity < blocks.flatten.length := by
      rw [hlength]
      decide
    exact (hreceive 4 _ hupdate).trans (if_neg hkept)

end Greenhouse
