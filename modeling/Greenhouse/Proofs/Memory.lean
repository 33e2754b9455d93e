import Greenhouse.Proofs.Calls
import Greenhouse.Proofs.Chronicle

/-!
# Greenhouse.Proofs.Memory

What adapters remember, over whole chronicles.

An adapter remembers the level that the last reply to its own last successful call gave, whatever was
asked for and whatever happened to other adapters or to its device's entry.  The induction is on the
commands; one command changes the entities in one of few ways (`Changed`), and each of them keeps
what is to be remembered (`faithful_proceed`).

* `last_eq_acknowledged` — the memory of every adapter in every chronicle, and how readers and the
  next command deal with it.
-/

namespace Greenhouse

open Dialogue

/-! ## calls in a house -/

namespace House

variable {h : House} {handle : Handle} {c : Adapter.Call}

/-- A call that no entity takes changes nothing. -/
theorem call_of_none (he : h.entities[handle]?.bind (·.call? c) = none) :
    h.call handle c = done (none, h) := by
  rw [call, he]

/-- A call that an adapter knows changes that adapter alone. -/
theorem call_of_adapter {a : Adapter} (he : h.entities[handle]? = some (.adapter a))
    (hk : a.kind.knows c) :
    h.call handle c = a.call c >>= fun r => done (some r.1, h.put handle (.adapter r.2)) := by
  rw [call, he, Option.bind_some, Entity.call?, if_pos hk]
  exact bind_assoc ..

end House

/-! ## what a command does to the entities -/

/-- The level that the last reply of an episode gives. -/
def Episode.level? (e : Episode) : Option Power := e.replies.getLast?.bind Reply.level?

/-- How a command can change the entities. -/
inductive Changed (before : List Entity) (e : Episode) (after : List Entity) : Prop where
  /-- It was no call; it has made some adapters, or none. -/
  | grown (fresh : List Adapter) (hcommand : ∀ handle c, e.command ≠ .call handle c)
      (hfresh : ∀ a ∈ fresh, a.last = none) (hafter : after = before ++ fresh.map .adapter)
  /-- It was a call that nothing made. -/
  | unheard (handle : Handle) (c : Adapter.Call) (hcommand : e.command = .call handle c)
      (hanswer : e.answer = .called none) (hafter : after = before)
  /-- It was a call that an adapter made. -/
  | called (handle : Handle) (c : Adapter.Call) (a : Adapter) (r : Except Error Power)
      (hcommand : e.command = .call handle c) (hbefore : before[handle]? = some (.adapter a))
      (hanswer : e.answer = .called (some (r.map (a.answer c))))
      (hlevel : ∀ p, r = .ok p → e.level? = some p)
      (hafter : after = before.set handle (.adapter (a.keep r)))
  /-- It was a call that a rehearsed entity made. -/
  | rehearsed (handle : Handle) (c : Adapter.Call) (r r' : Rehearsed)
      (hcommand : e.command = .call handle c) (hbefore : before[handle]? = some (.rehearsed r))
      (hafter : after = before.set handle (.rehearsed r'))

variable {σ : Type} (device : Device σ)

/-- A call that an adapter makes. -/
theorem changed_adapter_call {ch : Chronicle σ} {handle : Handle} {c : Adapter.Call} {a : Adapter}
    (he : ch.house.entities[handle]? = some (.adapter a)) (hk : a.kind.knows c) :
    Changed ch.house.entities (ch.episode device (.call handle c))
      (ch.proceed device (.call handle c)).house.entities := by
  have hperform : (Command.call handle c).perform ch.house =
      a.call c >>= fun r => done (.called (some r.1), ch.house.put handle (.adapter r.2)) := by
    rw [Command.perform, House.call_of_adapter he hk, bind_assoc]
    rfl
  cases hx : a.exchange c with
  | error e =>
    have hv : ((Command.call handle c).perform ch.house).value? =
        some (.called (some (.error e)), ch.house.put handle (.adapter a)) := by
      rw [hperform, Adapter.call_of_refusal hx]
      rfl
    obtain ⟨hepisode, hproceed⟩ := Chronicle.proceed_of_value? device hv
    rw [hepisode, hproceed]
    exact .called handle c a (.error e) rfl he rfl (fun p h => by cases h) rfl
  | ok d =>
    let t := d.run device ch.device
    have hanswer : (ch.episode device (.call handle c)).answer =
        .called (some (t.value.map (a.answer c))) := by
      simp [Chronicle.episode, hperform, Adapter.call_of_exchange hx, run_bind, t]
    have hreplies : (ch.episode device (.call handle c)).replies = d.replies device ch.device := by
      simp [Chronicle.episode, hperform, Adapter.call_of_exchange hx, replies_bind, replies]
    have hentities : (ch.proceed device (.call handle c)).house.entities =
        ch.house.entities.set handle (.adapter (a.keep t.value)) := by
      simp [Chronicle.proceed, hperform, Adapter.call_of_exchange hx, run_bind, House.put, t]
    refine .called handle c a t.value rfl he hanswer (fun p hp => ?_) hentities
    have houtcome := outcome?_replies device d ch.device
    rw [show (d.run device ch.device).value = .ok p from hp] at houtcome
    rw [Episode.level?, hreplies]
    exact Adapter.level?_of_exchange hx houtcome

/-- A call changes the entities in one of these ways, whoever it is made of. -/
theorem changed_call (ch : Chronicle σ) (handle : Handle) (c : Adapter.Call) :
    Changed ch.house.entities (ch.episode device (.call handle c))
      (ch.proceed device (.call handle c)).house.entities := by
  -- a call that nothing makes
  have unheard : ch.house.entities[handle]?.bind (·.call? c) = none →
      Changed ch.house.entities (ch.episode device (.call handle c))
        (ch.proceed device (.call handle c)).house.entities := by
    intro he
    have hv : ((Command.call handle c).perform ch.house).value? =
        some (.called none, ch.house) := by
      rw [Command.perform, House.call_of_none he]
      rfl
    obtain ⟨hepisode, hproceed⟩ := Chronicle.proceed_of_value? device hv
    rw [hepisode, hproceed]
    exact .unheard handle c rfl rfl rfl
  cases he : ch.house.entities[handle]? with
  | none => exact unheard (by rw [he]; rfl)
  | some e =>
    cases e with
    | adapter a =>
      by_cases hk : a.kind.knows c
      · exact changed_adapter_call device he hk
      · exact unheard (by rw [he, Option.bind_some, Entity.call?, if_neg hk])
    | rehearsed r =>
      cases c with
      | update =>
        have hv : ((Command.call handle .update).perform ch.house).value? =
            some (.called (some (r.update.1.guarded.map some)),
              ch.house.put handle (.rehearsed r.update.2)) := by
          rw [Command.perform, House.call, he]
          rfl
        obtain ⟨hepisode, hproceed⟩ := Chronicle.proceed_of_value? device hv
        rw [hepisode, hproceed]
        exact .rehearsed handle .update r r.update.2 rfl he rfl
      | _ => exact unheard (by rw [he]; rfl)

/-- What a command can do to the entities. -/
theorem changed_proceed (ch : Chronicle σ) (c : Command) :
    Changed ch.house.entities (ch.episode device c) (ch.proceed device c).house.entities := by
  -- a command that is no call asks nothing, so its answer and house can be told at once
  have grown : ∀ {answer : Command.Answer} {h : House} (fresh : List Adapter),
      (∀ handle call, c ≠ .call handle call) → (∀ a ∈ fresh, a.last = none) →
      (c.perform ch.house).value? = some (answer, h) →
      h.entities = ch.house.entities ++ fresh.map .adapter →
      Changed ch.house.entities (ch.episode device c) (ch.proceed device c).house.entities := by
    intro answer h fresh hc hfresh hv hh
    obtain ⟨hepisode, hproceed⟩ := Chronicle.proceed_of_value? device hv
    rw [hepisode, hproceed]
    exact .grown fresh hc hfresh hh
  cases c with
  | submit id input =>
    exact grown [] (by simp) (by simp) (Command.value?_submit id input ch.house) (by simp)
  | forget entry =>
    exact grown [] (by simp) (by simp) (Command.value?_forget entry ch.house) (by simp)
  | setUp provided entry =>
    cases hf : ch.house.registry.fittings? provided entry with
    | error e => exact grown [] (by simp) (by simp) (Command.value?_setUp_of_error hf) (by simp)
    | ok f =>
      obtain ⟨-, -, light, pump, -, -, rfl⟩ := Registry.fittings?_eq_ok_iff.mp hf
      refine grown _ (by simp) ?_ (Command.value?_setUp_of_ok hf) rfl
      simp [Fittings.toList, Adapter.new]
  | unload id =>
    cases hd : ch.house.registry.find? id with
    | none => exact grown [] (by simp) (by simp) (Command.value?_unload_of_none hd) (by simp)
    | some d => exact grown [] (by simp) (by simp) (Command.value?_unload_of_some hd) (by simp)
  | attach kind channel =>
    exact grown [.new kind channel] (by simp) (by simp [Adapter.new])
      (Command.value?_attach kind channel ch.house) rfl
  | call handle call => exact changed_call device ch handle call

/-! ## what is to be remembered -/

/-- Whether an episode is a successful call of the entity at a handle. -/
def Episode.succeeds (handle : Handle) (e : Episode) : Bool :=
  match e.command, e.answer with
  | .call h _, .called (some (.ok _)) => h == handle
  | _, _ => false

/-- The last successful call of the entity at a handle. -/
def Chronicle.lastSuccess? (ch : Chronicle σ) (handle : Handle) : Option Episode :=
  ch.episodes.find? (·.succeeds handle)

/-- Whether an adapter remembers what its last successful call, if there was one, was answered. -/
def Adapter.Remembers (a : Adapter) : Option Episode → Prop
  | none => a.last = none
  | some e => ∃ p, e.level? = some p ∧ a.last = some p

/-- All adapters remember what they must, and only entities that exist have made calls. -/
structure Chronicle.Faithful (ch : Chronicle σ) : Prop where
  remembers : ∀ (handle : Handle) (a : Adapter),
    ch.house.entities[handle]? = some (.adapter a) → a.Remembers (ch.lastSuccess? handle)
  exists_of_success : ∀ handle : Handle, ch.house.entities.length ≤ handle →
    ch.lastSuccess? handle = none

/-- At the start no adapter has anything to remember. -/
theorem Chronicle.faithful_start (s : σ) : (start s).Faithful where
  remembers handle a h := by simp [start, House.empty] at h
  exists_of_success _ _ := rfl

/-- Nothing but a call succeeds for an adapter. -/
theorem Episode.succeeds_of_not_call {e : Episode} (h : ∀ handle c, e.command ≠ .call handle c)
    (handle : Handle) : e.succeeds handle = false := by
  unfold succeeds
  split
  · next hc _ => exact absurd hc (h _ _)
  · rfl

/-- A call succeeds for no other adapter. -/
theorem Episode.succeeds_of_ne {e : Episode} {handle handle' : Handle} {c : Adapter.Call}
    (hc : e.command = .call handle c) (hne : handle ≠ handle') : e.succeeds handle' = false := by
  unfold succeeds
  split
  · next hc' _ =>
    rw [hc] at hc'
    cases hc'
    simpa using hne
  · rfl

/-- A call that fails does not succeed. -/
theorem Episode.succeeds_of_error {e : Episode} {error : Error}
    (ha : e.answer = .called (some (.error error))) (handle : Handle) :
    e.succeeds handle = false := by
  unfold succeeds
  split
  · next ha' => rw [ha] at ha'; cases ha'
  · rfl

/-- A call that gives a result succeeds. -/
theorem Episode.succeeds_of_ok {e : Episode} {handle : Handle} {c : Adapter.Call}
    {value : Option EntityState} (hc : e.command = .call handle c)
    (ha : e.answer = .called (some (.ok value))) : e.succeeds handle = true := by
  simp [succeeds, hc, ha]

/-- The last success is the latest episode if that is one, and else as before. -/
theorem Chronicle.lastSuccess?_proceed (ch : Chronicle σ) (c : Command) (handle : Handle) :
    (ch.proceed device c).lastSuccess? handle =
      if (ch.episode device c).succeeds handle then some (ch.episode device c)
      else ch.lastSuccess? handle := by
  rw [lastSuccess?, proceed, List.find?_cons]
  cases (ch.episode device c).succeeds handle <;> rfl

/-- A call of one entity bears on what that entity is to remember, and on nothing else. -/
theorem faithful_of_set {ch : Chronicle σ} (h : ch.Faithful) {handle : Handle}
    {call : Adapter.Call} {x : Entity} (hhandle : handle < ch.house.entities.length)
    (hafter : (ch.proceed device (.call handle call)).house.entities =
      ch.house.entities.set handle x)
    (hself : ∀ a, x = .adapter a →
      a.Remembers ((ch.proceed device (.call handle call)).lastSuccess? handle)) :
    (ch.proceed device (.call handle call)).Faithful := by
  have hother : ∀ handle', handle ≠ handle' →
      (ch.proceed device (.call handle call)).lastSuccess? handle' = ch.lastSuccess? handle' := by
    intro handle' hne
    rw [ch.lastSuccess?_proceed, Episode.succeeds_of_ne rfl hne, if_neg (by simp)]
  refine ⟨fun handle' a ha => ?_, fun handle' hlen => ?_⟩
  · rw [hafter] at ha
    by_cases heq : handle = handle'
    · subst heq
      rw [List.getElem?_set_self hhandle] at ha
      exact hself a (Option.some.inj ha)
    · rw [List.getElem?_set_ne heq] at ha
      rw [hother handle' heq]
      exact h.remembers handle' a ha
  · rw [hafter, List.length_set] at hlen
    rw [hother handle' (Nat.ne_of_lt (Nat.lt_of_lt_of_le hhandle hlen))]
    exact h.exists_of_success handle' hlen

/-- One command keeps what is to be remembered. -/
theorem faithful_proceed (ch : Chronicle σ) (c : Command) (h : ch.Faithful) :
    (ch.proceed device c).Faithful := by
  have hlast := ch.lastSuccess?_proceed device c
  -- where no call succeeded and no entity changed, nothing new is to be remembered
  have unchanged : (∀ handle, (ch.episode device c).succeeds handle = false) →
      (ch.proceed device c).house.entities = ch.house.entities →
      (ch.proceed device c).Faithful := by
    intro hfail heq
    refine ⟨fun handle a ha => ?_, fun handle hlen => ?_⟩
    · rw [hlast, hfail, if_neg (by simp)]
      exact h.remembers handle a (heq ▸ ha)
    · rw [hlast, hfail, if_neg (by simp)]
      exact h.exists_of_success handle (heq ▸ hlen)
  cases changed_proceed device ch c with
  | grown fresh hcommand hfresh hafter =>
    have hlast : ∀ handle, (ch.proceed device c).lastSuccess? handle = ch.lastSuccess? handle :=
      fun handle => by simp [hlast, Episode.succeeds_of_not_call hcommand]
    refine ⟨fun handle a ha => ?_, fun handle hlen => ?_⟩
    · rw [hlast]
      rw [hafter, List.getElem?_append] at ha
      split at ha
      · exact h.remembers handle a ha
      · -- a new adapter has no successful call behind it
        rw [h.exists_of_success handle (by omega)]
        obtain ⟨b, hb, hba⟩ := List.mem_map.mp (List.mem_of_getElem? ha)
        cases hba
        exact hfresh a hb
    · rw [hlast]
      rw [hafter, List.length_append] at hlen
      exact h.exists_of_success handle (by omega)
  | unheard handle call hcommand hanswer hafter =>
    refine unchanged (fun handle' => ?_) hafter
    simp [Episode.succeeds, hcommand, hanswer]
  | called handle call a r hcommand hbefore hanswer hlevel hafter =>
    obtain ⟨hhandle, hget⟩ := List.getElem?_eq_some_iff.mp hbefore
    cases r with
    | error e =>
      refine unchanged (Episode.succeeds_of_error hanswer) ?_
      rw [hafter, Adapter.keep, ← hget, List.set_getElem_self]
    | ok p =>
      have hsuccess := Episode.succeeds_of_ok hcommand hanswer
      cases hcommand
      refine faithful_of_set device h hhandle hafter fun b hb => ?_
      cases hb
      rw [hlast, hsuccess, if_pos rfl]
      exact ⟨p, hlevel p rfl, rfl⟩
  | rehearsed handle call r r' hcommand hbefore hafter =>
    cases hcommand
    exact faithful_of_set device h (List.getElem?_eq_some_iff.mp hbefore).1 hafter
      fun b hb => by cases hb

/-- Every chronicle is faithful. -/
theorem faithful_ofCommands (s : σ) (commands : List Command) :
    (Chronicle.ofCommands device s commands).Faithful :=
  Chronicle.ofCommands_invariant device (Chronicle.faithful_start s)
    (fun ch c h => faithful_proceed device ch c h) commands

/-! ## readers and the next command -/

/-- A reader shows a brightness within its bounds. -/
theorem Adapter.toNat_brightness (a : Adapter) :
    a.brightness.map UInt8.toNat = a.last.map fun p => (max 0 (min p.toInt 255)).toNat := by
  rw [Adapter.brightness, Option.map_map]
  refine congrArg (Option.map · a.last) (funext fun p => ?_)
  rw [Function.comp_apply, Power.toNat_clamped]
  omega

/-- What the next command does to an adapter: only a successful call of its own changes it. -/
theorem next_of_adapter (ch : Chronicle σ) (c : Command) {handle : Handle} {a : Adapter}
    (ha : ch.house.entities[handle]? = some (.adapter a)) :
    ∃ a', (ch.proceed device c).house.entities[handle]? = some (.adapter a') ∧
      a'.kind = a.kind ∧ a'.channel = a.channel ∧
      ((∀ call, c ≠ .call handle call) → a' = a) ∧
      ∀ call result, c = .call handle call →
        (ch.episode device c).answer = .called (some result) →
          match result with
          | .error _ => (ch.proceed device c).house.entities = ch.house.entities
          | .ok shown => ∃ p, (ch.episode device c).level? = some p ∧ a'.last = some p ∧
              (call = .update → shown = some a'.state) := by
  cases changed_proceed device ch c with
  | grown fresh hcommand _ hafter =>
    refine ⟨a, ?_, rfl, rfl, fun _ => rfl, fun call _ hc => absurd hc (hcommand handle call)⟩
    rw [hafter, List.getElem?_append_left (List.getElem?_eq_some_iff.mp ha).1, ha]
  | unheard handle' call hcommand hanswer hafter =>
    refine ⟨a, by rw [hafter, ha], rfl, rfl, fun _ => rfl, fun call' result _ hr => ?_⟩
    rw [hanswer] at hr
    cases hr
  | called handle' call b r hcommand hbefore hanswer hlevel hafter =>
    obtain ⟨hhandle, hget⟩ := List.getElem?_eq_some_iff.mp hbefore
    cases hcommand
    by_cases heq : handle' = handle
    · subst heq
      rw [ha] at hbefore
      cases hbefore
      refine ⟨a.keep r, ?_, by cases r <;> rfl, by cases r <;> rfl,
        fun hc => absurd rfl (hc call), fun call' result hc hr => ?_⟩
      · rw [hafter, List.getElem?_set_self hhandle]
      · cases hc
        rw [hanswer] at hr
        cases hr
        cases r with
        | error e => exact hafter.trans (by rw [Adapter.keep, ← hget, List.set_getElem_self])
        | ok p => exact ⟨p, hlevel p rfl, rfl, fun hc => by cases hc; rfl⟩
    · refine ⟨a, ?_, rfl, rfl, fun _ => rfl, fun call' _ hc => ?_⟩
      · rw [hafter, List.getElem?_set_ne heq, ha]
      · cases hc
        exact absurd rfl heq
  | rehearsed handle' call r r' hcommand hbefore hafter =>
    cases hcommand
    by_cases heq : handle' = handle
    · subst heq
      rw [ha] at hbefore
      cases hbefore
    · refine ⟨a, ?_, rfl, rfl, fun _ => rfl, fun call' _ hc => ?_⟩
      · rw [hafter, List.getElem?_set_ne heq, ha]
      · cases hc
        exact absurd rfl heq

/-- In every chronicle, whatever the device does, an adapter remembers the level that the last reply
to its own last successful call gave, or none if no call of it has succeeded.  Its readers show just
that.  The next command changes it only if it is a successful call of that very adapter, which then
remembers the level acknowledged; a refresh gives the state that it leaves, and a call that ends in an
error changes no entity at all. -/
theorem last_eq_acknowledged (s : σ) (commands : List Command) (handle : Handle) (a : Adapter)
    (ha : (Chronicle.ofCommands device s commands).house.entities[handle]? = some (.adapter a)) :
    let ch := Chronicle.ofCommands device s commands
    (match ch.episodes.find? (·.succeeds handle) with
      | none => a.last = none
      | some e => ∃ p, e.replies.getLast?.bind Reply.level? = some p ∧ a.last = some p) ∧
    a.state = ⟨a.uniqueId, a.last, a.last.map fun p => p.toInt ≠ 0⟩ ∧
    a.isOn = a.state.isOn ∧
    a.brightness.map UInt8.toNat = a.last.map (fun p => (max 0 (min p.toInt 255)).toNat) ∧
    a.value = a.last.map Double.ofPower ∧
    ∀ c, ∃ a', (ch.proceed device c).house.entities[handle]? = some (.adapter a') ∧
      a'.kind = a.kind ∧ a'.channel = a.channel ∧
      ((∀ call, c ≠ .call handle call) → a' = a) ∧
      ∀ call result, c = .call handle call →
        (ch.episode device c).answer = .called (some result) →
          match result with
          | .error _ => (ch.proceed device c).house.entities = ch.house.entities
          | .ok shown =>
            ∃ p, (ch.episode device c).replies.getLast?.bind Reply.level? = some p ∧
              a'.last = some p ∧ (call = .update → shown = some a'.state) := by
  intro ch
  refine ⟨?_, ?_, ?_, a.toNat_brightness, rfl, fun c => next_of_adapter device ch c ha⟩
  · have hremembers := (faithful_ofCommands device s commands).remembers handle a ha
    rw [Chronicle.lastSuccess?] at hremembers
    split
    · next hfind => rwa [hfind] at hremembers
    · next e hfind => rwa [hfind] at hremembers
  · rw [Adapter.state, EntityState.ofPower]
    congr 2
    funext p
    by_cases hp : p.toInt = 0 <;> simp [Power.isOn, hp]
  · rfl

/-- A device that gives a level once, then nonsense, and then nothing more. -/
def failingDevice : Device Nat := fun _ n =>
  (match n with
    | 0 => .answer ⟨200, "OK", none, [0x38], true⟩
    | 1 => .answer ⟨200, "OK", none, [0x78], true⟩
    | _ => .silence, n + 1)

/-- Two lights on one channel: the first is set to 90, and the device makes it 8; a refresh of the
second is answered with nonsense, and the first is turned off in vain. -/
theorem last_eq_acknowledged_two_lights :
    let commands : List Command := [.attach .light .sample, .attach .light .sample,
      .call 0 (.turnOn (some 90)), .call 1 .update, .call 0 .turnOff]
    let ch := Chronicle.ofCommands failingDevice 0 commands
    ch.house.entities[0]? = some (.adapter ⟨.light, .sample, some ⟨8, by decide, by decide⟩⟩) ∧
      ∃ e p, ch.episodes.find? (·.succeeds 0) = some e ∧
        e.replies.getLast?.bind Reply.level? = some p ∧ p.toInt = 8 := by
  intro commands ch
  have ha : ch.house.entities[0]? =
      some (.adapter ⟨.light, .sample, some ⟨8, by decide, by decide⟩⟩) := by
    have hadapter : ch.house.entities[0]?.bind Entity.adapter? =
        some ⟨.light, .sample, some ⟨8, by decide, by decide⟩⟩ := by decide +kernel
    obtain ⟨e, he, ha⟩ := Option.bind_eq_some_iff.mp hadapter
    rw [he, Entity.adapter?_eq_some_iff.mp ha]
  refine ⟨ha, ?_⟩
  have h := (last_eq_acknowledged failingDevice 0 commands 0 _ ha).1
  split at h
  · cases h
  · next e he =>
    obtain ⟨p, hlevel, hp⟩ := h
    cases hp
    exact ⟨e, _, he, hlevel, rfl⟩

end Greenhouse
