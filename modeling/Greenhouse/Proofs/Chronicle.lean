import Greenhouse.Command
import Greenhouse.Proofs.Replies

/-!
# Greenhouse.Proofs.Chronicle

What happens in a home, command after command.

A chronicle holds the home and its device as they are now, and every command so far with its answer
and the replies that came, the latest first.  The device is any function, so that a statement about
all chronicles is one about all devices, well-behaved or broken.
-/

namespace Greenhouse

open Dialogue

namespace House

/-- The device that setting up an entry gives. -/
def applianceOf (entry : Entry) (h : House) : Appliance :=
  ⟨entry.id, entry.data.host, h.entities.length, h.entities.length + 1, h.entities.length + 2⟩

/-- The house in which an entry has been set up with its adapters. -/
def withFittings (entry : Entry) (f : Fittings) (h : House) : House :=
  { h with
    registry := h.registry.insert (h.applianceOf entry)
    entities := h.entities ++ f.toList.map .adapter }

/-- Setting up an entry that there are no adapters for gives the error and changes nothing. -/
theorem value?_setUp_of_error {provided : Except String Unit} {entry : Entry} {h : House} {e : Error}
    (he : h.registry.fittings? provided entry = .error e) :
    (h.setUp provided entry).value? = some (.error e, h) := by
  rw [setUp, he]
  rfl

/-- Setting up an entry that there are adapters for makes a device of them. -/
theorem value?_setUp_of_ok {provided : Except String Unit} {entry : Entry} {h : House} {f : Fittings}
    (hf : h.registry.fittings? provided entry = .ok f) :
    (h.setUp provided entry).value? = some (.ok (h.applianceOf entry), h.withFittings entry f) := by
  rw [setUp, hf, value?_bind, value?_tellAll]
  rfl

variable {σ : Type} (device : Device σ)

/-- A call changes entities only. -/
theorem frame_call (handle : Handle) (c : Adapter.Call) (h : House) (s : σ) :
    ((h.call handle c).run device s).value.2.registry = h.registry ∧
      ((h.call handle c).run device s).value.2.enrolment = h.enrolment := by
  unfold call
  split
  · exact ⟨rfl, rfl⟩
  · rw [run_bind]
    exact ⟨rfl, rfl⟩

end House

/-! ## commands that ask nothing -/

namespace Command

/-- A submission is answered with what the flow makes of it, and only the flow changes. -/
theorem value?_submit (id : EntryId) (input : Option UserInput) (h : House) :
    ((submit id input).perform h).value? =
      some (.stepped (h.enrolment.step id input).1,
        { h with enrolment := (h.enrolment.step id input).2 }) := by
  rw [perform, House.submit, value?_bind, value?_bind, value?_tellAll]
  rfl

/-- A removal is answered with whether its host was configured. -/
theorem value?_forget (entry : Entry) (h : House) :
    ((forget entry).perform h).value? =
      some (.forgotten (h.enrolment.isConfigured entry.uniqueId),
        { h with enrolment := h.enrolment.forget entry.uniqueId }) := rfl

/-- A set-up that there are no adapters for is answered with the error. -/
theorem value?_setUp_of_error {provided : Except String Unit} {entry : Entry} {h : House} {e : Error}
    (he : h.registry.fittings? provided entry = .error e) :
    ((setUp provided entry).perform h).value? = some (.setUp (.error e), h) := by
  rw [perform, value?_bind, House.value?_setUp_of_error he]
  rfl

/-- A set-up that there are adapters for is answered with the device. -/
theorem value?_setUp_of_ok {provided : Except String Unit} {entry : Entry} {h : House} {f : Fittings}
    (hf : h.registry.fittings? provided entry = .ok f) :
    ((setUp provided entry).perform h).value? =
      some (.setUp (.ok (h.applianceOf entry)), h.withFittings entry f) := by
  rw [perform, value?_bind, House.value?_setUp_of_ok hf]
  rfl

/-- There is nothing to unload under an identifier that is unknown. -/
theorem value?_unload_of_none {id : EntryId} {h : House} (hd : h.registry.find? id = none) :
    ((unload id).perform h).value? = some (.unloaded false, h) := by
  rw [perform, House.unload, hd]
  rfl

/-- To unload a device takes it out, and leaves its entities. -/
theorem value?_unload_of_some {id : EntryId} {h : House} {d : Appliance}
    (hd : h.registry.find? id = some d) :
    ((unload id).perform h).value? =
      some (.unloaded true, { h with registry := h.registry.erase id }) := by
  rw [perform, House.unload, hd]
  rfl

/-- An adapter that is attached comes behind all entities, with nothing remembered. -/
theorem value?_attach (kind : Adapter.Kind) (channel : Channel) (h : House) :
    ((attach kind channel).perform h).value? =
      some (.attached h.entities.length,
        { h with entities := h.entities ++ [.adapter (.new kind channel)] }) := rfl

end Command

/-! ## chronicles -/

/-- A command that was carried out. -/
structure Episode where
  command : Command
  answer : Command.Answer
  /-- The replies of the device, the first one first. -/
  replies : List Reply

/-- A home, its device, and what has happened, the latest first. -/
structure Chronicle (σ : Type) where
  house : House
  device : σ
  episodes : List Episode

namespace Chronicle

variable {σ : Type} (device : Device σ)

/-- Nothing has happened yet. -/
def start (s : σ) : Chronicle σ := ⟨.empty, s, []⟩

/-- How it goes to carry out a command next. -/
def episode (ch : Chronicle σ) (c : Command) : Episode :=
  let dialogue := c.perform ch.house
  ⟨c, (dialogue.run device ch.device).value.1, dialogue.replies device ch.device⟩

/-- Goes on with a command. -/
def proceed (ch : Chronicle σ) (c : Command) : Chronicle σ :=
  let t := (c.perform ch.house).run device ch.device
  ⟨t.value.2, t.state, ch.episode device c :: ch.episodes⟩

/-- How it goes to carry out a command that asks nothing. -/
theorem proceed_of_value? {ch : Chronicle σ} {c : Command} {answer : Command.Answer} {h : House}
    (hv : (c.perform ch.house).value? = some (answer, h)) :
    ch.episode device c = ⟨c, answer, []⟩ ∧
      ch.proceed device c = ⟨h, ch.device, ⟨c, answer, []⟩ :: ch.episodes⟩ := by
  obtain ⟨hvalue, -, hstate⟩ := run_of_value? device hv ch.device
  have hepisode : ch.episode device c = ⟨c, answer, []⟩ := by
    rw [episode, hvalue, replies_eq_nil device hv]
  refine ⟨hepisode, ?_⟩
  rw [proceed, hvalue, hstate, hepisode]

/-! ## what a command does to the registry and the enrolment -/

/-- A call leaves the house as its dialogue with the device does. -/
theorem house_proceed_call (ch : Chronicle σ) (handle : Handle) (c : Adapter.Call) :
    (ch.proceed device (.call handle c)).house =
      ((ch.house.call handle c).run device ch.device).value.2 := by
  rw [proceed, Command.perform, run_bind]
  rfl

/-- Devices are added by a set-up that succeeds and taken out by an unload, and by nothing else. -/
theorem registry_proceed (ch : Chronicle σ) (c : Command) :
    (ch.proceed device c).house.registry =
      match c with
      | .setUp provided entry =>
        match ch.house.registry.fittings? provided entry with
        | .ok _ => ch.house.registry.insert (ch.house.applianceOf entry)
        | .error _ => ch.house.registry
      | .unload id => ch.house.registry.erase id
      | _ => ch.house.registry := by
  cases c with
  | submit id input => rw [(proceed_of_value? device (Command.value?_submit id input _)).2]
  | forget entry => rw [(proceed_of_value? device (Command.value?_forget entry _)).2]
  | setUp provided entry =>
    dsimp only
    cases hf : ch.house.registry.fittings? provided entry with
    | error e => rw [(proceed_of_value? device (Command.value?_setUp_of_error hf)).2]
    | ok f =>
      rw [(proceed_of_value? device (Command.value?_setUp_of_ok hf)).2]
      rfl
  | unload id =>
    dsimp only
    cases hd : ch.house.registry.find? id with
    | none =>
      rw [(proceed_of_value? device (Command.value?_unload_of_none hd)).2,
        Registry.erase_of_find?_eq_none hd]
    | some d => rw [(proceed_of_value? device (Command.value?_unload_of_some hd)).2]
  | attach kind channel => rw [(proceed_of_value? device (Command.value?_attach kind channel _)).2]
  | call handle c =>
    rw [house_proceed_call]
    exact (House.frame_call device handle c ch.house ch.device).1

/-- Only submissions and removals concern the flow. -/
theorem enrolment_proceed (ch : Chronicle σ) (c : Command) :
    (ch.proceed device c).house.enrolment =
      match c with
      | .submit id input => (ch.house.enrolment.step id input).2
      | .forget entry => ch.house.enrolment.forget entry.uniqueId
      | _ => ch.house.enrolment := by
  cases c with
  | submit id input => rw [(proceed_of_value? device (Command.value?_submit id input _)).2]
  | forget entry => rw [(proceed_of_value? device (Command.value?_forget entry _)).2]
  | setUp provided entry =>
    cases hf : ch.house.registry.fittings? provided entry with
    | error e => rw [(proceed_of_value? device (Command.value?_setUp_of_error hf)).2]
    | ok f =>
      rw [(proceed_of_value? device (Command.value?_setUp_of_ok hf)).2]
      rfl
  | unload id =>
    cases hd : ch.house.registry.find? id with
    | none => rw [(proceed_of_value? device (Command.value?_unload_of_none hd)).2]
    | some d => rw [(proceed_of_value? device (Command.value?_unload_of_some hd)).2]
  | attach kind channel => rw [(proceed_of_value? device (Command.value?_attach kind channel _)).2]
  | call handle c =>
    rw [house_proceed_call]
    exact (House.frame_call device handle c ch.house ch.device).2

/-! ## chronicles of commands -/

/-- The chronicle of some commands. -/
def ofCommands (s : σ) (commands : List Command) : Chronicle σ :=
  commands.foldl (proceed device) (start s)

/-- What every command keeps is kept by any number of them. -/
theorem foldl_invariant {P : Chronicle σ → Prop} {ch : Chronicle σ} (h : P ch)
    (hproceed : ∀ ch c, P ch → P (ch.proceed device c)) (commands : List Command) :
    P (commands.foldl (proceed device) ch) := by
  induction commands generalizing ch with
  | nil => exact h
  | cons c commands ih => exact ih (hproceed ch c h)

/-- What holds at the start and is kept by every command holds in every chronicle. -/
theorem ofCommands_invariant {P : Chronicle σ → Prop} {s : σ} (hstart : P (start s))
    (hproceed : ∀ ch c, P ch → P (ch.proceed device c)) (commands : List Command) :
    P (ofCommands device s commands) :=
  foldl_invariant device hstart hproceed commands

end Chronicle

end Greenhouse
