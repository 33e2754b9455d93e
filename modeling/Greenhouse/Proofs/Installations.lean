import Greenhouse.Proofs.Keys

/-!
# Greenhouse.Proofs.Installations

Which devices are set up, told from what has happened.

The registry is a list in the order of identifiers, and keeps no record of how its devices got there.
The record is the chronicle: a device that is set up is the one that an episode answered with, since
when its entry was not unloaded.

* `Registry.IsAscending` — the devices are in order, so each can be found and none is there twice.
* `Chronicle.Stands` — an entry was set up as a device, and not unloaded since.
* `devices_of_run` — the devices in every chronicle, and what the next command does to them.
-/

namespace Greenhouse

open Dialogue

/-! ## the order of the devices -/

namespace EntryId

/-- Identifiers are ordered as numbers. -/
theorem lt_iff {a b : EntryId} : lt a b ↔ a.bits.toNat < b.bits.toNat := by
  rw [lt, decide_eq_true_eq, BitVec.lt_def]

/-- What comes before an earlier identifier comes before a later one. -/
theorem lt_trans {a b c : EntryId} (hab : lt a b) (hbc : lt b c) : lt a c := by
  rw [lt_iff] at *
  omega

/-- Of two different identifiers, one comes first. -/
theorem lt_of_not_lt {a b : EntryId} (hne : a ≠ b) (h : ¬ lt a b) : lt b a := by
  rw [lt_iff] at *
  have hbits : a.bits.toNat ≠ b.bits.toNat := by
    intro heq
    refine hne ?_
    cases a
    cases b
    exact congrArg mk (BitVec.eq_of_toNat_eq heq)
  omega

/-- Nothing comes before itself. -/
theorem ne_of_lt {a b : EntryId} (h : lt a b) : a ≠ b := by
  rw [lt_iff] at h
  rintro rfl
  exact absurd h (Nat.lt_irrefl _)

end EntryId

namespace Registry

variable {r : Registry}

/-- The devices are in ascending order of their identifiers. -/
def IsAscending (r : Registry) : Prop := r.devices.Pairwise fun d e => EntryId.lt d.id e.id

/-- No devices are in order. -/
theorem isAscending_empty : empty.IsAscending := .nil

/-- A device under a new identifier is put where the order wants it. -/
theorem pairwise_insertInto {d : Appliance} {ds : List Appliance}
    (h : ds.Pairwise fun d e => EntryId.lt d.id e.id) (hfree : ∀ e ∈ ds, e.id ≠ d.id) :
    (insertInto d ds).Pairwise fun d e => EntryId.lt d.id e.id := by
  induction ds with
  | nil => simp [insertInto]
  | cons e es ih =>
    obtain ⟨he, hes⟩ := List.pairwise_cons.mp h
    obtain ⟨hne, hfree⟩ := List.forall_mem_cons.mp hfree
    unfold insertInto
    split
    · next hlt =>
      refine List.pairwise_cons.mpr ⟨List.forall_mem_cons.mpr ⟨hlt, fun x hx => ?_⟩, h⟩
      exact EntryId.lt_trans hlt (he x hx)
    · next hnot =>
      refine List.pairwise_cons.mpr ⟨fun x hx => ?_, ih hes hfree⟩
      obtain rfl | hx := mem_insertInto.mp hx
      · exact EntryId.lt_of_not_lt hne.symm hnot
      · exact he x hx

/-- Adding a device that is not there yet keeps the order. -/
theorem IsAscending.insert (h : r.IsAscending) {d : Appliance} (hfree : r.find? d.id = none) :
    (r.insert d).IsAscending :=
  pairwise_insertInto h (find?_eq_none_iff.mp hfree)

/-- To take devices out leaves the others in order. -/
theorem IsAscending.erase (h : r.IsAscending) (id : EntryId) : (r.erase id).IsAscending :=
  h.filter _

/-- A device that is put in is found under its identifier, and the others as before. -/
theorem find?_insertInto {d : Appliance} {ds : List Appliance} (hfree : ∀ e ∈ ds, e.id ≠ d.id)
    (id : EntryId) : (insertInto d ds).find? (·.id = id) =
      if id = d.id then some d else ds.find? (·.id = id) := by
  induction ds with
  | nil =>
    by_cases h : id = d.id
    · simp [insertInto, h]
    · simp [insertInto, h, Ne.symm h]
  | cons e es ih =>
    obtain ⟨hne, hfree⟩ := List.forall_mem_cons.mp hfree
    unfold insertInto
    split
    · by_cases h : id = d.id
      · simp [h]
      · simp [h, Ne.symm h]
    · rw [List.find?_cons, List.find?_cons, ih hfree]
      by_cases h : id = d.id
      · simp [h, hne]
      · rw [if_neg h, if_neg h]

/-- Adding a device that is not there yet bears on its own identifier only. -/
theorem find?_insert {d : Appliance} (hfree : r.find? d.id = none) (id : EntryId) :
    (r.insert d).find? id = if id = d.id then some d else r.find? id :=
  find?_insertInto (find?_eq_none_iff.mp hfree) id

/-- Taking out a device bears on its own identifier only. -/
theorem find?_erase (id id' : EntryId) :
    (r.erase id).find? id' = if id' = id then none else r.find? id' := by
  rw [find?, erase, List.find?_filter]
  split
  · next h => simp [h]
  · next h =>
    refine congrArg (List.find? · r.devices) (funext fun d => ?_)
    by_cases hd : d.id = id' <;> simp [hd, h]

/-- In order, every device is found under its identifier. -/
theorem find?_of_pairwise {d : Appliance} {ds : List Appliance}
    (h : ds.Pairwise fun d e => EntryId.lt d.id e.id) (hd : d ∈ ds) :
    ds.find? (·.id = d.id) = some d := by
  induction ds with
  | nil => cases hd
  | cons e es ih =>
    obtain ⟨he, hes⟩ := List.pairwise_cons.mp h
    obtain rfl | hd := List.mem_cons.mp hd
    · simp
    · rw [List.find?_cons_of_neg (by simpa using EntryId.ne_of_lt (he d hd)), ih hes hd]

/-- In ascending order, every device is the one that is found by its identifier. -/
theorem IsAscending.mem_iff (h : r.IsAscending) {d : Appliance} :
    d ∈ r.devices ↔ r.find? d.id = some d :=
  ⟨find?_of_pairwise h, List.mem_of_find?_eq_some⟩

end Registry

/-! ## episodes of setting up -/

namespace Chronicle

variable {σ : Type} (device : Device σ)

/-- Setting up is answered with the new device, or with why there is none. -/
theorem answer_setUp (ch : Chronicle σ) (provided : Except String Unit) (entry : Entry) :
    (ch.episode device (.setUp provided entry)).answer =
      .setUp ((ch.house.registry.fittings? provided entry).map
        fun _ => ch.house.applianceOf entry) := by
  cases hf : ch.house.registry.fittings? provided entry with
  | error e => rw [(proceed_of_value? device (Command.value?_setUp_of_error hf)).1]; rfl
  | ok f => rw [(proceed_of_value? device (Command.value?_setUp_of_ok hf)).1]; rfl

/-- Where setting up is refused, nothing changes. -/
theorem house_setUp_of_error {ch : Chronicle σ} {provided : Except String Unit} {entry : Entry}
    {e : Error} (h : (ch.episode device (.setUp provided entry)).answer = .setUp (.error e)) :
    (ch.proceed device (.setUp provided entry)).house = ch.house := by
  rw [answer_setUp] at h
  cases hf : ch.house.registry.fittings? provided entry with
  | error e => rw [(proceed_of_value? device (Command.value?_setUp_of_error hf)).2]
  | ok f => rw [hf] at h; cases h

/-- Setting up gives a device just if there are adapters for the entry. -/
theorem answer_setUp_eq_ok_iff {ch : Chronicle σ} {provided : Except String Unit} {entry : Entry}
    {d : Appliance} : (ch.episode device (.setUp provided entry)).answer = .setUp (.ok d) ↔
      (∃ f, ch.house.registry.fittings? provided entry = .ok f) ∧
        d = ch.house.applianceOf entry := by
  rw [answer_setUp]
  cases ch.house.registry.fittings? provided entry with
  | error e => simp [Except.map]
  | ok f => simp [Except.map, eq_comm]

/-- Unloading tells whether there was a device, and takes it out. -/
theorem unload_proceed (ch : Chronicle σ) (id : EntryId) :
    (ch.episode device (.unload id)).answer = .unloaded (ch.house.registry.find? id).isSome ∧
      (ch.proceed device (.unload id)).house =
        { ch.house with registry := ch.house.registry.erase id } := by
  cases hd : ch.house.registry.find? id with
  | none =>
    obtain ⟨hepisode, hproceed⟩ := proceed_of_value? device (Command.value?_unload_of_none hd)
    rw [hepisode, hproceed, Registry.erase_of_find?_eq_none hd]
    exact ⟨rfl, rfl⟩
  | some d =>
    obtain ⟨hepisode, hproceed⟩ := proceed_of_value? device (Command.value?_unload_of_some hd)
    rw [hepisode, hproceed]
    exact ⟨rfl, rfl⟩

/-! ## what stands -/

/-- Among some episodes, the latest first, an entry was set up as a device, and not unloaded since. -/
def StandsIn (episodes : List Episode) (entry : Entry) (d : Appliance) : Prop :=
  ∃ newer e older, episodes = newer ++ e :: older ∧ e.command = .setUp (.ok ()) entry ∧
    e.answer = .setUp (.ok d) ∧ ∀ x ∈ newer, x.command ≠ .unload entry.id

/-- An entry was set up as a device, and not unloaded since. -/
def Stands (ch : Chronicle σ) (entry : Entry) (d : Appliance) : Prop :=
  StandsIn ch.episodes entry d

/-- What stands is what was set up last, or what stood before and has not just been unloaded. -/
theorem standsIn_cons {e : Episode} {es : List Episode} {entry : Entry} {d : Appliance} :
    StandsIn (e :: es) entry d ↔ e.command = .setUp (.ok ()) entry ∧ e.answer = .setUp (.ok d) ∨
      e.command ≠ .unload entry.id ∧ StandsIn es entry d := by
  constructor
  · rintro ⟨newer, x, older, hsplit, hcommand, hanswer, hnewer⟩
    cases newer with
    | nil =>
      obtain ⟨rfl, -⟩ := List.cons.inj hsplit
      exact .inl ⟨hcommand, hanswer⟩
    | cons y newer =>
      obtain ⟨rfl, htail⟩ := List.cons.inj hsplit
      obtain ⟨hy, hnewer⟩ := List.forall_mem_cons.mp hnewer
      exact .inr ⟨hy, newer, x, older, htail, hcommand, hanswer, hnewer⟩
  · rintro (⟨hcommand, hanswer⟩ | ⟨he, newer, x, older, rfl, hcommand, hanswer, hnewer⟩)
    · exact ⟨[], e, es, rfl, hcommand, hanswer, by simp⟩
    · exact ⟨e :: newer, x, older, rfl, hcommand, hanswer, List.forall_mem_cons.mpr ⟨he, hnewer⟩⟩

/-- What stands after a command: what it has set up, and what stood before it and was not unloaded. -/
theorem stands_proceed {ch : Chronicle σ} {c : Command} {entry : Entry} {d : Appliance} :
    (ch.proceed device c).Stands entry d ↔
      (c = .setUp (.ok ()) entry ∧ (∃ f, ch.house.registry.fittings? (.ok ()) entry = .ok f) ∧
        d = ch.house.applianceOf entry) ∨ c ≠ .unload entry.id ∧ ch.Stands entry d := by
  have hnew : (c = .setUp (.ok ()) entry ∧ (ch.episode device c).answer = .setUp (.ok d)) ↔
      c = .setUp (.ok ()) entry ∧ (∃ f, ch.house.registry.fittings? (.ok ()) entry = .ok f) ∧
        d = ch.house.applianceOf entry := by
    refine and_congr_right fun hc => ?_
    rw [hc, answer_setUp_eq_ok_iff]
  rw [← hnew]
  exact standsIn_cons

/-- The device of an identifier after a command is the one that it has set up, or the one that was
there before it and was not unloaded. -/
theorem find?_proceed {ch : Chronicle σ} {c : Command} {id : EntryId} {d : Appliance} :
    (ch.proceed device c).house.registry.find? id = some d ↔
      (∃ entry, entry.id = id ∧ c = .setUp (.ok ()) entry ∧
        (∃ f, ch.house.registry.fittings? (.ok ()) entry = .ok f) ∧
        d = ch.house.applianceOf entry) ∨
      c ≠ .unload id ∧ ch.house.registry.find? id = some d := by
  rw [registry_proceed]
  cases c with
  | setUp provided entry =>
    dsimp only
    cases hf : ch.house.registry.fittings? provided entry with
    | error e =>
      have hrefused : ∀ entry', Command.setUp provided entry = .setUp (.ok ()) entry' →
          ¬ ∃ f, ch.house.registry.fittings? (.ok ()) entry' = .ok f := by
        rintro _ ⟨⟩ ⟨f, hok⟩
        rw [hf] at hok
        cases hok
      constructor
      · exact fun hd => .inr ⟨by simp, hd⟩
      · rintro (⟨entry', -, hc, hok, -⟩ | ⟨-, hd⟩)
        · exact absurd hok (hrefused entry' hc)
        · exact hd
    | ok f =>
      obtain ⟨hfree, rfl, -⟩ := Registry.fittings?_eq_ok_iff.mp hf
      rw [Registry.find?_insert hfree]
      constructor
      · intro hd
        split at hd
        · next hid => exact .inl ⟨entry, hid.symm, rfl, ⟨f, hf⟩, (Option.some.inj hd).symm⟩
        · exact .inr ⟨by simp, hd⟩
      · rintro (⟨_, rfl, ⟨⟩, -, rfl⟩ | ⟨-, hd⟩)
        · exact if_pos rfl
        · rw [if_neg, hd]
          rintro rfl
          exact absurd (hfree.symm.trans hd) (by simp)
  | unload id' =>
    dsimp only
    rw [Registry.find?_erase]
    by_cases hid : id = id'
    · simp [hid]
    · simp [hid, Ne.symm hid]
  | _ => simp

/-- What the devices that are set up have to do with what has happened. -/
structure Recorded (ch : Chronicle σ) : Prop where
  ascending : ch.house.registry.IsAscending
  found : ∀ id d, ch.house.registry.find? id = some d ↔ ∃ entry, entry.id = id ∧ ch.Stands entry d
  ofEntry : ∀ entry d, ch.Stands entry d → d.id = entry.id ∧ d.host = entry.data.host
  fitted : ∀ d ∈ ch.house.registry.devices, ch.Fitted d

/-- Nothing is set up at the start. -/
theorem not_stands_start (s : σ) (entry : Entry) (d : Appliance) : ¬ (start s).Stands entry d := by
  rintro ⟨newer, e, older, hsplit, -⟩
  cases newer <;> cases hsplit

/-- At the start there is nothing to record. -/
theorem recorded_start (s : σ) : (start s).Recorded where
  ascending := Registry.isAscending_empty
  found id d := by
    refine iff_of_false (fun h => by cases h) ?_
    rintro ⟨entry, -, h⟩
    exact not_stands_start s entry d h
  ofEntry entry d h := absurd h (not_stands_start s entry d)
  fitted d hd := by cases hd

/-- Every command keeps the devices in order. -/
theorem isAscending_proceed {ch : Chronicle σ} (h : ch.house.registry.IsAscending) (c : Command) :
    (ch.proceed device c).house.registry.IsAscending := by
  rw [registry_proceed]
  cases c with
  | setUp provided entry =>
    dsimp only
    cases hf : ch.house.registry.fittings? provided entry with
    | error e => exact h
    | ok f => exact h.insert (Registry.fittings?_eq_ok_iff.mp hf).1
  | unload id => exact h.erase id
  | _ => exact h

/-- Every command keeps the devices and the record in step. -/
theorem recorded_proceed (ch : Chronicle σ) (c : Command) (h : ch.Recorded) :
    (ch.proceed device c).Recorded where
  ascending := isAscending_proceed device h.ascending c
  found id d := by
    rw [find?_proceed, h.found]
    simp only [stands_proceed, and_or_left, exists_or]
    refine or_congr Iff.rfl ⟨?_, ?_⟩
    · rintro ⟨hc, entry, rfl, hd⟩
      exact ⟨entry, rfl, hc, hd⟩
    · rintro ⟨entry, rfl, hc, hd⟩
      exact ⟨hc, entry, rfl, hd⟩
  ofEntry entry d hd := by
    obtain ⟨-, -, rfl⟩ | ⟨-, hd⟩ := (stands_proceed device).mp hd
    · exact ⟨rfl, rfl⟩
    · exact h.ofEntry entry d hd
  fitted := fitted_of_mem_devices_proceed device h.fitted c

/-- Every chronicle is recorded. -/
theorem recorded_ofCommands (s : σ) (commands : List Command) :
    (ofCommands device s commands).Recorded :=
  ofCommands_invariant device (recorded_start s) (recorded_proceed device) commands

/-! ## runs -/

/-- The adapters of a device: the light on the first channel of its host, and the pump twice on the
second, as a switch and as a slider. -/
def IsComplete (ch : Chronicle σ) (d : Appliance) : Prop :=
  ∃ light pump level,
    ch.house.entities[d.light]? = some (.adapter light) ∧ light.kind = .light ∧
    ch.house.entities[d.pump]? = some (.adapter pump) ∧ pump.kind = .pump ∧
    ch.house.entities[d.level]? = some (.adapter level) ∧ level.kind = .level ∧
    Channel.open? d.host 0 = .ok light.channel ∧ Channel.open? d.host 1 = .ok pump.channel ∧
    level.channel = pump.channel

/-- A device whose parts all fit is complete. -/
theorem Fitted.isComplete {ch : Chronicle σ} {d : Appliance} (h : ch.Fitted d) :
    ch.IsComplete d := by
  obtain ⟨light, hlight, hlightKind, hfirst⟩ := h .light
  obtain ⟨pump, hpump, hpumpKind, hsecond⟩ := h .pump
  obtain ⟨level, hlevel, hlevelKind, hthird⟩ := h .level
  have hsame : level.channel = pump.channel := Except.ok.inj (hthird.symm.trans hsecond)
  exact ⟨light, pump, level, hlight, hlightKind, hpump, hpumpKind, hlevel, hlevelKind, hfirst,
    hsecond, hsame⟩

/-- Over all runs, through any commands in between: a device is set up under an identifier exactly if
it is the one that an entry of that identifier was set up as, and not unloaded since.  It has the
identifier and the host of that entry, its adapters on the channels of that host, and offers its light
and its pump, in this order.  All devices are listed once, in ascending order of their identifiers.
An entry can be set up exactly if no device has its identifier, there is a client, and its host has
channels; where it is refused nothing changes, and the device that was there is the reason if there was
one.  Unloading tells whether there was a device, and takes away that device and nothing else. -/
theorem devices_of_run (s : σ) (commands : List Command) :
    let ch := ofCommands device s commands
    let devices := ch.house.registry
    let answer := fun c => (ch.episode device c).answer
    let after := fun c => (ch.proceed device c).house
    (∀ id d, devices.find? id = some d ↔ ∃ entry, entry.id = id ∧ ch.Stands entry d) ∧
      (∀ entry d, ch.Stands entry d → d.id = entry.id ∧ d.host = entry.data.host ∧
        ch.IsComplete d ∧ d.entities = [d.light, d.pump]) ∧
      (devices.IsAscending ∧ ∀ d, d ∈ devices.devices ↔ devices.find? d.id = some d) ∧
      (∀ provided entry, ((∃ d, answer (.setUp provided entry) = .setUp (.ok d)) ↔
          devices.find? entry.id = none ∧ provided = .ok () ∧ Host.hasChannels entry.data.host) ∧
        (∀ e, answer (.setUp provided entry) = .setUp (.error e) →
          after (.setUp provided entry) = ch.house) ∧
        ∀ d, devices.find? entry.id = some d → answer (.setUp provided entry) =
          .setUp (.error (.invalidRequest (.alreadySetUp entry.id)))) ∧
      ∀ id, answer (.unload id) = .unloaded (devices.find? id).isSome ∧
        after (.unload id) = { ch.house with registry := devices.erase id } ∧
        ∀ id', (devices.erase id).find? id' = if id' = id then none else devices.find? id' := by
  intro ch devices answer after
  have hrecorded := recorded_ofCommands device s commands
  refine ⟨hrecorded.found, fun entry d hd => ?_, ⟨hrecorded.ascending, fun d => ?_⟩,
    fun provided entry => ⟨?_, fun e => house_setUp_of_error device, fun d hd => ?_⟩, fun id => ?_⟩
  · obtain ⟨hid, hhost⟩ := hrecorded.ofEntry entry d hd
    have hfind : devices.find? d.id = some d := (hrecorded.found d.id d).mpr ⟨entry, hid.symm, hd⟩
    have hmem := hrecorded.ascending.mem_iff.mpr hfind
    exact ⟨hid, hhost, (hrecorded.fitted d hmem).isComplete, rfl⟩
  · exact hrecorded.ascending.mem_iff
  · rw [← Registry.exists_fittings?_iff]
    simp only [answer, answer_setUp_eq_ok_iff, exists_and_left, exists_eq, and_true]
    rfl
  · simp only [answer, answer_setUp]
    rw [Registry.fittings?, hd]
    rfl
  · obtain ⟨hanswer, hafter⟩ := unload_proceed device ch id
    exact ⟨hanswer, hafter, Registry.find?_erase id⟩

/-- A second entry of the same identifier is refused, and another identifier is unloaded: the device of
the first entry stands, on channels of its host. -/
theorem devices_of_run_same_identifier :
    let ch := ofCommands muteDevice () [.setUp (.ok ()) (Enrolment.newEntry ⟨0⟩ "h"),
      .setUp (.ok ()) (Enrolment.newEntry ⟨0⟩ "c"), .unload ⟨1⟩]
    ∃ d, ch.Stands (Enrolment.newEntry ⟨0⟩ "h") d ∧ d.host = "h" ∧ ch.IsComplete d ∧
      (ch.episode muteDevice (.setUp (.ok ()) (Enrolment.newEntry ⟨0⟩ "c"))).answer =
        .setUp (.error (.invalidRequest (.alreadySetUp ⟨0⟩))) := by
  intro ch
  have hhost : Host.hasChannels "h" :=
    Host.hasChannels_of_plain (m := .domain ['h']) (by decide) (by decide) (by decide)
  have hset : ((start ()).proceed muteDevice (.setUp (.ok ()) (Enrolment.newEntry ⟨0⟩ "h"))).Stands
      (Enrolment.newEntry ⟨0⟩ "h") ⟨⟨0⟩, "h", 0, 1, 2⟩ :=
    (stands_proceed _).mpr (.inl ⟨rfl, Registry.exists_fittings?_iff.mpr ⟨rfl, rfl, hhost⟩, rfl⟩)
  have hstands : ch.Stands (Enrolment.newEntry ⟨0⟩ "h") ⟨⟨0⟩, "h", 0, 1, 2⟩ :=
    (stands_proceed _).mpr (.inr ⟨by simp [Enrolment.newEntry],
      (stands_proceed _).mpr (.inr ⟨by simp, hset⟩)⟩)
  obtain ⟨hfound, hdevice, -, hsetUp, -⟩ := devices_of_run muteDevice ()
    [.setUp (.ok ()) (Enrolment.newEntry ⟨0⟩ "h"), .setUp (.ok ()) (Enrolment.newEntry ⟨0⟩ "c"),
      .unload ⟨1⟩]
  obtain ⟨-, hhost, hcomplete, -⟩ := hdevice _ _ hstands
  have hpresent := (hfound ⟨0⟩ _).mpr ⟨_, rfl, hstands⟩
  exact ⟨_, hstands, hhost, hcomplete, (hsetUp (.ok ()) (Enrolment.newEntry ⟨0⟩ "c")).2.2 _ hpresent⟩

end Chronicle

end Greenhouse
