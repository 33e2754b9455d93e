import Greenhouse.Proofs.Fittings
import Greenhouse.Proofs.Identity
import Greenhouse.Proofs.Names

/-!
# Greenhouse.Proofs.Keys

The identifiers of the devices that are set up together, over whole runs.

Identifiers are made of hosts, with the dots replaced.  What the form does, and who may set up or
forget which entries, decides which hosts are set up together.

* `Chronicle.Installed` — the adapters of a device are where its handles say, whatever is done.
* `Kept` — where owners keep to the entries that the form has made and not forgotten, every device
  stands for one of these entries, and no two of them share a host.
* `keys_coincide_iff` — when identifiers of devices set up together coincide.
-/

namespace Greenhouse

open Dialogue

variable {σ : Type} (device : Device σ)

/-! ## the adapters of a device -/

/-- The adapters of a device are where its handles say, on channels of its host. -/
def Chronicle.Installed (ch : Chronicle σ) (d : Appliance) : Prop :=
  ∀ k, ∃ a, ch.house.entities[d.handle k]? = some (.adapter a) ∧ a.kind = k ∧
    a.channel.host = d.host

namespace Chronicle

/-- A device with all its parts has its three adapters. -/
theorem Fitted.installed {ch : Chronicle σ} {d : Appliance} (h : ch.Fitted d) : ch.Installed d := by
  intro k
  obtain ⟨a, ha, hkind, hopen⟩ := h k
  obtain ⟨-, m, -, hchannel⟩ := Channel.open?_eq_ok_iff.mp hopen
  exact ⟨a, ha, hkind, by rw [hchannel]⟩

/-! ## the entries of the form -/

/-- The entry that the form made in an episode, if it made one. -/
def made? (e : Episode) : Option Entry :=
  match e.answer with
  | .stepped (.entry entry) => some entry
  | _ => none

/-- The entries that the form has made. -/
def made (ch : Chronicle σ) : List Entry := ch.episodes.filterMap made?

/-- The entries after an episode: the form may have made one, and forgetting a host takes away the
entries for it. -/
def hold (e : Episode) (entries : List Entry) : List Entry :=
  match e.command with
  | .submit .. => (made? e).toList ++ entries
  | .forget entry => entries.filter (·.uniqueId ≠ entry.uniqueId)
  | _ => entries

/-- The entries that the form has made and not been told to forget since. -/
def held (ch : Chronicle σ) : List Entry := ch.episodes.foldr hold []

/-- The form holds an entry from its creation to its removal. -/
theorem held_proceed (ch : Chronicle σ) (c : Command) :
    (ch.proceed device c).held =
      match c with
      | .submit id input =>
        match (ch.house.enrolment.step id input).1 with
        | .entry entry => entry :: ch.held
        | _ => ch.held
      | .forget entry => ch.held.filter (·.uniqueId ≠ entry.uniqueId)
      | _ => ch.held := by
  cases c with
  | submit id input =>
    rw [(proceed_of_value? device (Command.value?_submit id input _)).2]
    dsimp only
    cases hstep : (ch.house.enrolment.step id input).1 <;> rfl
  | forget entry =>
    rw [(proceed_of_value? device (Command.value?_forget entry _)).2]
    rfl
  | _ => rfl

/-! ## runs -/

/-- Whether owners who set up and forget none but usable entries may give a command, an entry being
forgotten only while it is not set up. -/
def Permits (usable : List Entry) (r : Registry) : Command → Prop
  | .setUp _ entry => entry ∈ usable
  | .forget entry => entry ∈ usable ∧ r.find? entry.id = none
  | _ => True

/-- The chronicles of owners who keep to usable entries. -/
inductive Reachable (usable : Chronicle σ → List Entry) : Chronicle σ → Prop where
  | start (s : σ) : Reachable usable (start s)
  | proceed {ch : Chronicle σ} {c : Command} (h : Reachable usable ch)
      (hc : Permits (usable ch) ch.house.registry c) : Reachable usable (ch.proceed device c)

variable {device}

/-- The form may be used at any time. -/
theorem Reachable.submit {usable : Chronicle σ → List Entry} {ch : Chronicle σ}
    (h : Reachable device usable ch) (id : EntryId) (input : Option UserInput) :
    Reachable device usable (ch.proceed device (.submit id input)) :=
  .proceed h trivial

/-- A device may be unloaded at any time. -/
theorem Reachable.unload {usable : Chronicle σ → List Entry} {ch : Chronicle σ}
    (h : Reachable device usable ch) (id : EntryId) :
    Reachable device usable (ch.proceed device (.unload id)) :=
  .proceed h trivial

/-- A usable entry may be set up. -/
theorem Reachable.setUp {usable : Chronicle σ → List Entry} {ch : Chronicle σ}
    (h : Reachable device usable ch) (provided : Except String Unit) (entry : Entry)
    (hentry : entry ∈ usable ch) :
    Reachable device usable (ch.proceed device (.setUp provided entry)) :=
  .proceed h hentry

/-- A usable entry may be forgotten while it is not set up. -/
theorem Reachable.forget {usable : Chronicle σ → List Entry} {ch : Chronicle σ}
    (h : Reachable device usable ch) (entry : Entry) (hentry : entry ∈ usable ch)
    (hfree : ch.house.registry.find? entry.id = none) :
    Reachable device usable (ch.proceed device (.forget entry)) :=
  .proceed h ⟨hentry, hfree⟩

/-- All devices that are set up have their adapters. -/
theorem Reachable.fitted {usable : Chronicle σ → List Entry} {ch : Chronicle σ}
    (h : Reachable device usable ch) : ∀ d ∈ ch.house.registry.devices, ch.Fitted d := by
  induction h with
  | start s => intro d hd; cases hd
  | proceed _ _ ih => exact fitted_of_mem_devices_proceed device ih _

/-- Every device that is reached has its three adapters. -/
theorem Reachable.installed {usable : Chronicle σ → List Entry} {ch : Chronicle σ}
    (h : Reachable device usable ch) : ∀ d ∈ ch.house.registry.devices, ch.Installed d :=
  fun d hd => (h.fitted d hd).installed

end Chronicle

/-! ## owners who keep to the entries of the form -/

/-- What holds of the entries that the form holds, of the hosts that are configured and of the devices
that are set up, where owners keep to these entries. -/
structure Kept (held : List Entry) (f : Enrolment) (r : Registry) : Prop where
  configured : ∀ e ∈ held, e.uniqueId = e.data.host ∧ f.isConfigured e.data.host
  distinct : ∀ e ∈ held, ∀ e' ∈ held, e.data.host = e'.data.host → e = e'
  /-- Every device stands for an entry. -/
  backed : ∀ d ∈ r.devices, ∃ e ∈ held, e.id = d.id ∧ e.data.host = d.host
  unique : ∀ d ∈ r.devices, ∀ d' ∈ r.devices, d.id = d'.id → d = d'

namespace Kept

variable {held : List Entry} {f : Enrolment} {r : Registry}

/-- No two devices share a host. -/
theorem eq_of_host_eq (h : Kept held f r) {d d' : Appliance} (hd : d ∈ r.devices)
    (hd' : d' ∈ r.devices) (hhost : d.host = d'.host) : d = d' := by
  obtain ⟨e, he, hid, hehost⟩ := h.backed d hd
  obtain ⟨e', he', hid', hehost'⟩ := h.backed d' hd'
  have heq := h.distinct e he e' he' (by rw [hehost, hehost', hhost])
  exact h.unique d hd d' hd' (by rw [← hid, ← hid', heq])

/-- At the start the form holds nothing, and nothing is configured or set up. -/
theorem empty : Kept [] .empty .empty where
  configured _ he := by cases he
  distinct _ he := by cases he
  backed _ hd := by cases hd
  unique _ hd := by cases hd

/-- A new entry is for a host that was not configured. -/
theorem submit (h : Kept held f r) {host : String} (hnew : ¬ f.isConfigured host) (id : EntryId) :
    Kept (Enrolment.newEntry id host :: held) ⟨host :: f.configured⟩ r := by
  have hne : ∀ e ∈ held, e.data.host ≠ host := fun e he heq => hnew (heq ▸ (h.configured e he).2)
  refine ⟨fun e he => ?_, fun e he e' he' heq => ?_, fun d hd => ?_, h.unique⟩
  · rw [Enrolment.isConfigured_iff]
    obtain rfl | he := List.mem_cons.mp he
    · exact ⟨rfl, List.mem_cons_self⟩
    · obtain ⟨hid, hconfigured⟩ := h.configured e he
      exact ⟨hid, List.mem_cons_of_mem _ (Enrolment.isConfigured_iff.mp hconfigured)⟩
  · obtain rfl | he := List.mem_cons.mp he
    · obtain rfl | he' := List.mem_cons.mp he'
      · rfl
      · exact absurd heq.symm (hne e' he')
    · obtain rfl | he' := List.mem_cons.mp he'
      · exact absurd heq (hne e he)
      · exact h.distinct e he e' he' heq
  · obtain ⟨e, he, hed⟩ := h.backed d hd
    exact ⟨e, List.mem_cons_of_mem _ he, hed⟩

/-- Forgetting an entry that is not set up leaves the others, and no device stands for it. -/
theorem forget (h : Kept held f r) {entry : Entry} (hentry : entry ∈ held)
    (hfree : r.find? entry.id = none) :
    Kept (held.filter (·.uniqueId ≠ entry.uniqueId)) (f.forget entry.uniqueId) r := by
  refine ⟨fun e he => ?_, fun e he e' he' => ?_, fun d hd => ?_, h.unique⟩
  · obtain ⟨he, hne⟩ := List.mem_filter.mp he
    obtain ⟨hid, hconfigured⟩ := h.configured e he
    refine ⟨hid, Enrolment.isConfigured_forget.mpr ⟨hconfigured, ?_⟩⟩
    rw [← hid]
    simpa using hne
  · exact h.distinct e (List.mem_filter.mp he).1 e' (List.mem_filter.mp he').1
  · obtain ⟨e, he, hid, hhost⟩ := h.backed d hd
    refine ⟨e, List.mem_filter.mpr ⟨he, ?_⟩, hid, hhost⟩
    rw [decide_eq_true_eq, (h.configured e he).1, (h.configured entry hentry).1]
    intro heq
    have hsame := h.distinct e he entry hentry heq
    exact Registry.find?_eq_none_iff.mp hfree d hd (by rw [← hid, hsame])

/-- To set up an entry that is held is to set up a configured host. -/
theorem setUp (h : Kept held f r) {entry : Entry} (hentry : entry ∈ held)
    (hfree : r.find? entry.id = none) {d : Appliance} (hid : d.id = entry.id)
    (hhost : d.host = entry.data.host) : Kept held f (r.insert d) := by
  rw [Registry.find?_eq_none_iff] at hfree
  refine ⟨h.configured, h.distinct, fun d' hd' => ?_, fun d₁ hd₁ d₂ hd₂ heq => ?_⟩
  · obtain rfl | hd' := Registry.mem_insertInto.mp hd'
    · exact ⟨entry, hentry, hid.symm, hhost.symm⟩
    · exact h.backed d' hd'
  · obtain hnew₁ | hold₁ := Registry.mem_insertInto.mp hd₁
    · obtain hnew₂ | hold₂ := Registry.mem_insertInto.mp hd₂
      · rw [hnew₁, hnew₂]
      · exact absurd (by rw [← heq, hnew₁, hid]) (hfree d₂ hold₂)
    · obtain hnew₂ | hold₂ := Registry.mem_insertInto.mp hd₂
      · exact absurd (by rw [heq, hnew₂, hid]) (hfree d₁ hold₁)
      · exact h.unique d₁ hold₁ d₂ hold₂ heq

/-- A device fewer breaks nothing. -/
theorem unload (h : Kept held f r) (id : EntryId) : Kept held f (r.erase id) where
  configured := h.configured
  distinct := h.distinct
  backed d hd := h.backed d (Registry.mem_erase.mp hd).1
  unique d hd d' hd' := h.unique d (Registry.mem_erase.mp hd).1 d' (Registry.mem_erase.mp hd').1

end Kept

namespace Chronicle

/-- A permitted command keeps the form, the flow and the devices in step. -/
theorem kept_proceed {ch : Chronicle σ} {c : Command}
    (h : Kept ch.held ch.house.enrolment ch.house.registry)
    (hc : Permits ch.held ch.house.registry c) :
    Kept (ch.proceed device c).held (ch.proceed device c).house.enrolment
      (ch.proceed device c).house.registry := by
  rw [held_proceed, enrolment_proceed, registry_proceed]
  cases c with
  | submit id input =>
    dsimp only
    obtain ⟨host, hnew, hstep⟩ | ⟨hnone, hsame⟩ := Enrolment.step_cases ch.house.enrolment id input
    · rw [hstep]
      exact h.submit hnew id
    · rw [hsame]
      split
      · next hentry => exact absurd hentry (hnone _)
      · exact h
  | forget entry => exact h.forget hc.1 hc.2
  | setUp provided entry =>
    dsimp only
    cases hf : ch.house.registry.fittings? provided entry with
    | error e => exact h
    | ok f => exact h.setUp hc (Registry.fittings?_eq_ok_iff.mp hf).1 rfl rfl
  | unload id => exact h.unload id
  | _ => exact h

variable {device}

/-- So they are in everything that is reached. -/
theorem Reachable.kept {ch : Chronicle σ} (h : Reachable device held ch) :
    Kept ch.held ch.house.enrolment ch.house.registry := by
  induction h with
  | start s => exact .empty
  | proceed _ hc ih => exact kept_proceed device ih hc

/-- With more entries at hand no less is permitted. -/
theorem permits_mono {entries entries' : List Entry} {r : Registry} {c : Command}
    (hsub : ∀ e ∈ entries, e ∈ entries') (h : Permits entries r c) : Permits entries' r c := by
  cases c with
  | setUp provided entry => exact hsub entry h
  | forget entry => exact ⟨hsub entry h.1, h.2⟩
  | _ => trivial

/-- What is held after an episode it has made, or was held before. -/
theorem mem_of_mem_hold {e : Episode} {entries : List Entry} {entry : Entry}
    (h : entry ∈ hold e entries) : made? e = some entry ∨ entry ∈ entries := by
  unfold hold at h
  split at h
  · obtain h | h := List.mem_append.mp h
    · exact .inl (Option.mem_toList.mp h)
    · exact .inr h
  · exact .inr (List.mem_filter.mp h).1
  · exact .inr h

/-- What the form holds it has made. -/
theorem mem_made_of_mem_held {ch : Chronicle σ} {entry : Entry} (h : entry ∈ ch.held) :
    entry ∈ ch.made := by
  rw [made, List.mem_filterMap]
  rw [held] at h
  generalize ch.episodes = episodes at h ⊢
  induction episodes with
  | nil => cases h
  | cons e episodes ih =>
    obtain he | h := mem_of_mem_hold h
    · exact ⟨e, List.mem_cons_self, he⟩
    · obtain ⟨e', he', hentry⟩ := ih h
      exact ⟨e', List.mem_cons_of_mem _ he', hentry⟩

variable (device) in
/-- What the form has made stays made. -/
theorem mem_made_proceed {ch : Chronicle σ} {entry : Entry} (h : entry ∈ ch.made) (c : Command) :
    entry ∈ (ch.proceed device c).made := by
  rw [made, List.mem_filterMap] at h ⊢
  obtain ⟨e, he, hentry⟩ := h
  exact ⟨e, List.mem_cons_of_mem _ he, hentry⟩

/-- Whatever is reached with the entries held is reached with those once made. -/
theorem Reachable.made {ch : Chronicle σ} (h : Reachable device held ch) :
    Reachable device Chronicle.made ch := by
  induction h with
  | start s => exact .start s
  | proceed _ hc ih => exact ih.proceed (permits_mono (fun _ => mem_made_of_mem_held) hc)

end Chronicle

/-! ## two runs -/

/-- What there is to see of a chronicle: the entries that the form holds, the hosts that are
configured, and the entries and hosts of the devices that are set up. -/
structure Chronicle.Shows (ch : Chronicle σ) (entries : List Entry) (hosts : List String)
    (devices : List (EntryId × String)) : Prop where
  held : ch.held = entries
  configured : ch.house.enrolment.configured = hosts
  devices (id : EntryId) (host : String) :
    (∃ d ∈ ch.house.registry.devices, d.id = id ∧ d.host = host) ↔ (id, host) ∈ devices

namespace Chronicle.Shows

variable {ch : Chronicle σ} {entries : List Entry} {hosts : List String}
  {devices : List (EntryId × String)}

/-- At the start there is nothing to see. -/
theorem start (s : σ) : (Chronicle.start s).Shows [] [] [] where
  held := rfl
  configured := rfl
  devices id host := by simp [Chronicle.start, House.empty, Registry.empty]

/-- An identifier that is not shown is unknown. -/
theorem find?_eq_none (h : ch.Shows entries hosts devices) (id : EntryId)
    (hfree : ∀ host, (id, host) ∉ devices) : ch.house.registry.find? id = none := by
  rw [Registry.find?_eq_none_iff]
  intro d hd hid
  exact hfree d.host ((h.devices id d.host).mp ⟨d, hd, hid, rfl⟩)

/-- A host that has channels and is not configured yet gets an entry. -/
theorem submit (h : ch.Shows entries hosts devices) {host : String} (hhost : Host.hasChannels host)
    (hnew : host ∉ hosts) (id : EntryId) :
    (ch.proceed device (.submit id (some ⟨host⟩))).Shows (Enrolment.newEntry id host :: entries)
      (host :: hosts) devices := by
  have hcheck := (Host.hasChannels_iff.mp hhost).1
  have hstep : ch.house.enrolment.step id (some ⟨host⟩) =
      (.entry (Enrolment.newEntry id host), ⟨host :: ch.house.enrolment.configured⟩) := by
    rw [Enrolment.step_eq_entry_iff, Enrolment.hostOf_of_check hcheck]
    refine ⟨hcheck, fun hconfigured => hnew ?_, rfl, rfl⟩
    rw [← h.configured]
    exact Enrolment.isConfigured_iff.mp hconfigured
  refine ⟨?_, ?_, ?_⟩
  · rw [held_proceed]
    dsimp only
    rw [hstep, h.held]
  · rw [enrolment_proceed]
    dsimp only
    rw [hstep, h.configured]
  · rw [registry_proceed]
    exact h.devices

/-- An entry that is not set up and whose host has channels gets a device. -/
theorem setUp (h : ch.Shows entries hosts devices) (id : EntryId) {host : String}
    (hhost : Host.hasChannels host) (hfree : ∀ host, (id, host) ∉ devices) :
    (ch.proceed device (.setUp (.ok ()) (Enrolment.newEntry id host))).Shows entries hosts
      ((id, host) :: devices) := by
  have hnone : ch.house.registry.find? (Enrolment.newEntry id host).id = none :=
    h.find?_eq_none id hfree
  obtain ⟨f, hf⟩ := Registry.exists_fittings?_iff.mpr ⟨hnone, rfl, hhost⟩
  refine ⟨?_, ?_, fun id' host' => ?_⟩
  · rw [held_proceed]
    exact h.held
  · rw [enrolment_proceed]
    exact h.configured
  · rw [registry_proceed]
    dsimp only
    rw [hf, List.mem_cons, ← h.devices]
    constructor
    · rintro ⟨d, hd, rfl, rfl⟩
      obtain rfl | hd := Registry.mem_insertInto.mp hd
      · exact .inl rfl
      · exact .inr ⟨d, hd, rfl, rfl⟩
    · rintro (heq | ⟨d, hd, hid, hd'⟩)
      · cases heq
        exact ⟨_, Registry.mem_insertInto.mpr (.inl rfl), rfl, rfl⟩
      · exact ⟨d, Registry.mem_insertInto.mpr (.inr hd), hid, hd'⟩

/-- To unload a device takes it out of sight. -/
theorem unload (h : ch.Shows entries hosts devices) (id : EntryId) :
    (ch.proceed device (.unload id)).Shows entries hosts (devices.filter (·.1 ≠ id)) := by
  refine ⟨?_, ?_, fun id' host' => ?_⟩
  · rw [held_proceed]
    exact h.held
  · rw [enrolment_proceed]
    exact h.configured
  · rw [registry_proceed]
    dsimp only
    rw [List.mem_filter, ← h.devices]
    constructor
    · rintro ⟨d, hd, rfl, rfl⟩
      obtain ⟨hd, hne⟩ := Registry.mem_erase.mp hd
      exact ⟨⟨d, hd, rfl, rfl⟩, by simpa using hne⟩
    · rintro ⟨⟨d, hd, rfl, rfl⟩, hne⟩
      exact ⟨d, Registry.mem_erase.mpr ⟨hd, by simpa using hne⟩, rfl, rfl⟩

/-- To remove an entry takes it and its host out of sight. -/
theorem forget (h : ch.Shows entries hosts devices) (entry : Entry) :
    (ch.proceed device (.forget entry)).Shows (entries.filter (·.uniqueId ≠ entry.uniqueId))
      (hosts.filter (· != entry.uniqueId)) devices := by
  refine ⟨?_, ?_, ?_⟩
  · rw [held_proceed]
    dsimp only
    rw [h.held]
  · rw [enrolment_proceed]
    dsimp only
    rw [Enrolment.forget, h.configured]
  · rw [registry_proceed]
    exact h.devices

end Chronicle.Shows

namespace Chronicle

/-- Two hosts are enrolled and set up. -/
def twoHosts (x y : String) : List Command :=
  [.submit ⟨0⟩ (some ⟨x⟩), .submit ⟨1⟩ (some ⟨y⟩), .setUp (.ok ()) (Enrolment.newEntry ⟨0⟩ x),
    .setUp (.ok ()) (Enrolment.newEntry ⟨1⟩ y)]

/-- Two hosts with channels can both be set up. -/
theorem reachable_twoHosts {x y : String} (hx : Host.hasChannels x) (hy : Host.hasChannels y)
    (hxy : x ≠ y) (s : σ) :
    let ch := ofCommands device s (twoHosts x y)
    Reachable device held ch ∧ ∃ d ∈ ch.house.registry.devices, ∃ d' ∈ ch.house.registry.devices,
      d.host = x ∧ d'.host = y := by
  simp only [ofCommands, twoHosts, List.foldl_cons, List.foldl_nil]
  have hreach₀ : Reachable device held (start s) := .start s
  have hreach₁ := hreach₀.submit ⟨0⟩ (some ⟨x⟩)
  have hshows₁ := (Shows.start s).submit device hx (List.not_mem_nil) ⟨0⟩
  have hreach₂ := hreach₁.submit ⟨1⟩ (some ⟨y⟩)
  have hshows₂ := hshows₁.submit device hy (by simpa using hxy.symm) ⟨1⟩
  have hreach₃ := hreach₂.setUp (.ok ()) (Enrolment.newEntry ⟨0⟩ x) (by rw [hshows₂.held]; simp)
  have hshows₃ := hshows₂.setUp device ⟨0⟩ hx (by simp)
  have hreach₄ := hreach₃.setUp (.ok ()) (Enrolment.newEntry ⟨1⟩ y) (by rw [hshows₃.held]; simp)
  have hshows₄ := hshows₃.setUp device ⟨1⟩ hy (by simp)
  obtain ⟨d, hd, -, hhost⟩ := (hshows₄.devices ⟨0⟩ x).mpr (by simp)
  obtain ⟨d', hd', -, hhost'⟩ := (hshows₄.devices ⟨1⟩ y).mpr (by simp)
  exact ⟨hreach₄, d, hd, d', hd', hhost, hhost'⟩

/-- A host is enrolled, set up, unloaded and forgotten, enrolled anew and set up, and then its old
entry is set up again. -/
def oldEntry (x : String) : List Command :=
  [.submit ⟨0⟩ (some ⟨x⟩), .setUp (.ok ()) (Enrolment.newEntry ⟨0⟩ x), .unload ⟨0⟩,
    .forget (Enrolment.newEntry ⟨0⟩ x), .submit ⟨1⟩ (some ⟨x⟩),
    .setUp (.ok ()) (Enrolment.newEntry ⟨1⟩ x), .setUp (.ok ()) (Enrolment.newEntry ⟨0⟩ x)]

/-- An entry set up again after its removal stands beside the one that replaced it. -/
theorem reachable_oldEntry {x : String} (hx : Host.hasChannels x) (s : σ) :
    let ch := ofCommands device s (oldEntry x)
    Reachable device made ch ∧ ∃ d ∈ ch.house.registry.devices, ∃ d' ∈ ch.house.registry.devices,
      d ≠ d' ∧ d.host = x ∧ d'.host = x := by
  simp only [ofCommands, oldEntry, List.foldl_cons, List.foldl_nil]
  have hreach₀ : Reachable device made (start s) := .start s
  have hreach₁ := hreach₀.submit ⟨0⟩ (some ⟨x⟩)
  have hshows₁ := (Shows.start s).submit device hx (List.not_mem_nil) ⟨0⟩
  have hmade₁ : Enrolment.newEntry ⟨0⟩ x ∈ made _ :=
    mem_made_of_mem_held (by rw [hshows₁.held]; simp)
  have hreach₂ := hreach₁.setUp (.ok ()) _ hmade₁
  have hshows₂ := hshows₁.setUp device ⟨0⟩ hx (by simp)
  have hmade₂ := mem_made_proceed device hmade₁ (.setUp (.ok ()) (Enrolment.newEntry ⟨0⟩ x))
  have hreach₃ := hreach₂.unload ⟨0⟩
  have hshows₃ := hshows₂.unload device ⟨0⟩
  have hmade₃ := mem_made_proceed device hmade₂ (.unload ⟨0⟩)
  have hreach₄ := hreach₃.forget _ hmade₃ (hshows₃.find?_eq_none ⟨0⟩ (by simp))
  have hshows₄ := hshows₃.forget device (Enrolment.newEntry ⟨0⟩ x)
  have hmade₄ := mem_made_proceed device hmade₃ (.forget (Enrolment.newEntry ⟨0⟩ x))
  have hreach₅ := hreach₄.submit ⟨1⟩ (some ⟨x⟩)
  have hshows₅ := hshows₄.submit device hx (by simp [Enrolment.newEntry]) ⟨1⟩
  have hmade₅ := mem_made_proceed device hmade₄ (.submit ⟨1⟩ (some ⟨x⟩))
  have hreach₆ := hreach₅.setUp (.ok ()) (Enrolment.newEntry ⟨1⟩ x)
    (mem_made_of_mem_held (by rw [hshows₅.held]; simp))
  have hshows₆ := hshows₅.setUp device ⟨1⟩ hx (by simp)
  have hmade₆ := mem_made_proceed device hmade₅ (.setUp (.ok ()) (Enrolment.newEntry ⟨1⟩ x))
  have hreach₇ := hreach₆.setUp (.ok ()) _ hmade₆
  have hshows₇ := hshows₆.setUp device ⟨0⟩ hx (by simp)
  obtain ⟨d, hd, hid, hhost⟩ := (hshows₇.devices ⟨0⟩ x).mpr (by simp)
  obtain ⟨d', hd', hid', hhost'⟩ := (hshows₇.devices ⟨1⟩ x).mpr (by simp)
  refine ⟨hreach₇, d, hd, d', hd', fun heq => ?_, hhost, hhost'⟩
  rw [heq, hid'] at hid
  cases hid

end Chronicle

/-! ## coinciding identifiers -/

/-- In every chronicle in which only entries of the form are set up, adapters of devices that are set
up have the same identifier if and only if they are of one kind and the hosts of their devices agree
once dots are replaced, and devices have the same identifiers if and only if their hosts so agree.
Where moreover only entries that the form still holds are set up and forgotten, different devices have
different hosts. -/
theorem keys_coincide_iff {ch : Chronicle σ} (hch : Chronicle.Reachable device Chronicle.made ch)
    {d d' : Appliance} (hd : d ∈ ch.house.registry.devices) (hd' : d' ∈ ch.house.registry.devices)
    (k k' : Adapter.Kind) :
    ∃ a a', ch.house.entities[d.handle k]? = some (.adapter a) ∧ a.kind = k ∧
      ch.house.entities[d'.handle k']? = some (.adapter a') ∧ a'.kind = k' ∧
      (a.uniqueId = a'.uniqueId ↔ k = k' ∧ Host.undotted d.host = Host.undotted d'.host) ∧
      (a.deviceInfo.identifiers = a'.deviceInfo.identifiers ↔
        Host.undotted d.host = Host.undotted d'.host) ∧
      (Chronicle.Reachable device Chronicle.held ch → d ≠ d' → d.host ≠ d'.host) := by
  obtain ⟨a, ha, hkind, hhost⟩ := hch.installed d hd k
  obtain ⟨a', ha', hkind', hhost'⟩ := hch.installed d' hd' k'
  refine ⟨a, a', ha, hkind, ha', hkind', ?_, ?_, fun hheld hne heq => ?_⟩
  · rw [Adapter.uniqueId, Adapter.uniqueId, Adapter.idAt_eq_iff, hkind, hkind', hhost, hhost']
  · rw [Adapter.deviceInfo, Adapter.deviceInfo, DeviceInfo.identifiers_ofHost_eq_iff, hhost, hhost']
  · exact hne (hheld.kept.eq_of_host_eq hd hd' heq)

/-- A device that never answers. -/
def muteDevice : Device Unit := fun _ s => (.silence, s)

/-- The lights of two devices whose hosts differ by more than dots have different identifiers. -/
theorem keys_coincide_iff_two_hosts :
    let ch := Chronicle.ofCommands muteDevice () (Chronicle.twoHosts "a.b" "c")
    ∃ d ∈ ch.house.registry.devices, ∃ d' ∈ ch.house.registry.devices, d.host ≠ d'.host ∧
      ∃ a a', ch.house.entities[d.light]? = some (.adapter a) ∧
        ch.house.entities[d'.light]? = some (.adapter a') ∧ a.uniqueId ≠ a'.uniqueId := by
  have hfirst : Host.hasChannels "a.b" :=
    Host.hasChannels_of_plain (m := .domain ['a', '.', 'b']) (by decide) (by decide) (by decide)
  have hsecond : Host.hasChannels "c" :=
    Host.hasChannels_of_plain (m := .domain ['c']) (by decide) (by decide) (by decide)
  obtain ⟨hheld, d, hd, d', hd', hhost, hhost'⟩ :=
    Chronicle.reachable_twoHosts muteDevice hfirst hsecond (by decide) ()
  obtain ⟨a, a', ha, -, ha', -, hids, -, hhosts⟩ :=
    keys_coincide_iff muteDevice hheld.made hd hd' .light .light
  have hne : Host.undotted d.host ≠ Host.undotted d'.host := by
    rw [hhost, hhost']
    decide
  have hdevices : d ≠ d' := fun heq => hne (by rw [heq])
  exact ⟨d, hd, d', hd', hhosts hheld hdevices, a, a', ha, ha', fun heq => hne (hids.mp heq).2⟩

/-- Whether two devices that are set up have the same identifiers, and so have their lights. -/
def Chronicle.Clashes (ch : Chronicle σ) : Prop :=
  ∃ d ∈ ch.house.registry.devices, ∃ d' ∈ ch.house.registry.devices, d ≠ d' ∧
    ∃ a a', ch.house.entities[d.light]? = some (.adapter a) ∧
      ch.house.entities[d'.light]? = some (.adapter a') ∧ a.uniqueId = a'.uniqueId ∧
      a.deviceInfo.identifiers = a'.deviceInfo.identifiers

/-- Two devices clash if their hosts agree but for the dots. -/
theorem Chronicle.clashes_of_undotted {usable : Chronicle σ → List Entry} {ch : Chronicle σ}
    (hch : Reachable device usable ch) {d d' : Appliance} (hd : d ∈ ch.house.registry.devices)
    (hd' : d' ∈ ch.house.registry.devices) (hne : d ≠ d')
    (hhost : Host.undotted d.host = Host.undotted d'.host) : ch.Clashes := by
  obtain ⟨a, ha, hkind, hahost⟩ := hch.installed d hd .light
  obtain ⟨a', ha', hkind', hahost'⟩ := hch.installed d' hd' .light
  refine ⟨d, hd, d', hd', hne, a, a', ha, ha', ?_, ?_⟩
  · rw [Adapter.uniqueId, Adapter.uniqueId, Adapter.idAt_eq_iff, hkind, hkind', hahost, hahost']
    exact ⟨rfl, hhost⟩
  · rw [Adapter.deviceInfo, Adapter.deviceInfo, DeviceInfo.identifiers_ofHost_eq_iff, hahost, hahost']
    exact hhost

/-- Two hosts that differ in a dot get the same identifiers, even if owners keep to the entries that
the form holds; and one host gets them twice if an entry is set up that the form has forgotten. -/
theorem keys_clash :
    let ch := Chronicle.ofCommands muteDevice () (Chronicle.twoHosts "a.b" "a_b")
    let ch' := Chronicle.ofCommands muteDevice () (Chronicle.oldEntry "a.b")
    (Chronicle.Reachable muteDevice Chronicle.held ch ∧ ch.Clashes) ∧
      Chronicle.Reachable muteDevice Chronicle.made ch' ∧ ch'.Clashes := by
  have hfirst : Host.hasChannels "a.b" :=
    Host.hasChannels_of_plain (m := .domain ['a', '.', 'b']) (by decide) (by decide) (by decide)
  have hsecond : Host.hasChannels "a_b" :=
    Host.hasChannels_of_plain (m := .domain ['a', '_', 'b']) (by decide) (by decide) (by decide)
  constructor
  · obtain ⟨hch, d, hd, d', hd', hhost, hhost'⟩ :=
      Chronicle.reachable_twoHosts muteDevice hfirst hsecond (by decide) ()
    refine ⟨hch, Chronicle.clashes_of_undotted muteDevice hch hd hd' (fun heq => ?_) ?_⟩
    · rw [heq, hhost'] at hhost
      exact absurd hhost (by decide)
    · rw [hhost, hhost']
      decide
  · obtain ⟨hch, d, hd, d', hd', hne, hhost, hhost'⟩ :=
      Chronicle.reachable_oldEntry muteDevice hfirst ()
    exact ⟨hch, Chronicle.clashes_of_undotted muteDevice hch hd hd' hne (by rw [hhost, hhost'])⟩

end Greenhouse
