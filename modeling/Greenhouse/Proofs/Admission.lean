import Greenhouse.Proofs.Address
import Greenhouse.Proofs.Chronicle

/-!
# Greenhouse.Proofs.Admission

The hosts that the form admits, and those that can be set up.

The form looks at the characters of a host only, while setting up reads the urls of its channels.  So
there are hosts that get an entry and can never be set up: those that pass for bare addresses and
have no channels.

* `exists_fittings?_iff` — what it takes to set up an entry.
* `refused_of_not_hasChannels` — an entry whose host has no channels is refused, and nothing changes.
* `admits_settable_iff` — for which inputs the form keeps to what can be set up.
-/

namespace Greenhouse

open Dialogue Greenhouse.Text

/-! ## setting up -/

theorem Channel.exists_open?_iff {host : String} {index : UInt32} :
    (∃ c, Channel.open? host index = .ok c) ↔ Host.hasChannels host := by
  constructor
  · rintro ⟨c, hc⟩
    exact (Channel.open?_eq_ok_iff.mp hc).1
  · intro h
    obtain ⟨-, ⟨m, hm⟩, -⟩ := Host.hasChannels_iff.mp h
    exact ⟨_, Channel.open?_eq_ok_iff.mpr ⟨h, m, hm, rfl⟩⟩

/-- A host without channels is a request that makes no sense. -/
theorem Channel.open?_of_not_hasChannels {host : String} (h : ¬ Host.hasChannels host)
    (index : UInt32) : ∃ refusal, Channel.open? host index = .error (.invalidRequest refusal) := by
  have hno : ∀ c, Channel.open? host index ≠ .ok c := fun c hc => h (Channel.open?_eq_ok_iff.mp hc).1
  unfold Channel.open? at hno ⊢
  cases hcheck : Host.check host with
  | error fault => exact ⟨_, rfl⟩
  | ok _ =>
    simp only [hcheck] at hno ⊢
    cases hurl : Url.parse (Channel.urlText host index).toList with
    | error fault => exact ⟨_, rfl⟩
    | ok target =>
      simp only [hurl] at hno ⊢
      split at hno
      · exact absurd rfl (hno _)
      · next hresource => exact ⟨_, if_neg hresource⟩

namespace Registry

variable {r : Registry} {provided : Except String Unit} {entry : Entry}

/-- There are adapters for an entry that is not set up, if there is a client and its host has
channels. -/
theorem exists_fittings?_iff : (∃ f, r.fittings? provided entry = .ok f) ↔
    r.find? entry.id = none ∧ provided = .ok () ∧ Host.hasChannels entry.data.host := by
  constructor
  · rintro ⟨f, hf⟩
    obtain ⟨hfind, hprovided, light, -, hlight, -, -⟩ := fittings?_eq_ok_iff.mp hf
    exact ⟨hfind, hprovided, Channel.exists_open?_iff.mp ⟨light, hlight⟩⟩
  · rintro ⟨hfind, hprovided, hhost⟩
    obtain ⟨light, hlight⟩ := Channel.exists_open?_iff.mpr hhost
    obtain ⟨pump, hpump⟩ := Channel.exists_open?_iff.mpr hhost
    exact ⟨_, fittings?_eq_ok_iff.mpr ⟨hfind, hprovided, light, pump, hlight, hpump, rfl⟩⟩

/-- Where there are no adapters for an entry, it is refused: the caller asks for what makes no sense. -/
theorem fittings?_of_not_exists (h : ¬ ∃ f, r.fittings? provided entry = .ok f) :
    ∃ refusal, r.fittings? provided entry = .error (.invalidRequest refusal) := by
  rw [exists_fittings?_iff] at h
  cases hfind : r.find? entry.id with
  | some d => exact ⟨.alreadySetUp entry.id, by rw [fittings?, hfind]⟩
  | none =>
    cases provided with
    | error cause => exact ⟨.noClient cause, by rw [fittings?, hfind]; rfl⟩
    | ok client =>
      have hhost : ¬ Host.hasChannels entry.data.host := fun hhost => h ⟨hfind, rfl, hhost⟩
      obtain ⟨refusal, hrefusal⟩ := Channel.open?_of_not_hasChannels hhost Role.light.index
      exact ⟨refusal, by rw [fittings?_of_find?_eq_none hfind, Fittings.atHost, hrefusal]; rfl⟩

end Registry

namespace House

variable {provided : Except String Unit} {entry : Entry} {h : House}

/-- A device can be set up if there is a client and its host has channels, unless its entry is set up
already. -/
theorem exists_setUp_iff : (∃ d h', (h.setUp provided entry).value? = some (.ok d, h')) ↔
    h.registry.find? entry.id = none ∧ provided = .ok () ∧ Host.hasChannels entry.data.host := by
  rw [← Registry.exists_fittings?_iff]
  constructor
  · rintro ⟨d, h', hd⟩
    cases hf : h.registry.fittings? provided entry with
    | error e => rw [value?_setUp_of_error hf] at hd; cases hd
    | ok f => exact ⟨f, rfl⟩
  · rintro ⟨f, hf⟩
    exact ⟨_, _, value?_setUp_of_ok hf⟩

/-- A device that cannot be set up is refused, and nothing changes. -/
theorem refused_of_not_settable (hnot : ¬ (h.registry.find? entry.id = none ∧ provided = .ok () ∧
      Host.hasChannels entry.data.host)) :
    ∃ refusal, (h.setUp provided entry).value? = some (.error (.invalidRequest refusal), h) := by
  rw [← Registry.exists_fittings?_iff] at hnot
  obtain ⟨refusal, hrefusal⟩ := Registry.fittings?_of_not_exists hnot
  exact ⟨refusal, value?_setUp_of_error hrefusal⟩

end House

/-! ## the form -/

namespace Enrolment

variable {f f' : Enrolment} {id : EntryId} {input : UserInput}

/-- The form makes an entry of a host that passes for a bare address and is not configured yet. -/
theorem step_eq_entry_iff {e : Entry} : f.step id (some input) = (.entry e, f') ↔
    Host.check (hostOf input.host) = .ok () ∧ ¬ f.isConfigured (hostOf input.host) ∧
      e = newEntry id (hostOf input.host) ∧ f' = ⟨hostOf input.host :: f.configured⟩ := by
  simp only [step]
  cases hcheck : Host.check (hostOf input.host) with
  | error fault => simp
  | ok _ =>
    by_cases hconfigured : f.isConfigured (hostOf input.host)
    · simp [hconfigured]
    · simp [hconfigured, eq_comm]

/-- A bare address has nothing to trim. -/
theorem hostOf_of_check {host : String} (h : Host.check host = .ok ()) : hostOf host = host := by
  have hbare := (Host.check_eq_ok_iff.mp h).2
  have hblank : ∀ c ∈ host.toList, isBlank c = false :=
    fun c hc => (Host.not_mem_of_isBare (hbare c hc)).2.2.2
  rw [hostOf, trim_eq_self (fun c hc => hblank c (List.mem_of_mem_head? hc))
    (fun c hc => hblank c (List.mem_of_getLast? hc)), String.ofList_toList]

/-- A step makes an entry of a new host and has it configured, or changes nothing. -/
theorem step_cases (f : Enrolment) (id : EntryId) (input : Option UserInput) :
    (∃ host, ¬ f.isConfigured host ∧
        f.step id input = (.entry (newEntry id host), ⟨host :: f.configured⟩)) ∨
      (∀ e, (f.step id input).1 ≠ .entry e) ∧ (f.step id input).2 = f := by
  cases input with
  | none => exact .inr ⟨fun e h => (by cases h), rfl⟩
  | some input =>
    simp only [step]
    cases hcheck : Host.check (hostOf input.host) with
    | error fault => exact .inr ⟨fun e h => (by cases h), rfl⟩
    | ok _ =>
      by_cases hconfigured : f.isConfigured (hostOf input.host)
      · rw [if_pos hconfigured]
        exact .inr ⟨fun e h => (by cases h), rfl⟩
      · exact .inl ⟨hostOf input.host, hconfigured, by simp [hconfigured]⟩

/-- A host that does not pass for a bare address shows the form again, and nothing else does. -/
theorem step_eq_invalid_iff :
    f.step id (some input) = (.form "user" ["host"] [("host", "invalid_host")], f) ↔
      Host.check (hostOf input.host) ≠ .ok () := by
  simp only [step]
  cases hcheck : Host.check (hostOf input.host) with
  | error fault => simp [form, stepName, hostField, invalidHost]
  | ok _ => by_cases hconfigured : f.isConfigured (hostOf input.host) <;> simp [hconfigured]

/-- The inputs for which the form keeps to what can be set up: it makes no entry, or one whose host
has channels.  For these inputs and for no others an entry that it makes can be set up wherever it is
not set up already and there is a client; and for these inputs and for no others a host without
channels, which is not configured, is answered with the form's error and not noted as configured.  For
all others the form makes an entry, notes its host as configured, and every attempt to set it up is
refused. -/
theorem admits_settable_iff (f : Enrolment) (id : EntryId) (input : UserInput) :
    let host := hostOf input.host
    let kept := Host.check host ≠ .ok () ∨ f.isConfigured host ∨ Host.hasChannels host
    ((∀ e f', f.step id (some input) = (.entry e, f') →
        ∀ h : House, h.registry.find? e.id = none →
          ∃ d h', (h.setUp (.ok ()) e).value? = some (.ok d, h')) ↔ kept) ∧
      ((¬ Host.hasChannels host → ¬ f.isConfigured host →
        f.step id (some input) = (.form "user" ["host"] [("host", "invalid_host")], f)) ↔ kept) ∧
      (¬ kept → f.step id (some input) = (.entry (newEntry id host), ⟨host :: f.configured⟩) ∧
        ∀ (h : House) (provided : Except String Unit), ∃ refusal,
          (h.setUp provided (newEntry id host)).value? =
            some (.error (.invalidRequest refusal), h)) ∧
      (Host.hasChannels host ↔ ∀ index, ∃ c, Channel.open? host index = .ok c) := by
  intro host kept
  refine ⟨⟨fun hall => ?_, ?_⟩, ⟨fun hform => ?_, ?_⟩, fun hnot => ?_, ?_⟩
  · by_cases hcheck : Host.check host = .ok ()
    · by_cases hconfigured : f.isConfigured host
      · exact .inr (.inl hconfigured)
      · have hentry := hall _ _ (step_eq_entry_iff.mpr ⟨hcheck, hconfigured, rfl, rfl⟩) .empty rfl
        exact .inr (.inr (House.exists_setUp_iff.mp hentry).2.2)
    · exact .inl hcheck
  · rintro hkept e f' hstep h hfind
    obtain ⟨hcheck, hconfigured, rfl, -⟩ := step_eq_entry_iff.mp hstep
    obtain hbad | hconfigured' | hhost := hkept
    · exact absurd hcheck hbad
    · exact absurd hconfigured' hconfigured
    · exact House.exists_setUp_iff.mpr ⟨hfind, rfl, hhost⟩
  · by_cases hhost : Host.hasChannels host
    · exact .inr (.inr hhost)
    · by_cases hconfigured : f.isConfigured host
      · exact .inr (.inl hconfigured)
      · exact .inl (step_eq_invalid_iff.mp (hform hhost hconfigured))
  · rintro hkept hhost hconfigured
    obtain hbad | hconfigured' | hhost' := hkept
    · exact step_eq_invalid_iff.mpr hbad
    · exact absurd hconfigured' hconfigured
    · exact absurd hhost' hhost
  · obtain ⟨hcheck, hconfigured, hhost⟩ : Host.check host = .ok () ∧ ¬ f.isConfigured host ∧
        ¬ Host.hasChannels host := by
      simpa only [kept, not_or, not_not] using hnot
    exact ⟨step_eq_entry_iff.mpr ⟨hcheck, hconfigured, rfl, rfl⟩,
      fun h provided => House.refused_of_not_settable fun hset => hhost hset.2.2⟩
  · exact ⟨fun h index => Channel.exists_open?_iff.mpr h, fun h => Channel.exists_open?_iff.mp (h 0)⟩

/-- A bracket that is not closed: the form makes an entry, which cannot be set up. -/
theorem admits_unsettable_bracket :
    empty.step ⟨0⟩ (some ⟨"[::1"⟩) = (.entry (newEntry ⟨0⟩ "[::1"), ⟨["[::1"]⟩) ∧
      (House.empty.setUp (.ok ()) (newEntry ⟨0⟩ "[::1")).value? =
        some (.error (.invalidRequest (.url "http://[::1/power/0" .invalidIpv6)), .empty) := by
  constructor
  · rfl
  · rfl

end Enrolment

end Greenhouse
