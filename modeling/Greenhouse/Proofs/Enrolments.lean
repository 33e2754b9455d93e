import Greenhouse.Proofs.Keys

/-!
# Greenhouse.Proofs.Enrolments

Which hosts are configured, told from what has happened.

The enrolment keeps a list of hosts and no record of how they got there.  The record is kept beside
it here: the entries that it began with, those that the form has made, and those that it was told to
forget, whether it knew them or not.

* `Accounts` — a host is configured if the last event about it has configured it.
* `Submits` — what comes of a text in the form, for the text without the white space around it.
* `enrolment_of_run` — both for all runs.
-/

namespace Greenhouse

open Dialogue Greenhouse.Text

namespace Enrolment

/-! ## events -/

/-- What settles whether a host is configured. -/
inductive Event where
  /-- The enrolment began with the entry. -/
  | restored (entry : Entry)
  /-- The form made the entry. -/
  | created (entry : Entry)
  | forgotten (entry : Entry)

namespace Event

/-- The host that an event concerns. -/
def host : Event → String
  | restored entry => entry.uniqueId
  | created entry => entry.data.host
  | forgotten entry => entry.uniqueId

/-- Whether an event leaves its host configured. -/
def configures : Event → Bool
  | forgotten _ => false
  | _ => true

end Event

/-- The last event that concerns a host, the events being given latest first. -/
def lastAbout? (past : List Event) (host : String) : Option Event := past.find? (·.host == host)

/-- Whether a host is configured after some events. -/
def configuredBy (past : List Event) (host : String) : Bool :=
  (lastAbout? past host).any Event.configures

/-- Only the last event about a host counts. -/
theorem configuredBy_cons (e : Event) (past : List Event) (host : String) :
    configuredBy (e :: past) host =
      if e.host = host then e.configures else configuredBy past host := by
  by_cases h : e.host = host <;> simp [configuredBy, lastAbout?, h]

/-- A host is configured if there is a last event about it and that is not its removal. -/
theorem configuredBy_iff {past : List Event} {host : String} : configuredBy past host ↔
    ∃ e, lastAbout? past host = some e ∧ ∀ entry, e ≠ .forgotten entry := by
  have hconfigures : ∀ e : Event, e.configures ↔ ∀ entry, e ≠ .forgotten entry := by
    intro e
    cases e <;> simp [Event.configures]
  simp [configuredBy, Option.any_eq_true, hconfigures]

/-- What the events up to now have to do with the hosts that are configured. -/
structure Accounts (past : List Event) (f : Enrolment) : Prop where
  configured : ∀ host, f.isConfigured host = configuredBy past host
  /-- Entries were made only of hosts that were not configured then. -/
  fresh : ∀ newer e older, past = newer ++ .created e :: older → configuredBy older e.data.host = false

namespace Accounts

variable {past : List Event} {f : Enrolment}

/-- A flow that starts with entries accounts for them. -/
theorem restored (entries : List Entry) :
    Accounts (entries.map .restored) (.ofEntries entries) where
  configured host := by
    induction entries with
    | nil => rfl
    | cons entry entries ih =>
      simp only [List.map_cons, configuredBy_cons, ← ih, Event.host, Event.configures]
      by_cases h : host = entry.uniqueId
      · simp [isConfigured, ofEntries, h]
      · simp [isConfigured, ofEntries, h, Ne.symm h]
  fresh newer e older h := by
    have hmem : Event.created e ∈ entries.map .restored := by simp [h]
    simp at hmem

/-- An event that creates nothing for a configured host keeps every creation fresh. -/
theorem fresh_cons (h : Accounts past f) {e : Event}
    (he : ∀ entry, e = .created entry → configuredBy past entry.data.host = false) :
    ∀ newer e' older, e :: past = newer ++ .created e' :: older →
      configuredBy older e'.data.host = false := by
  intro newer e' older hsplit
  cases newer with
  | nil =>
    obtain ⟨rfl, rfl⟩ := List.cons.inj hsplit
    exact he e' rfl
  | cons x newer => exact h.fresh newer e' older (List.cons.inj hsplit).2

/-- A flow that creates an entry for a new host accounts for that. -/
theorem created (h : Accounts past f) {host : String} (hnew : ¬ f.isConfigured host) (id : EntryId) :
    Accounts (.created (newEntry id host) :: past) ⟨host :: f.configured⟩ where
  configured other := by
    rw [configuredBy_cons, ← h.configured]
    by_cases hother : other = host
    · simp [isConfigured, Event.host, Event.configures, newEntry, hother]
    · simp [isConfigured, Event.host, newEntry, hother, Ne.symm hother]
  fresh := h.fresh_cons fun entry hentry => by
    cases hentry
    rw [← h.configured]
    exact Bool.eq_false_iff.mpr hnew

/-- A flow that forgets an entry accounts for that. -/
theorem forgotten (h : Accounts past f) (entry : Entry) :
    Accounts (.forgotten entry :: past) (f.forget entry.uniqueId) where
  configured host := by
    rw [configuredBy_cons, ← h.configured, Bool.eq_iff_iff, isConfigured_forget]
    by_cases hhost : host = entry.uniqueId
    · simp [Event.host, Event.configures, hhost]
    · simp [Event.host, hhost, Ne.symm hhost]
  fresh := h.fresh_cons fun _ hentry => by cases hentry

/-- Between two entries of one host, the host was forgotten. -/
theorem exists_forgotten (h : Accounts past f) {newer between older : List Event} {e e' : Entry}
    (hpast : past = newer ++ .created e :: (between ++ .created e' :: older))
    (hhost : e.data.host = e'.data.host) :
    ∃ entry, Event.forgotten entry ∈ between ∧ entry.uniqueId = e.data.host := by
  have hfresh := h.fresh newer e _ hpast
  rw [configuredBy, lastAbout?, List.find?_append] at hfresh
  cases hlast : between.find? (·.host == e.data.host) with
  | none =>
    -- the older of the two entries would have left the host configured
    rw [hlast, hhost] at hfresh
    simp [Event.host, Event.configures] at hfresh
  | some last =>
    have hmem := List.mem_of_find?_eq_some hlast
    have habout := List.find?_some hlast
    rw [hlast] at hfresh
    cases last with
    | forgotten entry => exact ⟨entry, hmem, by simpa [Event.host] using habout⟩
    | _ => cases hfresh

end Accounts

/-! ## the text of an input -/

/-- Whether a host is what is left of a text without the white space around it. -/
def IsTrimmed (raw host : String) : Prop :=
  ∃ front back, (∀ c ∈ front, isBlank c) ∧ (∀ c ∈ back, isBlank c) ∧
    raw.toList = front ++ (host.toList ++ back) ∧
    (∀ c ∈ host.toList.head?, isBlank c = false) ∧ ∀ c ∈ host.toList.getLast?, isBlank c = false

/-- The host asked for is the text without the white space around it. -/
theorem hostOf_eq_iff {raw host : String} : hostOf raw = host ↔ IsTrimmed raw host := by
  rw [IsTrimmed, ← trim_eq_iff, hostOf, ← String.toList_inj, String.toList_ofList]

/-- White space around a text does not matter. -/
theorem hostOf_padded {front back : List Char} (hfront : ∀ c ∈ front, isBlank c)
    (hback : ∀ c ∈ back, isBlank c) (raw : String) :
    hostOf (String.ofList (front ++ (raw.toList ++ back))) = hostOf raw := by
  rw [hostOf, hostOf, String.toList_ofList, trim_append_left hfront, trim_append_right hback]

/-- What comes of submitting a host: the answer, and the enrolment afterwards. -/
structure Submits (f : Enrolment) (id : EntryId) (host : String) (answer : Command.Answer)
    (f' : Enrolment) : Prop where
  invalid : answer = .stepped (.form "user" ["host"] [("host", "invalid_host")]) ↔
    Host.check host ≠ .ok ()
  already : answer = .stepped (.abort "already_configured") ↔
    Host.check host = .ok () ∧ f.isConfigured host
  created : ∀ entry, answer = .stepped (.entry entry) ↔
    Host.check host = .ok () ∧ ¬ f.isConfigured host ∧
      entry = ⟨id, 1, "PlantCare " ++ host, host, ⟨host⟩⟩
  unchanged : (∀ entry, answer ≠ .stepped (.entry entry)) → f' = f
  added : ∀ entry, answer = .stepped (.entry entry) →
    ∀ other, f'.isConfigured other ↔ f.isConfigured other ∨ other = host

/-- What a step of the flow does is what submitting its host may do. -/
theorem submits_step (f : Enrolment) (id : EntryId) (raw : String) :
    Submits f id (hostOf raw) (.stepped (f.step id (some ⟨raw⟩)).1) (f.step id (some ⟨raw⟩)).2 := by
  simp only [step]
  cases hcheck : Host.check (hostOf raw) with
  | error fault => constructor <;> simp [hcheck, form, stepName, hostField, invalidHost]
  | ok _ =>
    by_cases hconfigured : f.isConfigured (hostOf raw)
    · constructor <;> simp [hcheck, hconfigured, alreadyConfiguredReason]
    · rw [if_neg hconfigured]
      constructor
      case created => simp [hcheck, hconfigured, newEntry, version, eq_comm]
      case added => simp [isConfigured_iff, or_comm]
      all_goals simp [hcheck, hconfigured]

end Enrolment

/-! ## runs -/

namespace Chronicle

open Enrolment

variable {σ : Type} (device : Device σ)

/-- Nothing has happened yet since entries were restored. -/
def restored (entries : List Entry) (s : σ) : Chronicle σ :=
  ⟨{ House.empty with enrolment := .ofEntries entries }, s, []⟩

/-- The chronicle of some commands from when entries were restored. -/
def ofRestored (entries : List Entry) (s : σ) (commands : List Command) : Chronicle σ :=
  commands.foldl (proceed device) (restored entries s)

/-- What an episode settles about a host, if anything. -/
def event? (e : Episode) : Option Event :=
  match e.command with
  | .submit .. => (made? e).map .created
  | .forget entry => some (.forgotten entry)
  | _ => none

/-- What has settled which hosts are configured, the latest first. -/
def past (entries : List Entry) (ch : Chronicle σ) : List Event :=
  ch.episodes.filterMap event? ++ entries.map .restored

/-- Of the commands only a submission that creates an entry and a removal leave an event. -/
theorem past_proceed (entries : List Entry) (ch : Chronicle σ) (c : Command) :
    (ch.proceed device c).past entries =
      match c with
      | .submit id input =>
        match (ch.house.enrolment.step id input).1 with
        | .entry entry => .created entry :: ch.past entries
        | _ => ch.past entries
      | .forget entry => .forgotten entry :: ch.past entries
      | _ => ch.past entries := by
  cases c with
  | submit id input =>
    rw [(proceed_of_value? device (Command.value?_submit id input _)).2]
    dsimp only
    cases hstep : (ch.house.enrolment.step id input).1 <;> rfl
  | _ => rfl

/-- Every command keeps the flow in step with its past. -/
theorem accounts_proceed {entries : List Entry} {ch : Chronicle σ}
    (h : Accounts (ch.past entries) ch.house.enrolment) (c : Command) :
    Accounts ((ch.proceed device c).past entries) (ch.proceed device c).house.enrolment := by
  rw [past_proceed, enrolment_proceed]
  cases c with
  | submit id input =>
    dsimp only
    obtain ⟨host, hnew, hstep⟩ | ⟨hno, hstate⟩ := ch.house.enrolment.step_cases id input
    · rw [hstep]
      exact h.created hnew id
    · rw [hstate]
      cases hresult : (ch.house.enrolment.step id input).1 with
      | entry entry => exact absurd hresult (hno entry)
      | _ => exact h
  | forget entry => exact h.forgotten entry
  | _ => exact h

/-- After any commands the flow accounts for all that came before. -/
theorem accounts_ofRestored (entries : List Entry) (s : σ) (commands : List Command) :
    Accounts ((ofRestored device entries s commands).past entries)
      (ofRestored device entries s commands).house.enrolment := by
  have hrestored : Accounts ((restored entries s).past entries) (restored entries s).house.enrolment :=
    .restored entries
  exact foldl_invariant device (P := fun ch => Accounts (ch.past entries) ch.house.enrolment)
    hrestored (fun _ c h => accounts_proceed device h c) commands

/-- A step of the form gives the answer of its command and the enrolment afterwards. -/
theorem submit_proceed (ch : Chronicle σ) (id : EntryId) (input : Option UserInput) :
    (ch.episode device (.submit id input)).answer = .stepped (ch.house.enrolment.step id input).1 ∧
      (ch.proceed device (.submit id input)).house.enrolment =
        (ch.house.enrolment.step id input).2 := by
  obtain ⟨hepisode, hproceed⟩ := proceed_of_value? device (Command.value?_submit id input ch.house)
  rw [hepisode, hproceed]
  exact ⟨rfl, rfl⟩

/-- Over all runs from any entries, through any commands in between: a host is configured if the last
event about it is none that forgets it; between two entries of one host it was forgotten; a text is
answered by what it is without the white space around it; the form without input changes nothing; and
forgetting tells whether the host was configured, and takes away that host. -/
theorem enrolment_of_run (entries : List Entry) (s : σ) (commands : List Command) :
    let ch := ofRestored device entries s commands
    let f := ch.house.enrolment
    let answer := fun c => (ch.episode device c).answer
    let after := fun c => (ch.proceed device c).house.enrolment
    (∀ host, f.isConfigured host ↔
        ∃ e, lastAbout? (ch.past entries) host = some e ∧ ∀ entry, e ≠ .forgotten entry) ∧
      (∀ newer between older e e',
        ch.past entries = newer ++ .created e :: (between ++ .created e' :: older) →
          e.data.host = e'.data.host →
            ∃ entry, Event.forgotten entry ∈ between ∧ entry.uniqueId = e.data.host) ∧
      (∀ raw, ∃! host, IsTrimmed raw host) ∧
      (∀ id raw host, IsTrimmed raw host →
        Submits f id host (answer (.submit id (some ⟨raw⟩))) (after (.submit id (some ⟨raw⟩)))) ∧
      (∀ id raw front back, (∀ c ∈ front, isBlank c) → (∀ c ∈ back, isBlank c) →
        let padded := String.ofList (front ++ (raw.toList ++ back))
        answer (.submit id (some ⟨padded⟩)) = answer (.submit id (some ⟨raw⟩)) ∧
          after (.submit id (some ⟨padded⟩)) = after (.submit id (some ⟨raw⟩))) ∧
      (∀ id, answer (.submit id none) = .stepped (.form "user" ["host"] []) ∧
        after (.submit id none) = f) ∧
      ∀ entry, answer (.forget entry) = .forgotten (f.isConfigured entry.uniqueId) ∧
        ∀ host, (after (.forget entry)).isConfigured host ↔
          f.isConfigured host ∧ host ≠ entry.uniqueId := by
  intro ch f answer after
  have haccounts := accounts_ofRestored device entries s commands
  have hanswer : ∀ id input, answer (.submit id input) = .stepped (f.step id input).1 :=
    fun id input => (submit_proceed device ch id input).1
  have hafter : ∀ id input, after (.submit id input) = (f.step id input).2 :=
    fun id input => (submit_proceed device ch id input).2
  refine ⟨fun host => ?_, fun newer between older e e' => haccounts.exists_forgotten, fun raw => ?_,
    fun id raw host htrimmed => ?_, ?_, fun id => ⟨hanswer id none, hafter id none⟩,
    fun entry => ?_⟩
  · rw [haccounts.configured, configuredBy_iff]
  · exact ⟨hostOf raw, hostOf_eq_iff.mp rfl, fun host h => (hostOf_eq_iff.mpr h).symm⟩
  · obtain rfl := hostOf_eq_iff.mpr htrimmed
    rw [hanswer, hafter]
    exact submits_step f id raw
  · intro id raw front back hfront hback padded
    have hstep : f.step id (some ⟨padded⟩) = f.step id (some ⟨raw⟩) := by
      simp only [step, padded, hostOf_padded hfront hback]
    rw [hanswer, hanswer, hafter, hafter, hstep]
    exact ⟨rfl, rfl⟩
  · obtain ⟨hepisode, hproceed⟩ := proceed_of_value? device (Command.value?_forget entry ch.house)
    have hforgotten : after (.forget entry) = f.forget entry.uniqueId :=
      congrArg (·.house.enrolment) hproceed
    refine ⟨congrArg Episode.answer hepisode, fun host => ?_⟩
    rw [hforgotten, isConfigured_forget]

/-- A home in which nothing has been configured begins without entries. -/
example (s : σ) (commands : List Command) :
    ofRestored device [] s commands = ofCommands device s commands := rfl

end Chronicle

end Greenhouse
