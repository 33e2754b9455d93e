import Greenhouse.CommandLine
import Greenhouse.Proofs.Fittings
import Greenhouse.Proofs.Lines
import Greenhouse.Proofs.Numerals
import Greenhouse.Proofs.Persistence
import Greenhouse.Proofs.Redirects

/-!
# Greenhouse.Proofs.Controls

What the command line does with its arguments, unless it is to watch.

There are four ways that it can end.  It may be used wrongly, or the host may be refused; then nothing
is sent.  Otherwise there is an operation of a channel, which fails or gives a level.  Which of these
it is depends on the arguments up to the third, on the host before the others, and on the device only
for the operation.

The lines that it writes are those of the log, which go up to the set-up of the device, and behind them
one line for a level if there is one.

* `number_eq_ok_iff` — which arguments are read as a number.
* `Asks` — what a target and an action ask for.
* `Log` — what the log says.
* `controls_run` — which arguments end in which way, what is sent, and what is written.
-/

namespace Greenhouse.CommandLine

open Greenhouse.Text Dialogue

/-! ## numbers -/

/-- More digits never make a number smaller. -/
theorem le_ofDigitChars (n : Nat) (cs : List Char) : n ≤ Nat.ofDigitChars 10 cs n := by
  induction cs generalizing n with
  | nil => exact Nat.le_refl n
  | cons c cs ih =>
    rw [Nat.ofDigitChars_cons]
    exact Nat.le_trans (by omega) (ih _)

/-- Digits are read onto a number just if what they denote behind it is below the bound. -/
theorem digits_eq_ok_iff {bound n m : Nat} (hn : n < bound) {cs : List Char} :
    digits bound n cs = .ok m ↔
      (∀ c ∈ cs, c.isDigit) ∧ Nat.ofDigitChars 10 cs n = m ∧ m < bound := by
  induction cs generalizing n with
  | nil =>
    simp only [digits, Except.ok.injEq, List.not_mem_nil, false_implies, implies_true, true_and,
      Nat.ofDigitChars_nil]
    constructor
    · rintro rfl
      exact ⟨rfl, hn⟩
    · exact And.left
  | cons c cs ih =>
    rw [digits, List.forall_mem_cons, Nat.ofDigitChars_cons]
    by_cases hc : c.isDigit
    · by_cases hnext : 10 * n + (c.toNat - '0'.toNat) < bound
      · simp only [hc, if_true, if_pos hnext, ih hnext, true_and]
      · -- what is too large already stays so
        have hle := le_ofDigitChars (10 * n + (c.toNat - '0'.toNat)) cs
        simp only [hc, if_true, if_neg hnext, reduceCtorEq, false_iff]
        rintro ⟨-, rfl, hlt⟩
        omega
    · simp [hc]

theorem digits_zero_eq_ok_iff {bound n : Nat} (hbound : 0 < bound) {cs : List Char} (hne : cs ≠ []) :
    digits bound 0 cs = .ok n ↔ Decimal.Digits cs n ∧ n < bound := by
  rw [digits_eq_ok_iff hbound, ← Decimal.nat?_eq_some_iff, Decimal.nat?_eq_some_iff_ofDigitChars]
  simp [hne, and_assoc]

/-- One or more digits that denote a number below a bound, perhaps behind a plus sign. -/
def IsNumber (bound : Nat) (argument : String) (n : Nat) : Prop :=
  ∃ sign ds, argument.toList = sign ++ ds ∧ (sign = [] ∨ sign = ['+']) ∧ Decimal.Digits ds n ∧
    n < bound

/-- Digits do not begin with a sign. -/
theorem head?_ne_of_digits {cs : List Char} {n : Nat} (h : Decimal.Digits cs n) :
    cs.head? ≠ some '+' := by
  intro hhead
  exact absurd (h.isDigit_head '+' hhead) (by decide)

/-- Which arguments are read as a number. -/
theorem number_eq_ok_iff {bound n : Nat} (hbound : 0 < bound) {argument : String} :
    number bound argument = .ok n ↔ IsNumber bound argument n := by
  unfold number IsNumber
  split
  · next hnil =>
    simp only [reduceCtorEq, false_iff, hnil]
    rintro ⟨sign, ds, hds, -, hdigits, -⟩
    exact hdigits.ne_nil (List.append_eq_nil_iff.mp hds.symm).2
  · next hplus =>
    simp only [reduceCtorEq, false_iff, hplus]
    rintro ⟨sign, ds, hds, rfl | rfl, hdigits, -⟩
    · exact head?_ne_of_digits hdigits (by rw [← List.nil_append ds, ← hds]; rfl)
    · exact hdigits.ne_nil (List.cons.inj hds).2.symm
  · next cs hne hcs =>
    rw [digits_zero_eq_ok_iff hbound (by rintro rfl; exact hne rfl), hcs]
    constructor
    · rintro ⟨hdigits, hlt⟩
      exact ⟨['+'], cs, rfl, .inr rfl, hdigits, hlt⟩
    · rintro ⟨sign, ds, hds, rfl | rfl, hdigits, hlt⟩
      · exact absurd (by rw [← List.nil_append ds, ← hds]; rfl) (head?_ne_of_digits hdigits)
      · obtain rfl := (List.cons.inj hds).2
        exact ⟨hdigits, hlt⟩
  · next hnil _ hplus =>
    rw [digits_zero_eq_ok_iff hbound hnil]
    constructor
    · rintro ⟨hdigits, hlt⟩
      exact ⟨[], argument.toList, rfl, .inl rfl, hdigits, hlt⟩
    · rintro ⟨sign, ds, hds, rfl | rfl, hdigits, hlt⟩
      · rw [hds]
        exact ⟨hdigits, hlt⟩
      · exact absurd hds (hplus ds)

/-! ## targets and actions -/

/-- The words for what can be controlled. -/
inductive Names : String → Adapter.Kind → Prop where
  | light : Names "light" .light
  | pump : Names "pump" .pump

/-- What a target and an action ask for: an adapter, and an operation of its channel. -/
inductive Asks : String → Option String → Adapter.Kind → Channel.Operation → Prop where
  | look {target : String} {kind : Adapter.Kind} (h : Names target kind) : Asks target none kind .read
  | on {target : String} {kind : Adapter.Kind} (h : Names target kind) :
    Asks target (some "on") kind (.write .full)
  | off {target : String} {kind : Adapter.Kind} (h : Names target kind) :
    Asks target (some "off") kind (.write .off)
  | level {level : String} {n : Nat} {p : Power} (h : IsNumber 256 level n) (hp : p.toInt = n) :
    Asks "light" (some level) .light (.write p)

theorem Names.ne_poll {target : String} {kind : Adapter.Kind} (h : Names target kind) :
    target ≠ "poll" := by
  cases h <;> decide

theorem Asks.ne_poll {target : String} {action : Option String} {kind : Adapter.Kind}
    {op : Channel.Operation} (h : Asks target action kind op) : target ≠ "poll" := by
  cases h with
  | look h => exact h.ne_poll
  | on h => exact h.ne_poll
  | off h => exact h.ne_poll
  | level h hp => decide

theorem onLevel_none (a : Adapter) : a.onLevel none = .full := by
  unfold Adapter.onLevel
  cases a.kind <;> rfl

/-- What is asked for is a call that is this operation. -/
theorem control?_of_asks {f : Fittings} (hf : ∀ k, (f.ofKind k).kind = k) {target : String}
    {action : Option String} {kind : Adapter.Kind} {op : Channel.Operation}
    (h : Asks target action kind op) :
    ∃ c, control? f target action = some (f.ofKind kind, c) ∧
      (f.ofKind kind).exchange c = .ok ((f.ofKind kind).channel.perform op) := by
  cases h with
  | look h => cases h <;> exact ⟨.update, rfl, rfl⟩
  | on h =>
    refine ⟨.turnOn none, ?_, ?_⟩
    · cases h <;> rfl
    · rw [Adapter.exchange, onLevel_none]
      rfl
  | off h => cases h <;> exact ⟨.turnOff, rfl, rfl⟩
  | @level level n p h hp =>
    have hnumber := (number_eq_ok_iff (by decide)).mpr h
    have hon : level ≠ "on" := by
      rintro rfl
      cases hnumber
    have hoff : level ≠ "off" := by
      rintro rfl
      cases hnumber
    obtain ⟨-, -, -, -, -, hlt⟩ := h
    have hlevel : f.light.onLevel (some (UInt8.ofNat n)) = p := by
      have hlight : f.light.kind = .light := hf .light
      unfold Adapter.onLevel
      rw [hlight]
      apply Power.ext
      rw [hp]
      exact congrArg Int.ofNat (UInt8.toNat_ofNat_of_lt' hlt)
    refine ⟨.turnOn (some (UInt8.ofNat n)), ?_, ?_⟩
    · have hsize : number UInt8.size level = .ok n := hnumber
      rw [control?, hsize]
      · rfl
      · exact hon
      · exact hoff
    · rw [Adapter.exchange]
      exact congrArg (fun p => Except.ok (f.light.channel.set p)) hlevel

/-- Whatever makes sense is asked for. -/
theorem exists_asks {f : Fittings} {target : String} {action : Option String}
    {x : Adapter × Adapter.Call} (h : control? f target action = some x) :
    ∃ kind op, Asks target action kind op := by
  unfold control? at h
  split at h
  · exact ⟨_, _, .look .light⟩
  · exact ⟨_, _, .on .light⟩
  · exact ⟨_, _, .off .light⟩
  · split at h
    · next n hnumber =>
      have hlevel := (number_eq_ok_iff (by decide)).mp hnumber
      have ⟨_, _, _, _, _, hlt⟩ := hlevel
      exact ⟨_, _, .level hlevel (p := .ofUInt8 (UInt8.ofNat n))
        (congrArg Int.ofNat (UInt8.toNat_ofNat_of_lt' hlt))⟩
    · cases h
  · exact ⟨_, _, .look .pump⟩
  · exact ⟨_, _, .on .pump⟩
  · exact ⟨_, _, .off .pump⟩
  · cases h

/-! ## setting up -/

/-- Whether a host can be set up: the form makes an entry of it, which has adapters. -/
def IsSettable (provided : Except String Unit) (id : EntryId) (host : String) : Prop :=
  ∃ entry f, (Enrolment.empty.step id (some ⟨host⟩)).1 = .entry entry ∧
    Registry.empty.fittings? provided entry = .ok f

/-- What the log says of a device that is set up at a host. -/
def settingUp (host : String) : List Note :=
  [.entryCreated host, .entityCreated "Light" (Adapter.idAt host .light) host,
    .entityCreated "Switch" (Adapter.idAt host .pump) host]

/-- What the log says for some arguments.  It begins once the form makes an entry, and ends with the
set-up of the device. -/
inductive Log (provided : Except String Unit) (id : EntryId) : List String → List Note → Prop where
  | few {arguments : List String} (h : arguments.length < 2) : Log provided id arguments []
  | rejected {host target : String} {rest : List String}
      (h : Host.check (Enrolment.hostOf host) ≠ .ok ()) : Log provided id (host :: target :: rest) []
  | created {host target : String} {rest : List String}
      (hcheck : Host.check (Enrolment.hostOf host) = .ok ()) (h : ¬ IsSettable provided id host) :
    Log provided id (host :: target :: rest) [.entryCreated (Enrolment.hostOf host)]
  | setUp {host target : String} {rest : List String} (h : IsSettable provided id host) :
    Log provided id (host :: target :: rest) (settingUp (Enrolment.hostOf host))

section

variable {provided : Except String Unit} {id : EntryId} {host : String}

/-- The form makes no entries but that of the host without the white space around it. -/
theorem entry_of_step {entry : Entry} (h : (Enrolment.empty.step id (some ⟨host⟩)).1 = .entry entry) :
    Host.check (Enrolment.hostOf host) = .ok () ∧
      entry = Enrolment.newEntry id (Enrolment.hostOf host) := by
  have hstep : Enrolment.empty.step id (some ⟨host⟩) =
      (.entry entry, (Enrolment.empty.step id (some ⟨host⟩)).2) := by rw [← h]
  obtain ⟨hcheck, -, hentry, -⟩ := Enrolment.step_eq_entry_iff.mp hstep
  exact ⟨hcheck, hentry⟩

/-- The form makes an entry of a host that passes for a bare address. -/
theorem step_of_check (id : EntryId) (h : Host.check (Enrolment.hostOf host) = .ok ()) :
    (Enrolment.empty.step id (some ⟨host⟩)).1 =
      .entry (Enrolment.newEntry id (Enrolment.hostOf host)) := by
  have hnew : ¬ Enrolment.empty.isConfigured (Enrolment.hostOf host) := by
    simp [Enrolment.isConfigured, Enrolment.empty]
  exact congrArg Prod.fst (Enrolment.step_eq_entry_iff.mpr ⟨h, hnew, rfl, rfl⟩)

/-- A host can be set up just if there is a client and it has channels once the white space around it is
taken away. -/
theorem isSettable_iff : IsSettable provided id host ↔
    provided = .ok () ∧ Host.hasChannels (Enrolment.hostOf host) := by
  constructor
  · rintro ⟨entry, f, hentry, hf⟩
    obtain ⟨-, rfl⟩ := entry_of_step hentry
    exact (Registry.exists_fittings?_iff.mp ⟨f, hf⟩).2
  · rintro ⟨hprovided, h⟩
    have hstep := step_of_check id (Host.hasChannels_iff.mp h).1
    have hfind : Registry.empty.find? (Enrolment.newEntry id (Enrolment.hostOf host)).id = none := rfl
    obtain ⟨f, hf⟩ := Registry.exists_fittings?_iff.mpr ⟨hfind, hprovided, h⟩
    exact ⟨_, f, hstep, hf⟩

/-- The log of a device that can be set up goes up to its set-up. -/
theorem Log.eq_settingUp {target : String} {rest : List String} {notes : List Note}
    (h : Log provided id (host :: target :: rest) notes) (hset : IsSettable provided id host) :
    notes = settingUp (Enrolment.hostOf host) := by
  cases h with
  | few h =>
    simp only [List.length_cons] at h
    omega
  | rejected h => exact absurd (Host.hasChannels_iff.mp (isSettable_iff.mp hset).2).1 h
  | created hcheck h => exact absurd hset h
  | setUp h => rfl

variable {σ : Type} (device : Device σ) (s : σ)

/-- A host that can be set up is; none of the adapters has made any call, and each is on the channel of
its role. -/
theorem run_fittings_of_isSettable (h : IsSettable provided id host) :
    ∃ f, (fittings provided id host).run device s = ⟨.ok f, [], settingUp (Enrolment.hostOf host), s⟩ ∧
      ∀ k, ∃ c, Channel.open? (Enrolment.hostOf host) k.role.index = .ok c ∧
        f.ofKind k = .new k c := by
  obtain ⟨entry, f, hentry, hf⟩ := h
  obtain ⟨hcheck, rfl⟩ := entry_of_step hentry
  have ⟨_, _, light, pump, hlight, hpump, hadapters⟩ := Registry.fittings?_eq_ok_iff.mp hf
  have hnotes : Enrolment.empty.notes (some ⟨host⟩) = [.entryCreated (Enrolment.hostOf host)] := by
    simp [Enrolment.notes, hcheck, Enrolment.isConfigured, Enrolment.empty]
  have hhost : light.host = Enrolment.hostOf host ∧ pump.host = Enrolment.hostOf host :=
    ⟨Channel.host_of_open? hlight, Channel.host_of_open? hpump⟩
  refine ⟨f, ?_, fun k => ?_⟩
  · rw [fittings, run_bind, run_tellAll]
    simp only [hentry, hf, hnotes, run_bind, run_tellAll, run_pure]
    subst hadapters
    simp [Fittings.notes, Platform.all, Fittings.onPlatform, Adapter.uniqueId, Adapter.new, hhost,
      settingUp, Enrolment.newEntry, Platform.name]
  · subst hadapters
    cases k with
    | light => exact ⟨light, hlight, rfl⟩
    | pump => exact ⟨pump, hpump, rfl⟩
    | level => exact ⟨pump, hpump, rfl⟩

/-- A host that cannot be set up is refused, by the form or after it has made an entry. -/
theorem run_fittings_of_not_isSettable (h : ¬ IsSettable provided id host) :
    ∃ reason notes, (fittings provided id host).run device s = ⟨.error reason, [], notes, s⟩ ∧
      ∀ target rest, Log provided id (host :: target :: rest) (notes.filter Note.isShown) := by
  cases hcheck : Host.check (Enrolment.hostOf host) with
  | error fault =>
    have hnotes : Enrolment.empty.notes (some ⟨host⟩) = [.hostRejected host fault] := by
      simp [Enrolment.notes, hcheck]
    have hstep : (Enrolment.empty.step id (some ⟨host⟩)).1 =
        Enrolment.form [(Enrolment.hostField, Enrolment.invalidHost)] := by
      simp [Enrolment.step, hcheck]
    refine ⟨"could not configure device: " ++ describeForm Enrolment.stepName [Enrolment.hostField]
      [(Enrolment.hostField, Enrolment.invalidHost)], [.hostRejected host fault], ?_,
      fun target rest => .rejected (by simp [hcheck])⟩
    rw [fittings, run_bind, run_tellAll]
    simp only [hstep, hnotes, Enrolment.form, run_pure]
    rfl
  | ok _ =>
    have hnotes : Enrolment.empty.notes (some ⟨host⟩) = [.entryCreated (Enrolment.hostOf host)] := by
      simp [Enrolment.notes, hcheck, Enrolment.isConfigured, Enrolment.empty]
    have hstep := step_of_check id hcheck
    cases hf : Registry.empty.fittings? provided (Enrolment.newEntry id (Enrolment.hostOf host)) with
    | ok f => exact absurd ⟨_, f, hstep, hf⟩ h
    | error e =>
      refine ⟨e.message, [.entryCreated (Enrolment.hostOf host)], ?_,
        fun target rest => .created hcheck h⟩
      rw [fittings, run_bind, run_tellAll]
      simp only [hstep, hf, hnotes, run_pure]
      rfl

end

/-! ## reports -/

/-- What is reported about an operation on the channel of an adapter. -/
def reportOf (a : Adapter) : Except Error Power → Report
  | .error e => failed (describe e)
  | .ok p => succeeded [.printed (stateLine (a.keep (.ok p)))]

section

variable (a : Adapter) (r : Except Error Power)

/-- An operation ends the program with one of two exit codes. -/
theorem code_reportOf : (reportOf a r).code = 0 ∨ (reportOf a r).code = 1 := by
  cases r <;> simp [reportOf, failed, succeeded]

/-- The program fails if the operation does. -/
theorem code_reportOf_eq_one_iff : (reportOf a r).code = 1 ↔ ∃ e, r = .error e := by
  cases r <;> simp [reportOf, failed, succeeded]

/-- The program succeeds if the operation gives a level. -/
theorem code_reportOf_eq_zero_iff : (reportOf a r).code = 0 ↔ ∃ p, r = .ok p := by
  cases r <;> simp [reportOf, failed, succeeded]

/-- Nothing is printed about an operation that fails. -/
theorem lines_reportOf (h : (reportOf a r).code ≠ 0) : (reportOf a r).lines = [] := by
  cases r with
  | error e => rfl
  | ok p => exact absurd rfl h

end

/-- What was noted before does not change the exit code. -/
theorem code_behind (report : Report) (notes : List Note) :
    (report.behind notes).code = report.code := rfl

/-- A report behind two parts of a log is one behind both. -/
theorem behind_behind (report : Report) (notes more : List Note) :
    (report.behind more).behind notes = report.behind (notes ++ more) := by
  simp [Report.behind, logged]

/-- The call of an adapter is reported as the operation that it is. -/
theorem reportCall_of_exchange {a : Adapter} {c : Adapter.Call} {d : Dialogue (Except Error Power)}
    (h : a.exchange c = .ok d) : reportCall a c = d >>= fun r => done (reportOf a r) := by
  rw [reportCall, Adapter.call_of_exchange h, bind_assoc]
  refine congrArg _ (funext fun r => ?_)
  cases r <;> rfl

/-- A line begins with the name of an entity, goes on with its state and holds no line break. -/
theorem stateLine_spec {host : String} {index : UInt32} {c : Channel}
    (hc : Channel.open? host index = .ok c) (kind : Adapter.Kind) (p : Power) :
    let a := Adapter.new kind c
    ∃ json, stateLine (a.keep (.ok p)) = a.name ++ ": " ++ json ∧
      '\n' ∉ (a.name ++ ": " ++ json).toList ∧
      Stored.read? json = some (EntityState.ofPower a.uniqueId (some p)) := by
  intro a
  refine ⟨_, rfl, ?_, Stored.lawful_entityState.read?_write _⟩
  obtain ⟨hchannels, m, -, hopen⟩ := Channel.open?_eq_ok_iff.mp hc
  have hbare := (Host.check_eq_ok_iff.mp (Host.hasChannels_iff.mp hchannels).1).2
  have hhost : c.host = host := congrArg Channel.host hopen
  have hname : '\n' ∉ a.name.toList := by
    intro h
    simp only [Adapter.name, a, Adapter.new, hhost, String.toList_append, List.mem_append] at h
    obtain (h | h) | h := h
    · exact absurd (hbare _ h) (by decide)
    · exact absurd h (by decide)
    · cases kind <;> exact absurd h (by decide)
  have hjson := (Stored.lawful_entityState.spells (a.keep (.ok p)).state).isPlain
  simp only [String.toList_append, List.mem_append, not_or]
  exact ⟨⟨hname, by decide⟩, fun h => absurd (hjson _ h) (by decide)⟩

/-! ## what is noted about an operation -/

section

variable {σ : Type} (device : Device σ)

/-- Following redirects is not noted. -/
theorem notes_follow (first : String) (budget : Nat) (request : Request) (s : σ) :
    ((Exchange.follow first budget request).run device s).notes = [] := by
  induction budget generalizing request s with
  | zero =>
    rw [Exchange.follow_zero]
    rfl
  | succ budget ih =>
    rw [Exchange.follow_succ, Dialogue.run]
    cases Exchange.onward? request (device request s).1 with
    | none => rfl
    | some next => exact ih next _

/-- A call to a device is not noted by itself. -/
theorem notes_fetch (request : Request) (s : σ) :
    ((Exchange.fetch request).run device s).notes = [] := by
  unfold Exchange.fetch
  split
  · simp only [run_bind, notes_follow, List.nil_append]
    split <;> rfl
  · rfl

/-- What is noted about an operation of a channel is for those who look for mistakes. -/
theorem filter_notes_perform (c : Channel) (op : Channel.Operation) (s : σ) :
    ((c.perform op).run device s).notes.filter Note.isShown = [] := by
  cases op with
  | read =>
    simp only [Channel.perform, Channel.get, run_bind, run_tell, notes_fetch]
    split <;> rfl
  | write value =>
    simp only [Channel.perform, Channel.set, run_bind, run_tell, notes_fetch]
    split
    · split <;> rfl
    · rfl

end

/-! ## the arguments -/

section

variable (provided : Except String Unit) (id : EntryId) (arguments : List String)

/-- The arguments ask for an operation of a channel, at a host that can be set up. -/
def Wants (kind : Adapter.Kind) (c : Channel) (op : Channel.Operation) : Prop :=
  ∃ host target rest, arguments = host :: target :: rest ∧ IsSettable provided id host ∧
    Asks target rest.head? kind op ∧
    Channel.open? (Enrolment.hostOf host) kind.role.index = .ok c

/-- The arguments are too few, or the rest makes no sense at a host that can be set up. -/
def IsMisused : Prop :=
  arguments.length < 2 ∨ ∃ host target rest, arguments = host :: target :: rest ∧
    IsSettable provided id host ∧ ∀ kind op, ¬ Asks target rest.head? kind op

/-- The host cannot be set up. -/
def IsRefused : Prop :=
  ∃ host target rest, arguments = host :: target :: rest ∧ ¬ IsSettable provided id host

/-- There is no other way to use the command line than these. -/
theorem isMisused_or_isRefused_or_wants :
    IsMisused provided id arguments ∨ IsRefused provided id arguments ∨
      ∃ kind c op, Wants provided id arguments kind c op := by
  match arguments with
  | [] => exact .inl (.inl (by simp))
  | [host] => exact .inl (.inl (by simp))
  | host :: target :: rest =>
    by_cases hhost : IsSettable provided id host
    · by_cases hasks : ∃ kind op, Asks target rest.head? kind op
      · obtain ⟨kind, op, hasks⟩ := hasks
        have hchannels := (isSettable_iff.mp hhost).2
        obtain ⟨c, hc⟩ := Channel.exists_open?_iff.mpr hchannels
        exact .inr (.inr ⟨kind, c, op, host, target, rest, rfl, hhost, hasks, hc⟩)
      · simp only [not_exists] at hasks
        exact .inl (.inr ⟨host, target, rest, rfl, hhost, hasks⟩)
    · exact .inr (.inl ⟨host, target, rest, rfl, hhost⟩)

end

variable {provided : Except String Unit} {id : EntryId} {arguments : List String} {σ : Type}
  (device : Device σ) (count : Nat) (s : σ)

/-- The program does what is planned, behind what has been noted in planning. -/
theorem run_of_plan {p : Plan} {notes : List Note}
    (h : (plan provided id arguments).run device s = ⟨p, [], notes, s⟩) :
    (run provided id arguments count).run device s =
      let t := (p.carryOut count).run device s
      ⟨t.value.behind notes, t.requests, notes ++ t.notes, t.state⟩ := by
  simp [run, run_bind, h]

/-- Nothing comes behind a plan that is a report already. -/
theorem run_of_plan_finish {report : Report} {notes : List Note}
    (h : (plan provided id arguments).run device s = ⟨.finish report, [], notes, s⟩) :
    (run provided id arguments count).run device s = ⟨report.behind notes, [], notes, s⟩ := by
  rw [run_of_plan device count s h]
  simp [Plan.carryOut]

/-- What is planned for a device that is set up. -/
theorem run_plan_of_isSettable {host : String} (h : IsSettable provided id host) (target : String)
    (rest : List String) :
    ∃ f, (plan provided id (host :: target :: rest)).run device s =
        ⟨planFor f target rest.head?, [], settingUp (Enrolment.hostOf host), s⟩ ∧
      ∀ k, ∃ c, Channel.open? (Enrolment.hostOf host) k.role.index = .ok c ∧
        f.ofKind k = .new k c := by
  obtain ⟨f, hf, hadapters⟩ := run_fittings_of_isSettable device s h
  exact ⟨f, by simp [plan, run_bind, hf], hadapters⟩

/-- The watch aside, arguments that make no sense end the program at once. -/
theorem run_of_isMisused (hpoll : arguments[1]? ≠ some "poll") (h : IsMisused provided id arguments) :
    ∃ notes, Log provided id arguments (notes.filter Note.isShown) ∧
      (run provided id arguments count).run device s = ⟨usage.behind notes, [], notes, s⟩ := by
  obtain hfew | ⟨host, target, rest, rfl, hset, hasks⟩ := h
  · refine ⟨[], .few hfew, run_of_plan_finish device count s ?_⟩
    match arguments with
    | [] => rfl
    | [host] => rfl
    | _ :: _ :: _ =>
      simp only [List.length_cons] at hfew
      omega
  · obtain ⟨f, hplan, -⟩ := run_plan_of_isSettable device s hset target rest
    have htarget : target ≠ "poll" := by
      rintro rfl
      exact hpoll rfl
    have hcontrol : control? f target rest.head? = none := by
      rw [Option.eq_none_iff_forall_ne_some]
      intro x hx
      obtain ⟨kind, op, h⟩ := exists_asks hx
      exact hasks kind op h
    have husage : planFor f target rest.head? = .finish usage := by
      rw [planFor, if_neg htarget, hcontrol]
    rw [husage] at hplan
    exact ⟨settingUp (Enrolment.hostOf host), .setUp hset, run_of_plan_finish device count s hplan⟩

/-- A host that cannot be set up ends the program at once. -/
theorem run_of_isRefused (h : IsRefused provided id arguments) :
    ∃ description notes, Log provided id arguments (notes.filter Note.isShown) ∧
      (run provided id arguments count).run device s =
        ⟨(failed description).behind notes, [], notes, s⟩ := by
  obtain ⟨host, target, rest, rfl, hhost⟩ := h
  obtain ⟨reason, notes, hf, hlog⟩ := run_fittings_of_not_isSettable device s hhost
  refine ⟨quote reason, notes, hlog target rest, run_of_plan_finish device count s ?_⟩
  simp [plan, run_bind, hf]

/-- Arguments that ask for an operation end the program in a report on it. -/
theorem run_of_wants {kind : Adapter.Kind} {c : Channel} {op : Channel.Operation}
    (h : Wants provided id arguments kind c op) :
    ∃ notes, Log provided id arguments (notes.filter Note.isShown) ∧
      (run provided id arguments count).run device s =
        let t := (c.perform op).run device s
        ⟨(reportOf (.new kind c) t.value).behind notes, t.requests, notes, t.state⟩ := by
  obtain ⟨host, target, rest, rfl, hset, hasks, hc⟩ := h
  obtain ⟨f, hplan, hadapters⟩ := run_plan_of_isSettable device s hset target rest
  have hnew : ∀ k, (f.ofKind k).kind = k := by
    intro k
    obtain ⟨_, -, hk⟩ := hadapters k
    rw [hk]
    rfl
  obtain ⟨c', hc', hkind⟩ := hadapters kind
  obtain rfl : c' = c := Except.ok.inj (hc'.symm.trans hc)
  obtain ⟨call, hcontrol, hexchange⟩ := control?_of_asks hnew hasks
  rw [hkind] at hcontrol hexchange
  have hoperation : (Adapter.new kind c').exchange call = .ok (c'.perform op) := hexchange
  rw [planFor, if_neg hasks.ne_poll, hcontrol] at hplan
  refine ⟨settingUp (Enrolment.hostOf host) ++ ((c'.perform op).run device s).notes, ?_, ?_⟩
  · rw [List.filter_append, filter_notes_perform, List.append_nil]
    exact .setUp hset
  · rw [run_of_plan device count s hplan, Plan.carryOut, reportCall_of_exchange hoperation]
    simp [run_bind, behind_behind]

/-- The exit code for a host that cannot be set up. -/
theorem code_of_isRefused (h : IsRefused provided id arguments) :
    ((run provided id arguments count).run device s).value.code = 1 := by
  obtain ⟨description, notes, -, ht⟩ := run_of_isRefused device count s h
  rw [ht]
  rfl

/-- An operation decides the exit code by how it goes. -/
theorem code_of_wants {kind : Adapter.Kind} {c : Channel} {op : Channel.Operation}
    (h : Wants provided id arguments kind c op) :
    ((run provided id arguments count).run device s).value.code =
      (reportOf (.new kind c) ((c.perform op).run device s).value).code := by
  obtain ⟨notes, -, ht⟩ := run_of_wants device count s h
  rw [ht]
  rfl

/-- What is behind the third argument is passed over. -/
theorem run_take (provided : Except String Unit) (id : EntryId) (arguments : List String)
    (count : Nat) :
    run provided id (arguments.take 3) count = run provided id arguments count := by
  match arguments with
  | [] => rfl
  | [_] => rfl
  | host :: target :: rest =>
    have htake : (host :: target :: rest).take 3 = host :: target :: rest.take 1 := rfl
    have hhead : (rest.take 1).head? = rest.head? := List.head?_take.trans (if_neg (by decide))
    simp only [run, plan, htake, hhead]

/-! ## the whole program -/

/-- How the program ends that was begun with some arguments, on a device in some state: its exit code,
what it writes, what is sent, and how the device is left. -/
structure Controls (provided : Except String Unit) (id : EntryId) (arguments : List String)
    (t : Transcript σ Report) : Prop where
  misused : t.value.code = 2 ↔ IsMisused provided id arguments
  failed : t.value.code = 1 ↔ IsRefused provided id arguments ∨
    ∃ kind c op e, Wants provided id arguments kind c op ∧
      ((c.perform op).run device s).value = .error e
  done : t.value.code = 0 ↔
    ∃ kind c op p, Wants provided id arguments kind c op ∧
      ((c.perform op).run device s).value = .ok p
  /-- There is no other exit code. -/
  ends : t.value.code = 0 ∨ t.value.code = 1 ∨ t.value.code = 2
  /-- Nothing is sent before the arguments have been found to make sense. -/
  silent (h : IsMisused provided id arguments ∨ IsRefused provided id arguments) :
    t.requests = [] ∧ t.state = s
  /-- The log is what is noted and shown, and depends on the arguments only. -/
  log : Log provided id arguments (t.notes.filter Note.isShown)
  /-- Unless there is a level, nothing is written but the log. -/
  noLines (h : t.value.code ≠ 0) : t.value.lines = (t.notes.filter Note.isShown).map .noted
  /-- What is sent is what the operation sends. -/
  sent {kind : Adapter.Kind} {c : Channel} {op : Channel.Operation}
    (h : Wants provided id arguments kind c op) :
    t.requests = ((c.perform op).run device s).requests ∧ t.state = ((c.perform op).run device s).state
  /-- A level is that of the last reply, and is printed behind the log with the name of its entity, on one
  line. -/
  line {kind : Adapter.Kind} {c : Channel} {op : Channel.Operation} {p : Power}
    (h : Wants provided id arguments kind c op) (hp : ((c.perform op).run device s).value = .ok p) :
    let a := Adapter.new kind c
    (∃ x ∈ ((c.perform op).exchanges device s).getLast?, x.2.level? = some p) ∧
      ∃ json, t.value.lines = (t.notes.filter Note.isShown).map .noted ++
          [.printed (a.name ++ ": " ++ json)] ∧
        '\n' ∉ (a.name ++ ": " ++ json).toList ∧
        Stored.read? json = some (EntityState.ofPower a.uniqueId (some p))

section

variable (hpoll : arguments[1]? ≠ some "poll")

include hpoll

/-- The program ends in a report behind the log.  It has one of three exit codes, and no lines with any
but the first. -/
theorem run_spec :
    let t := (run provided id arguments count).run device s
    Log provided id arguments (t.notes.filter Note.isShown) ∧
      ∃ report : Report, t.value = report.behind t.notes ∧
        (report.code = 0 ∨ report.code = 1 ∨ report.code = 2) ∧
        (report.code ≠ 0 → report.lines = []) := by
  obtain h | h | ⟨kind, c, op, h⟩ := isMisused_or_isRefused_or_wants provided id arguments
  · obtain ⟨notes, hlog, ht⟩ := run_of_isMisused device count s hpoll h
    rw [ht]
    exact ⟨hlog, usage, rfl, .inr (.inr rfl), fun _ => rfl⟩
  · obtain ⟨description, notes, hlog, ht⟩ := run_of_isRefused device count s h
    rw [ht]
    exact ⟨hlog, failed description, rfl, .inr (.inl rfl), fun _ => rfl⟩
  · obtain ⟨notes, hlog, ht⟩ := run_of_wants device count s h
    rw [ht]
    exact ⟨hlog, _, rfl, (code_reportOf _ _).imp_right .inl, lines_reportOf _ _⟩

/-- Whoever uses the program wrongly is told so by its exit code. -/
theorem code_of_isMisused (h : IsMisused provided id arguments) :
    ((run provided id arguments count).run device s).value.code = 2 := by
  obtain ⟨notes, -, ht⟩ := run_of_isMisused device count s hpoll h
  rw [ht]
  rfl

/-- The program says how it is used just if it was used wrongly. -/
theorem code_eq_two_iff :
    ((run provided id arguments count).run device s).value.code = 2 ↔
      IsMisused provided id arguments := by
  refine ⟨fun hcode => ?_, code_of_isMisused device count s hpoll⟩
  obtain h | h | ⟨kind, c, op, h⟩ := isMisused_or_isRefused_or_wants provided id arguments
  · exact h
  · rw [code_of_isRefused device count s h] at hcode
    cases hcode
  · have hreport := code_reportOf (.new kind c) ((c.perform op).run device s).value
    rw [code_of_wants device count s h] at hcode
    omega

/-- The program fails just if the host cannot be set up or the operation fails. -/
theorem code_eq_one_iff :
    ((run provided id arguments count).run device s).value.code = 1 ↔
      IsRefused provided id arguments ∨ ∃ kind c op e, Wants provided id arguments kind c op ∧
        ((c.perform op).run device s).value = .error e := by
  constructor
  · intro hcode
    obtain h | h | ⟨kind, c, op, h⟩ := isMisused_or_isRefused_or_wants provided id arguments
    · rw [code_of_isMisused device count s hpoll h] at hcode
      cases hcode
    · exact .inl h
    · rw [code_of_wants device count s h, code_reportOf_eq_one_iff] at hcode
      obtain ⟨e, he⟩ := hcode
      exact .inr ⟨kind, c, op, e, h, he⟩
  · rintro (h | ⟨kind, c, op, e, h, he⟩)
    · exact code_of_isRefused device count s h
    · rw [code_of_wants device count s h, code_reportOf_eq_one_iff]
      exact ⟨e, he⟩

/-- The program succeeds just if there is an operation and it gives a level. -/
theorem code_eq_zero_iff :
    ((run provided id arguments count).run device s).value.code = 0 ↔
      ∃ kind c op p, Wants provided id arguments kind c op ∧
        ((c.perform op).run device s).value = .ok p := by
  constructor
  · intro hcode
    obtain h | h | ⟨kind, c, op, h⟩ := isMisused_or_isRefused_or_wants provided id arguments
    · rw [code_of_isMisused device count s hpoll h] at hcode
      cases hcode
    · rw [code_of_isRefused device count s h] at hcode
      cases hcode
    · rw [code_of_wants device count s h, code_reportOf_eq_zero_iff] at hcode
      obtain ⟨p, hp⟩ := hcode
      exact ⟨kind, c, op, p, h, hp⟩
  · rintro ⟨kind, c, op, p, h, hp⟩
    rw [code_of_wants device count s h, code_reportOf_eq_zero_iff]
    exact ⟨p, hp⟩

/-- There are no other exit codes, and nothing is written but the log with any but the first. -/
theorem code_and_lines :
    let t := (run provided id arguments count).run device s
    (t.value.code = 0 ∨ t.value.code = 1 ∨ t.value.code = 2) ∧
      (t.value.code ≠ 0 → t.value.lines = logged t.notes) := by
  intro t
  obtain ⟨-, report, ht, hcode, hlines⟩ :
      Log provided id arguments (t.notes.filter Note.isShown) ∧ _ := run_spec device count s hpoll
  rw [ht, code_behind]
  refine ⟨hcode, fun hne => ?_⟩
  rw [Report.behind, hlines hne, List.append_nil]

end

/-- Nothing is sent if the arguments make no sense or the host is refused. -/
theorem silent_of_no_operation (hpoll : arguments[1]? ≠ some "poll")
    (h : IsMisused provided id arguments ∨ IsRefused provided id arguments) :
    ((run provided id arguments count).run device s).requests = [] ∧
      ((run provided id arguments count).run device s).state = s := by
  obtain h | h := h
  · obtain ⟨notes, -, ht⟩ := run_of_isMisused device count s hpoll h
    rw [ht]
    exact ⟨rfl, rfl⟩
  · obtain ⟨description, notes, -, ht⟩ := run_of_isRefused device count s h
    rw [ht]
    exact ⟨rfl, rfl⟩

/-- The level of an operation is printed on one line, behind the log. -/
theorem lines_of_wants {kind : Adapter.Kind} {c : Channel} {op : Channel.Operation} {p : Power}
    (h : Wants provided id arguments kind c op)
    (hp : ((c.perform op).run device s).value = .ok p) :
    let a := Adapter.new kind c
    let t := (run provided id arguments count).run device s
    ∃ json, t.value.lines = logged t.notes ++ [.printed (a.name ++ ": " ++ json)] ∧
      '\n' ∉ (a.name ++ ": " ++ json).toList ∧
      Stored.read? json = some (EntityState.ofPower a.uniqueId (some p)) := by
  intro a t
  have ⟨_, _, _, _, _, _, hc⟩ := h
  obtain ⟨json, hline, hplain, hread⟩ := stateLine_spec hc kind p
  obtain ⟨notes, -, ht⟩ := run_of_wants device count s h
  refine ⟨json, ?_, hplain, hread⟩
  simp only [hp] at ht
  rw [← hline, show t = _ from ht]
  rfl

/-- Any arguments that are not to watch end the program in the way that they say, whatever the device
does; those behind the third do not count. -/
theorem controls_run (provided : Except String Unit) (id : EntryId) (arguments : List String)
    (hpoll : arguments[1]? ≠ some "poll") :
    Controls device s provided id arguments ((run provided id arguments count).run device s) ∧
      run provided id (arguments.take 3) count = run provided id arguments count := by
  refine ⟨?_, run_take provided id arguments count⟩
  constructor
  case misused => exact code_eq_two_iff device count s hpoll
  case failed => exact code_eq_one_iff device count s hpoll
  case done => exact code_eq_zero_iff device count s hpoll
  case ends => exact (code_and_lines device count s hpoll).1
  case silent => exact silent_of_no_operation device count s hpoll
  case log => exact (run_spec device count s hpoll).1
  case noLines => exact (code_and_lines device count s hpoll).2
  case sent =>
    intro kind c op h
    obtain ⟨notes, -, ht⟩ := run_of_wants device count s h
    rw [ht]
    exact ⟨rfl, rfl⟩
  case line =>
    intro kind c op p h hp
    exact ⟨Channel.level?_of_perform device hp, lines_of_wants device count s h hp⟩

/-- A device whose level is always 9. -/
def nineDevice : Device Unit := fun _ s =>
  (.answer ⟨200, "OK", none, [0x20, 0x39, 0x0d, 0x0a], true⟩, s)

/-- A machine that has a client can set up a device called `h`. -/
theorem isSettable_sample {host : String} (hhost : Enrolment.hostOf host = "h") :
    IsSettable (.ok ()) id host := by
  rw [isSettable_iff, hhost]
  exact ⟨rfl, Channel.exists_open?_iff.mp ⟨_, Channel.open?_sample⟩⟩

/-- A host without anything to trim. -/
theorem hostOf_sample : Enrolment.hostOf "h" = "h" := by decide +kernel

/-- A level for the pump makes no sense. -/
theorem isMisused_sample : IsMisused (.ok ()) id ["h", "pump", "7"] := by
  refine .inr ⟨_, _, _, rfl, isSettable_sample hostOf_sample, ?_⟩
  have hnone : ∀ target action kind op, Asks target action kind op →
      target = "pump" → action ≠ some "7" := by
    intro target action kind op h
    cases h <;> simp
  exact fun kind op h => hnone _ _ kind op h rfl rfl

/-- A level with a plus sign and zeros, at a host with blanks around it, is set and acknowledged as
another one; a level for the pump makes no sense.  The log says the same of both. -/
theorem controls_run_level :
    let arguments := [" h ", "light", "+007", "more"]
    let t := (run (.ok ()) (.ofNat 0) arguments 0).run nineDevice ()
    let u := (run (.ok ()) (.ofNat 0) ["h", "pump", "7"] 0).run nineDevice ()
    let log : List Line := [.noted (.entryCreated "h"),
      .noted (.entityCreated "Light" "plant_care.h.light" "h"),
      .noted (.entityCreated "Switch" "plant_care.h.water_pump" "h")]
    arguments[1]? ≠ some "poll" ∧ t.value.code = 0 ∧
      t.requests = [⟨.put, Channel.sample.target, "7"⟩] ∧
      (∃ json, t.value.lines = log ++ [.printed ("h LED: " ++ json)] ∧ Stored.read? json =
        some (EntityState.ofPower "plant_care.h.light" (some ⟨9, by decide, by decide⟩))) ∧
      u.value.code = 2 ∧ u.requests = [] ∧ u.value.lines = log := by
  intro arguments t u log
  have hpoll : arguments[1]? ≠ some "poll" := by decide
  have hhost : Enrolment.hostOf " h " = "h" := by decide +kernel
  have hlog : (settingUp "h").map Line.noted = log := rfl
  have hlevel : IsNumber 256 "+007" 7 :=
    ⟨['+'], ['0', '0', '7'], rfl, .inr rfl, Decimal.nat?_eq_some_iff.mp (by decide), by decide⟩
  have hwants : Wants (.ok ()) (.ofNat 0) arguments .light Channel.sample
      (.write ⟨7, by decide, by decide⟩) :=
    ⟨_, _, _, rfl, isSettable_sample hhost, .level hlevel rfl, hhost ▸ Channel.open?_sample⟩
  have hvalue : ((Channel.sample.perform (.write ⟨7, by decide, by decide⟩)).run nineDevice ()).value =
      .ok ⟨9, by decide, by decide⟩ := by decide +kernel
  have hcontrols : Controls nineDevice () (.ok ()) (.ofNat 0) arguments t :=
    (controls_run nineDevice 0 () (.ok ()) (.ofNat 0) arguments hpoll).1
  have hmisused : Controls nineDevice () (.ok ()) (.ofNat 0) ["h", "pump", "7"] u :=
    (controls_run nineDevice 0 () (.ok ()) (.ofNat 0) ["h", "pump", "7"] (by decide)).1
  have hcode : t.value.code = 0 := hcontrols.done.mpr ⟨_, _, _, _, hwants, hvalue⟩
  have hcode' : u.value.code = 2 := hmisused.misused.mpr isMisused_sample
  have hrequests : t.requests = [⟨.put, Channel.sample.target, "7"⟩] := by
    rw [(hcontrols.sent hwants).1]
    decide +kernel
  obtain ⟨-, json, hlines, -, hread⟩ := hcontrols.line hwants hvalue
  have hnoLines := hmisused.noLines (by rw [hcode']; decide)
  rw [hcontrols.log.eq_settingUp (isSettable_sample hhost), hhost, hlog] at hlines
  rw [hmisused.log.eq_settingUp (isSettable_sample hostOf_sample), hostOf_sample, hlog] at hnoLines
  exact ⟨hpoll, hcode, hrequests, ⟨json, hlines, hread⟩, hcode',
    (hmisused.silent (.inl isMisused_sample)).1, hnoLines⟩

/-- Three lines are written although the arguments make no sense: the log of setting up the device. -/
theorem misuse_is_logged :
    let arguments := ["h", "pump", "7"]
    let t := (run (.ok ()) (.ofNat 0) arguments 0).run nineDevice ()
    arguments[1]? ≠ some "poll" ∧ t.value.code = 2 ∧ t.requests = [] ∧ t.value.lines.length = 3 ∧
      t.value.lines ≠ [] := by
  intro arguments t
  have hpoll : arguments[1]? ≠ some "poll" := by decide
  obtain ⟨notes, hlog, ht⟩ := run_of_isMisused nineDevice 0 () hpoll isMisused_sample
  have ht : t = ⟨usage.behind notes, [], notes, ()⟩ := ht
  have hlines : t.value.lines.length = 3 := by
    rw [ht, Report.behind, logged, hlog.eq_settingUp (isSettable_sample hostOf_sample)]
    rfl
  refine ⟨hpoll, by rw [ht]; rfl, by rw [ht], hlines, fun hnil => ?_⟩
  rw [hnil] at hlines
  cases hlines

end Greenhouse.CommandLine
