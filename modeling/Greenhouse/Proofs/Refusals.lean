import Greenhouse.Attempt
import Greenhouse.Proofs.Admission
import Greenhouse.Proofs.Memory
import Greenhouse.Proofs.Redirects

/-!
# Greenhouse.Proofs.Refusals

What it means that an attempt is refused.

An attempt is refused if it makes no sense, which is decided before anything is sent and before anything
changes, however far it got by then: a device needs two channels, and the slider asks for a finite
position before it takes its turn.  Whatever else goes wrong, goes wrong at the device, and the error
names the url of the channel.

* `Attempt.IsSenseless` — the attempts that make no sense.
* `refused_iff_isSenseless` — these are refused and no others, and then nothing has happened.
-/

namespace Greenhouse

open Dialogue

/-! ## errors of a device -/

/-- An error that lies with the device of a channel. -/
def Error.IsFrom (c : Channel) (e : Error) : Prop :=
  (∃ cause, e = .unreachable c.url cause) ∨ ∃ body, e = .invalidResponse c.url body

/-- What comes of a channel is no refusal. -/
theorem Error.IsFrom.ne_invalidRequest {c : Channel} {e : Error} (h : e.IsFrom c)
    (refusal : Refusal) : e ≠ .invalidRequest refusal := by
  obtain ⟨cause, rfl⟩ | ⟨body, rfl⟩ := h <;> simp

/-- A mapped result fails with the error of the result itself. -/
theorem Except.eq_error_of_map {ε α β : Type} {f : α → β} {r : Except ε α} {e : ε}
    (h : r.map f = .error e) : r = .error e := by
  cases r with
  | error e' =>
    cases h
    rfl
  | ok a => cases h

namespace Channel

/-- Whatever goes wrong with a reading is of the channel. -/
theorem isFrom_of_readLevel {c : Channel} {result : Except Exchange.Failure String} {e : Error}
    (h : c.readLevel result = .error e) : e.IsFrom c := by
  cases result with
  | error failure =>
    cases h
    exact .inl ⟨failure, rfl⟩
  | ok body =>
    simp only [readLevel] at h
    split at h
    · cases h
    · cases h
      exact .inr ⟨body, rfl⟩

variable {σ : Type} (device : Device σ)

/-- What goes wrong in an operation of a channel lies with its device. -/
theorem isFrom_of_perform {c : Channel} {op : Operation} {s : σ} {e : Error}
    (h : ((c.perform op).run device s).value = .error e) : e.IsFrom c := by
  rw [(c.run_perform device op s).1] at h
  exact isFrom_of_readLevel h

end Channel

namespace Adapter

/-- The exchange of a call is an operation of the adapter's channel. -/
theorem exists_perform_of_exchange {a : Adapter} {c : Call} {d : Dialogue (Except Error Power)}
    (h : a.exchange c = .ok d) : ∃ op, d = a.channel.perform op := by
  cases c with
  | update => cases h; exact ⟨.read, rfl⟩
  | turnOn brightness => cases h; exact ⟨.write _, rfl⟩
  | turnOff => cases h; exact ⟨.write _, rfl⟩
  | setValue value =>
    simp only [exchange] at h
    split at h
    · cases h; exact ⟨.write _, rfl⟩
    · cases h

end Adapter

/-- Whether a double is a number. -/
def Double.IsFinite (d : Double) : Prop :=
  ∃ negative significand exponent, d.value = .finite negative significand exponent

/-- Only a number that is not finite asks for no level. -/
theorem Double.level?_eq_none_iff {d : Double} : d.level? = none ↔ ¬ d.IsFinite := by
  unfold level? IsFinite
  cases hvalue : d.value with
  | nan => simp
  | infinite negative => simp
  | finite negative significand exponent => cases negative <;> simp

/-! ## attempts that make no sense -/

namespace Attempt

/-- Whether an attempt makes no sense in a home. -/
def IsSenseless (h : House) : Attempt → Prop
  | newChannel provided host _ => (∃ cause, provided = .error cause) ∨ ¬ Host.hasChannels host
  | openChannel host _ => ¬ Host.hasChannels host
  | read _ | write _ _ => False
  | setUp provided entry => h.registry.find? entry.id ≠ none ∨ (∃ cause, provided = .error cause) ∨
      ¬ Host.hasChannels entry.data.host
  | call handle c => ∃ a position, h.entities[handle]? = some (.adapter a) ∧ a.kind = .level ∧
      c = .setValue position ∧ ¬ position.IsFinite
  | addPoller _ interval => interval = 0

/-- The channel that an attempt is to use. -/
def channel? (h : House) : Attempt → Option Channel
  | read c | write c _ => some c
  | call handle _ =>
    match h.entities[handle]? with
    | some (.adapter a) => some a.channel
    | _ => none
  | _ => none

/-- Whether an attempt is nothing but an exchange with a device, with a level to send that is given as
one. -/
def IsExchange : Attempt → Prop
  | read _ | write _ _ | call _ .update | call _ (.turnOn _) | call _ .turnOff => True
  | _ => False

/-- Whether an attempt is a call of a rehearsed entity, which turns out as it was planned. -/
def IsRehearsed (h : House) : Attempt → Prop
  | call handle _ => ∃ r, h.entities[handle]? = some (.rehearsed r)
  | _ => False

/-- An exchange always makes sense. -/
theorem not_isSenseless_of_isExchange {x : Attempt} {h : House} (hx : x.IsExchange) :
    ¬ x.IsSenseless h := by
  cases x with
  | read c => exact id
  | write c value => exact id
  | call handle c =>
    rintro ⟨a, position, -, -, rfl, -⟩
    exact hx
  | _ => exact hx.elim

end Attempt

/-- With a client at hand, making one does not stand in the way of a channel. -/
theorem Channel.new?_of_ok (host : String) (index : UInt32) :
    new? (.ok ()) host index = open? host index := rfl

/-- Setting up makes sense for an entry that is not set up, if there is a client and its host has
channels. -/
theorem House.not_senseless_iff {provided : Except String Unit} {entry : Entry} {h : House} :
    ¬ (h.registry.find? entry.id ≠ none ∨ (∃ cause, provided = .error cause) ∨
        ¬ Host.hasChannels entry.data.host) ↔
      h.registry.find? entry.id = none ∧ provided = .ok () ∧
        Host.hasChannels entry.data.host := by
  cases provided <;> simp

/-- A call that its adapter refuses asks nothing, and leaves the home as it was. -/
theorem House.value?_call_of_refusal {h : House} {handle : Handle} {a : Adapter} {c : Adapter.Call}
    {e : Error} (ha : h.entities[handle]? = some (.adapter a)) (hknows : a.kind.knows c)
    (hrefused : a.exchange c = .error e) : (h.call handle c).value? = some (some (.error e), h) := by
  have hput : h.put handle (.adapter a) = h := by
    obtain ⟨hhandle, hget⟩ := List.getElem?_eq_some_iff.mp ha
    rw [put, ← hget, List.set_getElem_self]
  rw [call_of_adapter ha hknows, Adapter.call_of_refusal hrefused, value?_bind]
  simp only [value?, Option.bind_some, hput]

/-- A slider position that is no number is all that an adapter refuses. -/
theorem Adapter.exists_exchange_of_finite {a : Adapter} {c : Call}
    (h : ∀ position, c = .setValue position → position.IsFinite) : ∃ d, a.exchange c = .ok d := by
  cases c with
  | setValue position =>
    cases hlevel : position.level? with
    | none => exact absurd (h position rfl) (Double.level?_eq_none_iff.mp hlevel)
    | some level => exact ⟨_, by rw [exchange, hlevel]⟩
  | _ => exact ⟨_, rfl⟩

/-- Only the slider can be moved. -/
theorem Adapter.Kind.eq_level_of_knows {kind : Kind} {position : Double}
    (h : kind.knows (.setValue position)) : kind = .level := by
  cases kind with
  | level => rfl
  | _ => cases h

namespace Attempt

variable {x : Attempt} {h : House}

/-- An attempt that makes no sense is refused without a question, and leaves the home as it was. -/
theorem value?_of_isSenseless (hx : x.IsSenseless h) :
    ∃ refusal, (x.perform h).value? = some (some (.error (.invalidRequest refusal)), h) := by
  cases x with
  | newChannel provided host index =>
    cases provided with
    | error cause => exact ⟨.noClient cause, rfl⟩
    | ok _ =>
      obtain ⟨cause, ⟨⟩⟩ | hhost := hx
      obtain ⟨refusal, hrefusal⟩ := Channel.open?_of_not_hasChannels hhost index
      exact ⟨refusal, by rw [perform, Channel.new?_of_ok, hrefusal]; rfl⟩
  | openChannel host index =>
    obtain ⟨refusal, hrefusal⟩ := Channel.open?_of_not_hasChannels hx index
    exact ⟨refusal, by rw [perform, hrefusal]; rfl⟩
  | read c => exact hx.elim
  | write c value => exact hx.elim
  | setUp provided entry =>
    obtain ⟨refusal, hrefusal⟩ := House.refused_of_not_settable
      fun hset => House.not_senseless_iff.mpr hset hx
    exact ⟨refusal, by rw [perform, value?_bind, hrefusal]; rfl⟩
  | call handle c =>
    obtain ⟨a, position, ha, hkind, rfl, hposition⟩ := hx
    have hrefused : a.exchange (.setValue position) =
        .error (.invalidRequest (.notFinite position)) := by
      rw [Adapter.exchange, Double.level?_eq_none_iff.mpr hposition]
    have hknows : a.kind.knows (.setValue position) := by rw [hkind]; rfl
    have hcall := House.value?_call_of_refusal ha hknows hrefused
    exact ⟨.notFinite position, by rw [perform, value?_bind, hcall]; rfl⟩
  | addPoller entities interval =>
    have hinterval : interval = 0 := hx
    exact ⟨.zeroInterval, by rw [perform, House.addPoller, Poller.new, if_pos hinterval]; rfl⟩

variable {σ : Type} (device : Device σ)

/-- What goes wrong in a call that makes sense lies with the device of its adapter. -/
theorem isFrom_of_call {handle : Handle} {c : Adapter.Call}
    (hsense : ¬ (call handle c).IsSenseless h) (hreal : ¬ (call handle c).IsRehearsed h) {s : σ}
    {e : Error} (he : ((h.call handle c).run device s).value.1 = some (.error e)) :
    ∃ channel, (call handle c).channel? h = some channel ∧ e.IsFrom channel := by
  have hheard : h.entities[handle]?.bind (·.call? c) ≠ none := by
    intro hnone
    rw [House.call_of_none hnone] at he
    cases he
  cases hentity : h.entities[handle]? with
  | none => exact absurd (by rw [hentity]; rfl) hheard
  | some entity =>
    cases entity with
    | rehearsed r => exact absurd ⟨r, hentity⟩ hreal
    | adapter a =>
      refine ⟨a.channel, by rw [channel?, hentity], ?_⟩
      have hknows : a.kind.knows c := by
        by_contra hunknown
        rw [hentity, Option.bind_some, Entity.call?, if_neg hunknown] at hheard
        exact hheard rfl
      obtain ⟨d, hd⟩ : ∃ d, a.exchange c = .ok d := by
        refine Adapter.exists_exchange_of_finite fun position hc => ?_
        by_contra hposition
        subst hc
        exact hsense ⟨a, position, hentity, Adapter.Kind.eq_level_of_knows hknows, rfl, hposition⟩
      obtain ⟨op, rfl⟩ := Adapter.exists_perform_of_exchange hd
      rw [House.call_of_adapter hentity hknows, Adapter.call_of_exchange hd] at he
      simp only [run_bind, run_done, Option.some.injEq] at he
      exact Channel.isFrom_of_perform device (Except.eq_error_of_map he)

/-- What goes wrong in an attempt that makes sense lies with the device of its channel. -/
theorem isFrom_of_not_isSenseless (hsense : ¬ x.IsSenseless h) (hreal : ¬ x.IsRehearsed h) {s : σ}
    {e : Error} (he : ((x.perform h).run device s).value.1 = some (.error e)) :
    ∃ c, x.channel? h = some c ∧ e.IsFrom c := by
  cases x with
  | newChannel provided host index =>
    obtain ⟨hprovided, hhost⟩ := by simpa only [IsSenseless, not_or, not_not] using hsense
    obtain ⟨c, hc⟩ : ∃ c, Channel.open? host index = .ok c := Channel.exists_open?_iff.mpr hhost
    cases provided with
    | error cause => exact absurd ⟨cause, rfl⟩ hprovided
    | ok _ =>
      rw [perform, Channel.new?_of_ok, hc] at he
      cases he
  | openChannel host index =>
    obtain ⟨c, hc⟩ : ∃ c, Channel.open? host index = .ok c :=
      Channel.exists_open?_iff.mpr (not_not.mp hsense)
    rw [perform, hc] at he
    cases he
  | read c =>
    simp only [perform, run_bind, run_pure, Option.some.injEq] at he
    have hget : ((c.perform .read).run device s).value = .error e := Except.eq_error_of_map he
    exact ⟨c, rfl, Channel.isFrom_of_perform device hget⟩
  | write c value =>
    simp only [perform, run_bind, run_pure, Option.some.injEq] at he
    have hset : ((c.perform (.write value)).run device s).value = .error e :=
      Except.eq_error_of_map he
    exact ⟨c, rfl, Channel.isFrom_of_perform device hset⟩
  | setUp provided entry =>
    obtain ⟨d, h', hd⟩ := House.exists_setUp_iff.mpr (House.not_senseless_iff.mp hsense)
    simp only [perform, run_bind, run_pure, (run_of_value? device hd s).1] at he
    cases he
  | call handle c =>
    simp only [perform, run_bind, run_pure] at he
    obtain ⟨result, hresult, hmap⟩ := Option.map_eq_some_iff.mp he
    rw [Except.eq_error_of_map hmap] at hresult
    exact isFrom_of_call device hsense hreal hresult
  | addPoller entities interval =>
    have hinterval : ¬ interval = 0 := hsense
    rw [perform, House.addPoller, Poller.new, if_neg hinterval] at he
    cases he

/-- An attempt is refused exactly if it makes no sense, in any home and at any device.  Whenever it is
refused, nothing has been asked, and the home and the device are as they were.  Whatever else goes
wrong lies with the device of the channel that the attempt uses, and nothing else goes wrong in an
attempt that is no more than an exchange with a device. -/
theorem refused_iff_isSenseless (x : Attempt) (h : House) (hx : ¬ x.IsRehearsed h) (s : σ) :
    let t := (x.perform h).run device s
    ((∃ refusal, t.value.1 = some (.error (.invalidRequest refusal))) ↔ x.IsSenseless h) ∧
      (∀ refusal, t.value.1 = some (.error (.invalidRequest refusal)) →
        t.requests = [] ∧ t.state = s ∧ t.value.2 = h) ∧
      (∀ e, t.value.1 = some (.error e) →
        (∃ refusal, e = .invalidRequest refusal) ∨ ∃ c, x.channel? h = some c ∧ e.IsFrom c) ∧
      (x.IsExchange → ∀ e, t.value.1 = some (.error e) → ∃ c, x.channel? h = some c ∧ e.IsFrom c) := by
  intro t
  have hsenseless : x.IsSenseless h → ∃ refusal,
      t.value = (some (.error (.invalidRequest refusal)), h) ∧ t.requests = [] ∧ t.state = s := by
    intro hsense
    obtain ⟨refusal, hrefusal⟩ := value?_of_isSenseless hsense
    exact ⟨refusal, run_of_value? device hrefusal s⟩
  have hfrom : ¬ x.IsSenseless h → ∀ e, t.value.1 = some (.error e) →
      ∃ c, x.channel? h = some c ∧ e.IsFrom c :=
    fun hsense e he => isFrom_of_not_isSenseless device hsense hx he
  have hrefused : ∀ refusal, t.value.1 = some (.error (.invalidRequest refusal)) →
      x.IsSenseless h := by
    intro refusal hrefusal
    by_contra hsense
    obtain ⟨c, -, hc⟩ := hfrom hsense _ hrefusal
    exact hc.ne_invalidRequest refusal rfl
  refine ⟨⟨fun ⟨refusal, hrefusal⟩ => hrefused refusal hrefusal, fun hsense => ?_⟩,
    fun refusal hrefusal => ?_, fun e he => ?_, fun hexchange => ?_⟩
  · obtain ⟨refusal, hvalue, -⟩ := hsenseless hsense
    exact ⟨refusal, by rw [hvalue]⟩
  · obtain ⟨refusal', hvalue, hrequests, hstate⟩ := hsenseless (hrefused refusal hrefusal)
    exact ⟨hrequests, hstate, by rw [hvalue]⟩
  · by_cases hsense : x.IsSenseless h
    · obtain ⟨refusal, hvalue, -⟩ := hsenseless hsense
      rw [hvalue] at he
      cases he
      exact .inl ⟨refusal, rfl⟩
    · exact .inr (hfrom hsense e he)
  · exact hfrom (not_isSenseless_of_isExchange hexchange)

/-- A home whose slider remembers that the pump runs at full power. -/
def sliderHome : House := { House.empty with entities := [.adapter ⟨.level, .sample, some .full⟩] }

/-- The slider is moved to a position that is no number: nothing is asked of a device that would
answer, and the home is as it was. -/
theorem refused_iff_isSenseless_nan :
    let x := call 0 (.setValue ⟨0x7FF8000000000000⟩)
    let t := (x.perform sliderHome).run Channel.sendingDevice ()
    ¬ x.IsRehearsed sliderHome ∧ (∃ refusal, t.value.1 = some (.error (.invalidRequest refusal))) ∧
      t.requests = [] ∧ t.value.2 = sliderHome := by
  intro x t
  have hreal : ¬ x.IsRehearsed sliderHome := by
    rintro ⟨r, hr⟩
    cases hr
  have hnan : ¬ (⟨0x7FF8000000000000⟩ : Double).IsFinite :=
    Double.level?_eq_none_iff.mp (by decide)
  obtain ⟨hiff, hnothing, -⟩ := refused_iff_isSenseless Channel.sendingDevice x sliderHome hreal ()
  obtain ⟨refusal, hrefusal⟩ := hiff.mpr ⟨_, _, rfl, rfl, rfl, hnan⟩
  obtain ⟨hrequests, -, hhome⟩ := hnothing refusal hrefusal
  exact ⟨hreal, ⟨refusal, hrefusal⟩, hrequests, hhome⟩

end Attempt

end Greenhouse
