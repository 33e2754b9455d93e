import Greenhouse.Adapter
import Greenhouse.Proofs.Replies

/-!
# Greenhouse.Proofs.Calls

What a call of an adapter is made of: one exchange on its channel, and what is kept of it.

* `call_of_exchange` — a call is its exchange, after which the adapter keeps the level.
* `call_of_refusal` — a call that is refused has no exchange and changes nothing.
* `level?_of_exchange` — an exchange gives no level but the one in its last reply.
-/

namespace Greenhouse

/-- A channel to show things on: the first one of a device called `h`. -/
def Channel.sample : Channel :=
  ⟨"h", 0, ⟨.http, [], none, .domain ['h'], none, path 0, none, none⟩⟩

namespace Adapter

open Dialogue

/-- The level that switching on asks for. -/
def onLevel (a : Adapter) (brightness : Option UInt8) : Power :=
  match a.kind, brightness with
  | .light, some b => .ofUInt8 b
  | _, _ => .full

/-- The exchange of a call with the device; a slider position that is no number is refused. -/
def exchange (a : Adapter) : Call → Except Error (Dialogue (Except Error Power))
  | .update => .ok a.channel.get
  | .turnOn brightness => .ok (a.channel.set (a.onLevel brightness))
  | .turnOff => .ok (a.channel.set .off)
  | .setValue value =>
    match value.level? with
    | some level => .ok (a.channel.set level)
    | none => .error (.invalidRequest (.notFinite value))

/-- What a call gives when the device has acknowledged a level: a refresh gives the state. -/
def answer (a : Adapter) (c : Call) (p : Power) : Option EntityState :=
  match c with
  | .update => some (.ofPower a.uniqueId (some p))
  | _ => none

/-! ## calls as exchanges -/

/-- To turn an adapter on is to ask for one level. -/
theorem turnOn_eq_apply (a : Adapter) (brightness : Option UInt8) :
    a.turnOn brightness = a.apply (a.onLevel brightness) := by
  unfold turnOn onLevel
  cases a.kind <;> cases brightness <;> rfl

/-- Setting a level is one exchange; what it gives is what any result without a value does. -/
theorem apply_bind (a : Adapter) (p : Power) :
    (do let (result, a) ← a.apply p; return (result.map fun _ => none, a)) =
      a.channel.set p >>= fun r => done (r.map fun _ => (none : Option EntityState), a.keep r) := by
  rw [apply, bind_assoc]
  refine congrArg _ (funext fun r => ?_)
  cases r <;> rfl

/-- A call that gets as far as the channel is its exchange, remembered. -/
theorem call_of_exchange {a : Adapter} {c : Call} {d : Dialogue (Except Error Power)}
    (h : a.exchange c = .ok d) :
    a.call c = d >>= fun r => done (r.map (a.answer c), a.keep r) := by
  cases c with
  | update =>
    cases h
    rw [call, refresh, bind_assoc]
    refine congrArg _ (funext fun r => ?_)
    cases r <;> rfl
  | turnOn brightness =>
    cases h
    rw [call, turnOn_eq_apply]
    exact a.apply_bind _
  | turnOff =>
    cases h
    exact a.apply_bind _
  | setValue value =>
    simp only [exchange] at h
    split at h
    · next level hl =>
      cases h
      simp only [call, setValue, hl]
      exact a.apply_bind _
    · cases h

/-- A call that does not get so far fails, and leaves the adapter as it was. -/
theorem call_of_refusal {a : Adapter} {c : Call} {e : Error} (h : a.exchange c = .error e) :
    a.call c = done (.error e, a) := by
  cases c with
  | setValue value =>
    simp only [exchange] at h
    split at h
    · cases h
    · next hl =>
      cases h
      simp only [call, setValue, hl]
      rfl
  | _ => cases h

/-! ## the level of an exchange -/

/-- An exchange takes the body of its last reply for a level. -/
theorem reads_exchange {a : Adapter} {c : Call} {d : Dialogue (Except Error Power)}
    (h : a.exchange c = .ok d) : a.channel.Reads d := by
  cases c with
  | update => cases h; exact a.channel.reads_get
  | turnOn brightness => cases h; exact a.channel.reads_set _
  | turnOff => cases h; exact a.channel.reads_set _
  | setValue value =>
    simp only [exchange] at h
    split at h
    · cases h; exact a.channel.reads_set _
    · cases h

/-- The level of a successful exchange is that of its last reply. -/
theorem level?_of_exchange {a : Adapter} {c : Call} {d : Dialogue (Except Error Power)}
    (hd : a.exchange c = .ok d) {rs : List Reply} {p : Power} (h : d.outcome? rs = some (.ok p)) :
    rs.getLast?.bind Reply.level? = some p := by
  obtain ⟨response, hlast, -, -, hp⟩ := (reads_exchange hd).last h
  rw [hlast]
  exact hp

end Adapter

end Greenhouse
