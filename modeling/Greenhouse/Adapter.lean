import Greenhouse.Channel
import Greenhouse.DeviceInfo
import Greenhouse.EntityState
import Greenhouse.Mode
import Greenhouse.Role

/-!
# Greenhouse.Adapter

Entities on power channels: the light, the pump as a switch, and the pump as a slider.

An adapter remembers the level that its channel last gave it.  A call that fails leaves that memory as
it was; a call that succeeds puts the acknowledged level there, whatever was asked for.

* `run_refresh` — a refresh is a reading of the channel, and keeps its result.
-/

namespace Greenhouse

/-- The kinds of adapter. -/
inductive Adapter.Kind where
  | light
  | pump
  | level
deriving DecidableEq, Repr

namespace Adapter.Kind

/-- The last part of an adapter's identifier. -/
def suffix : Kind → String
  | light => Role.light.suffix
  | pump => Role.waterPump.suffix
  | level => Role.waterPump.suffix ++ "_level"

/-- What an adapter is called, behind its host. -/
def title : Kind → String
  | light => "LED"
  | pump => "water pump"
  | level => "water pump level"

/-- The picture that stands for an adapter. -/
def icon : Kind → Option String
  | light => none
  | pump | level => some "mdi:water-pump"

end Adapter.Kind

/-- An entity on a power channel. -/
structure Adapter where
  kind : Adapter.Kind
  channel : Channel
  /-- The level that the device last acknowledged to this adapter. -/
  last : Option Power
deriving DecidableEq

namespace Adapter

/-- An adapter that has not made any call. -/
def new (kind : Kind) (channel : Channel) : Adapter := ⟨kind, channel, none⟩

/-! ## identity -/

/-- The identifier of an adapter of a kind at a host. -/
def idAt (host : String) (kind : Kind) : String := Host.baseId host ++ "." ++ kind.suffix

/-- The identifier of an adapter. -/
def uniqueId (a : Adapter) : String := idAt a.channel.host a.kind

/-- The name of an adapter. -/
def name (a : Adapter) : String := a.channel.host ++ " " ++ a.kind.title

/-- The device that an adapter belongs to. -/
def deviceInfo (a : Adapter) : DeviceInfo := .ofHost a.channel.host

/-! ## what is remembered -/

/-- The state last known. -/
def state (a : Adapter) : EntityState := .ofPower a.uniqueId a.last

/-- Whether the last known level is on. -/
def isOn (a : Adapter) : Option Bool := a.last.map Power.isOn

/-- The last known level as a brightness. -/
def brightness (a : Adapter) : Option UInt8 := a.last.map Power.clamped

/-- The last known level as a slider position. -/
def value (a : Adapter) : Option Double := a.last.map Double.ofPower

/-! ## calls -/

/-- Keeps the level that a call gave, if it gave one. -/
def keep (a : Adapter) : Except Error Power → Adapter
  | .ok power => { a with last := some power }
  | .error _ => a

/-- Reads the level from the device. -/
def refresh (a : Adapter) : Dialogue (Except Error EntityState × Adapter) := do
  let result ← a.channel.get
  let a := a.keep result
  return (result.map fun _ => a.state, a)

/-- Sets the level at the device. -/
def apply (a : Adapter) (value : Power) : Dialogue (Except Error Unit × Adapter) := do
  let result ← a.channel.set value
  return (result.map fun _ => (), a.keep result)

/-- Switches on: a light at a given brightness, anything else and a light without one at full
power. -/
def turnOn (a : Adapter) (brightness : Option UInt8) : Dialogue (Except Error Unit × Adapter) :=
  match a.kind, brightness with
  | .light, some b => a.apply (.ofUInt8 b)
  | _, _ => a.apply .full

/-- Switches off. -/
def turnOff (a : Adapter) : Dialogue (Except Error Unit × Adapter) := a.apply .off

/-- Moves the slider.  What is no number is refused, and nothing is sent. -/
def setValue (a : Adapter) (value : Double) : Dialogue (Except Error Unit × Adapter) :=
  match value.level? with
  | some level => a.apply level
  | none => .done (.error (.invalidRequest (.notFinite value)), a)

/-- What can be asked of an adapter. -/
inductive Call where
  | update
  | turnOn (brightness : Option UInt8)
  | turnOff
  | setValue (value : Double)

/-- Whether a kind of adapter knows a call: all can be refreshed, the light and the switch can be
turned on and off, and the slider can be moved. -/
def Kind.knows : Kind → Call → Bool
  | _, .update => true
  | .level, .setValue _ => true
  | .light, .turnOn _ | .light, .turnOff | .pump, .turnOn _ | .pump, .turnOff => true
  | _, _ => false

/-- Makes a call; a refresh gives the state. -/
def call (a : Adapter) : Call → Dialogue (Except Error (Option EntityState) × Adapter)
  | .update => do
    let (result, a) ← a.refresh
    return (result.map some, a)
  | .turnOn brightness => do
    let (result, a) ← a.turnOn brightness
    return (result.map fun _ => none, a)
  | .turnOff => do
    let (result, a) ← a.turnOff
    return (result.map fun _ => none, a)
  | .setValue value => do
    let (result, a) ← a.setValue value
    return (result.map fun _ => none, a)

/-! ## how a call goes -/

variable {σ : Type} (device : Device σ) (s : σ) (a : Adapter)

/-- A refresh asks the channel once, and gives the state that the reply leaves. -/
theorem run_refresh : a.refresh.run device s =
    let t := a.channel.get.run device s
    ⟨(t.value.map fun _ => (a.keep t.value).state, a.keep t.value), t.requests, t.notes, t.state⟩ := by
  simp [refresh, Dialogue.run_bind]

/-- What a reply says does not bear on who the adapter is. -/
@[simp] theorem uniqueId_keep (r : Except Error Power) : (a.keep r).uniqueId = a.uniqueId := by
  cases r <;> rfl

end Adapter

end Greenhouse
