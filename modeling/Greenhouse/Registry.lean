import Greenhouse.Adapter
import Greenhouse.Entry

/-!
# Greenhouse.Registry

The devices that are set up, by the identifiers of their entries.

A device has three adapters: the light on its first channel, and the pump twice on its second, as a
switch and as a slider.  The light and the switch are what it offers to the rest of the house, one on
each platform; the slider is extra.

The registry does not hold the adapters themselves but handles on them, since they live on when their
device is unloaded.
-/

namespace Greenhouse

/-- What entities are offered as. -/
inductive Platform where
  | light
  | switch
deriving DecidableEq, Repr

namespace Platform

/-- The platforms that a device is offered on. -/
def all : List Platform := [light, switch]

/-- The name of a platform. -/
def name : Platform → String
  | light => "Light"
  | switch => "Switch"

end Platform

/-- A place in the list of all entities. -/
abbrev Handle : Type := Nat

/-! ## fittings -/

/-- The adapters of one device. -/
structure Fittings where
  light : Adapter
  pump : Adapter
  level : Adapter

namespace Fittings

/-- The adapters of the device at a host.  Nothing is sent. -/
def atHost (host : String) : Except Error Fittings := do
  let light ← Channel.open? host Role.light.index
  let pump ← Channel.open? host Role.waterPump.index
  return ⟨.new .light light, .new .pump pump, .new .level pump⟩

/-- The adapters in their order of creation. -/
def toList (f : Fittings) : List Adapter := [f.light, f.pump, f.level]

/-- The adapters that are offered on a platform. -/
def onPlatform (f : Fittings) : Platform → List Adapter
  | .light => [f.light]
  | .switch => [f.pump]

/-- What is noted about the adapters of the device at a host. -/
def notes (f : Fittings) (host : String) : List Note :=
  Platform.all.flatMap fun p => (f.onPlatform p).map fun a => .entityCreated p.name a.uniqueId host

/-- The adapters of a device, if its host has both channels. -/
theorem atHost_eq_ok_iff {host : String} {f : Fittings} : atHost host = .ok f ↔
    ∃ light pump, Channel.open? host Role.light.index = .ok light ∧
      Channel.open? host Role.waterPump.index = .ok pump ∧
      f = ⟨.new .light light, .new .pump pump, .new .level pump⟩ := by
  unfold atHost
  cases Channel.open? host Role.light.index with
  | error e => simp [bind, Except.bind]
  | ok light =>
    cases Channel.open? host Role.waterPump.index with
    | error e => simp [bind, Except.bind]
    | ok pump => simp [bind, Except.bind, pure, Except.pure, eq_comm]

end Fittings

/-! ## devices -/

/-- A device that is set up. -/
structure Appliance where
  id : EntryId
  host : String
  light : Handle
  pump : Handle
  level : Handle
deriving DecidableEq

namespace Appliance

/-- The entities of a device that are offered on a platform. -/
def onPlatform (d : Appliance) : Platform → List Handle
  | .light => [d.light]
  | .switch => [d.pump]

/-- The entities of a device that are offered on any platform. -/
def entities (d : Appliance) : List Handle := Platform.all.flatMap d.onPlatform

end Appliance

/-- The devices that are set up, in ascending order of their identifiers. -/
structure Registry where
  devices : List Appliance

namespace Registry

/-- No device is set up. -/
def empty : Registry := ⟨[]⟩

/-- The device of an entry. -/
def find? (r : Registry) (id : EntryId) : Option Appliance := r.devices.find? (·.id = id)

/-- Puts a device where it belongs, in front of the first with a greater identifier. -/
def insertInto (d : Appliance) : List Appliance → List Appliance
  | [] => [d]
  | e :: es => if EntryId.lt d.id e.id then d :: e :: es else e :: insertInto d es

/-- Adds a device. -/
def insert (r : Registry) (d : Appliance) : Registry := ⟨insertInto d r.devices⟩

/-- Takes the device of an entry out. -/
def erase (r : Registry) (id : EntryId) : Registry := ⟨r.devices.filter (·.id ≠ id)⟩

/-- The adapters for an entry, if it is not set up already.  Their channels share a new client. -/
def fittings? (r : Registry) (provided : Except String Unit) (entry : Entry) :
    Except Error Fittings :=
  match r.find? entry.id with
  | some _ => .error (.invalidRequest (.alreadySetUp entry.id))
  | none => do
    newClient provided
    Fittings.atHost entry.data.host

/-! ## small facts -/

/-- With a client at hand, the adapters for an entry that is not set up are those at its host. -/
theorem fittings?_of_find?_eq_none {r : Registry} {entry : Entry} (h : r.find? entry.id = none) :
    r.fittings? (.ok ()) entry = Fittings.atHost entry.data.host := by
  rw [fittings?, h]
  rfl

/-- What it takes to set up an entry: it is not set up, there is a client, and its host has both
channels. -/
theorem fittings?_eq_ok_iff {r : Registry} {provided : Except String Unit} {entry : Entry}
    {f : Fittings} : r.fittings? provided entry = .ok f ↔
      r.find? entry.id = none ∧ provided = .ok () ∧
        ∃ light pump, Channel.open? entry.data.host Role.light.index = .ok light ∧
          Channel.open? entry.data.host Role.waterPump.index = .ok pump ∧
          f = ⟨.new .light light, .new .pump pump, .new .level pump⟩ := by
  rw [← Fittings.atHost_eq_ok_iff]
  cases h : r.find? entry.id with
  | some d => simp [fittings?, h]
  | none =>
    cases provided with
    | error cause =>
      have hrefused : r.fittings? (.error cause) entry = .error (.invalidRequest (.noClient cause)) := by
        rw [fittings?, h]
        rfl
      simp [hrefused]
    | ok client => simp [fittings?_of_find?_eq_none h]

/-- An appliance is put in, and none is lost. -/
theorem mem_insertInto {d e : Appliance} {ds : List Appliance} :
    e ∈ insertInto d ds ↔ e = d ∨ e ∈ ds := by
  induction ds with
  | nil => simp [insertInto]
  | cons f fs ih =>
    unfold insertInto
    split
    · simp
    · simp only [List.mem_cons, ih]
      constructor <;> (rintro (h | h | h) <;> simp [h])

/-- Only the appliance with that identifier is taken out. -/
theorem mem_erase {r : Registry} {id : EntryId} {d : Appliance} :
    d ∈ (r.erase id).devices ↔ d ∈ r.devices ∧ d.id ≠ id := by
  simp [erase]

/-- An identifier is unknown exactly if no appliance has it. -/
theorem find?_eq_none_iff {r : Registry} {id : EntryId} :
    r.find? id = none ↔ ∀ d ∈ r.devices, d.id ≠ id := by
  simp [find?]

/-- Taking out what is not there changes nothing. -/
theorem erase_of_find?_eq_none {r : Registry} {id : EntryId} (h : r.find? id = none) :
    r.erase id = r := by
  rw [find?_eq_none_iff] at h
  have hall : r.devices.filter (·.id ≠ id) = r.devices :=
    List.filter_eq_self.mpr fun d hd => by simpa using h d hd
  rw [erase, hall]

end Registry

end Greenhouse
