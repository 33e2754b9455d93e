import Greenhouse.House

/-!
# Greenhouse.Command

What a home can be told to do about its devices, and how it is done.

Commands run through the enrolment form, the registry of devices and the adapters.  Each is carried
out as a dialogue that gives an answer and the house afterwards.
-/

namespace Greenhouse

/-- What a home can be told to do. -/
inductive Command where
  | submit (id : EntryId) (input : Option UserInput)
  | forget (entry : Entry)
  | setUp (provided : Except String Unit) (entry : Entry)
  | unload (id : EntryId)
  /-- Make one more adapter on a channel. -/
  | attach (kind : Adapter.Kind) (channel : Channel)
  | call (handle : Handle) (call : Adapter.Call)

namespace Command

/-- What a command is answered. -/
inductive Answer where
  | stepped (result : Enrolment.Result)
  | forgotten (wasConfigured : Bool)
  | setUp (result : Except Error Appliance)
  | unloaded (wasSetUp : Bool)
  | attached (handle : Handle)
  /-- There is no result if nothing has the handle, or if it does not know the call. -/
  | called (result : Option (Except Error (Option EntityState)))

/-- Carries out a command. -/
def perform : Command → House → Dialogue (Answer × House)
  | submit id input, h => do
    let (result, h) ← h.submit id input
    return (.stepped result, h)
  | forget entry, h =>
    let was := h.enrolment.isConfigured entry.uniqueId
    return (.forgotten was, { h with enrolment := h.enrolment.forget entry.uniqueId })
  | setUp provided entry, h => do
    let (result, h) ← h.setUp provided entry
    return (.setUp result, h)
  | unload id, h => do
    let (was, h) ← h.unload id
    return (.unloaded was, h)
  | attach kind channel, h =>
    let (handle, h) := h.add (.adapter (.new kind channel))
    return (.attached handle, h)
  | call handle c, h => do
    let (result, h) ← h.call handle c
    return (.called result, h)

end Command

end Greenhouse
