import Greenhouse.House

/-!
# Greenhouse.Attempt

What can be attempted in a home and may end in an error.

An attempt gives its result and the home afterwards.
-/

namespace Greenhouse

/-- What can be attempted and may end in an error. -/
inductive Attempt where
  /-- Make a channel with a client of its own. -/
  | newChannel (provided : Except String Unit) (host : String) (index : UInt32)
  /-- Make a channel with a client that is there. -/
  | openChannel (host : String) (index : UInt32)
  | read (channel : Channel)
  | write (channel : Channel) (value : Power)
  | setUp (provided : Except String Unit) (entry : Entry)
  | call (handle : Handle) (call : Adapter.Call)
  | addPoller (entities : List Handle) (interval : Nat)

namespace Attempt

/-- What an attempt gives that succeeds. -/
inductive Gain where
  | channel (channel : Channel)
  | level (level : Power)
  | device (device : Appliance)
  /-- A refresh gives the state. -/
  | called (state : Option EntityState)
  | poller (poller : Nat)

/-- Makes an attempt.  There is no result of a call if nothing has the handle, or if it does not know the
call. -/
def perform : Attempt → House → Dialogue (Option (Except Error Gain) × House)
  | newChannel provided host index, h =>
    .done (some ((Channel.new? provided host index).map .channel), h)
  | openChannel host index, h => .done (some ((Channel.open? host index).map .channel), h)
  | read c, h => do
    let result ← c.get
    return (some (result.map .level), h)
  | write c value, h => do
    let result ← c.set value
    return (some (result.map .level), h)
  | setUp provided entry, h => do
    let (result, h) ← h.setUp provided entry
    return (some (result.map .device), h)
  | call handle c, h => do
    let (result, h) ← h.call handle c
    return (result.map fun r => r.map .called, h)
  | addPoller entities interval, h =>
    let (result, h) := h.addPoller entities interval
    .done (some (result.map .poller), h)

end Attempt

end Greenhouse
