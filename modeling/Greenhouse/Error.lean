import Greenhouse.Double
import Greenhouse.EntryId
import Greenhouse.Exchange.Failure
import Greenhouse.Host

/-!
# Greenhouse.Error

Everything that can go wrong, by cause.

* A device may be unreachable, or answer with something that is no level.
* A request of the caller may make no sense; then nothing has been sent and nothing has changed.
* The stream of updates may be interrupted, or an update may break down.
-/

namespace Greenhouse

open Greenhouse.Text

/-- Why a request of the caller is refused. -/
inductive Refusal where
  | host (fault : Host.Fault)
  /-- A host gives a text that is no url. -/
  | url (address : String) (fault : Url.Fault)
  /-- A host gives a url that is not that of a power channel. -/
  | path (address : String)
  | alreadySetUp (id : EntryId)
  | notFinite (value : Double)
  | zeroInterval
  /-- There is no new client for requests. -/
  | noClient (cause : String)
  | other (text : String)
deriving DecidableEq

namespace Refusal

/-- The wording of a refusal. -/
def message : Refusal → String
  | host fault => fault.message
  | url address fault => "invalid device url " ++ quote address ++ ": " ++ fault.message
  | path address => "host does not form a power resource url: " ++ quote address
  | alreadySetUp id => "entry " ++ id.text ++ " is already set up"
  | notFinite value => "pump level must be a finite number, got " ++ value.unboundedText
  | zeroInterval => "poll interval must be non-zero"
  | noClient cause => "failed to build HTTP client: " ++ cause
  | other text => text

end Refusal

/-- What interrupts a stream of updates. -/
inductive Interruption where
  /-- The receiver was too slow: some updates are gone. -/
  | lagged (missed : Nat)
  /-- There will be no more updates. -/
  | closed
  /-- An update broke down in a task of its own, which has a number; perhaps with a text. -/
  | brokeDown (task : Nat) (text : Option String)
  | other (text : String)
deriving DecidableEq

namespace Interruption

/-- The wording of an interruption. -/
def message : Interruption → String
  | lagged missed => "Lagged by " ++ Decimal.text missed ++ " messages"
  | closed => "Poller closed"
  | brokeDown task text =>
    "update task failed: task " ++ Decimal.text task ++ " panicked" ++
      match text with
      | none => ""
      | some text => " with message " ++ quote text
  | other text => text

end Interruption

/-- What went wrong. -/
inductive Error where
  | unreachable (url : String) (cause : Exchange.Failure)
  | invalidResponse (url : String) (body : String)
  | invalidRequest (refusal : Refusal)
  | channelError (interruption : Interruption)
deriving DecidableEq

namespace Error

/-- The wording of an error. -/
def message : Error → String
  | unreachable url cause => "Device unreachable at " ++ url ++ ": " ++ cause.message
  | invalidResponse url body => "Invalid response from " ++ url ++ ": " ++ quote body
  | invalidRequest refusal => "Invalid request: " ++ refusal.message
  | channelError interruption => "Channel error: " ++ interruption.message

/-- Whether the device could not be reached. -/
def isUnreachable : Error → Bool
  | unreachable .. => true
  | _ => false

/-- Whether the device answered with something that is no level. -/
def isInvalidResponse : Error → Bool
  | invalidResponse .. => true
  | _ => false

end Error

end Greenhouse
