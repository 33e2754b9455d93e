import Greenhouse.Error
import Greenhouse.Power

/-!
# Greenhouse.Note

What the system notes about its work.
-/

namespace Greenhouse

open Greenhouse.Text

/-- How much a note matters. -/
inductive Note.Level where
  | debug
  | info
  | warn
deriving DecidableEq, Repr

/-- The name of a level. -/
def Note.Level.name : Note.Level → String
  | debug => "DEBUG"
  | info => "INFO"
  | warn => "WARN"

/-- Something worth noting. -/
inductive Note where
  | reading (url : String)
  | reported (url : String) (power : Power)
  | setting (url : String) (value : Power)
  | adjusted (url : String) (requested acknowledged : Power)
  | hostRejected (input : String) (fault : Host.Fault)
  | alreadyConfigured (host : String)
  | entryCreated (host : String)
  | entityCreated (platform id host : String)
  | unloaded (host : String)
  | refreshed (id : String) (power : Option Power)
  | updateFailed (id : String) (error : Error)
  | pollerStopped

namespace Note

/-- How much a note matters. -/
def level : Note → Level
  | alreadyConfigured .. | entryCreated .. | entityCreated .. | unloaded .. | pollerStopped => .info
  | updateFailed .. => .warn
  | _ => .debug

/-- Whether a note is shown to who runs a program that asks for no more than usual. -/
def isShown (n : Note) : Bool := n.level ≠ .debug

/-- A level that may be missing. -/
def powerText : Option Power → String
  | none => "None"
  | some p => "Some(" ++ p.text ++ ")"

/-- The wording of a note. -/
def message : Note → String
  | reading url => "GET power url=" ++ url
  | reported url power => "device reported power url=" ++ url ++ " power=" ++ power.text
  | setting url value => "PUT power url=" ++ url ++ " value=" ++ value.text
  | adjusted url requested acknowledged =>
    "device adjusted power url=" ++ url ++ " requested=" ++ requested.text ++ " acknowledged=" ++
      acknowledged.text
  | hostRejected input fault =>
    "Rejected host " ++ quote input ++ ": " ++ (Error.invalidRequest (.host fault)).message
  | alreadyConfigured host => "PlantCare " ++ host ++ " is already configured"
  | entryCreated host => "Creating config entry for PlantCare " ++ host
  | entityCreated platform id host => platform ++ " entity " ++ id ++ " created for " ++ host
  | unloaded host => "Unloaded PlantCare " ++ host
  | refreshed id power => "entity refreshed unique_id=" ++ id ++ " power=" ++ powerText power
  | updateFailed id error => "Failed to update " ++ id ++ ": " ++ error.message
  | pollerStopped => "Poller stopped"

/-- A note as a line. -/
def line (n : Note) : String := n.level.name ++ " " ++ n.message

end Note

end Greenhouse
