import Greenhouse.Main
import Greenhouse.Script
import Greenhouse.Proofs.Replies
import Greenhouse.Command
import Greenhouse.Proofs.Chronicle
import Greenhouse.Proofs.Calls
import Greenhouse.Proofs.Memory
import Greenhouse.Proofs.Turns
import Greenhouse.Proofs.Address
import Greenhouse.Proofs.Admission
import Greenhouse.Proofs.Names
import Greenhouse.Proofs.Identity
import Greenhouse.Proofs.Fittings
import Greenhouse.Proofs.Keys
import Greenhouse.Proofs.Redirects
import Greenhouse.Proofs.Statuses
import Greenhouse.Proofs.Placement
import Greenhouse.Proofs.Enrolments
import Greenhouse.Proofs.Registers
import Greenhouse.Proofs.Polling
import Greenhouse.Proofs.Ticks
import Greenhouse.Proofs.Lifecycle
import Greenhouse.Proofs.Receivers
import Greenhouse.Proofs.Installations
import Greenhouse.Proofs.Refusals
import Greenhouse.Proofs.Persistence
import Greenhouse.Proofs.Restarts
import Greenhouse.Proofs.Numerals
import Greenhouse.Proofs.Doubles
import Greenhouse.Proofs.Positions
import Greenhouse.Proofs.Ensembles
import Greenhouse.Proofs.Closing
import Greenhouse.Proofs.Machines
import Greenhouse.Proofs.Endpoints
import Greenhouse.Proofs.Hosts
import Greenhouse.Proofs.Bareness
import Greenhouse.Proofs.Members
import Greenhouse.Proofs.Identifiers
import Greenhouse.Proofs.Lines
import Greenhouse.Proofs.Controls
