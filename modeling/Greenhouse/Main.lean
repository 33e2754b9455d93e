import Greenhouse.CommandLine
import Greenhouse.Exchange.Wire
import Std.Async.DNS
import Std.Async.Signal
import Std.Async.TCP
import Std.Async.Timer

/-!
# Greenhouse.Main

The program: the command line, held with devices on the network.

What to ask and what to print is decided in `Greenhouse.CommandLine`, and which bytes pass in
`Greenhouse.Exchange.Wire`.  Here they are only carried.  What is noted is written to the log when it
is noted, if it is shown at all.
-/

namespace Greenhouse.Network

open Std Std.Async

/-! ## exchanges -/

/-- The address of a port of a machine. -/
def socketAddress (port : Nat) : Net.IPAddr → Net.SocketAddress
  | .v4 address => .v4 ⟨address, UInt16.ofNat port⟩
  | .v6 address => .v6 ⟨address, UInt16.ofNat port⟩

/-- The name of a machine as it is looked up. -/
def lookUpName : Url.Host → String
  | .ipv6 groups => String.ofList (Url.Ipv6.text groups)
  | host => String.ofList host.text

/-- Receives bytes behind those already received, until they hold a whole reply or no more come. -/
partial def receive (client : TCP.Socket.Client) (received : List UInt8) : Async (List UInt8) := do
  if Exchange.Wire.isWhole received then return received
  match ← client.recv? 65536 with
  | none => return received
  | some more => receive client (received ++ more.toList)

/-- Connects to the first of some addresses that lets it. -/
def connect? : List Net.SocketAddress → Async (Option TCP.Socket.Client)
  | [] => return none
  | address :: others => do
    try
      let client ← TCP.Socket.Client.mk
      client.connect address
      return some client
    catch _ => connect? others

/-- Sends a request to the machine that it names, and receives the reply. -/
def exchange (request : Request) : Async Reply := do
  let port := request.url.port.getD request.url.scheme.usualPort
  let found ← DNS.getAddrInfo (lookUpName request.url.host) (Text.Decimal.text port)
  match ← connect? (found.toList.map (socketAddress port)) with
  | none => return .silence
  | some client =>
    client.send ⟨(Exchange.Wire.writeRequest request).toArray⟩
    return Exchange.Wire.read (← receive client [])

/-- Nothing, once a client has waited long enough. -/
def patience : Async Reply := do
  sleep (Time.Millisecond.Offset.ofNat Exchange.timeout)
  return .silence

/-- What comes back for a request; whatever goes wrong on the way is silence. -/
def reply (request : Request) : IO Reply := do
  try (Async.race (exchange request) patience).block
  catch _ => return .silence

/-- Writes a note to the log, if it is shown. -/
def log (n : Note) : IO Unit := do
  if n.isShown then
    let now := Time.DateTime.ofTimestamp (← Time.Timestamp.now) .UTC
    IO.println (now.toISO8601String ++ " " ++ n.line)

/-- Holds a dialogue over the network. -/
def hold : Dialogue α → IO α
  | .done a => return a
  | .note n rest => do
    log n
    hold rest
  | .ask request next => do hold (next (← reply request))

/-! ## watching -/

/-- Waits until a point in time, in milliseconds, or an interruption; whether it was that. -/
partial def rest (interruption : AsyncTask Int) (time : Nat) : IO Bool := do
  if (← interruption.getState) matches .finished then return true
  let now ← IO.monoMsNow
  if time ≤ now then return false
  IO.sleep (UInt32.ofNat (min 50 (time - now)))
  rest interruption time

/-- Ticks at intervals, the first time at `time`, and prints how it went, until an interruption. -/
partial def watch (interruption : AsyncTask Int) (w : CommandLine.Watch) (time : Nat) : IO Unit := do
  if ← rest interruption time then
    log .pollerStopped
  else
    let (updates, w) ← hold w.tick
    updates.forM fun u => IO.println (CommandLine.updateLine u)
    (← IO.getStdout).flush
    watch interruption w (time + w.poller.interval)

/-! ## the program -/

/-- A fresh identifier. -/
def freshId : IO EntryId := do
  let bytes ← IO.getRandomBytes 16
  return EntryId.ofRandom (bytes.foldl (fun bits b => bits <<< 8 ||| b.toBitVec.setWidth 122) 0)

/-- Prints a report and ends with its exit code.  The log has been written before. -/
def finish (report : CommandLine.Report) : IO UInt32 := do
  report.lines.forM fun
    | .noted _ => return
    | .printed text => IO.println text
  IO.eprint report.errors
  return UInt32.ofNat report.code

/-- Does what the arguments ask for. -/
def carryOut : CommandLine.Plan → IO UInt32
  | .finish report => finish report
  | .control adapter call => do finish (← hold (CommandLine.reportCall adapter call))
  | .watch w => do
    let waiter ← Signal.Waiter.mk .sigint false
    watch (← waiter.wait) w (← IO.monoMsNow)
    return 0

end Greenhouse.Network

/-- Controls or watches the device at a host. -/
def main (arguments : List String) : IO UInt32 := do
  let id ← Greenhouse.Network.freshId
  let plan ← Greenhouse.Network.hold (Greenhouse.CommandLine.plan (.ok ()) id arguments)
  Greenhouse.Network.carryOut plan
