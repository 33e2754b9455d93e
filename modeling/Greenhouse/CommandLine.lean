import Greenhouse.House
import Greenhouse.Stored

/-!
# Greenhouse.CommandLine

The command line: one look at a device, one change, or watching it for a while.

The arguments are a host, what to control, and perhaps what to do with it; more are passed over.  The
host is enrolled and set up before anything else is looked at.  Only then is it decided whether the
rest makes sense, and only then is anything sent.

The program keeps a log of what it does.  Unless it is told otherwise, the log goes to the same output
as the results, and leaves out the notes for those who look for mistakes in the program.
-/

namespace Greenhouse.CommandLine

open Greenhouse.Text

/-! ## what is written -/

/-- A line on the first output. -/
inductive Line where
  /-- A line of the log: a note behind the time and the place that it is from. -/
  | noted (note : Note)
  | printed (text : String)

/-- Some notes as lines of the log; only those are there that are shown. -/
def logged (notes : List Note) : List Line := (notes.filter Note.isShown).map .noted

/-- How the program ends: its exit code, and what it writes to its two outputs. -/
structure Report where
  code : Nat
  lines : List Line
  errors : String

/-- A report of a program that has noted something before. -/
def Report.behind (report : Report) (notes : List Note) : Report :=
  { report with lines := logged notes ++ report.lines }

/-- How the program is used. -/
def usageText : String :=
  "usage: plant_care <host> <light|pump> [on|off|<level>]\n" ++
    "       plant_care <host> poll [seconds]\n"

/-- The program was used wrongly. -/
def usage : Report := ⟨2, [], usageText⟩

/-- The program failed. -/
def failed (description : String) : Report := ⟨1, [], "Error: " ++ description ++ "\n"⟩

/-- The program did what it should. -/
def succeeded (lines : List Line) : Report := ⟨0, lines, ""⟩

/-- An error as its parts.  Of a device that could not be reached only the name of the error stands here:
its parts are written by the client for requests. -/
def describe : Error → String
  | .unreachable .. => "DeviceUnreachable"
  | .invalidResponse url body =>
    "InvalidResponse \x7b url: " ++ quote url ++ ", body: " ++ quote body ++ " \x7d"
  | .invalidRequest refusal => "InvalidRequest(" ++ quote refusal.message ++ ")"
  | .channelError interruption => "ChannelError(" ++ quote interruption.message ++ ")"

/-- A shown form as its parts. -/
def describeForm (step : String) (fields : List String) (errors : List (String × String)) : String :=
  "ShowForm \x7b step_id: " ++ quote step ++ ", fields: [" ++
    String.intercalate ", " (fields.map quote) ++ "], errors: \x7b" ++
    String.intercalate ", " (errors.map fun e => quote e.1 ++ ": " ++ quote e.2) ++ "\x7d \x7d"

/-- An end without an entry as its parts. -/
def describeAbort (reason : String) : String := "Abort \x7b reason: " ++ quote reason ++ " \x7d"

/-! ## numbers in arguments -/

/-- Why an argument is no number. -/
inductive NumberFault where
  | empty
  | invalidDigit
  | tooLarge
deriving DecidableEq

/-- A fault as its parts. -/
def NumberFault.describe : NumberFault → String
  | empty => "ParseIntError \x7b kind: Empty \x7d"
  | invalidDigit => "ParseIntError \x7b kind: InvalidDigit \x7d"
  | tooLarge => "ParseIntError \x7b kind: PosOverflow \x7d"

/-- Reads digits onto the number before them, up to the first fault. -/
def digits (bound n : Nat) : List Char → Except NumberFault Nat
  | [] => .ok n
  | c :: cs =>
    if c.isDigit then
      let n := 10 * n + (c.toNat - '0'.toNat)
      if n < bound then digits bound n cs else .error .tooLarge
    else .error .invalidDigit

/-- Reads a number below a bound, which may have a plus sign. -/
def number (bound : Nat) (argument : String) : Except NumberFault Nat :=
  match argument.toList with
  | [] => .error .empty
  | ['+'] => .error .invalidDigit
  | '+' :: cs => digits bound 0 cs
  | cs => digits bound 0 cs

/-! ## control -/

/-- Which entity is controlled, and by which call; `none` if the arguments make no sense. -/
def control? (fittings : Fittings) (target : String) (action : Option String) :
    Option (Adapter × Adapter.Call) :=
  match target, action with
  | "light", none => some (fittings.light, .update)
  | "light", some "on" => some (fittings.light, .turnOn none)
  | "light", some "off" => some (fittings.light, .turnOff)
  | "light", some level =>
    match number UInt8.size level with
    | .ok n => some (fittings.light, .turnOn (some (UInt8.ofNat n)))
    | .error _ => none
  | "pump", none => some (fittings.pump, .update)
  | "pump", some "on" => some (fittings.pump, .turnOn none)
  | "pump", some "off" => some (fittings.pump, .turnOff)
  | _, _ => none

/-- What is printed about an entity. -/
def stateLine (a : Adapter) : String := a.name ++ ": " ++ Stored.write a.state

/-- Makes a call and reports how it went. -/
def reportCall (a : Adapter) (c : Adapter.Call) : Dialogue Report := do
  let (result, a) ← a.call c
  match result with
  | .error e => return failed (describe e)
  | .ok _ => return succeeded [.printed (stateLine a)]

/-! ## watching -/

/-- A flag that may be missing. -/
def flagText : Option Bool → String
  | none => "None"
  | some true => "Some(true)"
  | some false => "Some(false)"

/-- What is printed about an update. -/
def updateLine : Update → String
  | .refreshed s => s.uniqueId ++ " power=" ++ Note.powerText s.power ++ " on=" ++ flagText s.isOn
  | .failed id e => id ++ " unavailable: " ++ e.message

/-- What is written about an update: what is noted about it, and its line. -/
def updateLines (u : Update) : List Line := logged [u.note u.uniqueId] ++ [.printed (updateLine u)]

/-- A device that is being watched. -/
structure Watch where
  poller : Poller
  entities : List Entity

namespace Watch

/-- Begins to watch the entities that a device offers. -/
def new (fittings : Fittings) (seconds : Nat) : Except Error Watch := do
  let entities := Platform.all.flatMap fittings.onPlatform
  let poller ← Poller.new (List.range entities.length) (1000 * seconds)
  return ⟨poller, entities.map .adapter⟩

/-- One tick: its updates, and the watch after it. -/
def tick (w : Watch) : Dialogue (List Update × Watch) := do
  let (poller, entities) ← w.poller.tick w.entities
  let (updates, _) := poller.feed.drain w.poller.feed.sent
  return (updates, ⟨poller, entities⟩)

/-- Watches until some number of updates has been printed, for at most `fuel` ticks.  The last tick goes
on to its end; its other updates are noted only. -/
def lines : Nat → Nat → Watch → Dialogue (List Line)
  | 0, _, _ => .done []
  | fuel + 1, count, w =>
    if count = 0 then .done []
    else do
      let (updates, w) ← w.tick
      let others := (updates.drop count).map fun u => u.note u.uniqueId
      let more ← lines fuel (count - updates.length) w
      return (updates.take count).flatMap updateLines ++ logged others ++ more

end Watch

/-! ## the program -/

/-- What the arguments ask for. -/
inductive Plan where
  /-- Nothing is sent. -/
  | finish (report : Report)
  | control (adapter : Adapter) (call : Adapter.Call)
  | watch (watch : Watch)

/-- The adapters of the device at a host, or why there are none.  `id` is the identifier that the entry
of the device gets. -/
def fittings (provided : Except String Unit) (id : EntryId) (host : String) :
    Dialogue (Except String Fittings) := do
  .tellAll (Enrolment.empty.notes (some ⟨host⟩))
  match (Enrolment.empty.step id (some ⟨host⟩)).1 with
  | .form step fields errors =>
    return .error ("could not configure device: " ++ describeForm step fields errors)
  | .abort reason => return .error ("could not configure device: " ++ describeAbort reason)
  | .entry entry =>
    match Registry.empty.fittings? provided entry with
    | .error e => return .error e.message
    | .ok fittings => do
      .tellAll (fittings.notes entry.data.host)
      return .ok fittings

/-- How long to wait between two looks if the arguments do not say, in seconds. -/
def usualSeconds : Nat := 10

/-- What to watch, or why that cannot be. -/
def watch (fittings : Fittings) (seconds : Option String) : Plan :=
  match (seconds.map (number UInt64.size)).getD (.ok usualSeconds) with
  | .error fault => .finish (failed fault.describe)
  | .ok seconds =>
    match Watch.new fittings seconds with
    | .error e => .finish (failed (describe e))
    | .ok w => .watch w

/-- What is to be done with the device at a host. -/
def planFor (fittings : Fittings) (target : String) (action : Option String) : Plan :=
  if target = "poll" then watch fittings action
  else match control? fittings target action with
    | none => .finish usage
    | some (adapter, call) => .control adapter call

/-- What some arguments ask for. -/
def plan (provided : Except String Unit) (id : EntryId) : List String → Dialogue Plan
  | host :: target :: rest => do
    match ← fittings provided id host with
    | .error reason => return .finish (failed (quote reason))
    | .ok fittings => return planFor fittings target rest.head?
  | _ => return .finish usage

/-- Does what the arguments ask for; a watch is interrupted once `count` updates are printed. -/
def Plan.carryOut (count : Nat) : Plan → Dialogue Report
  | .finish report => .done report
  | .control adapter call => do
    let (report, notes) ← (reportCall adapter call).listen
    return report.behind notes
  | .watch w => do
    let lines ← w.lines count count
    .tell .pollerStopped
    return succeeded (lines ++ logged [.pollerStopped])

/-- Runs the program; a watch is interrupted once `count` updates are printed. -/
def run (provided : Except String Unit) (id : EntryId) (arguments : List String) (count : Nat) :
    Dialogue Report := do
  let (plan, notes) ← (plan provided id arguments).listen
  let report ← plan.carryOut count
  return report.behind notes

end Greenhouse.CommandLine
