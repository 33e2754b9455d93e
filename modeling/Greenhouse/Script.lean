import Greenhouse.Exchange.Phrase
import Greenhouse.Exchange.Wire
import Greenhouse.Power

/-!
# Greenhouse.Script

A device that answers by a script.

It keeps one level per url, 0 at first.  Its answers come from a queue, and once that is empty, from a
standing answer.  An answer may be that of a well-behaved device, which stores what it is told and
reports what it has stored; or it may be anything that a broken device could send.
-/

namespace Greenhouse

open Greenhouse.Text Greenhouse.Exchange

/-- How a scripted device answers one request. -/
inductive Script.Answer where
  /-- Store what is set, brought into 0 up to `max` if there is a `max`, and report the level. -/
  | store (max : Option Int)
  /-- A response with a body of which the last `missing` bytes do not come. -/
  | respond (status : Nat) (phrase : Option String) (location : Option String) (body : List UInt8)
      (missing : Nat)
  /-- These bytes. -/
  | raw (bytes : List UInt8)
  | silence

/-- A device that answers by a script. -/
structure Script where
  standing : Script.Answer
  queue : List Script.Answer
  levels : List (String × Int)

namespace Script

/-- A device that stores levels. -/
def new : Script := ⟨.store none, [], []⟩

/-- The level stored for a url. -/
def level? (s : Script) (url : String) : Option Int := s.levels.lookup url

/-- Stores a level for a url. -/
def setLevel (s : Script) (url : String) (level : Int) : Script :=
  { s with levels := (url, level) :: s.levels.filter (·.1 ≠ url) }

/-- The next answer, and the script behind it. -/
def next (s : Script) : Answer × Script :=
  match s.queue with
  | a :: queue => (a, { s with queue })
  | [] => (s.standing, s)

/-- Brings a level into 0 up to `max`, if there is a `max`. -/
def limit (level : Int) : Option Int → Int
  | none => level
  | some m => if level < 0 then 0 else min level m

/-- The reply of a device that reports a level. -/
def report (level : Int) : Reply :=
  Wire.read (Wire.write 200 (Phrase.standard 200) none (Utf8.encode (Decimal.ofInt level)) 0)

/-- Answers a request by storing or reporting a level. -/
def storeAnswer (max : Option Int) (request : Request) (s : Script) : Reply × Script :=
  let url := request.url.text
  match request.method with
  | .get => (report ((s.level? url).getD 0), s)
  | .put =>
    let level := limit (((Power.read? request.body).map Power.toInt).getD 0) max
    (report level, s.setLevel url level)

/-- The device that a script describes. -/
def device : Device Script := fun request s =>
  let (answer, s) := s.next
  match answer with
  | .store max => storeAnswer max request s
  | .respond status phrase location body missing =>
    (Wire.read (Wire.write status (phrase.getD (Phrase.standard status)) location body missing), s)
  | .raw bytes => (Wire.read bytes, s)
  | .silence => (.silence, s)

end Script

end Greenhouse
