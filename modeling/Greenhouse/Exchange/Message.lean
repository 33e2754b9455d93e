import Greenhouse.Url

/-!
# Greenhouse.Exchange.Message

What passes between a client and a device: requests one way, replies the other.

Of a reply only those parts are kept that decide what it means: the status with its phrase, where
else to ask, and the body.
-/

namespace Greenhouse

/-- What a request is for: reading a resource or setting it. -/
inductive Method where
  | get
  | put
deriving DecidableEq, Repr

/-- The name of a method. -/
def Method.name : Method → String
  | get => "GET"
  | put => "PUT"

/-- A request to a device. -/
structure Request where
  method : Method
  url : Url
  body : String
deriving DecidableEq

/-- An answer whose head was readable. -/
structure Response where
  status : Nat
  phrase : String
  /-- Where the answer says that the resource is. -/
  location : Option String
  body : List UInt8
  /-- Whether the body came whole. -/
  complete : Bool
deriving DecidableEq

/-- What comes back for a request. -/
inductive Reply where
  | answer (response : Response)
  /-- No answer in time, or none that can be read. -/
  | silence
deriving DecidableEq

instance : Inhabited Reply := ⟨.silence⟩

/-- A device answers each request and goes on to another state. -/
abbrev Device (σ : Type) : Type := Request → σ → Reply × σ

end Greenhouse
