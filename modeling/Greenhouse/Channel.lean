import Greenhouse.Exchange.Fetch

/-!
# Greenhouse.Channel

Power channels: one numbered resource of one device.

A channel reads the level of its resource, or sets it; either way the device answers with the level
that it then has, and that answer counts, not what was asked for.  A channel remembers nothing.

Requests go through a client.  Whether a new one can be had is up to the machine, so what needs one is
told: `provided` is the client, or why there is none.
-/

namespace Greenhouse

open Greenhouse.Text

/-- A new client for requests, if there is one. -/
def newClient (provided : Except String Unit) : Except Error Unit :=
  provided.mapError fun cause => .invalidRequest (.noClient cause)

/-- The text of the url of a device's channel. -/
def Channel.urlText (host : String) (index : UInt32) : String :=
  "http://" ++ host ++ "/power/" ++ Decimal.text index.toNat

/-- A power channel whose url has been found to be one. -/
structure Channel where
  host : String
  index : UInt32
  target : Url
deriving DecidableEq

namespace Channel

/-- The path of the channel of an index. -/
def path (index : UInt32) : List (List Char) :=
  ["power".toList, Decimal.ofNat index.toNat]

/-- Whether a url is that of the channel of an index, with nothing added. -/
def isResource (url : Url) (index : UInt32) : Bool :=
  url.path == path index && url.query.isNone && url.fragment.isNone && url.username.isEmpty &&
    url.password.isNone

/-- The channel of a device, if its host is a bare address and gives the url of a channel.  Nothing is
sent. -/
def open? (host : String) (index : UInt32) : Except Error Channel :=
  match Host.check host with
  | .error fault => .error (.invalidRequest (.host fault))
  | .ok () =>
    match Url.parse (urlText host index).toList with
    | .error fault => .error (.invalidRequest (.url (urlText host index) fault))
    | .ok target =>
      if isResource target index then .ok ⟨host, index, target⟩
      else .error (.invalidRequest (.path (urlText host index)))

/-- The channel of a device, with a new client of its own. -/
def new? (provided : Except String Unit) (host : String) (index : UInt32) :
    Except Error Channel := do
  newClient provided
  open? host index

/-- The url of a channel as its host gives it. -/
def url (c : Channel) : String := urlText c.host c.index

/-- What the body of a call means. -/
def readLevel (c : Channel) : Except Exchange.Failure String → Except Error Power
  | .error failure => .error (.unreachable c.url failure)
  | .ok body =>
    match Power.read? body with
    | some power => .ok power
    | none => .error (.invalidResponse c.url body)

/-- Reads the level. -/
def get (c : Channel) : Dialogue (Except Error Power) := do
  .tell (.reading c.url)
  let result := c.readLevel (← Exchange.fetch ⟨.get, c.target, ""⟩)
  match result with
  | .ok power => .tell (.reported c.url power)
  | .error _ => pure ()
  return result

/-- Sets the level and gives the level that the device acknowledged. -/
def set (c : Channel) (value : Power) : Dialogue (Except Error Power) := do
  .tell (.setting c.url value)
  let result := c.readLevel (← Exchange.fetch ⟨.put, c.target, value.text⟩)
  match result with
  | .ok acknowledged =>
    if acknowledged ≠ value then .tell (.adjusted c.url value acknowledged)
  | .error _ => pure ()
  return result

end Channel

end Greenhouse
