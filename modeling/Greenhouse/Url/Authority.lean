import Greenhouse.Text.Decimal
import Greenhouse.Url.Host
import Greenhouse.Url.Path

/-!
# Greenhouse.Url.Authority

The authority of an address: credentials in front of an at sign, a host, and a port behind a colon.

The text of a host and that of a port are told apart by the first colon that is not between
brackets.  Only the last at sign ends the credentials.
-/

namespace Greenhouse.Url

open Greenhouse.Text

/-- Whether a character ends the authority. -/
def endsAuthority (c : Char) : Bool := Path.isSeparator c || c == '?' || c == '#'

/-! ## credentials -/

/-- The text behind the last at sign, and the text in front of it if there is one. -/
def splitCredentials (cs : List Char) : Option (List Char) × List Char :=
  let behind := (cs.reverse.takeWhile (· != '@')).reverse
  if behind.length < cs.length then
    (some (cs.take (cs.length - behind.length - 1)), behind)
  else (none, cs)

/-- The user name and the password. -/
def credentials : Option (List Char) → List Char × Option (List Char)
  | none => ([], none)
  | some cs =>
    let name := cs.takeWhile (· != ':')
    let password := (cs.dropWhile (· != ':')).drop 1
    (Percent.encode Percent.credentials name,
      if password.isEmpty then none else some (Percent.encode Percent.credentials password))

/-! ## host and port -/

/-- The text up to the first colon that is not between brackets, and the rest. -/
def splitPort (inside : Bool) : List Char → List Char × List Char
  | [] => ([], [])
  | c :: cs =>
    if c == ':' && !inside then ([], c :: cs)
    else
      let s := splitPort (if c == '[' then true else if c == ']' then false else inside) cs
      (c :: s.1, s.2)

/-- Reads what follows the host: nothing, or a colon and a port, which may be empty. -/
def readPort : List Char → Except Fault (Option Nat)
  | ':' :: cs =>
    if cs.isEmpty then .ok none
    else match Decimal.nat? cs with
      | none => .error .invalidPort
      | some n => if 0xFFFF < n then .error .invalidPort else .ok (some n)
  | _ => .ok none

/-- Reads a host and a port. -/
def hostAndPort (cs : List Char) : Except Fault (Host × Option Nat) := do
  let (host, rest) := splitPort false cs
  if host.isEmpty then throw .emptyHost
  let host ← Host.parse host
  return (host, ← readPort rest)

/-- Whether an authority names a machine that a request can be addressed to. -/
def namesMachine (authority : List Char) : Bool :=
  match hostAndPort (splitCredentials authority).2 with
  | .ok (host, _) => host.isAddressable
  | .error _ => false

end Greenhouse.Url
