import Greenhouse.Domain.Name
import Greenhouse.Url.Ipv4
import Greenhouse.Url.Ipv6
import Greenhouse.Url.Percent

/-!
# Greenhouse.Url.Host

The machine that a url names: a domain name or an address.
-/

namespace Greenhouse.Url

open Greenhouse.Text

/-- Why a text is no url. -/
inductive Fault where
  | emptyHost
  | invalidPort
  | invalidIpv4
  | invalidIpv6
  | invalidDomain
  | missingBase
deriving DecidableEq, Repr

/-- The wording of a fault. -/
def Fault.message : Fault → String
  | emptyHost => "empty host"
  | invalidPort => "invalid port number"
  | invalidIpv4 => "invalid IPv4 address"
  | invalidIpv6 => "invalid IPv6 address"
  | invalidDomain => "invalid international domain name"
  | missingBase => "relative URL without a base"

/-- A machine. -/
inductive Host where
  | domain (name : List Char)
  | ipv4 (address : Nat)
  | ipv6 (groups : List Nat)
deriving DecidableEq

namespace Host

/-- The one way to write a host. -/
def text : Host → List Char
  | domain name => name
  | ipv4 address => Ipv4.text address
  | ipv6 groups => '[' :: Ipv6.text groups ++ [']']

/-- The host of a text between brackets, the first of which has been read. -/
def ofBracketed (cs : List Char) : Except Fault Host :=
  match cs.getLast?, Ipv6.parse? cs.dropLast with
  | some ']', some groups => .ok (.ipv6 groups)
  | _, _ => .error .invalidIpv6

/-- The host of a domain name in ASCII. -/
def ofAscii (name : List Char) : Except Fault Host :=
  if name.isEmpty then .error .emptyHost
  else if Ipv4.endsInNumber name then
    match Ipv4.parse? name with
    | some address => .ok (.ipv4 address)
    | none => .error .invalidIpv4
  else .ok (.domain name)

/-- Reads a host. -/
def parse : List Char → Except Fault Host
  | '[' :: cs => ofBracketed cs
  | cs =>
    match (Percent.decode? cs).bind Domain.toAscii? with
    | some name => ofAscii name
    | none => .error .invalidDomain

/-- Whether a request can be addressed to a host: four characters may stand in a domain name but not
in the address of a request. -/
def isAddressable (h : Host) : Bool :=
  !(h.text.any fun c => c == '"' || c == '`' || c == '\x7b' || c == '\x7d')

end Host

end Greenhouse.Url
