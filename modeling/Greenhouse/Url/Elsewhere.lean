import Greenhouse.Url.Authority

/-!
# Greenhouse.Url.Elsewhere

References with a scheme that is none of the web's.

Nothing is ever fetched from them.  All that counts is whether such a reference would do as the
address of a request, for then it leads off the web, and otherwise nowhere.

* Some schemes have addresses like the web's, with a machine in them that must be one of the web's
  machines too.
* A file may lie on a machine.  It does not if the machine is the local one, or if its path begins
  with a drive.
* Behind any other scheme, two slashes introduce a machine with a name of any kind.  Without them
  the whole reference must look like an authority: `tel:1-2` does, as would a host and a port.
-/

namespace Greenhouse.Url.Elsewhere

open Greenhouse.Text

/-! ## schemes -/

/-- The schemes whose addresses are like those of the web. -/
def webLike : List (List Char) := [['f', 't', 'p'], ['w', 's'], ['w', 's', 's']]

/-- The scheme of files. -/
def file : List Char := ['f', 'i', 'l', 'e']

/-- How long the scheme in front of a machine may be. -/
def longestScheme : Nat := 64

/-! ## files -/

/-- The machine that a file lies on unless another is named. -/
def localMachine : Host := .domain ['l', 'o', 'c', 'a', 'l', 'h', 'o', 's', 't']

/-- Whether the text behind two slashes names a machine that a file lies on. -/
def namesFileServer (cs : List Char) : Bool :=
  let authority := cs.takeWhile (! endsAuthority ·)
  let path := ((cs.dropWhile (! endsAuthority ·)).takeWhile fun c => !(c == '?' || c == '#')).drop 1
  match Host.parse authority with
  | .ok host =>
    host.isAddressable && host != localMachine && !((Path.resolve [] path).head?.any Path.isDrive)
  | .error _ => false

/-! ## names of any kind -/

/-- The characters that no name of a machine holds. -/
def forbidden : List Char :=
  ['\x00', '\t', '\n', '\r', ' ', '#', '/', ':', '<', '>', '?', '@', '[', '\\', ']', '^', '|']

/-- Reads a machine whose name need not be a domain: an address between brackets or any other name,
with characters in percent form where they must be. -/
def host? : List Char → Option Host
  | '[' :: cs => (Host.ofBracketed cs).toOption
  | cs =>
    if cs.isEmpty || cs.any forbidden.contains then none else some (.domain (Percent.encode [] cs))

/-- Whether the text behind two slashes names a machine. -/
def namesAnyMachine (cs : List Char) : Bool :=
  let authority := cs.takeWhile fun c => !(c == '/' || c == '?' || c == '#')
  let (host, rest) := splitPort false (splitCredentials authority).2
  match host? host, readPort (rest.takeWhile (· != '\\')) with
  | some host, .ok _ => host.isAddressable && !host.text.contains '%'
  | _, _ => false

/-! ## references without slashes -/

/-- Whether a character may stand in an authority as it is. -/
def isPlain (c : Char) : Bool :=
  c.isAlphanum ||
    ['!', '$', '&', '\'', '(', ')', '*', '+', ',', '-', '.', ';', '=', '_', '~'].contains c

/-- An authority under way: how many colons there have been, and whether a percent sign, both
counted from the last at sign or closing bracket; and which brackets there have been. -/
structure Scan where
  colons : Nat
  percent : Bool
  opened : Bool
  closed : Bool

namespace Scan

/-- How many colons may stand together. -/
def mostColons : Nat := 8

/-- Reads one character, unless it may not stand there. -/
def push? (s : Scan) (c : Char) : Option Scan :=
  if c == ':' then if s.colons < mostColons then some { s with colons := s.colons + 1 } else none
  else if c == '@' then some { s with colons := 0, percent := false }
  else if c == '%' then some { s with percent := true }
  else if c == '[' then if s.percent || s.opened then none else some { s with opened := true }
  else if c == ']' then
    if !s.opened || s.closed then none else some ⟨0, false, true, true⟩
  else if isPlain c then some s
  else none

/-- Whether an authority may end here. -/
def isComplete (s : Scan) : Bool := s.opened == s.closed && s.colons ≤ 1 && !s.percent

end Scan

/-- Whether a text looks like an authority. -/
def isAuthority (cs : List Char) : Bool :=
  cs.getLast? != some '@' && (cs.foldlM Scan.push? ⟨0, false, false, false⟩).any Scan.isComplete

/-! ## references -/

/-- Whether a reference, given as its scheme and the text behind the colon, would do as the address
of a request. -/
def isAddress (scheme rest : List Char) : Bool :=
  if webLike.contains scheme then
    namesMachine ((rest.dropWhile Path.isSeparator).takeWhile (! endsAuthority ·))
  else if scheme = file then
    match rest with
    | a :: b :: cs => Path.isSeparator a && Path.isSeparator b && namesFileServer cs
    | _ => false
  else
    match rest with
    | '/' :: '/' :: cs => scheme.length ≤ longestScheme && namesAnyMachine cs
    | cs => isAuthority (scheme ++ ':' :: Percent.encode [] cs)

end Greenhouse.Url.Elsewhere
