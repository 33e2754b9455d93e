import Greenhouse.Url.Elsewhere

/-!
# Greenhouse.Url

Web addresses.

Reading an address brings it into one form: the host in lower case, in Punycode or as a number in its
standard form, the port left out where it is the usual one, the path without dot segments, and
characters in percent form where they must be.  A backslash counts as a slash, any number of slashes
may stand behind the scheme, and the authority ends at the first slash, question mark or number sign
after them.

* `Url.parse` reads an address that stands by itself.
* `Url.join` reads a reference relative to an address.
* `Url.text` writes an address.
-/

namespace Greenhouse

open Greenhouse.Text

/-- The ways of transport. -/
inductive Url.Scheme where
  | http
  | https
deriving DecidableEq

namespace Url.Scheme

/-- The name of a scheme. -/
def name : Scheme → List Char
  | http => ['h', 't', 't', 'p']
  | https => ['h', 't', 't', 'p', 's']

/-- The port that goes without saying. -/
def usualPort : Scheme → Nat
  | http => 80
  | https => 443

end Url.Scheme

/-- A web address in its one form. -/
structure Url where
  scheme : Url.Scheme
  username : List Char
  password : Option (List Char)
  host : Url.Host
  port : Option Nat
  path : List (List Char)
  query : Option (List Char)
  fragment : Option (List Char)
deriving DecidableEq

namespace Url

/-! ## what follows the authority -/

/-- The query of what follows a path, and the text behind the query. -/
def splitQuery : List Char → Option (List Char) × List Char
  | '?' :: cs =>
    (some (Percent.encode Percent.query (cs.takeWhile (· != '#'))), cs.dropWhile (· != '#'))
  | cs => (none, cs)

/-- The fragment of what follows a query. -/
def fragment? : List Char → Option (List Char)
  | '#' :: cs => some (Percent.encode Percent.fragment cs)
  | _ => none

/-- Whether a character ends the path. -/
def endsPath (c : Char) : Bool := c == '?' || c == '#'

/-- An address with another path, and the query and fragment that `rest` holds. -/
def withRest (url : Url) (path : List (List Char)) (rest : List Char) : Url :=
  let (query, rest) := splitQuery rest
  { url with path, query, fragment := fragment? rest }

/-- Reads the authority and what follows it. -/
def ofAuthority (scheme : Scheme) (cs : List Char) : Except Fault Url := do
  let authority := cs.takeWhile (! endsAuthority ·)
  let rest := cs.dropWhile (! endsAuthority ·)
  let (user, hostPort) := splitCredentials authority
  let (username, password) := credentials user
  let (host, port) ← hostAndPort hostPort
  let port := port.filter (· != scheme.usualPort)
  let url : Url := ⟨scheme, username, password, host, port, [[]], none, none⟩
  return url.withRest (Path.resolve [] ((rest.takeWhile (! endsPath ·)).drop 1))
    (rest.dropWhile (! endsPath ·))

/-! ## whole addresses -/

/-- Text as the reader of addresses takes it: without the controls and spaces around it, and without
tabs and line breaks anywhere. -/
def clean (cs : List Char) : List Char :=
  let cs := cs.dropWhile (·.toNat ≤ 0x20)
  let cs := (cs.reverse.dropWhile (·.toNat ≤ 0x20)).reverse
  cs.filter fun c => !(c == '\t' || c == '\n' || c == '\r')

/-- The scheme in front of the first colon, in lower case, and the text behind the colon. -/
def splitScheme (cs : List Char) : Option (List Char × List Char) :=
  let name := cs.takeWhile (· != ':')
  let rest := cs.dropWhile (· != ':')
  if name.head?.any Char.isAlpha &&
      name.all (fun c => c.isAlphanum || c == '+' || c == '-' || c == '.') && !rest.isEmpty then
    some (name.map Char.toLower, rest.drop 1)
  else none

/-- Reads an address that stands by itself. -/
def parse (cs : List Char) : Except Fault Url :=
  match splitScheme (clean cs) with
  | some (name, rest) =>
    if name = Scheme.http.name then ofAuthority .http (rest.dropWhile Path.isSeparator)
    else if name = Scheme.https.name then ofAuthority .https (rest.dropWhile Path.isSeparator)
    else .error .missingBase
  | none => .error .missingBase

/-- What a reference leads to. -/
inductive Target where
  | web (url : Url)
  /-- Off the web. -/
  | elsewhere
  /-- The reference would not do as the address of a request. -/
  | nowhere

/-- Reads a reference without a scheme.  Behind two slashes the authority begins at once, while with
a backslash among the first two characters any number of slashes may stand in front of it. -/
def relative (base : Url) (cs : List Char) : Except Fault Url :=
  match cs with
  | [] => .ok { base with fragment := none }
  | c :: rest =>
    if Path.isSeparator c then
      if ['/', '/'].isPrefixOf cs then ofAuthority base.scheme (cs.drop 2)
      else if rest.head?.any Path.isSeparator then
        ofAuthority base.scheme (cs.dropWhile Path.isSeparator)
      else .ok (base.withRest (Path.resolve [] (rest.takeWhile (! endsPath ·)))
        (rest.dropWhile (! endsPath ·)))
    else if c == '?' then .ok (base.withRest base.path cs)
    else if c == '#' then .ok { base with fragment := fragment? cs }
    else .ok (base.withRest (Path.resolve base.path.dropLast (cs.takeWhile (! endsPath ·)))
      (cs.dropWhile (! endsPath ·)))

/-- Reads the part of a reference behind a scheme: with fewer than two slashes it is relative to a
base of the same scheme. -/
def behindScheme (base : Url) (scheme : Scheme) (rest : List Char) : Except Fault Url :=
  if scheme = base.scheme ∧ (rest.takeWhile Path.isSeparator).length < 2 then relative base rest
  else ofAuthority scheme (rest.dropWhile Path.isSeparator)

/-- Reads a reference relative to an address. -/
def join (base : Url) (cs : List Char) : Except Fault Target :=
  let cs := clean cs
  match splitScheme cs with
  | some (name, rest) =>
    if name = Scheme.http.name then (behindScheme base .http rest).map .web
    else if name = Scheme.https.name then (behindScheme base .https rest).map .web
    else .ok (if Elsewhere.isAddress name rest then .elsewhere else .nowhere)
  | none => (relative base cs).map .web

/-! ## writing -/

/-- User name and password as they stand in front of the host. -/
def credentialsText (url : Url) : List Char :=
  match url.password with
  | some password => url.username ++ ':' :: password ++ ['@']
  | none => if url.username.isEmpty then [] else url.username ++ ['@']

/-- The host, and the port if it is not the usual one. -/
def authorityText (url : Url) : List Char :=
  url.host.text ++ (url.port.map fun n => ':' :: Decimal.ofNat n).getD []

/-- An address in its one form. -/
def chars (url : Url) : List Char :=
  url.scheme.name ++ [':', '/', '/'] ++ url.credentialsText ++ url.authorityText ++
    Path.text url.path ++ (url.query.map ('?' :: ·)).getD [] ++ (url.fragment.map ('#' :: ·)).getD []

/-- An address as text. -/
def text (url : Url) : String := String.ofList url.chars

/-- How long the address of a request may be. -/
def longestAddress : Nat := 0xFFFE

/-- Whether a request can be addressed to a url. -/
def isAddressable (url : Url) : Bool :=
  url.host.isAddressable && url.chars.length ≤ longestAddress

end Url

end Greenhouse
