import Greenhouse.Exchange.Message
import Greenhouse.Text.Decimal
import Greenhouse.Text.Utf8

/-!
# Greenhouse.Exchange.Wire

Replies as bytes, and requests.

A reply is a head of lines, ended by an empty line, and a body.  The first line holds the protocol,
a status of three digits and perhaps a phrase; each other line holds a field.  Heads of interim
statuses are passed over.  The body ends as its framing says: at once for statuses that have none,
after the last chunk, after the announced number of bytes, or with the connection.

Whatever cannot be read up to the end of the head, or announces its body in a way that makes no
sense, is `Reply.silence`; a body that breaks off is a response that is not complete.
-/

namespace Greenhouse.Exchange.Wire

open Greenhouse.Text Greenhouse.Url

/-! ## lines -/

/-- Takes one line, which ends with a line feed and perhaps a carriage return before it. -/
def line? : List UInt8 → Option (List UInt8 × List UInt8)
  | [] => none
  | 0x0A :: bs => some ([], bs)
  | [_] => none
  | 0x0D :: 0x0A :: bs => some ([], bs)
  | b :: bs => (line? bs).map fun l => (b :: l.1, l.2)

/-- Bytes as characters, one each. -/
def chars (bs : List UInt8) : List Char := bs.map fun b => Char.ofNat b.toNat

/-- Whether a byte may stand in a phrase or in the value of a field. -/
def isText (b : UInt8) : Bool := b == 0x09 || (0x20 ≤ b && b != 0x7F)

/-- Whether a byte may stand in the name of a field. -/
def isToken (b : UInt8) : Bool :=
  let c := Char.ofNat b.toNat
  c.isAlphanum || "!#$%&'*+-.^_`|~".toList.contains c

/-! ## the head -/

/-- The first line of a head. -/
structure StatusLine where
  /-- Whether the protocol is the newer one of the two that are understood. -/
  isNewer : Bool
  status : Nat
  phrase : String

/-- A phrase; one with bytes outside ASCII is not kept. -/
def phrase (bs : List UInt8) : String :=
  if bs.all (· < 0x80) then String.ofList (chars bs) else ""

/-- Reads the first line of a head. -/
def statusLine? (bs : List UInt8) : Option StatusLine := do
  let isNewer ←
    if "HTTP/1.1 ".toList.isPrefixOf (chars bs) then some true
    else if "HTTP/1.0 ".toList.isPrefixOf (chars bs) then some false
    else none
  let bs := bs.drop 9
  let digits := chars (bs.take 3)
  let status ← if digits.length = 3 then Decimal.nat? digits else none
  if status < 100 then none
  else match bs.drop 3 with
    | [] => some ⟨isNewer, status, ""⟩
    | 0x20 :: bs => if bs.all isText then some ⟨isNewer, status, phrase bs⟩ else none
    | _ => none

/-- A field of a head: its name in lower case, and its value. -/
structure Field where
  name : String
  value : List UInt8

/-- Bytes without the blanks around them. -/
def trimBytes (bs : List UInt8) : List UInt8 :=
  let isSpace := fun b : UInt8 => b == 0x20 || b == 0x09
  ((bs.dropWhile isSpace).reverse.dropWhile isSpace).reverse

/-- Reads a field. -/
def field? (bs : List UInt8) : Option Field :=
  let name := bs.takeWhile (· != 0x3A)
  match bs.dropWhile (· != 0x3A) with
  | [] => none
  | _ :: value =>
    if !name.isEmpty && name.all isToken && value.all isText then
      some ⟨String.ofList ((chars name).map Char.toLower), trimBytes value⟩
    else none

/-- How many fields a head may have. -/
def maxFields : Nat := 100

/-- Reads at most `room` fields, up to the empty line. -/
def fields? (room : Nat) (bs : List UInt8) : Option (List Field × List UInt8) :=
  match line? bs with
  | none => none
  | some ([], rest) => some ([], rest)
  | some (l, rest) =>
    match room with
    | 0 => none
    | room + 1 => do
      let field ← field? l
      let (fields, rest) ← fields? room rest
      return (field :: fields, rest)

/-- Bytes without the empty lines at their start. -/
def skipEmptyLines : List UInt8 → List UInt8
  | 0x0A :: bs => skipEmptyLines bs
  | 0x0D :: 0x0A :: bs => skipEmptyLines bs
  | bs => bs

/-- A head. -/
structure Head where
  line : StatusLine
  fields : List Field

/-- Reads one head. -/
def head? (bs : List UInt8) : Option (Head × List UInt8) := do
  let (l, rest) ← line? (skipEmptyLines bs)
  let statusLine ← statusLine? l
  let (fields, rest) ← fields? maxFields rest
  return (⟨statusLine, fields⟩, rest)

/-- Whether a status announces that another head follows. -/
def isInterim (status : Nat) : Bool := status < 200 && status != 101

/-- Reads heads, at most `fuel`, up to the first that is not interim. -/
def finalHead? : Nat → List UInt8 → Option (Head × List UInt8)
  | 0, _ => none
  | fuel + 1, bs =>
    match head? bs with
    | none => none
    | some (head, rest) =>
      if isInterim head.line.status then finalHead? fuel rest else some (head, rest)

namespace Head

/-- The values of the fields of a name. -/
def values (h : Head) (name : String) : List (List UInt8) :=
  (h.fields.filter (·.name = name)).map Field.value

/-- Where the head says that the resource is. -/
def location (h : Head) : Option String :=
  (h.values "location").head?.bind fun value => (Utf8.decode? value).map String.ofList

end Head

/-! ## the body -/

/-- How a body ends. -/
inductive Framing where
  | chunked
  | counted (length : Nat)
  | untilClosed

/-- Whether the last of some comma-separated words, all of them ASCII, is `chunked`. -/
def endsChunked (value : List UInt8) : Bool :=
  let word := (value.reverse.takeWhile (· != 0x2C)).reverse
  value.all (· < 0x80) && (chars (trimBytes word)).map Char.toLower == "chunked".toList

/-- The length that all values agree on. -/
def length? (values : List (List UInt8)) : Option Nat :=
  let numbers := (values.flatMap (pieces (· == 0x2C))).map fun v => Decimal.nat? (chars (trimBytes v))
  match numbers with
  | some n :: rest => if rest.all (· == some n) ∧ n < UInt64.size - 2 then some n else none
  | _ => none

/-- How the body behind a head ends; `none` if the head contradicts itself. -/
def framing? (h : Head) : Option Framing :=
  if h.line.status = 101 ∨ h.line.status = 204 ∨ h.line.status = 304 then some (.counted 0)
  else match (h.values "transfer-encoding").getLast? with
    | some value =>
      if !h.line.isNewer then none
      else if endsChunked value then some .chunked
      else some .untilClosed
    | none =>
      if (h.values "content-length").isEmpty then some .untilClosed
      else (length? (h.values "content-length")).map .counted

/-- Takes one line of a chunked body: it ends with the first carriage return, which must have a line
feed behind it. -/
def strictLine? (bs : List UInt8) : Option (List UInt8 × List UInt8) :=
  match bs.dropWhile (· != 0x0D) with
  | 0x0D :: 0x0A :: rest => some (bs.takeWhile (· != 0x0D), rest)
  | _ => none

/-- The size that the first line of a chunk gives, extensions left aside. -/
def chunkSize? (l : List UInt8) : Option Nat :=
  let size := l.takeWhile fun b => b != 0x3B && b != 0x20 && b != 0x09
  let rest := (l.drop size.length).dropWhile fun b => b == 0x20 || b == 0x09
  if l.contains 0x0A then none
  else match rest with
    | [] => Hex.nat? (chars size)
    | b :: _ => if b = 0x3B then Hex.nat? (chars size) else none

/-- The lines up to the first empty one, at most `fuel`. -/
def trailer? : Nat → List UInt8 → Option (List (List UInt8))
  | 0, _ => none
  | fuel + 1, bs =>
    match strictLine? bs with
    | none => none
    | some ([], _) => some []
    | some (l, rest) => (trailer? fuel rest).map (l :: ·)

/-- Whether what follows the last chunk is an empty line, or fields and an empty line. -/
def endsWell (bs : List UInt8) : Bool :=
  (trailer? (maxFields + 1) bs).any fun lines =>
    (fields? lines.length (lines.flatMap (· ++ [0x0D, 0x0A]) ++ [0x0D, 0x0A])).isSome

/-- Reads chunks, at most `fuel`: their bytes, and whether the last chunk came. -/
def chunks : Nat → List UInt8 → List UInt8 × Bool
  | 0, _ => ([], false)
  | fuel + 1, bs =>
    match strictLine? bs with
    | none => ([], false)
    | some (l, rest) =>
      match chunkSize? l with
      | none => ([], false)
      | some 0 => ([], endsWell rest)
      | some n =>
        match rest.drop n with
        | 0x0D :: 0x0A :: more =>
          let (data, complete) := chunks fuel more
          (rest.take n ++ data, complete)
        | _ => (rest.take n, false)

/-- Reads a body, and whether it came whole. -/
def body (bs : List UInt8) : Framing → List UInt8 × Bool
  | .chunked => chunks (bs.length + 1) bs
  | .counted n => (bs.take n, n ≤ bs.length)
  | .untilClosed => (bs, true)

/-! ## replies -/

/-- Reads all the bytes that came before the connection was closed. -/
def read (bs : List UInt8) : Reply :=
  match finalHead? (bs.length + 1) bs with
  | none => .silence
  | some (head, rest) =>
    match framing? head with
    | none => .silence
    | some framing =>
      let (data, complete) := body rest framing
      .answer {
        status := head.line.status
        phrase := head.line.phrase
        location := head.location
        body := data
        complete }

/-- Whether some bytes hold all of a reply, so that what may follow them does not matter. -/
def isWhole (bs : List UInt8) : Bool :=
  match finalHead? (bs.length + 1) bs with
  | none => false
  | some (head, rest) =>
    match framing? head with
    | none => true
    | some .untilClosed => false
    | some framing => (body rest framing).2

/-! ## writing -/

/-- The bytes of a line. -/
def lineBytes (s : String) : List UInt8 := Utf8.encode s.toList ++ [0x0D, 0x0A]

/-- The bytes of a reply with a body of which the last `missing` bytes do not come. -/
def write (status : Nat) (phrase : String) (location : Option String) (data : List UInt8)
    (missing : Nat) : List UInt8 :=
  lineBytes ("HTTP/1.1 " ++ Decimal.text status ++ " " ++ phrase) ++
    (location.map fun l => lineBytes ("Location: " ++ l)).getD [] ++
    lineBytes ("Content-Length: " ++ Decimal.text (data.length + missing)) ++ lineBytes "" ++ data

/-- The bytes of a request, after the reply to which the connection is to be closed. -/
def writeRequest (request : Request) : List UInt8 :=
  let url := request.url
  let target := Path.text url.path ++ (url.query.map ('?' :: ·)).getD []
  let data := Utf8.encode request.body.toList
  lineBytes (request.method.name ++ " " ++ String.ofList target ++ " HTTP/1.1") ++
    lineBytes ("Host: " ++ String.ofList url.authorityText) ++ lineBytes "Accept: */*" ++
    lineBytes "Connection: close" ++
    (if request.method = .put then lineBytes ("Content-Length: " ++ Decimal.text data.length) else []) ++
    lineBytes "" ++ data

end Greenhouse.Exchange.Wire
