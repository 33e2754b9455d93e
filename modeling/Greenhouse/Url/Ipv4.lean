import Greenhouse.Text.Decimal
import Greenhouse.Text.Hex
import Greenhouse.Text.Split

/-!
# Greenhouse.Url.Ipv4

Addresses of four bytes.

A host whose last label is a number must be such an address.  It has one to four parts, each decimal,
octal behind a zero or hexadecimal behind `0x`; the last part fills all the bytes that are left.
-/

namespace Greenhouse.Url.Ipv4

open Greenhouse.Text

/-- The value of one or more octal digits. -/
def octal? (cs : List Char) : Option Nat :=
  if cs.all fun c => '0' ≤ c && c ≤ '7' then some (cs.foldl (fun n c => 8 * n + (c.toNat - '0'.toNat)) 0)
  else none

/-- The number that a part stands for. -/
def number? : List Char → Option Nat
  | [] => none
  | ['0'] => some 0
  | '0' :: c :: cs =>
    if c == 'x' || c == 'X' then (if cs.isEmpty then some 0 else Hex.nat? cs) else octal? (c :: cs)
  | cs => Decimal.nat? cs

/-- The parts of a host; one empty part at the end does not count. -/
def parts (host : List Char) : List (List Char) :=
  let ps := pieces (· == '.') host
  if 1 < ps.length ∧ ps.getLast? = some [] then ps.dropLast else ps

/-- Whether a host must be an address: its last part is a number or at least all digits. -/
def endsInNumber (host : List Char) : Bool :=
  (parts host).getLast?.any fun p => (!p.isEmpty && p.all Char.isDigit) || (number? p).isSome

/-- The address that numbers stand for: all but the last are bytes, and the last one must fit into
the bytes that are left. -/
def ofNumbers? (first : List Nat) (last : Nat) : Option Nat :=
  if first.length ≤ 3 ∧ (first.all (· ≤ 255)) ∧ last < 1 <<< (8 * (4 - first.length)) then
    some (first.foldl (fun n b => 256 * n + b) 0 <<< (8 * (4 - first.length)) + last)
  else none

/-- Reads an address. -/
def parse? (host : List Char) : Option Nat := do
  let numbers ← (parts host).mapM number?
  ofNumbers? numbers.dropLast (← numbers.getLast?)

/-- An address in dotted decimal. -/
def text (address : Nat) : List Char :=
  join '.' ([address / 0x1000000, address / 0x10000 % 0x100, address / 0x100 % 0x100, address % 0x100].map
    Decimal.ofNat)

end Greenhouse.Url.Ipv4
