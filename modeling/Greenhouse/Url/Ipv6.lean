import Greenhouse.Text.Decimal
import Greenhouse.Text.Hex
import Greenhouse.Text.Split

/-!
# Greenhouse.Url.Ipv6

Addresses of eight groups of sixteen bits.

Groups are hexadecimal and stand between colons; two colons once stand for one or more groups of
zero.  The last two groups may be written as four decimal bytes.
-/

namespace Greenhouse.Url.Ipv6

open Greenhouse.Text

/-! ## reading -/

/-- A group of one to four hexadecimal digits. -/
def group? (cs : List Char) : Option Nat := if cs.length ≤ 4 then Hex.nat? cs else none

/-- A byte in decimal, without leading zeros. -/
def byte? (cs : List Char) : Option Nat :=
  if cs.length ≤ 3 ∧ (cs.head? = some '0' → cs.length = 1) then
    (Decimal.nat? cs).filter (· ≤ 255)
  else none

/-- Two groups written as four decimal bytes. -/
def dotted? (cs : List Char) : Option (List Nat) :=
  match (pieces (· == '.') cs).mapM byte? with
  | some [a, b, c, d] => some [256 * a + b, 256 * c + d]
  | _ => none

/-- The groups between single colons; `tail` says whether they end the address, so that the last of
them may be written as bytes. -/
def groups? (tail : Bool) : List (List Char) → Option (List Nat)
  | [] => some []
  | [p] =>
    match group? p with
    | some n => some [n]
    | none => if tail then dotted? p else none
  | p :: ps => (group? p).bind fun n => (groups? tail ps).map (n :: ·)

/-- The groups of one side of a double colon, which may be empty. -/
def side? (tail : Bool) (cs : List Char) : Option (List Nat) :=
  if cs.isEmpty then some [] else groups? tail (pieces (· == ':') cs)

/-- What stands in front of the first double colon and what behind it. -/
def splitDouble? : List Char → Option (List Char × List Char)
  | ':' :: ':' :: cs => some ([], cs)
  | c :: cs => (splitDouble? cs).map fun s => (c :: s.1, s.2)
  | [] => none

/-- Reads an address into its eight groups. -/
def parse? (cs : List Char) : Option (List Nat) :=
  match splitDouble? cs with
  | none => (groups? true (pieces (· == ':') cs)).filter (·.length = 8)
  | some (front, back) => do
    let front ← side? false front
    let back ← side? true back
    if front.length + back.length ≤ 7 then
      some (front ++ List.replicate (8 - front.length - back.length) 0 ++ back)
    else none

/-! ## writing -/

/-- How many zeros a list begins with. -/
def zeros : List Nat → Nat
  | 0 :: ns => zeros ns + 1
  | _ => 0

/-- The first of the longest runs of two or more zeros, `place` being where the list starts: where
the run starts and how long it is. -/
def longestZeros (place : Nat) : List Nat → Option (Nat × Nat)
  | [] => none
  | n :: ns =>
    let here := zeros (n :: ns)
    match longestZeros (place + 1) ns with
    | some (start, length) => if length ≤ here then some (place, here) else some (start, length)
    | none => if 2 ≤ here then some (place, here) else none

/-- Groups between single colons. -/
def groupsText (ns : List Nat) : List Char := join ':' (ns.map Hex.ofNat)

/-- An address with its first longest run of zeros left out. -/
def text (groups : List Nat) : List Char :=
  match longestZeros 0 groups with
  | none => groupsText groups
  | some (start, length) =>
    groupsText (groups.take start) ++ [':', ':'] ++ groupsText (groups.drop (start + length))

end Greenhouse.Url.Ipv6
