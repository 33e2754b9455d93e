import Greenhouse.Text.Blank
import Greenhouse.Text.Quoted

/-!
# Greenhouse.Host

The address of a device as its owner gives it: a host name or number, possibly with a port.

Whether such a text is a bare address is decided on its characters alone: it must not be empty, and
it holds no white space and nothing that would start a path, a query, a fragment or credentials.
-/

namespace Greenhouse.Host

open Greenhouse.Text

/-- Why a text is not taken for a bare address. -/
inductive Fault where
  | empty
  | notBare (host : String)
deriving DecidableEq, Repr

/-- The wording of a fault. -/
def Fault.message : Fault → String
  | empty => "host must not be empty"
  | notBare host => "host must be an address without scheme or path, got " ++ quote host

/-- The characters that a bare address must not hold, white space aside. -/
def delimiters : List Char := ['/', '?', '#', '@']

/-- Whether a bare address may hold a character. -/
def isBare (c : Char) : Bool := !(delimiters.contains c || isBlank c)

/-- Checks that a text is a bare address. -/
def check (host : String) : Except Fault Unit :=
  if host.toList.isEmpty then .error .empty
  else if host.toList.all isBare then .ok ()
  else .error (.notBare host)

/-- Which texts are bare addresses. -/
theorem check_eq_ok_iff {host : String} :
    check host = .ok () ↔ host.toList ≠ [] ∧ ∀ c ∈ host.toList, isBare c := by
  unfold check
  split
  · next h => simp_all
  · next h =>
    split
    · next h' => simpa using ⟨by simpa using h, by simpa using h'⟩
    · next h' => simp_all

/-! ## identity -/

/-- What every identifier of the system begins with. -/
def domain : String := "plant_care"

/-- A host with every dot replaced by an underscore. -/
def undotted (host : String) : String :=
  String.ofList (host.toList.map fun c => if c = '.' then '_' else c)

/-- What the identifiers of a device's entities begin with. -/
def baseId (host : String) : String := domain ++ "." ++ undotted host

end Greenhouse.Host
