import Greenhouse.Text.Hex
import Greenhouse.Text.Utf8

/-!
# Greenhouse.Url.Percent

Characters of a url written as percent signs and hexadecimal digits.

Each part of a url has its own set of ASCII characters that must be written so; every character
outside ASCII and every control is written so everywhere.  A percent sign stays as it is.
-/

namespace Greenhouse.Url.Percent

open Greenhouse.Text

/-! ## writing -/

/-- The ASCII characters, controls aside, that a fragment must not show. -/
def fragment : List Char := [' ', '"', '<', '>', '`']

/-- Those that a path must not show. -/
def path : List Char := fragment ++ ['#', '?', '{', '}']

/-- Those that a query must not show. -/
def query : List Char := [' ', '"', '#', '<', '>', '\'']

/-- Those that a user name and a password must not show. -/
def credentials : List Char := path ++ ['/', ':', ';', '=', '@', '[', '\\', ']', '^', '|']

/-- One byte as a percent sign and two capital digits. -/
def byte (b : UInt8) : List Char := '%' :: (Hex.ofNatPadded 2 b.toNat).map Char.toUpper

/-- A text with the characters of `set` written in percent form. -/
def encode (set : List Char) (cs : List Char) : List Char :=
  cs.flatMap fun c =>
    if c.toNat < 0x20 || 0x7F ≤ c.toNat || set.contains c then
      (String.utf8EncodeChar c).flatMap byte
    else [c]

/-! ## reading -/

/-- The value of a byte that is a hexadecimal digit. -/
def digit? (b : UInt8) : Option Nat := Hex.digit? (Char.ofNat b.toNat)

/-- Replaces each percent sign in front of two hexadecimal digits by the byte that they name. -/
def decodeBytes : List UInt8 → List UInt8
  | a :: b :: c :: bs =>
    if a = 0x25 then
      match digit? b, digit? c with
      | some h, some l => UInt8.ofNat (16 * h + l) :: decodeBytes bs
      | _, _ => a :: decodeBytes (b :: c :: bs)
    else a :: decodeBytes (b :: c :: bs)
  | bs => bs

/-- A text with its percent forms resolved, if that gives text. -/
def decode? (cs : List Char) : Option (List Char) :=
  if cs.contains '%' then Utf8.decode? (decodeBytes (Utf8.encode cs)) else some cs

/-- Text without a percent sign stands for itself. -/
theorem decode?_of_not_mem {cs : List Char} (h : '%' ∉ cs) : decode? cs = some cs := by
  rw [decode?, if_neg (by simpa using h)]

end Greenhouse.Url.Percent
