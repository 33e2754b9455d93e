/-!
# Greenhouse.Text.Hex

Numbers in hexadecimal: written in lower case, read in either case.
-/

namespace Greenhouse.Text.Hex

/-- The value of a hexadecimal digit. -/
def digit? (c : Char) : Option Nat :=
  if '0' ≤ c ∧ c ≤ '9' then some (c.toNat - '0'.toNat)
  else if 'a' ≤ c ∧ c ≤ 'f' then some (c.toNat - 'a'.toNat + 10)
  else if 'A' ≤ c ∧ c ≤ 'F' then some (c.toNat - 'A'.toNat + 10)
  else none

/-- Whether a character is a hexadecimal digit. -/
def isDigit (c : Char) : Bool := (digit? c).isSome

/-- Reads hexadecimal digits onto the number before them. -/
def natFrom? (n : Nat) : List Char → Option Nat
  | [] => some n
  | c :: cs => (digit? c).bind fun d => natFrom? (16 * n + d) cs

/-- Reads one or more hexadecimal digits. -/
def nat? (cs : List Char) : Option Nat := if cs.isEmpty then none else natFrom? 0 cs

/-- The hexadecimal digits of a number. -/
def ofNat (n : Nat) : List Char := Nat.toDigits 16 n

/-- Exactly `width` hexadecimal digits, the high ones left out or filled up with zeros. -/
def ofNatPadded : Nat → Nat → List Char
  | 0, _ => []
  | width + 1, n => ofNatPadded width (n / 16) ++ [Nat.digitChar (n % 16)]

/-- A padded number is as long as asked for. -/
@[simp] theorem length_ofNatPadded (width n : Nat) : (ofNatPadded width n).length = width := by
  induction width generalizing n with
  | zero => rfl
  | succ width ih => simp [ofNatPadded, ih]

/-! ## reading back -/

/-- Digits are read one after the other. -/
theorem natFrom?_append (n : Nat) (cs ds : List Char) :
    natFrom? n (cs ++ ds) = (natFrom? n cs).bind (natFrom? · ds) := by
  induction cs generalizing n with
  | nil => rfl
  | cons c cs ih =>
    cases h : digit? c with
    | none => simp [natFrom?, h]
    | some d => simp [natFrom?, h, ih]

/-- A digit reads as what it was written from. -/
@[simp] theorem digit?_digitChar {d : Nat} (h : d < 16) : digit? (Nat.digitChar d) = some d := by
  have : ∀ d : Fin 16, digit? (Nat.digitChar d) = some d.val := by decide
  exact this ⟨d, h⟩

/-- How many numbers can be written with `width` digits. -/
def count : Nat → Nat
  | 0 => 1
  | width + 1 => 16 * count width

/-- Padded digits read back, up to the digits that were left out. -/
theorem natFrom?_ofNatPadded (width n m : Nat) :
    natFrom? m (ofNatPadded width n) = some (count width * m + n % count width) := by
  induction width generalizing n with
  | zero => rw [ofNatPadded, natFrom?, count, Nat.one_mul, Nat.mod_one, Nat.add_zero]
  | succ width ih =>
    rw [ofNatPadded, natFrom?_append, ih]
    have hd : n % 16 < 16 := Nat.mod_lt _ (by decide)
    have hm : n % (16 * count width) = n % 16 + 16 * (n / 16 % count width) := Nat.mod_mul
    have hp : 16 * count width * m = 16 * (count width * m) := Nat.mul_assoc ..
    rw [count, hm, hp]
    simp only [Option.bind_some, natFrom?, digit?_digitChar hd, Option.some.injEq]
    omega

end Greenhouse.Text.Hex
