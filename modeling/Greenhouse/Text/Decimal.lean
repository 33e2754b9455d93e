/-!
# Greenhouse.Text.Decimal

Whole numbers in decimal.

Numbers are written with the fewest digits.  Reading takes more than writing gives: any number of
leading zeros, and for integers one sign of either kind.

* `nat?_ofNat` and `int?_ofInt` — what was written is read back.
-/

namespace Greenhouse.Text.Decimal

/-- The digits of a number. -/
def ofNat (n : Nat) : List Char := Nat.toDigits 10 n

/-- A number as text. -/
def text (n : Nat) : String := String.ofList (ofNat n)

/-- The digits of an integer, with a sign in front if it is negative. -/
def ofInt : Int → List Char
  | .ofNat n => ofNat n
  | .negSucc n => '-' :: ofNat (n + 1)

/-- Reads one or more digits. -/
def nat? (cs : List Char) : Option Nat :=
  if !cs.isEmpty && cs.all Char.isDigit then some (Nat.ofDigitChars 10 cs 0) else none

/-- Reads one or more digits with at most one sign in front. -/
def int? : List Char → Option Int
  | '+' :: cs => (nat? cs).map Int.ofNat
  | '-' :: cs => (nat? cs).map fun n => -Int.ofNat n
  | cs => (nat? cs).map Int.ofNat

/-! ## reading back -/

/-- A number is written with digits. -/
theorem isDigit_of_mem_ofNat {n : Nat} {c : Char} (h : c ∈ ofNat n) : c.isDigit :=
  Nat.isDigit_of_mem_toDigits (by decide) (by decide) h

/-- A digit differs from whatever is none. -/
theorem ne_of_isDigit {c d : Char} (hc : c.isDigit) (hd : d.isDigit = false) : c ≠ d := by
  rintro rfl
  rw [hd] at hc
  cases hc

/-- Numbers are written with nothing but digits. -/
theorem ne_of_mem_ofNat {n : Nat} {c d : Char} (h : c ∈ ofNat n) (hd : d.isDigit = false) : c ≠ d :=
  ne_of_isDigit (isDigit_of_mem_ofNat h) hd

/-- There is always a digit. -/
@[simp] theorem ofNat_ne_nil {n : Nat} : ofNat n ≠ [] := Nat.toDigits_ne_nil

/-- A written number reads as itself. -/
@[simp] theorem nat?_ofNat (n : Nat) : nat? (ofNat n) = some n := by
  have hd : (ofNat n).all Char.isDigit := List.all_eq_true.mpr fun c => isDigit_of_mem_ofNat
  simp only [nat?, hd, Bool.and_true, Bool.not_eq_true', List.isEmpty_eq_false_iff, ne_eq,
    ofNat_ne_nil, not_false_eq_true, if_true]
  exact congrArg some Nat.ofDigitChars_ten_toDigits

/-- Text without a sign reads as a natural number does. -/
theorem int?_of_isDigit_head {c : Char} {cs : List Char} (h : c.isDigit) :
    int? (c :: cs) = (nat? (c :: cs)).map Int.ofNat := by
  unfold int?
  split
  · simp_all [Char.isDigit]
  · simp_all [Char.isDigit]
  · rfl

/-- A written number with a sign reads as itself. -/
@[simp] theorem int?_ofInt (n : Int) : int? (ofInt n) = some n := by
  cases n with
  | ofNat n =>
    obtain ⟨c, cs, h⟩ := List.exists_cons_of_ne_nil (ofNat_ne_nil (n := n))
    rw [ofInt, h, int?_of_isDigit_head (isDigit_of_mem_ofNat (n := n) (by simp [h])), ← h]
    simp
  | negSucc n => simp [ofInt, int?, Int.negSucc_eq]

/-- Different numbers have different digits. -/
theorem ofNat_injective {m n : Nat} (h : ofNat m = ofNat n) : m = n := by
  simpa [nat?_ofNat] using congrArg nat? h

end Greenhouse.Text.Decimal
