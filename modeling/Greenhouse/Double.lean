import Greenhouse.Power

/-!
# Greenhouse.Double

Numbers of double precision, as the slider of a number entity shows and takes them.

A double is its 64 bits: a sign, eleven bits of exponent and 52 bits of fraction.  `Double.value` says
which number they stand for, as a whole number times a power of two, so that rounding is done in whole
numbers.

* A level becomes a slider position by rounding to the nearest double, a tie going to the even one
  (`Double.ofInt`).
* A slider position becomes a level in three steps, the first two of which give doubles again: rounding
  to the nearest whole number, a half going away from zero (`Double.round`), clamping
  (`Double.clamp`), and taking the whole part (`Double.toPower`).
-/

namespace Greenhouse

open Greenhouse.Text

/-- A number of double precision. -/
structure Double where
  bits : UInt64
deriving DecidableEq

namespace Double

/-- What a double stands for. -/
inductive Value where
  | nan
  | infinite (negative : Bool)
  /-- The number `significand * 2 ^ exponent`, or its negative. -/
  | finite (negative : Bool) (significand : Nat) (exponent : Int)
deriving DecidableEq

/-! ## reading the bits -/

/-- The sign bit. -/
def isNegative (d : Double) : Bool := 0x8000000000000000 ≤ d.bits.toNat

/-- The exponent bits. -/
def exponentField (d : Double) : Nat := d.bits.toNat >>> 52 % 0x800

/-- The fraction bits. -/
def fraction (d : Double) : Nat := d.bits.toNat % 0x10000000000000

/-- The value of a double. -/
def value (d : Double) : Value :=
  if d.exponentField = 2047 then
    if d.fraction = 0 then .infinite d.isNegative else .nan
  else if d.exponentField = 0 then .finite d.isNegative d.fraction (-1074)
  else .finite d.isNegative (0x10000000000000 + d.fraction) (d.exponentField - 1075)

/-! ## whole numbers -/

/-- The integer of a sign and a magnitude. -/
def signed (negative : Bool) (n : Nat) : Int := if negative then -n else n

/-- The whole number nearest to `n / 2 ^ shift`, a tie going to the even one. -/
def roundHalfEven (n shift : Nat) : Nat :=
  let scale := 1 <<< shift
  let q := n / scale
  let r := n % scale
  if scale < 2 * r ∨ (scale = 2 * r ∧ q % 2 = 1) then q + 1 else q

/-- The exponent and fraction bits of the double nearest to a natural number.  A significand that
rounding has carried over to 54 bits moves the exponent on by itself. -/
def magnitudeBits (n : Nat) : Nat :=
  if n = 0 then 0
  else
    let size := n.log2 + 1
    let significand := if size ≤ 53 then n <<< (53 - size) else roundHalfEven n (size - 53)
    (size + 1022) <<< 52 + (significand - 0x10000000000000)

/-- The double of a sign that is nearest to a natural number in magnitude. -/
def ofMagnitude (negative : Bool) (n : Nat) : Double :=
  ⟨UInt64.ofNat ((if negative then 0x8000000000000000 else 0) + magnitudeBits n)⟩

/-- The double nearest to an integer. -/
def ofInt (n : Int) : Double := ofMagnitude (n < 0) n.natAbs

/-- A level as a slider position. -/
def ofPower (p : Power) : Double := ofInt p.toInt

/-! ## rounding -/

/-- The whole number nearest to `significand * 2 ^ exponent`, a half going up. -/
def roundHalfUp (significand : Nat) (exponent : Int) : Nat :=
  if 0 ≤ exponent then significand <<< exponent.toNat
  else
    let scale := 1 <<< (-exponent).toNat
    (2 * significand + scale) / (2 * scale)

/-- The nearest whole number, a half going away from zero.  The sign stays, also that of a zero, and so
does what is no number. -/
def round (d : Double) : Double :=
  match d.value with
  | .finite negative significand exponent =>
    if 0 ≤ exponent then d else ofMagnitude negative (roundHalfUp significand exponent)
  | _ => d

/-! ## order -/

/-- Where a value stands among the others, counted in the smallest number there is, `2 ^ -1074`.  An
infinity stands where `2 ^ 1024` would, beyond all numbers. -/
def Value.rank? : Value → Option Int
  | nan => none
  | infinite negative => some (signed negative (1 <<< 2098))
  | finite negative significand exponent =>
    some (signed negative (significand <<< (exponent + 1074).toNat))

/-- Whether a double is less than another.  Nothing is less or greater than what is no number. -/
def lt (d e : Double) : Bool :=
  match d.value.rank?, e.value.rank? with
  | some x, some y => x < y
  | _, _ => false

/-- A double brought between two others. -/
def clamp (d low high : Double) : Double :=
  let d := if d.lt low then low else d
  if high.lt d then high else d

/-! ## levels -/

/-- The whole part of `significand * 2 ^ exponent`. -/
def wholePart (significand : Nat) (exponent : Int) : Nat :=
  if 0 ≤ exponent then significand <<< exponent.toNat else significand >>> (-exponent).toNat

/-- The level of a double: its whole part, or the last level on its side if that is beyond all levels.
What is no number gives 0. -/
def toPower (d : Double) : Power :=
  match d.value with
  | .nan => .off
  | .infinite negative => .nearest (signed negative (1 <<< 1024))
  | .finite negative significand exponent =>
    .nearest (signed negative (wholePart significand exponent))

/-! ## text -/

/-- The text of what is no number. -/
def unboundedText (d : Double) : String :=
  match d.value with
  | .nan => "NaN"
  | .infinite true => "-inf"
  | _ => "inf"

/-- The whole part and the first decimal of `significand * 2 ^ exponent`. -/
def tenths (significand : Nat) (exponent : Int) : Nat × Nat :=
  if 0 ≤ exponent then (significand <<< exponent.toNat, 0)
  else
    let scale := 1 <<< (-exponent).toNat
    (significand / scale, significand % scale * 10 / scale)

/-- A double in decimal, to one place. -/
def text (d : Double) : String :=
  match d.value with
  | .finite negative significand exponent =>
    let (whole, tenth) := tenths significand exponent
    String.ofList ((if negative then ['-'] else []) ++ Decimal.ofNat whole ++ '.' :: Decimal.ofNat tenth)
  | _ => d.unboundedText

example : (ofInt 255).text = "255.0" := by decide +kernel
example : (ofInt 0x7FFFFFFFFFFFFFFF).text = "9223372036854775808.0" := by decide +kernel
example : (ofInt 0x20000000000001).text = "9007199254740992.0" := by decide +kernel
example : (ofInt (-0x20000000000003)).text = "-9007199254740996.0" := by decide +kernel

end Double

end Greenhouse
