/-!
# Greenhouse.Domain.Punycode

Labels of any characters written in ASCII.

The ASCII characters of a label come first, then a hyphen if there are any, then the places of the
other characters: for each, in ascending order of code point and then of place, the number of
positions and code points passed over since the one before.  Each number is written with digits of
a varying base whose thresholds follow a bias that adapts to the numbers seen.
-/

namespace Greenhouse.Domain.Punycode

/-! ## digits and bias -/

/-- The digits: the letters, then the decimal digits. -/
def digit (n : Nat) : Char := if n < 26 then Char.ofNat ('a'.toNat + n) else Char.ofNat ('0'.toNat + (n - 26))

/-- The value of a digit, a letter counting in either case. -/
def digit? (c : Char) : Option Nat :=
  if 'a' ≤ c ∧ c ≤ 'z' then some (c.toNat - 'a'.toNat)
  else if 'A' ≤ c ∧ c ≤ 'Z' then some (c.toNat - 'A'.toNat)
  else if '0' ≤ c ∧ c ≤ '9' then some (c.toNat - '0'.toNat + 26)
  else none

/-- The threshold of the digit with weight step `k`: from 1 to 26. -/
def threshold (k bias : Nat) : Nat := if k ≤ bias then 1 else if bias + 26 ≤ k then 26 else k - bias

/-- Some digit ends a number wherever it stands. -/
theorem threshold_pos (k bias : Nat) : 0 < threshold k bias := by
  unfold threshold; split <;> (try split) <;> omega

/-- There are always ten digits with which a number goes on, so what is left of it gets smaller. -/
theorem threshold_le (k bias : Nat) : threshold k bias ≤ 26 := by
  unfold threshold; split <;> (try split) <;> omega

/-- Scales a number down until it is small, counting the steps. -/
def scale (steps delta : Nat) : Nat :=
  if 455 < delta then scale (steps + 36) (delta / 35) else steps + 36 * delta / (delta + 38)
termination_by delta

/-- The bias after a number: `points` is how many characters the text then has. -/
def adapt (delta points : Nat) (first : Bool) : Nat :=
  let delta := if first then delta / 700 else delta / 2
  scale 0 (delta + delta / points)

/-- The bias before any number. -/
def initialBias : Nat := 72

/-! ## writing -/

/-- The digits of a number from weight step `k` on. -/
def numberFrom (bias k q : Nat) : List Char :=
  let t := threshold k bias
  if q < t then [digit q]
  else digit (t + (q - t) % (36 - t)) :: numberFrom bias (k + 36) ((q - t) / (36 - t))
termination_by q
decreasing_by
  have h1 := threshold_pos k bias
  have h2 := threshold_le k bias
  exact Nat.lt_of_le_of_lt (Nat.div_le_self _ _) (by omega)

/-- Writing under way: the digits so far in reverse, the number to be written next, the bias, and how
many characters have been dealt with. -/
structure Writer where
  digits : List Char
  delta : Nat
  bias : Nat
  written : Nat

/-- Passes one character of the label while the code point `m` is being written. -/
def Writer.pass (basic m : Nat) (w : Writer) (c : Char) : Writer :=
  if c.toNat < m then { w with delta := w.delta + 1 }
  else if c.toNat = m then
    { digits := (numberFrom w.bias 36 w.delta).reverse ++ w.digits
      delta := 0
      bias := adapt w.delta (w.written + 1) (w.written == basic)
      written := w.written + 1 }
  else w

/-- Inserts a number into an ascending list, unless it is there. -/
def insertNew (n : Nat) : List Nat → List Nat
  | [] => [n]
  | m :: ms => if n < m then n :: m :: ms else if n = m then m :: ms else m :: insertNew n ms

/-- Writes the code points `ms`, in ascending order, of which `n` is the next that has not been
passed over. -/
def encodeFrom (basic : Nat) (label : List Char) (n : Nat) (w : Writer) : List Nat → Writer
  | [] => w
  | m :: ms =>
    let w := { w with delta := w.delta + (m - n) * (w.written + 1) }
    let w := label.foldl (Writer.pass basic m) w
    encodeFrom basic label (m + 1) { w with delta := w.delta + 1 } ms

/-- The ASCII form of a label, without the mark that tells it from a plain label. -/
def encode (label : List Char) : List Char :=
  let basic := label.filter (·.toNat < 0x80)
  let others := ((label.map Char.toNat).filter (0x80 ≤ ·)).foldr insertNew []
  let w := encodeFrom basic.length label 0x80 ⟨[], 0, initialBias, basic.length⟩ others
  (if basic.isEmpty then [] else basic ++ ['-']) ++ w.digits.reverse

/-! ## reading -/

/-- Reading under way: the text so far, the last code point and place, the bias, and of the number at
hand its start, its value so far, its weight and its weight step. -/
structure Reader where
  text : List Char
  code : Nat
  place : Nat
  bias : Nat
  value : Nat
  weight : Nat
  step : Nat

/-- Puts an element into a list at a place. -/
def insertAt (x : α) : Nat → List α → List α
  | 0, ys => x :: ys
  | _ + 1, [] => [x]
  | i + 1, y :: ys => y :: insertAt x i ys

/-- Reads one digit.  The last digit of a number gives the next character and its place. -/
def Reader.push? (r : Reader) (c : Char) : Option Reader := do
  let d ← digit? c
  let value := r.value + d * r.weight
  let t := threshold r.step r.bias
  if t ≤ d then
    return { r with value, weight := r.weight * (36 - t), step := r.step + 36 }
  let points := r.text.length + 1
  let code := r.code + value / points
  if ¬ code.isValidChar then none
  let place := value % points
  return {
    text := insertAt (Char.ofNat code) place r.text
    code
    place := place + 1
    bias := adapt (value - r.place) points (r.place == 0)
    value := place + 1
    weight := 1
    step := 36 }

/-- Reads the digits of a label behind its ASCII characters; the last number must be complete. -/
def decodeFrom? (basic digits : List Char) : Option (List Char) := do
  let r ← digits.foldlM Reader.push? ⟨basic, 0x80, 0, initialBias, 0, 1, 36⟩
  if r.step = 36 then some r.text else none

/-- The ASCII characters of a label and its digits: what stands in front of the last hyphen and what
behind it.  With nothing in front of that hyphen, all are digits. -/
def split (cs : List Char) : List Char × List Char :=
  let digits := (cs.reverse.takeWhile (· != '-')).reverse
  let basic := (cs.take (cs.length - digits.length)).dropLast
  if basic.isEmpty then ([], cs) else (basic, digits)

/-- Reads the ASCII form of a label, without the mark that tells it from a plain label. -/
def decode? (cs : List Char) : Option (List Char) :=
  let (basic, digits) := split cs
  if basic.all (·.toNat < 0x80) then decodeFrom? basic digits else none

end Greenhouse.Domain.Punycode
