import Greenhouse.Double
import Mathlib.Data.Rat.Floor
import Mathlib.Tactic.Linarith
import Mathlib.Tactic.NormNum
import Mathlib.Tactic.Ring

/-!
# Greenhouse.Proofs.Doubles

The numbers that doubles stand for.

The bits of a double are a sign, an exponent and binary places, and the number they stand for is read
off them (`Double.number?`).  In units of a power of two the doubles above a bound are whole, and the
nearest of them to an integer is found by rounding in these units.

* `number?_of_value`, `exists_value_of_number?` — a double stands for the number that its value says.
* `isNearest_ofInt` — an integer becomes the nearest double, a tie going to the even one.
* `lt_iff`, `number?_clamp` — doubles are compared and clamped as the numbers that they stand for.
-/

namespace Greenhouse.Double

/-! ## numbers -/

/-- The number that the bits of a double stand for.  With the sign `s`, the exponent `e` and the binary
places `f` it is `(-1) ^ s * 2 ^ (e - 1023) * (1 + f)`.  The least exponent stands for `2 ^ -1022` and has
no 1 in front of the places, and the greatest one marks what is no number. -/
def number? (d : Double) : Option ℚ :=
  let s : ℕ := d.bits.toNat / 2 ^ 63
  let e : ℕ := d.bits.toNat / 2 ^ 52 % 2 ^ 11
  let f : ℚ := (d.bits.toNat % 2 ^ 52 : ℕ) / 2 ^ 52
  if e = 2047 then none
  else if e = 0 then some ((-1) ^ s * 2 ^ (-1022 : ℤ) * f)
  else some ((-1) ^ s * 2 ^ ((e : ℤ) - 1023) * (1 + f))

/-- The number `significand * 2 ^ exponent`, or its negative. -/
def scaled (negative : Bool) (significand : ℕ) (exponent : ℤ) : ℚ :=
  (signed negative significand : ℤ) * 2 ^ exponent

theorem signed_cast (negative : Bool) (n : ℕ) :
    ((signed negative n : ℤ) : ℚ) = (if negative then -1 else 1) * n := by
  cases negative <;> simp [signed]

/-- An integer is its sign and its magnitude. -/
theorem signed_natAbs (n : ℤ) : signed (n < 0) n.natAbs = n := by
  rw [signed]
  by_cases hn : n < 0
  · rw [if_pos (decide_eq_true hn)]
    omega
  · rw [if_neg (by simpa using hn)]
    omega

/-- How far an integer is from a number of its sign. -/
theorem abs_signed_mul_sub (n : ℤ) (m : ℕ) (u : ℚ) :
    |((signed (n < 0) m : ℤ) : ℚ) * u - n| = |m * u - n.natAbs| := by
  have hn : (n : ℚ) = ((signed (n < 0) n.natAbs : ℤ) : ℚ) := by rw [signed_natAbs]
  rw [hn, signed_cast, signed_cast, mul_assoc, ← mul_sub, abs_mul]
  split <;> simp

/-- Doubling a significand is the same as adding to the exponent. -/
theorem scaled_mul_two_pow (negative : Bool) (n k : ℕ) (e : ℤ) :
    scaled negative (n * 2 ^ k) e = scaled negative n (e + k) := by
  rw [scaled, scaled, signed_cast, signed_cast, zpow_add₀ (by norm_num), zpow_natCast]
  push_cast
  ring

theorem scaled_zero (negative : Bool) (n : ℕ) :
    scaled negative n 0 = ((signed negative n : ℤ) : ℚ) := by
  rw [scaled, zpow_zero, mul_one]

theorem scaled_natCast (negative : Bool) (n k : ℕ) :
    scaled negative n k = ((signed negative (n * 2 ^ k) : ℤ) : ℚ) := by
  rw [← scaled_zero, scaled_mul_two_pow, zero_add]

theorem abs_scaled (negative : Bool) (n : ℕ) (e : ℤ) : |scaled negative n e| = n * 2 ^ e := by
  have hpos : (0 : ℚ) ≤ 2 ^ e := zpow_nonneg (by norm_num) e
  rw [scaled, signed_cast, abs_mul, abs_mul, Nat.abs_cast, abs_of_nonneg hpos]
  cases negative <;> simp

theorem neg_one_pow_sign (d : Double) :
    (-1 : ℚ) ^ (d.bits.toNat / 2 ^ 63) = if d.isNegative then -1 else 1 := by
  have hbits := d.bits.toNat_lt
  by_cases hsign : 0x8000000000000000 ≤ d.bits.toNat
  · have hs : d.bits.toNat / 2 ^ 63 = 1 := by omega
    rw [hs, isNegative, decide_eq_true hsign]
    rfl
  · have hs : d.bits.toNat / 2 ^ 63 = 0 := by omega
    rw [hs, isNegative, decide_eq_false hsign]
    rfl

/-- The exponent stands in the eleven bits below the sign. -/
theorem exponentField_eq (d : Double) : d.exponentField = d.bits.toNat / 2 ^ 52 % 2 ^ 11 := by
  rw [exponentField, Nat.shiftRight_eq_div_pow]
  rfl

theorem fraction_lt (d : Double) : d.fraction < 2 ^ 52 := Nat.mod_lt _ (by decide)

/-- What a double stands for, by the exponent. -/
theorem number?_eq (d : Double) : d.number? =
    if d.exponentField = 2047 then none
    else if d.exponentField = 0 then some (scaled d.isNegative d.fraction (-1074))
    else some (scaled d.isNegative (2 ^ 52 + d.fraction) (d.exponentField - 1075)) := by
  have hplaces : d.bits.toNat % 2 ^ 52 = d.fraction := rfl
  -- the binary places are moved in front of the point
  have hmove : ∀ (k : ℤ) (x y : ℚ), x * 2 ^ k * (y / 2 ^ 52) = x * y * 2 ^ (k - 52) := by
    intro k x y
    have hk : (2 : ℚ) ^ k = 2 ^ (k - 52) * 2 ^ 52 := by
      rw [← zpow_natCast, ← zpow_add₀ (by norm_num)]
      congr 1
      push_cast
      ring
    rw [hk]
    generalize (2 : ℚ) ^ (k - 52) = u
    ring
  simp only [number?, neg_one_pow_sign, ← exponentField_eq, hplaces, scaled, signed_cast]
  split
  · rfl
  · split
    · rw [hmove]
      rfl
    · have hone : ∀ f : ℚ, 1 + f / 2 ^ 52 = (2 ^ 52 + f) / 2 ^ 52 := fun f => by ring
      rw [hone, hmove, sub_sub]
      push_cast
      rfl

/-- A double that has a value as a number stands for it; its significand and exponent are bounded. -/
theorem number?_of_value {d : Double} {negative : Bool} {significand : ℕ} {exponent : ℤ}
    (h : d.value = .finite negative significand exponent) :
    d.number? = some (scaled negative significand exponent) ∧ significand < 2 ^ 53 ∧
      -1074 ≤ exponent := by
  have hfraction := d.fraction_lt
  rw [number?_eq]
  unfold value at h
  split at h
  · split at h <;> cases h
  · next hfield =>
    rw [if_neg hfield]
    split at h
    · next hzero =>
      cases h
      rw [if_pos hzero]
      exact ⟨rfl, by omega, by omega⟩
    · next hzero =>
      cases h
      rw [if_neg hzero]
      exact ⟨rfl, by omega, by omega⟩

/-- What stands for a number has it as its value. -/
theorem exists_value_of_number? {d : Double} {q : ℚ} (h : d.number? = some q) :
    ∃ negative significand exponent, d.value = .finite negative significand exponent ∧
      q = scaled negative significand exponent ∧ significand < 2 ^ 53 ∧ -1074 ≤ exponent := by
  cases hvalue : d.value with
  | finite negative significand exponent =>
    obtain ⟨hnumber, hsignificand, hexponent⟩ := number?_of_value hvalue
    rw [h] at hnumber
    exact ⟨negative, significand, exponent, rfl, Option.some.inj hnumber, hsignificand, hexponent⟩
  | _ =>
    have hfield : d.exponentField = 2047 := by
      by_contra hfield
      rw [value, if_neg hfield] at hvalue
      split at hvalue <;> cases hvalue
    rw [number?_eq, if_pos hfield] at h
    cases h

/-! ## whole numbers -/

/-- The bits of a sign, an exponent and a significand of 53 bits, which may have been rounded up to the
next power of two. -/
theorem number?_of_bits (negative : Bool) {e m : ℕ} (he : 1 ≤ e) (he' : e < 2046)
    (hm : 2 ^ 52 ≤ m) (hm' : m ≤ 2 ^ 53) {d : Double}
    (hd : d.bits = UInt64.ofNat ((if negative then 0x8000000000000000 else 0) +
      (e <<< 52 + (m - 0x10000000000000)))) :
    d.number? = some (scaled negative m (e - 1075)) ∧ d.fraction % 2 = m % 2 := by
  have hbits : d.bits.toNat =
      (if negative then 0x8000000000000000 else 0) + (e * 2 ^ 52 + (m - 2 ^ 52)) := by
    have hlt : (if negative then 0x8000000000000000 else 0) + (e * 2 ^ 52 + (m - 2 ^ 52)) < 2 ^ 64 := by
      split <;> omega
    rw [hd, Nat.shiftLeft_eq]
    exact UInt64.toNat_ofNat_of_lt' hlt
  have hnegative : d.isNegative = negative := by
    rw [isNegative, hbits]
    cases negative
    · simp only [Bool.false_eq_true, if_false, decide_eq_false_iff_not]
      omega
    · simp
  have hfraction : d.fraction = (m - 2 ^ 52) % 2 ^ 52 := by
    rw [fraction, hbits]
    split <;> omega
  have hfield : d.exponentField = e + (m - 2 ^ 52) / 2 ^ 52 := by
    rw [exponentField_eq, hbits]
    split <;> omega
  refine ⟨?_, by omega⟩
  rw [number?_eq, if_neg (by omega), if_neg (by omega), hnegative, hfraction, hfield]
  obtain hlt | rfl := hm'.lt_or_eq
  · rw [Nat.mod_eq_of_lt (by omega), Nat.div_eq_of_lt (by omega), Nat.add_sub_cancel' hm]
    simp
  · -- the carry has moved the exponent on
    have hcarry : scaled negative (2 ^ 52 * 2 ^ 1) (e - 1075) =
        scaled negative (2 ^ 52) ((e + 1 : ℕ) - 1075) := by
      rw [scaled_mul_two_pow]
      congr 1
      push_cast
      ring
    exact congrArg some hcarry.symm

/-- Rounding to even is off by half a unit at most, and if by half a unit, the result is even. -/
theorem roundHalfEven_spec (n k : ℕ) :
    |(roundHalfEven n k : ℚ) * 2 ^ k - n| ≤ 2 ^ k / 2 ∧
      (|(roundHalfEven n k : ℚ) * 2 ^ k - n| = 2 ^ k / 2 → roundHalfEven n k % 2 = 0) := by
  have hn := Nat.div_add_mod' n (2 ^ k)
  have hr := Nat.mod_lt n (Nat.two_pow_pos k)
  simp only [roundHalfEven, Nat.one_shiftLeft]
  generalize n / 2 ^ k = q at *
  generalize n % 2 ^ k = r at *
  have hpos : (0 : ℚ) < 2 ^ k := pow_pos (by norm_num) k
  have hn' : (n : ℚ) = q * 2 ^ k + r := by exact_mod_cast hn.symm
  have hr' : (r : ℚ) < 2 ^ k := by exact_mod_cast hr
  have hzero : (0 : ℚ) ≤ r := Nat.cast_nonneg r
  split
  · next hup =>
    have hup' : (2 ^ k : ℚ) ≤ 2 * r := by
      have : 2 ^ k ≤ 2 * r := by omega
      exact_mod_cast this
    have hoff : (((q + 1 : ℕ) : ℚ) * 2 ^ k - n) = 2 ^ k - r := by
      rw [hn']
      push_cast
      ring
    rw [hoff, abs_of_pos (by linarith)]
    refine ⟨by linarith, fun htie => ?_⟩
    have htie' : (2 ^ k : ℚ) = 2 * r := by linarith
    have htie' : 2 ^ k = 2 * r := by exact_mod_cast htie'
    omega
  · next hdown =>
    have hdown' : (2 * r : ℚ) ≤ 2 ^ k := by
      have : 2 * r ≤ 2 ^ k := by omega
      exact_mod_cast this
    have hoff : (q : ℚ) * 2 ^ k - n = -r := by
      rw [hn']
      ring
    rw [hoff, abs_neg, abs_of_nonneg hzero]
    refine ⟨by linarith, fun htie => ?_⟩
    have htie' : (2 ^ k : ℚ) = 2 * r := by linarith
    have htie' : 2 ^ k = 2 * r := by exact_mod_cast htie'
    omega

/-- The rounded significand has 53 bits again, or is the next power of two. -/
theorem roundHalfEven_mem {n k : ℕ} (hlow : 2 ^ (52 + k) ≤ n) (hhigh : n < 2 ^ (53 + k)) :
    2 ^ 52 ≤ roundHalfEven n k ∧ roundHalfEven n k ≤ 2 ^ 53 := by
  have hq : 2 ^ 52 ≤ n / 2 ^ k := by
    rwa [Nat.le_div_iff_mul_le (Nat.two_pow_pos k), ← pow_add]
  have hq' : n / 2 ^ k < 2 ^ 53 := by
    rwa [Nat.div_lt_iff_lt_mul (Nat.two_pow_pos k), ← pow_add]
  simp only [roundHalfEven, Nat.one_shiftLeft]
  split <;> omega

theorem bits_ofMagnitude (negative : Bool) {n l : ℕ} (hn : n ≠ 0) (hl : n.log2 = l) :
    (ofMagnitude negative n).bits = UInt64.ofNat ((if negative then 0x8000000000000000 else 0) +
      ((l + 1 + 1022) <<< 52 +
        ((if l < 53 then n * 2 ^ (52 - l) else roundHalfEven n (l - 52)) - 0x10000000000000))) := by
  have hleft : 53 - (l + 1) = 52 - l := by omega
  have hright : l + 1 - 53 = l - 52 := by omega
  rw [ofMagnitude, magnitudeBits, if_neg hn, hl, ← Nat.shiftLeft_eq n, ← hleft, ← hright]
  rfl

/-- A whole number of at most 53 bits is a double. -/
theorem number?_ofMagnitude_of_lt (negative : Bool) {n : ℕ} (hn : n < 2 ^ 53) :
    (ofMagnitude negative n).number? = some ((signed negative n : ℤ) : ℚ) := by
  by_cases hzero : n = 0
  · subst hzero
    cases negative <;> rw [number?_eq] <;> simp +decide [scaled, signed]
  · obtain ⟨l, hl⟩ : ∃ l, n.log2 = l := ⟨_, rfl⟩
    have hsize : l < 53 := hl ▸ (Nat.log2_lt hzero).mpr hn
    have hbits := bits_ofMagnitude negative hzero hl
    have hlow : 2 ^ l ≤ n := hl ▸ Nat.log2_self_le hzero
    have hhigh : n < 2 ^ (l + 1) := hl ▸ Nat.lt_log2_self
    have hlow' : 2 ^ 52 ≤ n * 2 ^ (52 - l) := by
      calc 2 ^ 52 = 2 ^ l * 2 ^ (52 - l) := by rw [← pow_add, Nat.add_sub_cancel' (by omega)]
        _ ≤ n * 2 ^ (52 - l) := Nat.mul_le_mul_right _ hlow
    have hhigh' : n * 2 ^ (52 - l) ≤ 2 ^ 53 := by
      calc n * 2 ^ (52 - l) ≤ 2 ^ (l + 1) * 2 ^ (52 - l) := Nat.mul_le_mul_right _ hhigh.le
        _ = 2 ^ 53 := by rw [← pow_add, show l + 1 + (52 - l) = 53 by omega]
    rw [if_pos hsize] at hbits
    obtain ⟨hnumber, -⟩ := number?_of_bits negative (by omega) (by omega) hlow' hhigh' hbits
    have hexponent : ((l + 1 + 1022 : ℕ) : ℤ) - 1075 + (52 - l : ℕ) = 0 := by omega
    rw [hnumber, scaled_mul_two_pow, hexponent, scaled_zero]

/-- A longer whole number is rounded in units of a power of two. -/
theorem number?_ofMagnitude_of_le (negative : Bool) {n : ℕ} (hn : 2 ^ 53 ≤ n) (hn' : n < 2 ^ 64) :
    ∃ k m : ℕ, (ofMagnitude negative n).number? = some (scaled negative m k) ∧
      2 ^ (52 + k) ≤ n ∧ |(m : ℚ) * 2 ^ k - n| ≤ 2 ^ k / 2 ∧
      (|(m : ℚ) * 2 ^ k - n| = 2 ^ k / 2 → (ofMagnitude negative n).fraction % 2 = 0) := by
  have hzero : n ≠ 0 := by omega
  obtain ⟨k, hk⟩ : ∃ k, n.log2 = 52 + k :=
    Nat.exists_eq_add_of_le ((Nat.le_log2 hzero).mpr (by omega))
  have hsize : 52 + k < 64 := hk ▸ (Nat.log2_lt hzero).mpr hn'
  have hlow : 2 ^ (52 + k) ≤ n := hk ▸ Nat.log2_self_le hzero
  have hhigh : n < 2 ^ (53 + k) := by
    have := Nat.lt_log2_self (n := n)
    rwa [hk, show 52 + k + 1 = 53 + k by omega] at this
  have hpos : 0 < k := by
    by_contra hk0
    obtain rfl : k = 0 := by omega
    omega
  have hbits := bits_ofMagnitude negative hzero hk
  rw [if_neg (show ¬ 52 + k < 53 by omega), Nat.add_sub_cancel_left] at hbits
  obtain ⟨hm, hm'⟩ := roundHalfEven_mem hlow hhigh
  obtain ⟨hnumber, hfraction⟩ := number?_of_bits negative (by omega) (by omega) hm hm' hbits
  obtain ⟨hhalf, heven⟩ := roundHalfEven_spec n k
  have hexponent : ((52 + k + 1 + 1022 : ℕ) : ℤ) - 1075 = k := by omega
  rw [hexponent] at hnumber
  exact ⟨k, _, hnumber, hlow, hhalf, fun htie => hfraction.trans (heven htie)⟩

/-- Up to the power of two that no longer has 53 bits, every whole number is a double. -/
theorem exists_number?_of_le {n : ℤ} (hn : n.natAbs ≤ 2 ^ 53) :
    ∃ d : Double, d.number? = some (n : ℚ) := by
  obtain hlt | heq := hn.lt_or_eq
  · exact ⟨ofInt n, by rw [ofInt, number?_ofMagnitude_of_lt _ hlt, signed_natAbs]⟩
  · have hbits := number?_of_bits (n < 0) (e := 1076) (m := 2 ^ 52) (d := ⟨_⟩) (by decide)
      (by decide) le_rfl (by decide) rfl
    have hscaled : scaled (n < 0) (2 ^ 52) ((1076 : ℕ) - 1075) = (n : ℚ) := by
      change scaled (n < 0) (2 ^ 52) (1 : ℕ) = _
      rw [scaled_natCast, ← pow_add, ← heq, signed_natAbs]
    exact ⟨_, by rw [hbits.1, hscaled]⟩

/-! ## nearest doubles -/

/-- A double is what a number rounds to: no double is nearer to it, and if another number is as near,
the last of the binary places is 0. -/
def IsNearest (d : Double) (x : ℚ) : Prop :=
  ∃ q, d.number? = some q ∧ ∀ (e : Double) (r : ℚ), e.number? = some r →
    |q - x| ≤ |r - x| ∧ (|q - x| = |r - x| → q ≠ r → d.fraction % 2 = 0)

/-- A number that is a double is rounded to itself. -/
theorem IsNearest.number?_eq {d e : Double} {x : ℚ} (h : d.IsNearest x) (he : e.number? = some x) :
    d.number? = some x := by
  obtain ⟨q, hq, hnearest⟩ := h
  have hzero := (hnearest e x he).1
  rw [sub_self, abs_zero, abs_nonpos_iff, sub_eq_zero] at hzero
  rw [hq, hzero]

/-- Rounding does not go past a double. -/
theorem IsNearest.le {d e : Double} {x q r : ℚ} (h : d.IsNearest x) (hq : d.number? = some q)
    (he : e.number? = some r) (hr : r ≤ x) : r ≤ q := by
  obtain ⟨q', hq', hnearest⟩ := h
  obtain rfl : q' = q := Option.some.inj (hq'.symm.trans hq)
  have hle := (hnearest e r he).1
  rw [abs_of_nonpos (sub_nonpos.mpr hr)] at hle
  have := neg_abs_le (q' - x)
  linarith

/-- A nearest number is not beyond one that bounds what it is near to. -/
theorem IsNearest.ge {d e : Double} {x q r : ℚ} (h : d.IsNearest x) (hq : d.number? = some q)
    (he : e.number? = some r) (hr : x ≤ r) : q ≤ r := by
  obtain ⟨q', hq', hnearest⟩ := h
  obtain rfl : q' = q := Option.some.inj (hq'.symm.trans hq)
  have hle := (hnearest e r he).1
  rw [abs_of_nonneg (sub_nonneg.mpr hr)] at hle
  have := le_abs_self (q' - x)
  linarith

/-- In units of a power of two a double is whole, or it has less than 53 bits before the point. -/
theorem exists_units {e : Double} {r : ℚ} (h : e.number? = some r) (k : ℕ) :
    (∃ m : ℤ, r = m * 2 ^ k) ∨ |r| < 2 ^ (52 + k) := by
  obtain ⟨negative, significand, exponent, -, rfl, hsignificand, -⟩ := exists_value_of_number? h
  obtain hk | hk := le_or_gt (k : ℤ) exponent
  · obtain ⟨j, rfl⟩ := Int.le.dest hk
    refine .inl ⟨signed negative (significand * 2 ^ j), ?_⟩
    rw [← scaled_mul_two_pow, scaled, zpow_natCast]
  · refine .inr ?_
    have hsignificand : (significand : ℚ) < 2 ^ 53 := by exact_mod_cast hsignificand
    have hpos : (0 : ℚ) < 2 ^ exponent := zpow_pos (by norm_num) exponent
    have hexponent : (2 : ℚ) ^ exponent ≤ 2 ^ ((k : ℤ) - 1) :=
      zpow_le_zpow_right₀ (by norm_num) (by omega)
    calc |scaled negative significand exponent| = significand * 2 ^ exponent := abs_scaled ..
      _ < 2 ^ 53 * 2 ^ exponent := mul_lt_mul_of_pos_right hsignificand hpos
      _ ≤ 2 ^ 53 * 2 ^ ((k : ℤ) - 1) := mul_le_mul_of_nonneg_left hexponent (by norm_num)
      _ = 2 ^ (52 + k) := by
        rw [← zpow_natCast, ← zpow_natCast, ← zpow_add₀ (by norm_num)]
        congr 1
        push_cast
        ring

/-- What is off by half a unit at most is nearest among the multiples of the unit. -/
theorem abs_sub_le_of_units {u x : ℚ} {m : ℤ} (hu : 0 < u) (hm : |m * u - x| ≤ u / 2) (m' : ℤ) :
    |m * u - x| ≤ |m' * u - x| ∧
      (|m * u - x| = |m' * u - x| → m * u ≠ m' * u → |m * u - x| = u / 2) := by
  by_cases heq : m = m'
  · subst heq
    exact ⟨le_rfl, fun _ hne => absurd rfl hne⟩
  · have hone : (1 : ℚ) ≤ |(m : ℚ) - m'| := by
      exact_mod_cast Int.one_le_abs (sub_ne_zero.mpr heq)
    have hfar : u ≤ |m * u - m' * u| := by
      rw [← sub_mul, abs_mul, abs_of_pos hu]
      exact le_mul_of_one_le_left hu.le hone
    have htriangle := abs_sub_le (m * u) x (m' * u)
    rw [abs_sub_comm x] at htriangle
    exact ⟨by linarith, fun htie _ => by linarith⟩

/-- An integer becomes the nearest double. -/
theorem isNearest_ofInt {n : ℤ} (hn : n.natAbs < 2 ^ 64) : (ofInt n).IsNearest n := by
  rw [ofInt]
  obtain hsmall | hlarge := lt_or_ge n.natAbs (2 ^ 53)
  · refine ⟨_, number?_ofMagnitude_of_lt _ hsmall, fun e r _ => ?_⟩
    rw [signed_natAbs, sub_self, abs_zero]
    refine ⟨abs_nonneg _, fun htie hne => absurd ?_ hne⟩
    exact (sub_eq_zero.mp (abs_eq_zero.mp htie.symm)).symm
  · obtain ⟨k, m, hnumber, hlow, hhalf, heven⟩ := number?_ofMagnitude_of_le (n < 0) hlarge hn
    have hunit : (0 : ℚ) < 2 ^ k := pow_pos (by norm_num) k
    rw [← abs_signed_mul_sub] at hhalf heven
    rw [scaled, zpow_natCast] at hnumber
    refine ⟨_, hnumber, fun e r he => ?_⟩
    obtain ⟨m', rfl⟩ | hsmall := exists_units he k
    · obtain ⟨hle, htie⟩ := abs_sub_le_of_units hunit hhalf m'
      exact ⟨hle, fun heq hne => heven (htie heq hne)⟩
    · -- a double of less than 53 bits before the point is beyond the least one of 53 bits
      have hleast := (abs_sub_le_of_units hunit hhalf (signed (n < 0) (2 ^ 52))).1
      have hlow : (2 ^ 52 * 2 ^ k : ℚ) ≤ n.natAbs := by
        rw [← pow_add]
        exact_mod_cast hlow
      rw [abs_signed_mul_sub n (2 ^ 52), Nat.cast_pow, Nat.cast_ofNat,
        abs_of_nonpos (sub_nonpos.mpr hlow)] at hleast
      have hfar : (n.natAbs : ℚ) - |r| ≤ |r - n| := by
        have := abs_sub_abs_le_abs_sub (n : ℚ) r
        rw [abs_sub_comm] at this
        rw [Nat.cast_natAbs, Int.cast_abs]
        exact this
      have hlt : |((signed (n < 0) m : ℤ) : ℚ) * 2 ^ k - n| < |r - n| := by
        rw [pow_add] at hsmall
        linarith
      exact ⟨hlt.le, fun heq => absurd heq hlt.ne⟩

/-! ## order -/

/-- Doubles rank as the numbers that they stand for. -/
theorem exists_rank?_of_number? {d : Double} {q : ℚ} (h : d.number? = some q) :
    ∃ n : ℤ, d.value.rank? = some n ∧ q = n * 2 ^ (-1074 : ℤ) := by
  obtain ⟨negative, significand, exponent, hvalue, rfl, -, hexponent⟩ := exists_value_of_number? h
  obtain ⟨j, hj⟩ := Int.le.dest hexponent
  refine ⟨signed negative (significand * 2 ^ j), ?_, ?_⟩
  · rw [hvalue, Value.rank?, Nat.shiftLeft_eq, show (exponent + 1074).toNat = j by omega]
  · rw [← hj, ← scaled_mul_two_pow, scaled]

/-- Doubles are compared as the numbers that they stand for. -/
theorem lt_iff {d e : Double} {q r : ℚ} (hd : d.number? = some q) (he : e.number? = some r) :
    d.lt e ↔ q < r := by
  obtain ⟨m, hm, rfl⟩ := exists_rank?_of_number? hd
  obtain ⟨n, hn, rfl⟩ := exists_rank?_of_number? he
  have hpos : (0 : ℚ) < 2 ^ (-1074 : ℤ) := zpow_pos (by norm_num) _
  rw [mul_lt_mul_iff_left₀ hpos, Int.cast_lt, lt, hm, hn]
  simp

/-- Doubles are clamped as the numbers that they stand for. -/
theorem number?_clamp {d low high : Double} {q l h : ℚ} (hd : d.number? = some q)
    (hlow : low.number? = some l) (hhigh : high.number? = some h) (hlh : l ≤ h) :
    (d.clamp low high).number? = some (max l (min q h)) := by
  rw [clamp]
  by_cases hql : q < l
  · have hhl : ¬ high.lt low := by
      rw [lt_iff hhigh hlow]
      exact not_lt.mpr hlh
    rw [if_pos ((lt_iff hd hlow).mpr hql), if_neg hhl, hlow,
      max_eq_left ((min_le_left q h).trans hql.le)]
  · rw [if_neg (mt (lt_iff hd hlow).mp hql)]
    have hlq := not_lt.mp hql
    by_cases hhq : h < q
    · rw [if_pos ((lt_iff hhigh hd).mpr hhq), hhigh, min_eq_right hhq.le, max_eq_right hlh]
    · rw [if_neg (mt (lt_iff hhigh hd).mp hhq), hd, min_eq_left (not_lt.mp hhq), max_eq_right hlq]

end Greenhouse.Double
