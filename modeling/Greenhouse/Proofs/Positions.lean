import Greenhouse.Proofs.Doubles
import Greenhouse.Proofs.Numerals

/-!
# Greenhouse.Proofs.Positions

From slider positions to levels, and back.

A position is rounded, clamped and cut to its whole part, and each of these steps is exact: a rounded
double still is a double, and what has been clamped fits into a level.  So the level asked for is that
of the number that the position stands for.  A level that is shown as a position may have been rounded,
but only where it is far beyond the slider.

* `number?_round`, `toInt_toPower` — what rounding and cutting come to.
* `level_of_position` — which level a position asks for.
* `level_of_shown` — a level that is shown and written back.
-/

namespace Greenhouse

open Dialogue

/-! ## rounding -/

/-- The nearest whole number, a half going away from zero. -/
def roundAway (q : ℚ) : ℤ := if q < 0 then -round (-q) else round q

/-- A whole number is what a number rounds to: none is nearer, and none that is as near is further from
zero. -/
def IsRounded (q : ℚ) (n : ℤ) : Prop :=
  ∀ m : ℤ, |q - n| ≤ |q - m| ∧ (|q - n| = |q - m| → |m| ≤ |n|)

/-- At zero and above, away from zero is up. -/
theorem roundAway_of_nonneg {q : ℚ} (h : 0 ≤ q) : roundAway q = round q := if_neg (not_lt.mpr h)

/-- Below zero it is rounded as above, with the sign changed. -/
theorem roundAway_neg (q : ℚ) : roundAway (-q) = -roundAway q := by
  obtain h | rfl | h := lt_trichotomy q 0
  · rw [roundAway_of_nonneg (by linarith), roundAway, if_pos h, neg_neg]
  · simp [roundAway]
  · rw [roundAway_of_nonneg h.le, roundAway, if_pos (by linarith), neg_neg]

/-- A whole number is not rounded. -/
theorem roundAway_intCast (n : ℤ) : roundAway n = n := by
  unfold roundAway
  split
  · rw [← Int.cast_neg, round_intCast, neg_neg]
  · exact round_intCast n

/-- Of two numbers the greater one is not rounded to less. -/
theorem roundAway_mono {q r : ℚ} (h : q ≤ r) : roundAway q ≤ roundAway r := by
  have hmono : ∀ x y : ℚ, x ≤ y → round x ≤ round y := by
    intro x y hxy
    rw [round_eq, round_eq]
    exact Int.floor_mono (by linarith)
  have hnonneg : ∀ x : ℚ, 0 ≤ x → 0 ≤ round x := fun x hx => by simpa using hmono 0 x hx
  obtain hq | hq := lt_or_ge q 0
  · rw [roundAway, if_pos hq]
    obtain hr | hr := lt_or_ge r 0
    · rw [roundAway, if_pos hr]
      exact neg_le_neg (hmono _ _ (by linarith))
    · rw [roundAway_of_nonneg hr]
      have := hnonneg (-q) (by linarith)
      have := hnonneg r hr
      omega
  · rw [roundAway_of_nonneg hq, roundAway_of_nonneg (hq.trans h)]
    exact hmono q r h

/-- Rounding does not depend on the sign. -/
theorem IsRounded.neg {q : ℚ} {n : ℤ} (h : IsRounded q n) : IsRounded (-q) (-n) := by
  have hflip : ∀ k : ℤ, |-q - (-k : ℤ)| = |q - k| := by
    intro k
    rw [Int.cast_neg, ← abs_neg]
    congr 1
    ring
  intro m
  obtain ⟨hle, htie⟩ := h (-m)
  rw [← neg_neg m, hflip, hflip, abs_neg, abs_neg n]
  exact ⟨hle, htie⟩

/-- A number rounds to one whole number only. -/
theorem IsRounded.unique {q : ℚ} {m n : ℤ} (hm : IsRounded q m) (hn : IsRounded q n) : m = n := by
  obtain ⟨hmn, hmt⟩ := hm n
  obtain ⟨hnm, hnt⟩ := hn m
  have htie : |q - m| = |q - n| := le_antisymm hmn hnm
  have habs : |m| = |n| := le_antisymm (hnt htie.symm) (hmt htie)
  obtain h | rfl := abs_eq_abs.mp habs
  · exact h
  · obtain h | h := abs_eq_abs.mp htie
    · push_cast at h
      have : (n : ℚ) = 0 := by linarith
      have : n = 0 := by exact_mod_cast this
      omega
    · -- opposite numbers are as near only to zero, which is nearer
      push_cast at h
      obtain rfl : q = 0 := by linarith
      have := (hn 0).1
      simp at this
      omega

/-- At zero and above, up is the right way for a tie. -/
theorem isRounded_round {q : ℚ} (hq : 0 ≤ q) : IsRounded q (round q) := by
  intro m
  refine ⟨round_le q m, fun htie => ?_⟩
  obtain ⟨hbelow, habove⟩ := Int.floor_eq_iff.mp (round_eq q).symm
  have hzero : 0 ≤ round q := by
    rw [round_eq]
    exact Int.floor_nonneg.mpr (by linarith)
  rw [abs_of_nonneg hzero, abs_le]
  obtain heq | heq := abs_eq_abs.mp htie
  · have heq : round q = m := by
      have : (round q : ℚ) = m := by linarith
      exact_mod_cast this
    omega
  · -- the number lies halfway between the two
    have hlow : (-round q : ℤ) ≤ m := by
      have : ((-round q : ℤ) : ℚ) ≤ m := by
        push_cast
        linarith
      exact_mod_cast this
    have hhigh : m < round q + 1 := by
      have : (m : ℚ) < (round q + 1 : ℤ) := by
        push_cast
        linarith
      exact_mod_cast this
    omega

/-- Rounding gives the nearest whole number, the one further from zero if there are two. -/
theorem isRounded_roundAway (q : ℚ) : IsRounded q (roundAway q) := by
  obtain hq | hq := lt_or_ge q 0
  · rw [roundAway, if_pos hq]
    simpa using (isRounded_round (q := -q) (by linarith)).neg
  · rw [roundAway_of_nonneg hq]
    exact isRounded_round hq

/-- Rounding moves a number by a half at most. -/
theorem abs_roundAway_sub_le (q : ℚ) : |q - roundAway q| ≤ 1 / 2 :=
  ((isRounded_roundAway q (round q)).1).trans (abs_sub_round q)

namespace Double

variable {d : Double} {q : ℚ}

/-- A sign changes nothing else of a number. -/
theorem scaled_true (significand : ℕ) (exponent : ℤ) :
    scaled true significand exponent = -scaled false significand exponent := by
  simp [scaled, signed]

/-- Rounding half up in magnitude is rounding away from zero. -/
theorem roundAway_scaled (negative : Bool) (significand : ℕ) (exponent : ℤ) :
    roundAway (scaled negative significand exponent) =
      signed negative (roundHalfUp significand exponent) := by
  have hpositive : roundAway (scaled false significand exponent) =
      roundHalfUp significand exponent := by
    unfold roundHalfUp
    split
    · next hexponent =>
      obtain ⟨j, rfl⟩ := Int.eq_ofNat_of_zero_le hexponent
      rw [scaled_natCast, roundAway_intCast, Int.toNat_natCast,
        Nat.shiftLeft_eq]
      rfl
    · next hexponent =>
      obtain ⟨j, rfl⟩ := Int.exists_eq_neg_ofNat (show exponent ≤ 0 by omega)
      have hhalf : scaled false significand (-j) + 1 / 2 =
          ((2 * significand + 2 ^ j : ℕ) : ℚ) / (2 * 2 ^ j : ℕ) := by
        rw [scaled, zpow_neg, zpow_natCast]
        simp only [signed]
        push_cast
        field_simp
      have hnonneg : 0 ≤ scaled false significand (-j) := by
        rw [scaled, signed_cast, if_neg Bool.false_ne_true, one_mul]
        exact mul_nonneg (Nat.cast_nonneg _) (zpow_nonneg (by norm_num) _)
      rw [roundAway_of_nonneg hnonneg, round_eq, hhalf, Rat.floor_natCast_div_natCast, neg_neg,
        Int.toNat_natCast, Nat.one_shiftLeft]
      rfl
  cases negative with
  | false => exact hpositive
  | true =>
    rw [scaled_true, roundAway_neg, hpositive]
    rfl

/-- A double is rounded as the number that it stands for, and what comes out is a double again. -/
theorem number?_round (h : d.number? = some q) : d.round.number? = some ((roundAway q : ℤ) : ℚ) := by
  obtain ⟨negative, significand, exponent, hvalue, rfl, hsignificand, -⟩ := exists_value_of_number? h
  rw [roundAway_scaled]
  rw [Double.round, hvalue]
  dsimp only
  split
  · next hexponent =>
    rw [h, roundHalfUp, if_pos hexponent]
    obtain ⟨j, rfl⟩ := Int.eq_ofNat_of_zero_le hexponent
    rw [scaled_natCast, Int.toNat_natCast, Nat.shiftLeft_eq]
  · next hexponent =>
    refine number?_ofMagnitude_of_lt negative ?_
    rw [roundHalfUp, if_neg hexponent, Nat.one_shiftLeft]
    have hscale := Nat.two_pow_pos (-exponent).toNat
    rw [Nat.div_lt_iff_lt_mul (by omega)]
    omega

/-- A division that comes out even does so under either sign. -/
theorem signed_div_of_eq_mul {negative : Bool} {m k : ℕ} {n : ℤ} (hk : 0 < k)
    (h : signed negative m = n * k) : signed negative (m / k) = n := by
  have hk : (k : ℤ) ≠ 0 := by omega
  cases negative with
  | false =>
    simp only [signed, Bool.false_eq_true, if_false] at h ⊢
    rw [Int.natCast_ediv, h, Int.mul_ediv_cancel _ hk]
  | true =>
    simp only [signed, if_true] at h ⊢
    have hneg : (m : ℤ) = -n * k := by linarith
    rw [Int.natCast_ediv, hneg, Int.mul_ediv_cancel _ hk, neg_neg]

/-- The level of a double that stands for a whole number within the levels. -/
theorem toInt_toPower {n : ℤ} (h : d.number? = some (n : ℚ)) (hlow : -0x8000000000000000 ≤ n)
    (hhigh : n < 0x8000000000000000) : d.toPower.toInt = n := by
  obtain ⟨negative, significand, exponent, hvalue, hn, -⟩ := exists_value_of_number? h
  have hwhole : signed negative (wholePart significand exponent) = n := by
    unfold wholePart
    split
    · next hexponent =>
      obtain ⟨j, rfl⟩ := Int.eq_ofNat_of_zero_le hexponent
      rw [scaled_natCast] at hn
      rw [Int.toNat_natCast, Nat.shiftLeft_eq]
      exact_mod_cast hn.symm
    · next hexponent =>
      obtain ⟨j, rfl⟩ := Int.exists_eq_neg_ofNat (show exponent ≤ 0 by omega)
      have hsignificand : ((signed negative significand : ℤ) : ℚ) = n * (2 ^ j : ℕ) := by
        rw [hn, scaled, zpow_neg, zpow_natCast]
        push_cast
        field_simp
      rw [neg_neg, Int.toNat_natCast, Nat.shiftRight_eq_div_pow]
      exact signed_div_of_eq_mul (Nat.two_pow_pos j) (by exact_mod_cast hsignificand)
  simp only [toPower, hvalue, hwhole, Power.nearest]
  omega

/-! ## the slider -/

/-- The slider starts at 0. -/
theorem number?_min : SliderRange.levels.min.number? = some 0 :=
  number?_ofMagnitude_of_lt false (by decide)

/-- The slider ends at 255. -/
theorem number?_max : SliderRange.levels.max.number? = some 255 :=
  number?_ofMagnitude_of_lt false (by decide)

/-- The level that a slider position asks for: the number that it stands for, rounded and clamped. -/
theorem exists_level?_of_number? (h : d.number? = some q) :
    ∃ p, d.level? = some p ∧ p.toInt = max 0 (min (roundAway q) 255) := by
  obtain ⟨negative, significand, exponent, hvalue, -⟩ := exists_value_of_number? h
  have hclamped := number?_clamp (number?_round h) number?_min number?_max (by norm_num)
  have hcast : max (0 : ℚ) (min ((roundAway q : ℤ) : ℚ) 255) =
      ((max 0 (min (roundAway q) 255) : ℤ) : ℚ) := by push_cast; rfl
  rw [hcast] at hclamped
  exact ⟨_, by rw [level?, hvalue], toInt_toPower hclamped (by omega) (by omega)⟩

/-- What stands for no number asks for no level. -/
theorem level?_of_number?_eq_none (h : d.number? = none) : d.level? = none := by
  cases hvalue : d.value with
  | finite negative significand exponent =>
    rw [(number?_of_value hvalue).1] at h
    cases h
  | _ => rw [level?, hvalue]

end Double

namespace Adapter

/-- A call that sets a level once: the channel is told the level, and the adapter keeps what the device
has acknowledged. -/
def Sets (a : Adapter) (c : Call) (level : Power) : Prop :=
  a.call c = a.channel.set level >>= fun r => done (r.map fun _ => none, a.keep r)

/-- A call sets no more than one level. -/
theorem Sets.unique {a : Adapter} {c : Call} {p p' : Power} (h : a.Sets c p) (h' : a.Sets c p') :
    p = p' := by
  have hnote : Note.setting a.channel.url p = Note.setting a.channel.url p' :=
    (Dialogue.note.inj (h.symm.trans h')).1
  exact (Note.setting.inj hnote).2

/-- To move the slider to a position that asks for a level sets that level. -/
theorem sets_setValue (a : Adapter) {d : Double} {level : Power} (h : d.level? = some level) :
    a.Sets (.setValue d) level :=
  call_of_exchange (by rw [exchange, h])

/-- To turn the light on with a brightness sets that level. -/
theorem sets_turnOn {a : Adapter} (h : a.kind = .light) (b : UInt8) :
    a.Sets (.turnOn (some b)) (.ofUInt8 b) :=
  call_of_exchange (by rw [exchange, onLevel]; exact h)

/-- Which level a slider position asks for.  What stands for no number is refused, nothing is sent, and
the adapter is as it was.  Any other position sets a level once, the number that the position stands for,
rounded to the nearest whole number, a half going away from zero, and then clamped.  So the level is a
half away at most within the slider, is the number itself if that is whole, and grows with it. -/
theorem level_of_position (a : Adapter) (d : Double) :
    (d.number? = none → a.call (.setValue d) = done (.error (.invalidRequest (.notFinite d)), a)) ∧
      ∀ q, d.number? = some q → ∃ (n : ℤ) (level : Power), a.Sets (.setValue d) level ∧
        IsRounded q n ∧ level.toInt = max 0 (min n 255) ∧
        (0 ≤ q → q ≤ 255 → |q - level.toInt| ≤ 1 / 2) ∧
        (∀ m : ℤ, q = m → 0 ≤ m → m ≤ 255 → level.toInt = m) ∧
        ∀ (e : Double) (r : ℚ) (level' : Power), e.number? = some r → q ≤ r →
          a.Sets (.setValue e) level' → level.toInt ≤ level'.toInt := by
  refine ⟨fun hnone => ?_, fun q hq => ?_⟩
  · refine call_of_refusal ?_
    rw [exchange, Double.level?_of_number?_eq_none hnone]
  · obtain ⟨level, hlevel, hvalue⟩ := Double.exists_level?_of_number? hq
    refine ⟨roundAway q, level, a.sets_setValue hlevel, isRounded_roundAway q, hvalue, ?_, ?_, ?_⟩
    · intro hzero hfull
      have hlow := roundAway_mono (q := ((0 : ℤ) : ℚ)) (r := q) (by exact_mod_cast hzero)
      have hhigh := roundAway_mono (q := q) (r := ((255 : ℤ) : ℚ)) (by exact_mod_cast hfull)
      rw [roundAway_intCast] at hlow hhigh
      rw [hvalue, min_eq_left hhigh, max_eq_right hlow]
      exact abs_roundAway_sub_le q
    · rintro m rfl hzero hfull
      rw [roundAway_intCast] at hvalue
      omega
    · intro e r level' hr hqr hsets
      obtain ⟨p, hp, hvalue'⟩ := Double.exists_level?_of_number? hr
      obtain rfl := (a.sets_setValue hp).unique hsets
      have hmono := roundAway_mono hqr
      omega

/-- A half goes up.  The double below one half does not, although adding a half to it would give 1.  What
is no number is refused. -/
theorem level_of_position_half :
    let slider := Adapter.new .level .sample
    slider.call (.setValue ⟨0x7FF8000000000000⟩) =
        done (.error (.invalidRequest (.notFinite ⟨0x7FF8000000000000⟩)), slider) ∧
      (∃ level, slider.Sets (.setValue ⟨0x406FD00000000000⟩) level ∧ level.toInt = 255) ∧
      ∃ level, slider.Sets (.setValue ⟨0x3FDFFFFFFFFFFFFF⟩) level ∧ level.toInt = 0 := by
  intro slider
  have hhalf : (⟨0x406FD00000000000⟩ : Double).number? = some (509 / 2) := by
    have hvalue : (⟨0x406FD00000000000⟩ : Double).value = .finite false 0x1FD00000000000 (-45) := by
      decide
    rw [(Double.number?_of_value hvalue).1]
    norm_num [Double.scaled, Double.signed]
  have hbelow : (⟨0x3FDFFFFFFFFFFFFF⟩ : Double).number? = some ((2 ^ 53 - 1) / 2 ^ 54) := by
    have hvalue : (⟨0x3FDFFFFFFFFFFFFF⟩ : Double).value = .finite false 0x1FFFFFFFFFFFFF (-54) := by
      decide
    rw [(Double.number?_of_value hvalue).1]
    norm_num [Double.scaled, Double.signed]
  refine ⟨(level_of_position slider _).1 rfl, ?_, ?_⟩
  · obtain ⟨n, level, hsets, hn, hlevel, -⟩ := (level_of_position slider _).2 _ hhalf
    have hround : n = 255 := by
      rw [hn.unique (isRounded_roundAway _)]
      norm_num [roundAway, round_eq]
    exact ⟨level, hsets, by rw [hlevel, hround]; rfl⟩
  · obtain ⟨n, level, hsets, hn, hlevel, -⟩ := (level_of_position slider _).2 _ hbelow
    have hround : n = 0 := by
      rw [hn.unique (isRounded_roundAway _)]
      norm_num [roundAway, round_eq]
    exact ⟨level, hsets, by rw [hlevel, hround]; rfl⟩

/-- After a refresh that has given a state, an adapter remembers the level of that state. -/
theorem eq_of_update {σ : Type} {device : Device σ} {s : σ} {a a' : Adapter} {state : EntityState}
    (h : ((a.call .update).run device s).value = (.ok (some state), a')) :
    a' = { a with last := state.power } := by
  rw [call_of_exchange (d := a.channel.get) rfl, run_bind] at h
  dsimp only [run_done] at h
  generalize (a.channel.get.run device s).value = r at h
  cases r with
  | error e => cases h
  | ok p =>
    cases h
    rfl

end Adapter

/-- A level that is shown as a position and rounded and clamped again: rounding it to a double has
changed it only where it was far beyond the slider. -/
theorem Double.IsNearest.clamp_roundAway {d : Double} {n : ℤ} {q : ℚ} (h : d.IsNearest n)
    (hq : d.number? = some q) : max 0 (min (roundAway q) 255) = max 0 (min n 255) := by
  have hlimit : ∀ m : ℤ, m.natAbs = 2 ^ 53 → ∃ e : Double, e.number? = some (m : ℚ) :=
    fun m hm => Double.exists_number?_of_le hm.le
  obtain hsmall | hlarge := le_or_gt n.natAbs (2 ^ 53)
  · obtain ⟨e, he⟩ := Double.exists_number?_of_le hsmall
    obtain rfl : q = n := Option.some.inj (hq.symm.trans (h.number?_eq he))
    rw [roundAway_intCast]
  · obtain hpos | hneg := lt_or_ge 0 n
    · obtain ⟨e, he⟩ := hlimit (2 ^ 53) rfl
      have hle : (2 ^ 53 : ℤ) ≤ n := by omega
      have hround := roundAway_mono (h.le hq he (by exact_mod_cast hle))
      rw [roundAway_intCast] at hround
      omega
    · obtain ⟨e, he⟩ := hlimit (-2 ^ 53) rfl
      have hge : n ≤ (-2 ^ 53 : ℤ) := by omega
      have hround := roundAway_mono (h.ge hq he (by exact_mod_cast hge))
      rw [roundAway_intCast] at hround
      omega

namespace Adapter

/-- A brightness that is shown is the level, clamped. -/
theorem toInt_ofUInt8_clamped (p : Power) :
    (Power.ofUInt8 p.clamped).toInt = max 0 (min p.toInt 255) := by
  change (p.clamped.toNat : ℤ) = _
  rw [Power.toNat_clamped]
  omega

/-- A level that is shown and written back.  Whichever level a slider and a light have been given by
their devices, the slider shows the nearest double, which is the level itself up to `2 ^ 53`, and written
back it sets the level clamped; the light shows the same number as its brightness and sets it when it is
switched on with that. -/
theorem level_of_shown {σ τ : Type} {device : Device σ} {s : σ} {device' : Device τ} {s' : τ}
    {slider slider' light light' : Adapter} {state state' : EntityState} {p : Power}
    (hslider : ((slider.call .update).run device s).value = (.ok (some state), slider'))
    (hp : state.power = some p)
    (hlight : ((light.call .update).run device' s').value = (.ok (some state'), light'))
    (hp' : state'.power = some p) (hkind : light.kind = .light) :
    ∃ (d : Double) (b : UInt8) (level : Power),
      slider'.value = some d ∧ d.IsNearest p.toInt ∧
      (p.toInt.natAbs ≤ 2 ^ 53 → d.number? = some (p.toInt : ℚ)) ∧
      light'.brightness = some b ∧ level.toInt = max 0 (min p.toInt 255) ∧ (b.toNat : ℤ) = level.toInt ∧
      slider'.Sets (.setValue d) level ∧ light'.Sets (.turnOn (some b)) level := by
  obtain rfl := eq_of_update hslider
  obtain rfl := eq_of_update hlight
  have hnearest : (Double.ofPower p).IsNearest p.toInt := by
    have := p.lower
    have := p.upper
    exact Double.isNearest_ofInt (by omega)
  obtain ⟨q, hq, -⟩ := id hnearest
  obtain ⟨level, hlevel, hvalue⟩ := Double.exists_level?_of_number? hq
  rw [hnearest.clamp_roundAway hq, ← toInt_ofUInt8_clamped] at hvalue
  obtain rfl := Power.ext hvalue
  have hexact : p.toInt.natAbs ≤ 2 ^ 53 → (Double.ofPower p).number? = some (p.toInt : ℚ) := by
    intro hsmall
    obtain ⟨e, he⟩ := Double.exists_number?_of_le hsmall
    exact hnearest.number?_eq he
  have hon := sets_turnOn (a := { light with last := state'.power }) hkind p.clamped
  refine ⟨.ofPower p, p.clamped, .ofUInt8 p.clamped, ?_, hnearest, hexact, ?_, toInt_ofUInt8_clamped p,
    rfl, sets_setValue _ hlevel, hon⟩
  · rw [value, hp]
    rfl
  · rw [brightness, hp']
    rfl

/-- The level `2 ^ 53 + 1` lies halfway between two doubles and is shown as the even one. -/
theorem level_of_shown_tie :
    let slider : Adapter := ⟨.level, .sample, some ⟨0x20000000000001, by decide, by decide⟩⟩
    let light : Adapter := { slider with kind := .light }
    slider.value = some ⟨0x4340000000000000⟩ ∧ light.brightness = some 255 ∧
      ∃ level, level.toInt = 255 ∧ slider.Sets (.setValue ⟨0x4340000000000000⟩) level ∧
        light.Sets (.turnOn (some 255)) level := by
  intro slider light
  have hupdate : ∀ kind, (((new kind .sample).call .update).run
      (Channel.bodyDevice "9007199254740993") ()).value =
        (.ok (some { slider with kind := kind }.state), { slider with kind := kind }) := by
    intro kind
    cases kind <;> decide +kernel
  have hvalue : slider.value = some ⟨0x4340000000000000⟩ :=
    congrArg some (by decide +kernel : Double.ofInt 0x20000000000001 = ⟨0x4340000000000000⟩)
  have hbrightness : light.brightness = some 255 := rfl
  obtain ⟨d, b, level, hd, -, -, hb, hlevel, -, hset, hon⟩ :=
    level_of_shown (hupdate .level) rfl (hupdate .light) rfl rfl
  obtain rfl := Option.some.inj (hvalue.symm.trans hd)
  obtain rfl := Option.some.inj (hbrightness.symm.trans hb)
  exact ⟨hvalue, hbrightness, level, hlevel, hset, hon⟩

end Adapter

end Greenhouse
