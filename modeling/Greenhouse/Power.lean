import Greenhouse.Text.Blank
import Greenhouse.Text.Decimal

/-!
# Greenhouse.Power

Power levels as devices report them.

By convention a level lies between 0 and 255, and 0 is off; but a device may report any signed number
of 64 bits, and that number is kept as it is.

A device gives a level as decimal text, with white space around it or not (`Power.read?`).
-/

namespace Greenhouse

open Greenhouse.Text

/-- A power level. -/
structure Power where
  toInt : Int
  lower : -0x8000000000000000 ≤ toInt := by decide
  upper : toInt < 0x8000000000000000 := by decide
deriving DecidableEq

namespace Power

/-- Powers with the same value are the same. -/
@[ext] theorem ext {p q : Power} (h : p.toInt = q.toInt) : p = q := by
  cases p; cases q; cases h; rfl

/-- The level of an integer, if it fits. -/
def ofInt? (n : Int) : Option Power :=
  if h : -0x8000000000000000 ≤ n ∧ n < 0x8000000000000000 then some ⟨n, h.1, h.2⟩ else none

/-- The value of a power is in range. -/
@[simp] theorem ofInt?_toInt (p : Power) : ofInt? p.toInt = some p := by
  rw [ofInt?, dif_pos ⟨p.lower, p.upper⟩]

/-- Only the value of a power makes that power. -/
theorem ofInt?_eq_some_iff {n : Int} {p : Power} : ofInt? n = some p ↔ p.toInt = n := by
  constructor
  · intro h
    unfold ofInt? at h
    split at h
    · cases h; rfl
    · cases h
  · rintro rfl
    exact ofInt?_toInt p

/-- The level nearest to an integer. -/
def nearest (n : Int) : Power :=
  ⟨max (-0x8000000000000000) (min n 0x7FFFFFFFFFFFFFFF), by omega, by omega⟩

/-- Off. -/
def off : Power := ⟨0, by decide, by decide⟩

/-- Full power. -/
def full : Power := ⟨255, by decide, by decide⟩

/-- The level of a byte. -/
def ofUInt8 (b : UInt8) : Power :=
  ⟨b.toNat, by omega, by have := b.toNat_lt; omega⟩

/-- Every level but 0 is on. -/
def isOn (p : Power) : Bool := p.toInt != 0

/-- A level brought into the conventional range. -/
def clamped (p : Power) : UInt8 := UInt8.ofNat (min p.toInt.toNat 255)

/-- A level in decimal. -/
def text (p : Power) : String := String.ofList (Decimal.ofInt p.toInt)

/-- Reads what a device gives as a level. -/
def read? (reply : String) : Option Power :=
  (Decimal.int? (trim reply.toList)).bind ofInt?

/-! ## small facts -/

/-- A clamped power is the value itself between 0 and 255, and the nearer end outside. -/
theorem toNat_clamped (p : Power) : p.clamped.toNat = min p.toInt.toNat 255 := by
  have h : min p.toInt.toNat 255 < 256 := by omega
  exact UInt8.toNat_ofNat_of_lt' h

/-- A number is never written as nothing. -/
theorem ofInt_ne_nil (n : Int) : Decimal.ofInt n ≠ [] := by
  cases n <;> simp [Decimal.ofInt]

/-- A written number holds no white space. -/
theorem not_isBlank_of_mem_ofInt {n : Int} {c : Char} (h : c ∈ Decimal.ofInt n) :
    isBlank c = false := by
  cases n with
  | ofNat n => exact isBlank_eq_false_of_isDigit (Decimal.isDigit_of_mem_ofNat h)
  | negSucc n =>
    rcases List.mem_cons.mp h with rfl | h
    · decide
    · exact isBlank_eq_false_of_isDigit (Decimal.isDigit_of_mem_ofNat h)

/-- What was written is read back, whatever white space is put around it. -/
theorem read?_text_padded (p : Power) {front back : List Char} (hf : ∀ c ∈ front, isBlank c)
    (hb : ∀ c ∈ back, isBlank c) :
    read? (String.ofList (front ++ p.text.toList ++ back)) = some p := by
  have ht : trim (front ++ Decimal.ofInt p.toInt ++ back) = Decimal.ofInt p.toInt := by
    rw [List.append_assoc, trim_append_left hf, trim]
    have hs : trimStart (Decimal.ofInt p.toInt ++ back) = Decimal.ofInt p.toInt ++ back := by
      obtain ⟨c, cs, hc⟩ := List.exists_cons_of_ne_nil (ofInt_ne_nil p.toInt)
      have := not_isBlank_of_mem_ofInt (n := p.toInt) (c := c) (by simp [hc])
      simp [trimStart, hc, this]
    rw [hs, trimEnd_append_right hb]
    have : trim (Decimal.ofInt p.toInt) = Decimal.ofInt p.toInt := trim_eq_self
      (fun c hc => not_isBlank_of_mem_ofInt (List.mem_of_mem_head? hc))
      (fun c hc => not_isBlank_of_mem_ofInt (List.mem_of_getLast? hc))
    rwa [trim, show trimStart (Decimal.ofInt p.toInt) = Decimal.ofInt p.toInt by
      obtain ⟨c, cs, hc⟩ := List.exists_cons_of_ne_nil (ofInt_ne_nil p.toInt)
      have := not_isBlank_of_mem_ofInt (n := p.toInt) (c := c) (by simp [hc])
      simp [trimStart, hc, this]] at this
  rw [read?, String.toList_ofList, text, String.toList_ofList, ht]
  simp

end Power

end Greenhouse
