/-!
# Greenhouse.Text.Utf8

UTF-8 as lists of bytes.

`scan` reads bytes as characters and marks what is not one: each longest beginning of a sequence
that could still have become a character, or else the single byte, counts as one fault.  Strict
reading wants no fault; lenient reading shows each fault as the replacement character.

* `scan_encode` — characters that were written are read back without a fault.
-/

namespace Greenhouse.Text.Utf8

/-- The bytes of some characters. -/
def encode (cs : List Char) : List UInt8 := cs.flatMap String.utf8EncodeChar

/-- The start of a sequence of several bytes: the bits it has given so far, the bounds of the next
byte, and how many bytes come after that. -/
structure Lead where
  bits : Nat
  low : Nat
  high : Nat
  more : Nat

/-- What a first byte starts, if it starts a sequence of several bytes.  The bounds of the next byte
keep out overlong forms, surrogates and numbers past the last code point. -/
def lead? (b : Nat) : Option Lead :=
  if b < 0xC2 then none
  else if b < 0xE0 then some ⟨b - 0xC0, 0x80, 0xBF, 0⟩
  else if b = 0xE0 then some ⟨0, 0xA0, 0xBF, 1⟩
  else if b = 0xED then some ⟨0xD, 0x80, 0x9F, 1⟩
  else if b < 0xF0 then some ⟨b - 0xE0, 0x80, 0xBF, 1⟩
  else if b = 0xF0 then some ⟨0, 0x90, 0xBF, 2⟩
  else if b < 0xF4 then some ⟨b - 0xF0, 0x80, 0xBF, 2⟩
  else if b = 0xF4 then some ⟨4, 0x80, 0x8F, 2⟩
  else none

/-- Goes on with a sequence: its character, or none at the first byte that does not fit, and the
bytes that are left. -/
def follow (bits low high : Nat) : Nat → List UInt8 → Option Char × List UInt8
  | _, [] => (none, [])
  | 0, b :: bs =>
    if low ≤ b.toNat ∧ b.toNat ≤ high then
      (some (Char.ofNat (64 * bits + (b.toNat - 0x80))), bs)
    else (none, b :: bs)
  | more + 1, b :: bs =>
    if low ≤ b.toNat ∧ b.toNat ≤ high then follow (64 * bits + (b.toNat - 0x80)) 0x80 0xBF more bs
    else (none, b :: bs)

theorem length_follow_le (bits low high more : Nat) (bs : List UInt8) :
    (follow bits low high more bs).2.length ≤ bs.length := by
  induction bs generalizing bits low high more with
  | nil => cases more <;> simp [follow]
  | cons b bs ih =>
    cases more with
    | zero => unfold follow; split <;> simp
    | succ more =>
      unfold follow
      split
      · exact Nat.le_succ_of_le (ih ..)
      · simp

/-- Reads the characters, with `none` for each fault. -/
def scan : List UInt8 → List (Option Char)
  | [] => []
  | b :: bs =>
    if b.toNat < 0x80 then some (Char.ofNat b.toNat) :: scan bs
    else match lead? b.toNat with
      | none => none :: scan bs
      | some l =>
        have := length_follow_le l.bits l.low l.high l.more bs
        (follow l.bits l.low l.high l.more bs).1 ::
          scan (follow l.bits l.low l.high l.more bs).2
termination_by bs => bs.length
decreasing_by all_goals simp; try omega

/-- Reads bytes that must be faultless. -/
def decode? (bs : List UInt8) : Option (List Char) := (scan bs).mapM id

/-- Reads bytes, with the replacement character for each fault. -/
def decodeLossy (bs : List UInt8) : List Char := (scan bs).map fun c => c.getD '\ufffd'

/-! ## reading back -/

/-- A byte below 128 is a character of its own. -/
theorem scan_cons_of_lt {b : UInt8} (h : b.toNat < 0x80) (bs : List UInt8) :
    scan (b :: bs) = some (Char.ofNat b.toNat) :: scan bs := by
  rw [scan, if_pos h]

/-- A lead byte and the bytes that follow it. -/
theorem scan_cons_of_lead {b : UInt8} {bits low high more : Nat}
    (h : lead? b.toNat = some ⟨bits, low, high, more⟩) (bs : List UInt8) :
    scan (b :: bs) = (follow bits low high more bs).1 :: scan (follow bits low high more bs).2 := by
  have hb : ¬ b.toNat < 0x80 := fun hlt => by simp [lead?, show b.toNat < 0xC2 by omega] at h
  rw [scan, if_neg hb, h]

theorem follow_zero {bits low high : Nat} {b : UInt8} (hl : low ≤ b.toNat) (hh : b.toNat ≤ high)
    (bs : List UInt8) : follow bits low high 0 (b :: bs) =
      (some (Char.ofNat (64 * bits + (b.toNat - 0x80))), bs) := by
  rw [follow, if_pos ⟨hl, hh⟩]

theorem follow_succ {bits low high more : Nat} {b : UInt8} (hl : low ≤ b.toNat)
    (hh : b.toNat ≤ high) (bs : List UInt8) : follow bits low high (more + 1) (b :: bs) =
      follow (64 * bits + (b.toNat - 0x80)) 0x80 0xBF more bs := by
  rw [follow, if_pos ⟨hl, hh⟩]

theorem lead?_two {n : Nat} (h1 : 0x80 ≤ n) (h2 : n ≤ 0x7FF) :
    lead? (n / 64 % 0x20 + 0xC0) = some ⟨n / 64, 0x80, 0xBF, 0⟩ := by
  rw [lead?, if_neg (by omega), if_pos (by omega)]
  simp only [Option.some.injEq, Lead.mk.injEq, and_true]
  omega

/-- The second byte of a sequence of three fits its bounds. -/
theorem lead?_three {n : Nat} (h1 : 0x800 ≤ n) (h2 : n ≤ 0xFFFF)
    (hs : n < 0xD800 ∨ 0xDFFF < n) :
    ∃ low high, lead? (n / 4096 % 0x10 + 0xE0) = some ⟨n / 4096, low, high, 1⟩ ∧
      low ≤ n / 64 % 0x40 + 0x80 ∧ n / 64 % 0x40 + 0x80 ≤ high := by
  unfold lead?
  rw [if_neg (by omega), if_neg (by omega)]
  by_cases h0 : n / 4096 = 0
  · exact ⟨0xA0, 0xBF, by rw [if_pos (by omega), h0], by omega, by omega⟩
  · rw [if_neg (by omega)]
    by_cases hd : n / 4096 = 0xD
    · exact ⟨0x80, 0x9F, by rw [if_pos (by omega), hd], by omega, by omega⟩
    · rw [if_neg (by omega), if_pos (by omega)]
      refine ⟨0x80, 0xBF, ?_, by omega, by omega⟩
      simp only [Option.some.injEq, Lead.mk.injEq, and_true]
      omega

/-- The second byte of a sequence of four fits its bounds. -/
theorem lead?_four {n : Nat} (h1 : 0x10000 ≤ n) (h2 : n ≤ 0x10FFFF) :
    ∃ low high, lead? (n / 262144 % 0x08 + 0xF0) = some ⟨n / 262144, low, high, 2⟩ ∧
      low ≤ n / 4096 % 0x40 + 0x80 ∧ n / 4096 % 0x40 + 0x80 ≤ high := by
  unfold lead?
  rw [if_neg (by omega), if_neg (by omega), if_neg (by omega), if_neg (by omega),
    if_neg (by omega)]
  by_cases h0 : n / 262144 = 0
  · exact ⟨0x90, 0xBF, by rw [if_pos (by omega), h0], by omega, by omega⟩
  · rw [if_neg (by omega)]
    by_cases h4 : n / 262144 = 4
    · exact ⟨0x80, 0x8F, by rw [if_neg (by omega), if_pos (by omega), h4], by omega, by omega⟩
    · rw [if_pos (by omega)]
      refine ⟨0x80, 0xBF, ?_, by omega, by omega⟩
      simp only [Option.some.injEq, Lead.mk.injEq, and_true]
      omega

/-- One character that was written is read back. -/
theorem scan_utf8EncodeChar (c : Char) (bs : List UInt8) :
    scan (String.utf8EncodeChar c ++ bs) = some c :: scan bs := by
  have hv : c.val.toNat < 0xD800 ∨ 0xDFFF < c.val.toNat ∧ c.val.toNat < 0x110000 := c.valid
  have hc : ∀ n, n = c.val.toNat → Char.ofNat n = c := fun n h => by
    rw [h]; exact Char.ofNat_toNat c
  have byte : ∀ n, n < 256 → (UInt8.ofNat n).toNat = n := fun n h => UInt8.toNat_ofNat_of_lt' h
  simp only [String.utf8EncodeChar]
  split
  next h =>
    rw [List.singleton_append, scan_cons_of_lt (by rw [byte _ (by omega)]; omega),
      byte _ (by omega), hc _ rfl]
  split
  next h1 h2 =>
    rw [List.cons_append, List.singleton_append,
      scan_cons_of_lead (by rw [byte _ (by omega)]; exact lead?_two (by omega) h2),
      follow_zero (by rw [byte _ (by omega)]; omega) (by rw [byte _ (by omega)]; omega),
      byte _ (by omega), hc _ (by omega)]
  split
  next h1 h2 h3 =>
    obtain ⟨low, high, hlead, hlow, hhigh⟩ :=
      lead?_three (n := c.val.toNat) (by omega) h3 (by omega)
    rw [List.cons_append, List.cons_append, List.singleton_append,
      scan_cons_of_lead (by rw [byte _ (by omega)]; exact hlead),
      follow_succ (by rw [byte _ (by omega)]; exact hlow) (by rw [byte _ (by omega)]; exact hhigh),
      follow_zero (by rw [byte _ (by omega)]; omega) (by rw [byte _ (by omega)]; omega),
      byte _ (by omega), byte _ (by omega), hc _ (by omega)]
  next h1 h2 h3 =>
    obtain ⟨low, high, hlead, hlow, hhigh⟩ := lead?_four (n := c.val.toNat) (by omega) (by omega)
    rw [List.cons_append, List.cons_append, List.cons_append, List.singleton_append,
      scan_cons_of_lead (by rw [byte _ (by omega)]; exact hlead),
      follow_succ (by rw [byte _ (by omega)]; exact hlow) (by rw [byte _ (by omega)]; exact hhigh),
      follow_succ (by rw [byte _ (by omega)]; omega) (by rw [byte _ (by omega)]; omega),
      follow_zero (by rw [byte _ (by omega)]; omega) (by rw [byte _ (by omega)]; omega),
      byte _ (by omega), byte _ (by omega), byte _ (by omega), hc _ (by omega)]

/-- What was written is read back without a fault. -/
theorem scan_encode (cs : List Char) : scan (encode cs) = cs.map some := by
  induction cs with
  | nil => simp [encode, scan]
  | cons c cs ih =>
    rw [encode, List.flatMap_cons, scan_utf8EncodeChar, ← encode, ih, List.map_cons]

/-- What is encoded is decoded without loss. -/
@[simp] theorem decodeLossy_encode (cs : List Char) : decodeLossy (encode cs) = cs := by
  simp [decodeLossy, scan_encode, Function.comp_def]

end Greenhouse.Text.Utf8
