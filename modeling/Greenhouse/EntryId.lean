import Greenhouse.Text.Hex
import Greenhouse.Text.Split

/-!
# Greenhouse.EntryId

Identifiers of stored entries: 128 bits, written as 32 hexadecimal digits in five groups.

Reading also takes the digits without hyphens, the grouped form between braces, and the grouped form
as a name in the `urn:uuid:` space.

* `read?_chars` — what was written is read back.
-/

namespace Greenhouse

open Greenhouse.Text

/-- The identifier of an entry. -/
structure EntryId where
  bits : BitVec 128
deriving DecidableEq

namespace EntryId

/-- The order of identifiers is that of their bits as numbers. -/
def lt (a b : EntryId) : Bool := a.bits < b.bits

/-- The identifier of a natural number, of which only the low 128 bits count. -/
def ofNat (n : Nat) : EntryId := ⟨.ofNat 128 n⟩

/-- An identifier is made from its number again. -/
@[simp] theorem ofNat_toNat (id : EntryId) : ofNat id.bits.toNat = id :=
  congrArg EntryId.mk (BitVec.ofNat_toNat 128 id.bits)

/-! ## writing -/

/-- The identifier in lower case, in groups of 8, 4, 4, 4 and 12 digits. -/
def chars (id : EntryId) : List Char :=
  let n := id.bits.toNat
  join '-' [Hex.ofNatPadded 8 (n >>> 96), Hex.ofNatPadded 4 (n >>> 80), Hex.ofNatPadded 4 (n >>> 64),
    Hex.ofNatPadded 4 (n >>> 48), Hex.ofNatPadded 12 n]

/-- The identifier as text. -/
def text (id : EntryId) : String := String.ofList id.chars

/-! ## reading -/

/-- Reads 32 digits. -/
def ofDigits? (cs : List Char) : Option EntryId :=
  if cs.length = 32 then (Hex.nat? cs).map ofNat else none

/-- Reads five groups of digits. -/
def ofGroups? (cs : List Char) : Option EntryId :=
  let groups := pieces (· == '-') cs
  if groups.map List.length = [8, 4, 4, 4, 12] then ofDigits? groups.flatten else none

/-- Text without what must stand around it. -/
def between? (front back cs : List Char) : Option (List Char) :=
  if front.isPrefixOf cs ∧ back.isSuffixOf cs ∧ front.length + back.length ≤ cs.length then
    some ((cs.drop front.length).take (cs.length - front.length - back.length))
  else none

/-- Reads an identifier in any of its forms. -/
def read? (cs : List Char) : Option EntryId :=
  ((((ofDigits? cs).or (ofGroups? cs)).or
    ((between? ['\x7b'] ['\x7d'] cs).bind ofGroups?)).or
    ((between? "urn:uuid:".toList [] cs).bind ofGroups?)).or
    ((between? "URN:UUID:".toList [] cs).bind ofGroups?)

/-! ## reading back -/

/-- No digit is a hyphen. -/
theorem ne_hyphen_of_mem_ofNatPadded {width n : Nat} {c : Char} (h : c ∈ Hex.ofNatPadded width n) :
    (c == '-') = false := by
  induction width generalizing n with
  | zero => simp [Hex.ofNatPadded] at h
  | succ width ih =>
    rcases List.mem_append.mp h with h | h
    · exact ih h
    · have : ∀ d : Fin 16, (Nat.digitChar d == '-') = false := by decide
      rw [List.mem_singleton.mp h]
      exact this ⟨n % 16, Nat.mod_lt _ (by decide)⟩

/-- The hyphens stand between the five groups. -/
theorem pieces_chars (id : EntryId) : pieces (· == '-') id.chars =
    [Hex.ofNatPadded 8 (id.bits.toNat >>> 96), Hex.ofNatPadded 4 (id.bits.toNat >>> 80),
      Hex.ofNatPadded 4 (id.bits.toNat >>> 64), Hex.ofNatPadded 4 (id.bits.toNat >>> 48),
      Hex.ofNatPadded 12 id.bits.toNat] := by
  refine pieces_join (by simp) fun ys hys y hy => ?_
  simp only [List.mem_cons, List.not_mem_nil, or_false] at hys
  rcases hys with rfl | rfl | rfl | rfl | rfl <;> exact ne_hyphen_of_mem_ofNatPadded hy

/-- The digits of all groups are those of the number. -/
theorem nat?_groups {n : Nat} (h : n < 0x100000000000000000000000000000000) :
    Hex.nat? (Hex.ofNatPadded 8 (n >>> 96) ++ (Hex.ofNatPadded 4 (n >>> 80) ++
      (Hex.ofNatPadded 4 (n >>> 64) ++ (Hex.ofNatPadded 4 (n >>> 48) ++
        Hex.ofNatPadded 12 n)))) = some n := by
  have hne : (Hex.ofNatPadded 8 (n >>> 96) ++ (Hex.ofNatPadded 4 (n >>> 80) ++
      (Hex.ofNatPadded 4 (n >>> 64) ++ (Hex.ofNatPadded 4 (n >>> 48) ++
        Hex.ofNatPadded 12 n)))).isEmpty = false := by
    simp [Hex.ofNatPadded]
  rw [Hex.nat?, hne, if_neg (by simp)]
  simp only [Hex.natFrom?_append, Hex.natFrom?_ofNatPadded, Option.bind_some, Option.some.injEq,
    Hex.count, Nat.shiftRight_eq_div_pow]
  omega

/-- The groups are read to what they were written from. -/
theorem ofGroups?_chars (id : EntryId) : ofGroups? id.chars = some id := by
  rw [ofGroups?, pieces_chars]
  simp only [List.map_cons, Hex.length_ofNatPadded, List.map_nil, if_true, List.flatten_cons,
    List.flatten_nil, List.append_nil, ofDigits?, List.length_append]
  rw [nat?_groups id.bits.isLt]
  exact congrArg some (ofNat_toNat id)

/-- An identifier is always written with 36 characters. -/
theorem length_chars (id : EntryId) : id.chars.length = 36 := by
  simp [chars, join, Hex.length_ofNatPadded]

/-- What was written is read back. -/
@[simp] theorem read?_chars (id : EntryId) : read? id.chars = some id := by
  rw [read?, ofDigits?, if_neg (by rw [length_chars]; decide), ofGroups?_chars]
  simp only [Option.none_or, Option.some_or]

/-! ## new identifiers -/

/-- The identifier made of random bits: six more bits are fixed, to mark it as random. -/
def ofRandom (random : BitVec 122) : EntryId :=
  ⟨random.extractLsb' 74 48 ++ 4#4 ++ random.extractLsb' 62 12 ++ 2#2 ++ random.extractLsb' 0 62⟩

/-- Whether an identifier is marked as random. -/
def isRandom (id : EntryId) : Bool :=
  id.bits.extractLsb' 76 4 == 4#4 && id.bits.extractLsb' 62 2 == 2#2

end EntryId

end Greenhouse
