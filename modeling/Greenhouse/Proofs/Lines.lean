import Greenhouse.Proofs.Machines
import Greenhouse.Proofs.Spellings

/-!
# Greenhouse.Proofs.Lines

What is written is a single line: without blanks between its tokens, a document holds no control
characters, since those in its strings are escaped.

* `Spells.isPlain` — the same of any compact spelling.
-/

namespace Greenhouse.Json

open Greenhouse.Text

/-- Whether a text holds no control characters, and so is a single line. -/
def IsPlain (cs : List Char) : Prop := ∀ c ∈ cs, 0x20 ≤ c.toNat

instance (cs : List Char) : Decidable (IsPlain cs) :=
  decidable_of_iff (cs.all fun c => 0x20 ≤ c.toNat) (by simp [IsPlain])

/-- Two texts are plain together if each is. -/
theorem isPlain_append {cs ds : List Char} : IsPlain (cs ++ ds) ↔ IsPlain cs ∧ IsPlain ds :=
  List.forall_mem_append

theorem isPlain_cons {c : Char} {cs : List Char} : IsPlain (c :: cs) ↔ 0x20 ≤ c.toNat ∧ IsPlain cs :=
  List.forall_mem_cons

theorem isPlain_nil : IsPlain [] := fun _ h => by cases h

/-- What holds of none of the control characters holds of others alone. -/
theorem le_toNat_of_not_control {p : Char → Bool} (hp : ∀ n : Fin 0x20, p (Char.ofNat n) = false)
    {c : Char} (hc : p c) : 0x20 ≤ c.toNat := by
  by_contra hlt
  have hnot := hp ⟨c.toNat, Nat.lt_of_not_le hlt⟩
  rw [Char.ofNat_toNat, hc] at hnot
  cases hnot

/-- Digits are plain. -/
theorem isPlain_of_isDigits {cs : List Char} (h : IsDigits cs) : IsPlain cs :=
  fun c hc => le_toNat_of_not_control (by decide) (h.2 c hc)

/-- Whatever reads as a hexadecimal number is plain. -/
theorem isPlain_of_natFrom? {cs : List Char} {m n : Nat} (h : Hex.natFrom? m cs = some n) :
    IsPlain cs :=
  fun c hc => le_toNat_of_not_control (by decide) (Hex.isDigit_of_natFrom? h c hc)

/-- No spelling of a symbol holds a raw control character. -/
theorem Symbol.Spells.isPlain {s : Symbol} {cs : List Char} (h : s.Spells cs) : IsPlain cs := by
  cases h with
  | plain hcontrol _ _ => simpa [IsPlain] using hcontrol
  | @short e c h =>
    have hletter : (escaped? e).isSome := by simp [h]
    have hplain := @le_toNat_of_not_control (fun e => (escaped? e).isSome) (by decide) e hletter
    simpa [IsPlain] using hplain
  | unit h => exact isPlain_cons.mpr ⟨by decide, isPlain_cons.mpr ⟨by decide, isPlain_of_natFrom? h⟩⟩

/-- No spelling of a string holds a raw control character. -/
theorem SpellsString.isPlain {ss : List Symbol} {cs : List Char} (h : SpellsString ss cs) :
    IsPlain cs := by
  obtain ⟨h⟩ := h
  refine isPlain_cons.mpr ⟨by decide, isPlain_append.mpr ⟨?_, by decide⟩⟩
  induction h with
  | nil => exact isPlain_nil
  | cons head _ ih => exact isPlain_append.mpr ⟨head.isPlain, ih⟩

/-- A sign is plain. -/
theorem isPlain_signChars (negative : Bool) : IsPlain (signChars negative) := by
  cases negative <;> decide

/-- No spelling of a number holds a control character. -/
theorem Numeral.Spells.isPlain {n : Numeral} {cs : List Char} (h : n.Spells cs) : IsPlain cs := by
  cases h with
  | integer negative h =>
    exact isPlain_append.mpr ⟨isPlain_signChars negative, isPlain_of_isDigits h.1⟩
  | @real negative whole fraction exponent h hfraction hexponent _ =>
    have hfractionPlain : IsPlain fraction := by
      cases hfraction with
      | missing => exact isPlain_nil
      | digits h => exact isPlain_cons.mpr ⟨by decide, isPlain_of_isDigits h⟩
    have hexponentPlain : IsPlain exponent := by
      cases hexponent with
      | missing => exact isPlain_nil
      | digits he hsign h =>
        refine isPlain_cons.mpr ⟨?_, isPlain_append.mpr ⟨?_, isPlain_of_isDigits h⟩⟩
        · obtain rfl | rfl := he <;> decide
        · obtain rfl | rfl | rfl := hsign <;> decide
    simp only [isPlain_append]
    exact ⟨⟨⟨isPlain_signChars negative, isPlain_of_isDigits h.1⟩, hfractionPlain⟩, hexponentPlain⟩

/-- Plain parts between commas are plain. -/
theorem isPlain_join {parts : List (List Char)} (h : ∀ cs ∈ parts, IsPlain cs) :
    IsPlain (join ',' parts) := by
  intro c hc
  obtain rfl | ⟨cs, hcs, hc⟩ := mem_of_mem_join hc
  · decide
  · exact h cs hcs c hc

/-- What has no blanks between its tokens is a single line. -/
theorem Spells.isPlain {j : Json} {cs : List Char} (h : Spells (fun _ => False) j cs) : IsPlain cs := by
  induction h with
  | null => decide
  | yes => decide
  | no => decide
  | number h => exact h.isPlain
  | string h => exact h.isPlain
  | emptyArray hgap =>
    exact isPlain_cons.mpr ⟨by decide, isPlain_append.mpr ⟨fun c hc => (hgap c hc).elim, by decide⟩⟩
  | array hne hfront hback _ ih =>
    refine isPlain_cons.mpr ⟨by decide, isPlain_append.mpr ⟨isPlain_join ?_, by decide⟩⟩
    refine List.forall_mem_map.mpr fun i hi => ?_
    simp only [Item.chars, isPlain_append]
    exact ⟨⟨fun c hc => (hfront i hi c hc).elim, ih i hi⟩, fun c hc => (hback i hi c hc).elim⟩
  | emptyObject hgap =>
    exact isPlain_cons.mpr ⟨by decide, isPlain_append.mpr ⟨fun c hc => (hgap c hc).elim, by decide⟩⟩
  | object hne hfront hback hname _ ih =>
    refine isPlain_cons.mpr ⟨by decide, isPlain_append.mpr ⟨isPlain_join ?_, by decide⟩⟩
    refine List.forall_mem_map.mpr fun m hm => ?_
    have hfronts : IsPlain (m.front ++ m.item.front) := fun c hc => (hfront m hm c hc).elim
    have hbacks : IsPlain (m.back ++ m.item.back) := fun c hc => (hback m hm c hc).elim
    rw [isPlain_append] at hfronts hbacks
    simp only [Member.chars, Item.chars, isPlain_append, isPlain_cons]
    exact ⟨⟨⟨hfronts.1, (hname m hm).isPlain⟩, hbacks.1⟩, by decide,
      ⟨hfronts.2, ih m hm⟩, hbacks.2⟩

end Greenhouse.Json
