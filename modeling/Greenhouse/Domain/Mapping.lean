import Greenhouse.Domain.Mapping.Table
import Greenhouse.Text.Composed

/-!
# Greenhouse.Domain.Mapping

The characters of a domain name brought into one form: capital letters become small, variants of a
character become that character, and characters without a meaning of their own are dropped.

ASCII needs no table: its capital letters become small and everything else stays.
-/

namespace Greenhouse.Domain.Mapping

open Greenhouse.Text

/-- What a row of the table of replacements puts in the place of a character. -/
def replacement? (c : Char) : List Nat → Option (List Char)
  | first :: count :: distance :: target =>
    let offset := c.toNat - first
    if first ≤ c.toNat ∧ offset < count * distance ∧ offset % distance = 0 then
      some (target.map fun t => Char.ofNat (t + offset))
    else none
  | _ => none

/-- What a character becomes; `none` if a domain name must not hold it. -/
def mapChar (c : Char) : Option (List Char) :=
  if c.toNat < 0x80 then some [c.toLower]
  else if valid.contains c then some [c]
  else if ignored.contains c then some []
  else replacements.findSome? (replacement? c)

/-- A domain name in its one form. -/
def map? (cs : List Char) : Option (List Char) :=
  (cs.mapM mapChar).map fun parts => Composed.compose parts.flatten

/-- Whether a character is in its one form already. -/
def isMapped (c : Char) : Bool :=
  if c.toNat < 0x80 then c.toLower == c else valid.contains c

/-- Plain ASCII only has its capital letters made small. -/
theorem map?_of_ascii {cs : List Char} (h : ∀ c ∈ cs, c.toNat < 0x80) :
    map? cs = some (cs.map Char.toLower) := by
  have hm : cs.mapM mapChar = some (cs.map fun c => [c.toLower]) := by
    induction cs with
    | nil => rfl
    | cons c cs ih =>
      rw [List.mapM_cons, ih fun d hd => h d (by simp [hd])]
      simp [mapChar, h c (by simp)]
  have hlow : ∀ c : Char, c.toNat < 0x80 → c.toLower.toNat < 0x300 := by
    intro c hc
    unfold Char.toLower
    split
    · next hr =>
      have : (c.val + 32).toNat ≤ c.val.toNat + 32 := by
        rw [UInt32.toNat_add]; exact Nat.mod_le _ _
      have hc' : c.val.toNat < 0x80 := hc
      show (c.val + ('a'.val - 'A'.val)).toNat < 0x300
      have h32 : ('a'.val - 'A'.val) = 32 := by decide
      rw [h32]; omega
    · omega
  rw [map?, hm, Option.map_some]
  have hf : ∀ ds : List Char, (ds.map fun c => [c.toLower]).flatten = ds.map Char.toLower := by
    intro ds
    induction ds with
    | nil => rfl
    | cons d ds ih => simpa using ih
  rw [hf, Composed.compose_of_lt]
  intro d hd
  obtain ⟨c, hc, rfl⟩ := List.mem_map.mp hd
  exact hlow c (h c hc)

end Greenhouse.Domain.Mapping
