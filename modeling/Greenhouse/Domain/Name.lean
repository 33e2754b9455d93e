import Greenhouse.Domain.Direction
import Greenhouse.Domain.Joining
import Greenhouse.Domain.Mapping
import Greenhouse.Domain.Punycode
import Greenhouse.Text.Mark
import Greenhouse.Text.Split

/-!
# Greenhouse.Domain.Name

Domain names in ASCII.

A name is brought into its one form, cut into labels at the full stops, and each label that is not
ASCII is written in Punycode behind `xn--`.  A label that comes with this mark must be what such
writing gives.  Hyphens are not restricted, and neither is the length of a label in plain ASCII.

* `isAllowed_of_mem_toAscii?` — the result holds no character that means something in a url.
-/

namespace Greenhouse.Domain

open Greenhouse.Text

/-- Whether a character is ASCII. -/
def isAscii (c : Char) : Bool := c.toNat < 0x80

/-- Whether a domain name in ASCII may hold a character: no control, no space, and nothing that
delimits the parts of a url. -/
def isAllowed (c : Char) : Bool :=
  0x20 < c.toNat && c.toNat < 0x7F &&
    !(['%', '#', '/', ':', '<', '>', '?', '@', '[', '\\', ']', '^', '|'].contains c)

/-! ## labels -/

/-- A label of a domain name: what it reads as, and its ASCII form. -/
structure Label where
  text : List Char
  ascii : List Char

namespace Label

/-- What marks a label as written in Punycode. -/
def mark : List Char := ['x', 'n', '-', '-']

/-- How many characters a label may have that is not ASCII. -/
def longestText : Nat := 1000

/-- How many characters may follow the mark in a label written in Punycode. -/
def longestCode : Nat := 2000

/-- Whether a text may be a label that is not ASCII: it is not too long, it is in its one form, it
does not begin with a combining mark, and it has joiners only where they belong. -/
def isValid (text : List Char) : Bool :=
  text.length ≤ longestText && text.all Mapping.isMapped && Composed.compose text == text &&
    !(text.head?.any isMark) && Joining.allowed text

/-- The label of a text in its one form, if it is one. -/
def ofMapped? (cs : List Char) : Option Label :=
  if mark.isPrefixOf cs then
    let code := cs.drop mark.length
    match (if code.length ≤ longestCode then Punycode.decode? code else none) with
    | none => none
    | some text => if !text.all isAscii && isValid text then some ⟨text, cs⟩ else none
  else if cs.all isAscii then some ⟨cs, cs⟩
  else if isValid cs then some ⟨cs, mark ++ Punycode.encode cs⟩
  else none

/-- An ASCII text without the mark is its own label. -/
theorem ofMapped?_of_ascii {cs : List Char} (hm : mark.isPrefixOf cs = false)
    (h : ∀ c ∈ cs, isAscii c) : ofMapped? cs = some ⟨cs, cs⟩ := by
  rw [ofMapped?, hm, if_neg (by simp), if_pos (List.all_eq_true.mpr h)]

end Label

/-! ## names -/

/-- The ASCII form of a domain name, if it has one. -/
def toAscii? (cs : List Char) : Option (List Char) := do
  let mapped ← Mapping.map? cs
  let labels ← (pieces (· == '.') mapped).mapM Label.ofMapped?
  let ascii := join '.' (labels.map Label.ascii)
  if directionsAgree (labels.map Label.text) && ascii.all isAllowed then some ascii else none

/-- Nothing in the ASCII form means something in a url. -/
theorem isAllowed_of_mem_toAscii? {cs ds : List Char} (h : toAscii? cs = some ds) :
    ∀ c ∈ ds, isAllowed c := by
  simp only [toAscii?, Option.bind_eq_bind, Option.bind_eq_some_iff] at h
  obtain ⟨mapped, -, labels, -, h⟩ := h
  split at h
  · next hall =>
    cases h
    exact List.all_eq_true.mp (Bool.and_eq_true_iff.mp hall).2
  · cases h

end Greenhouse.Domain
