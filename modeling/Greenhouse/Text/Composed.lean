import Greenhouse.Text.Composed.Table

/-!
# Greenhouse.Text.Composed

Canonical composition: the one form of a text among those that differ only in how marks are attached
to their letters.

A text is first decomposed, its marks are brought into the order of their classes, and then every
letter takes up the marks behind it that it can take up.
-/

namespace Greenhouse.Text.Composed

/-! ## Hangul syllables -/

namespace Hangul

/-- The first syllable, leading consonant, vowel and (less one) trailing consonant. -/
def syllables : Nat := 0xAC00
/-- The first leading consonant. -/
def leads : Nat := 0x1100
/-- The first vowel. -/
def vowels : Nat := 0x1161
/-- The code point before the first trailing consonant. -/
def trails : Nat := 0x11A7

/-- Takes a syllable apart. -/
def decompose? (n : Nat) : Option (List Nat) :=
  if syllables ≤ n ∧ n < syllables + 11172 then
    let i := n - syllables
    let letters := [leads + i / 588, vowels + i % 588 / 28]
    some (if i % 28 = 0 then letters else letters ++ [trails + i % 28])
  else none

/-- Puts two parts of a syllable together. -/
def compose? (a b : Nat) : Option Nat :=
  if leads ≤ a ∧ a < leads + 19 ∧ vowels ≤ b ∧ b < vowels + 21 then
    some (syllables + ((a - leads) * 21 + (b - vowels)) * 28)
  else if syllables ≤ a ∧ a < syllables + 11172 ∧ (a - syllables) % 28 = 0 ∧
      trails < b ∧ b < trails + 28 then
    some (a + (b - trails))
  else none

end Hangul

/-! ## decomposition -/

/-- The row of a table that begins with a number, without it. -/
def row? (table : List (List Nat)) (n : Nat) : Option (List Nat) :=
  (table.find? (·.head? == some n)).map List.tail

/-- A character as it is when nothing is composed. -/
def decomposeChar (c : Char) : List Char :=
  (((Hangul.decompose? c.toNat).or (row? decompositions c.toNat)).getD [c.toNat]).map Char.ofNat

/-- The combining class: zero for a character that begins a new letter. -/
def combiningClass (c : Char) : Nat := (combiningClasses.get? c).getD 0

/-- Puts a mark behind the text read so far, given in reverse, and in front of the marks of higher
class at its end. -/
def place (x : Char × Nat) : List (Char × Nat) → List (Char × Nat)
  | [] => [x]
  | y :: ys => if 0 < x.2 ∧ x.2 < y.2 then y :: place x ys else x :: y :: ys

/-- A decomposed text with its marks in order, each character with its class. -/
def ordered (cs : List Char) : List (Char × Nat) :=
  ((cs.flatMap decomposeChar).foldl (fun done c => place (c, combiningClass c) done) []).reverse

/-! ## composition -/

/-- The character that two characters compose into. -/
def pair? (a b : Char) : Option Char :=
  ((Hangul.compose? a.toNat b.toNat).or
    ((compositions.find? (·.tail == [a.toNat, b.toNat])).bind List.head?)).map Char.ofNat

/-- Composition under way: the finished text in reverse, the letter at hand, and the marks behind it
that it did not take up, in reverse. -/
structure Composer where
  done : List Char
  letter : Option Char
  marks : List (Char × Nat)

namespace Composer

/-- The whole text read so far, in reverse. -/
def text (s : Composer) : List Char := s.marks.map (·.1) ++ s.letter.toList ++ s.done

/-- Reads one character.  The letter at hand takes it up if the two compose and no mark of the same
or a higher class stands between them. -/
def push (s : Composer) (x : Char × Nat) : Composer :=
  let free := match s.marks with
    | [] => true
    | m :: _ => m.2 < x.2
  match (if free then s.letter.bind (pair? · x.1) else none) with
  | some c => { s with letter := some c }
  | none =>
    if x.2 = 0 then ⟨s.text, some x.1, []⟩ else { s with marks := x :: s.marks }

end Composer

/-- The composed form of a text.  Text without any code point from the first combining mark on is
composed already. -/
def compose (cs : List Char) : List Char :=
  if cs.all (·.toNat < 0x300) then cs
  else ((ordered cs).foldl Composer.push ⟨[], none, []⟩).text.reverse

/-- Plain text is composed already. -/
theorem compose_of_lt {cs : List Char} (h : ∀ c ∈ cs, c.toNat < 0x300) : compose cs = cs := by
  rw [compose, if_pos (by simpa using h)]

end Greenhouse.Text.Composed
