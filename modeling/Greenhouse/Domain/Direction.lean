import Greenhouse.Domain.Direction.Table

/-!
# Greenhouse.Domain.Direction

The rule for names that mix writing directions.

In a domain name that holds right-to-left characters anywhere, every label must read in one
direction: it begins with a letter, holds only characters that go with the direction of that letter,
and ends, but for marks, with a letter or a number.
-/

namespace Greenhouse.Domain

open Greenhouse.Text

/-- The writing direction of a character. -/
inductive Direction where
  | leftToRight
  | rightToLeft
  | arabicLetter
  | arabicNumber
  | europeanNumber
  | europeanSeparator
  | commonSeparator
  | europeanTerminator
  | otherNeutral
  | boundaryNeutral
  | nonspacingMark
  | other
deriving DecidableEq

namespace Direction

/-- The direction that the table gives a number. -/
def ofClass : Nat → Direction
  | 0 => rightToLeft
  | 1 => arabicLetter
  | 2 => arabicNumber
  | 3 => europeanNumber
  | 4 => europeanSeparator
  | 5 => commonSeparator
  | 6 => europeanTerminator
  | 7 => otherNeutral
  | 8 => boundaryNeutral
  | 9 => nonspacingMark
  | _ => other

/-- The direction of a character. -/
def ofChar (c : Char) : Direction := ((classes.get? c).map ofClass).getD leftToRight

/-- Whether a character makes a whole domain name subject to the rule. -/
def isRightToLeft (d : Direction) : Bool :=
  d == rightToLeft || d == arabicLetter || d == arabicNumber

/-- The directions that both kinds of label admit. -/
def isNeutral (d : Direction) : Bool :=
  d == europeanNumber || d == europeanSeparator || d == commonSeparator ||
    d == europeanTerminator || d == otherNeutral || d == boundaryNeutral || d == nonspacingMark

/-- What ends a right-to-left label, marks left aside. -/
def endsRightToLeft (d : Direction) : Bool :=
  d == rightToLeft || d == arabicLetter || d == europeanNumber || d == arabicNumber

/-- What ends a left-to-right label, marks left aside. -/
def endsLeftToRight (d : Direction) : Bool := d == leftToRight || d == europeanNumber

/-- The last direction of a label, marks left aside. -/
def last? (ds : List Direction) : Option Direction := ds.reverse.find? (· != nonspacingMark)

/-- Whether a label keeps to the rule.  The empty label does. -/
def isConsistent : List Direction → Bool
  | [] => true
  | d :: ds =>
    if d == rightToLeft || d == arabicLetter then
      ds.all (fun e => e.isRightToLeft || e.isNeutral) &&
        (last? (d :: ds)).any endsRightToLeft &&
        !(ds.contains europeanNumber && ds.contains arabicNumber)
    else if d == leftToRight then
      ds.all (fun e => e == leftToRight || e.isNeutral) && (last? (d :: ds)).any endsLeftToRight
    else false

set_option maxRecDepth 4000 in
/-- ASCII holds no right-to-left characters. -/
theorem isRightToLeft_of_ascii {c : Char} (h : c.toNat < 0x80) :
    (ofChar c).isRightToLeft = false := by
  obtain ⟨back, hback⟩ : ∃ back, classes = .ofText (basicRows ++ back) := ⟨_, rfl⟩
  -- the rows of ASCII come first, and all others begin behind them
  let basic : List (List Nat) := [[0, 9, 8], [0, 5, 10], [0, 14, 8], [0, 5, 10], [0, 2, 7], [0, 3, 6],
    [0, 5, 7], [0, 1, 4], [0, 1, 5], [0, 1, 4], [0, 2, 5], [0, 10, 3], [0, 1, 5], [0, 6, 7],
    [26, 6, 7], [26, 4, 7], [0, 6, 8]]
  have hread : basicRows.toList.foldl RowReader.push ⟨[], [], none⟩ = ⟨basic.reverse, [], none⟩ := by
    rfl
  have hrows : rows (basicRows ++ back) = basic ++ rows back := rows_append hread
  have hruns : classes.runs =
      CodeClasses.runsFrom 0 basic ++ CodeClasses.runsFrom 133 (rows back) := by
    rw [hback, CodeClasses.ofText, hrows]
    rfl
  have hbasic : ∀ r ∈ CodeClasses.runsFrom 0 basic, (ofClass r.2).isRightToLeft = false := by decide
  rw [ofChar]
  cases hc : classes.get? c with
  | none => rfl
  | some n =>
    obtain ⟨r, hr, hcontains, rfl⟩ := CodeClasses.exists_of_get?_eq_some hc
    rw [hruns, List.mem_append] at hr
    obtain hr | hr := hr
    · exact hbasic r hr
    · have := CodeClasses.le_first_of_mem_runsFrom hr
      simp only [CodeRun.contains, Bool.and_eq_true, decide_eq_true_eq] at hcontains
      omega

end Direction

/-- Whether the labels of a domain name keep to the rule on writing directions. -/
def directionsAgree (labels : List (List Char)) : Bool :=
  let ds := labels.map (·.map Direction.ofChar)
  !(ds.any (·.any Direction.isRightToLeft)) || ds.all Direction.isConsistent

/-- The rule is no matter for names in ASCII. -/
theorem directionsAgree_of_ascii {labels : List (List Char)}
    (h : ∀ cs ∈ labels, ∀ c ∈ cs, c.toNat < 0x80) : directionsAgree labels := by
  have hnone : ∀ ds ∈ labels.map (·.map Direction.ofChar),
      ds.any Direction.isRightToLeft = false := by
    intro ds hds
    obtain ⟨cs, hcs, rfl⟩ := List.mem_map.mp hds
    rw [List.any_map, List.any_eq_false]
    intro c hc
    rw [Function.comp_apply, Direction.isRightToLeft_of_ascii (h cs hcs c hc)]
    exact Bool.false_ne_true
  have hany : (labels.map (·.map Direction.ofChar)).any (·.any Direction.isRightToLeft) = false :=
    List.any_eq_false.mpr fun ds hds => by rw [hnone ds hds]; exact Bool.false_ne_true
  simp only [directionsAgree, hany, Bool.not_false, Bool.true_or]

end Greenhouse.Domain
