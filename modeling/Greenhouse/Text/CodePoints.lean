/-!
# Greenhouse.Text.CodePoints

Sets and classes of code points, given as runs.

Properties of characters come as tables.  A table is one text of decimal numbers: rows are
separated by commas, the numbers of a row by blanks.  `rows` reads such a text, and the two kinds of
table are built from its rows:

* a `CodeSet` holds the code points with a property: alternately how many to leave out and how many
  to take;
* a `CodeClasses` gives some code points a class: how many to leave out, how many to take, and the
  number of their class.
-/

namespace Greenhouse.Text

/-! ## tables of numbers -/

/-- What has been read of a table, all in reverse: the finished rows, the row at hand, and the
number at hand. -/
structure RowReader where
  rows : List (List Nat)
  row : List Nat
  number : Option Nat

namespace RowReader

/-- Ends the number at hand. -/
def endNumber (r : RowReader) : RowReader :=
  match r.number with
  | none => r
  | some n => { r with row := n :: r.row, number := none }

/-- Ends the row at hand; an empty row is left out. -/
def endRow (r : RowReader) : RowReader :=
  let r := r.endNumber
  if r.row.isEmpty then r else { r with rows := r.row.reverse :: r.rows, row := [] }

/-- Reads one character: a digit goes on with the number, a comma ends the row, and anything else
ends the number. -/
def push (r : RowReader) (c : Char) : RowReader :=
  if c.isDigit then { r with number := some (10 * r.number.getD 0 + (c.toNat - '0'.toNat)) }
  else if c = ',' then r.endRow
  else r.endNumber

end RowReader

/-- The rows of a table. -/
def rows (text : String) : List (List Nat) :=
  ((text.toList.foldl RowReader.push ⟨[], [], none⟩).endRow).rows.reverse

namespace RowReader

/-- A reader with finished rows in front of its own. -/
def behind (rs : List (List Nat)) (r : RowReader) : RowReader := { r with rows := r.rows ++ rs }

/-- Finished rows do not bear on what is read behind them. -/
theorem endRow_behind (rs : List (List Nat)) (r : RowReader) :
    (r.behind rs).endRow = r.endRow.behind rs := by
  obtain ⟨rows, row, number⟩ := r
  cases number with
  | none => by_cases h : row = [] <;> simp [behind, endRow, endNumber, h]
  | some n => simp [behind, endRow, endNumber]

theorem push_behind (rs : List (List Nat)) (r : RowReader) (c : Char) :
    (r.behind rs).push c = (r.push c).behind rs := by
  unfold push
  split
  · rfl
  · split
    · exact endRow_behind rs r
    · cases hn : r.number <;> simp [behind, endNumber, hn]

/-- Whatever is read behind finished rows is read as if they were not there. -/
theorem foldl_push_behind (rs : List (List Nat)) (r : RowReader) (cs : List Char) :
    cs.foldl push (r.behind rs) = (cs.foldl push r).behind rs := by
  induction cs generalizing r with
  | nil => rfl
  | cons c cs ih => rw [List.foldl_cons, List.foldl_cons, push_behind, ih]

end RowReader

/-- Rows that are finished come before all others. -/
theorem rows_append {front back : String} {rs : List (List Nat)}
    (h : front.toList.foldl RowReader.push ⟨[], [], none⟩ = ⟨rs, [], none⟩) :
    rows (front ++ back) = rs.reverse ++ rows back := by
  have hback := RowReader.foldl_push_behind rs ⟨[], [], none⟩ back.toList
  rw [rows, String.toList_append, List.foldl_append, h]
  rw [show (⟨rs, [], none⟩ : RowReader) = RowReader.behind rs ⟨[], [], none⟩ from rfl, hback,
    RowReader.endRow_behind]
  simp [RowReader.behind, rows]

/-! ## sets -/

/-- The code points from `first` to `last`. -/
structure CodeRun where
  first : Nat
  last : Nat

/-- Whether a run holds a code point. -/
def CodeRun.contains (r : CodeRun) (n : Nat) : Bool := r.first ≤ n && n ≤ r.last

/-- A set of code points, as its runs. -/
structure CodeSet where
  runs : List CodeRun

namespace CodeSet

/-- The runs of alternately left out and taken code points, from `start` on. -/
def runsFrom (start : Nat) : List Nat → List CodeRun
  | skip :: take :: rest => ⟨start + skip, start + skip + take - 1⟩ :: runsFrom (start + skip + take) rest
  | _ => []

/-- Reads a set: alternately how many code points to leave out and how many to take. -/
def ofText (text : String) : CodeSet := ⟨runsFrom 0 (rows text).flatten⟩

/-- Whether a character is in the set. -/
def contains (s : CodeSet) (c : Char) : Bool := s.runs.any (·.contains c.toNat)

end CodeSet

/-! ## classes -/

/-- Classes of code points, as runs of one class each. -/
structure CodeClasses where
  runs : List (CodeRun × Nat)

namespace CodeClasses

/-- The runs of rows of three numbers, from `start` on. -/
def runsFrom (start : Nat) : List (List Nat) → List (CodeRun × Nat)
  | [skip, take, cls] :: rest =>
    (⟨start + skip, start + skip + take - 1⟩, cls) :: runsFrom (start + skip + take) rest
  | _ => []

/-- Reads classes: in each row, how many code points to leave out, how many to take, and the number
of their class. -/
def ofText (text : String) : CodeClasses := ⟨runsFrom 0 (rows text)⟩

/-- The number of a character's class, if it has one. -/
def get? (s : CodeClasses) (c : Char) : Option Nat :=
  (s.runs.find? (·.1.contains c.toNat)).map (·.2)

/-- The class of a character is that of a run that holds it. -/
theorem exists_of_get?_eq_some {s : CodeClasses} {c : Char} {n : Nat} (h : s.get? c = some n) :
    ∃ r ∈ s.runs, r.1.contains c.toNat ∧ r.2 = n := by
  obtain ⟨r, hr, hn⟩ := Option.map_eq_some_iff.mp h
  have hc := List.find?_some hr
  exact ⟨r, List.mem_of_find?_eq_some hr, hc, hn⟩

/-- Runs come behind what has been left out and taken before them. -/
theorem le_first_of_mem_runsFrom {start : Nat} {rows : List (List Nat)} {r : CodeRun × Nat}
    (h : r ∈ runsFrom start rows) : start ≤ r.1.first := by
  induction rows generalizing start with
  | nil => cases h
  | cons row rows ih =>
    unfold runsFrom at h
    split at h
    · next heq =>
      cases heq
      rcases List.mem_cons.mp h with rfl | h
      · simp
      · have := ih h
        omega
    · cases h

end CodeClasses

end Greenhouse.Text
