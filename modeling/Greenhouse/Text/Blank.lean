import Greenhouse.Text.CodePoints

/-!
# Greenhouse.Text.Blank

White space, and text without the white space around it.

White space is every character with the Unicode property of that name, not only the ASCII blanks: a
no-break space or an ideographic space counts, a zero-width space does not.
-/

namespace Greenhouse.Text

/-- The white space characters. -/
def blanks : CodeSet :=
  ⟨[⟨0x09, 0x0D⟩, ⟨0x20, 0x20⟩, ⟨0x85, 0x85⟩, ⟨0xA0, 0xA0⟩, ⟨0x1680, 0x1680⟩, ⟨0x2000, 0x200A⟩,
    ⟨0x2028, 0x2029⟩, ⟨0x202F, 0x202F⟩, ⟨0x205F, 0x205F⟩, ⟨0x3000, 0x3000⟩]⟩

/-- Whether a character is white space. -/
def isBlank (c : Char) : Bool := blanks.contains c

/-- A digit is not white space. -/
theorem isBlank_eq_false_of_isDigit {c : Char} (h : c.isDigit) : isBlank c = false := by
  have hc : 48 ≤ c.toNat ∧ c.toNat ≤ 57 := by
    simpa [Char.isDigit, UInt32.le_iff_toNat_le] using h
  simp only [isBlank, blanks, CodeSet.contains, CodeRun.contains, List.any_cons, List.any_nil,
    Bool.or_false, Bool.or_eq_false_iff, Bool.and_eq_false_iff, decide_eq_false_iff_not]
  omega

/-- Text without the white space at its start. -/
def trimStart (cs : List Char) : List Char := cs.dropWhile isBlank

/-- Text without the white space at its end. -/
def trimEnd (cs : List Char) : List Char := (cs.reverse.dropWhile isBlank).reverse

/-- Text without the white space around it. -/
def trim (cs : List Char) : List Char := trimEnd (trimStart cs)

/-! ## what trimming does -/

/-- White space in front does not matter. -/
theorem trim_append_left {ws cs : List Char} (h : ∀ c ∈ ws, isBlank c) :
    trim (ws ++ cs) = trim cs := by
  simp [trim, trimStart, List.dropWhile_append_of_pos h]

/-- White space behind does not matter to the end. -/
theorem trimEnd_append_right {ws cs : List Char} (h : ∀ c ∈ ws, isBlank c) :
    trimEnd (cs ++ ws) = trimEnd cs := by
  have hr : ∀ c ∈ ws.reverse, isBlank c := by simpa using h
  simp [trimEnd, List.dropWhile_append_of_pos hr]

/-- Text that neither begins nor ends with white space stays as it is. -/
theorem trim_eq_self {cs : List Char} (hhead : ∀ c ∈ cs.head?, isBlank c = false)
    (hlast : ∀ c ∈ cs.getLast?, isBlank c = false) : trim cs = cs := by
  have hstart : trimStart cs = cs := by
    cases cs with
    | nil => rfl
    | cons c cs => simp [trimStart, hhead c (by simp)]
  have hend : trimEnd cs = cs := by
    unfold trimEnd
    rcases hr : cs.reverse with _ | ⟨c, rs⟩
    · simp [List.reverse_eq_nil_iff.mp hr]
    · have hc : isBlank c = false := hlast c (by simp [List.getLast?_eq_head?_reverse, hr])
      rw [List.dropWhile_cons_of_neg (by simp [hc]), ← hr, List.reverse_reverse]
  rw [trim, hstart, hend]

/-- White space behind does not matter. -/
theorem trim_append_right {ws cs : List Char} (h : ∀ c ∈ ws, isBlank c) :
    trim (cs ++ ws) = trim cs := by
  rw [trim, trimStart, List.dropWhile_append]
  split
  · next hcs =>
    -- all of the text is white space
    have hws : ws.dropWhile isBlank = [] := by
      rw [← List.append_nil ws, List.dropWhile_append_of_pos h, List.dropWhile_nil]
    rw [hws, trim, trimStart, List.isEmpty_iff.mp hcs]
  · exact trimEnd_append_right h

/-- What trimming takes away at the end. -/
theorem trimEnd_spec (cs : List Char) : ∃ back, (∀ c ∈ back, isBlank c) ∧ cs = trimEnd cs ++ back ∧
    ∀ c ∈ (trimEnd cs).getLast?, isBlank c = false := by
  refine ⟨(cs.reverse.takeWhile isBlank).reverse, fun c hc => ?_, ?_, fun c hc => ?_⟩
  · exact List.all_eq_true.mp List.all_takeWhile c (List.mem_reverse.mp hc)
  · rw [trimEnd, ← List.reverse_append, List.takeWhile_append_dropWhile, List.reverse_reverse]
  · have hlast := List.head?_dropWhile_not isBlank cs.reverse
    rw [trimEnd, List.getLast?_reverse, Option.mem_def] at hc
    rwa [hc] at hlast

/-- The text without the white space around it is what is left of it that neither begins nor ends
with white space. -/
theorem trim_eq_iff {cs ds : List Char} : trim cs = ds ↔ ∃ front back,
    (∀ c ∈ front, isBlank c) ∧ (∀ c ∈ back, isBlank c) ∧ cs = front ++ (ds ++ back) ∧
      (∀ c ∈ ds.head?, isBlank c = false) ∧ ∀ c ∈ ds.getLast?, isBlank c = false := by
  constructor
  · rintro rfl
    obtain ⟨back, hback, hsplit, hlast⟩ := trimEnd_spec (trimStart cs)
    refine ⟨cs.takeWhile isBlank, back, List.all_eq_true.mp List.all_takeWhile, hback, ?_,
      fun c hc => ?_, hlast⟩
    · rw [trim, ← hsplit, trimStart, List.takeWhile_append_dropWhile]
    · have hhead := List.head?_dropWhile_not isBlank cs
      rw [← trimStart, hsplit, List.head?_append, ← trim, Option.mem_def.mp hc] at hhead
      exact hhead
  · rintro ⟨front, back, hfront, hback, rfl, hhead, hlast⟩
    rw [trim_append_left hfront, trim_append_right hback, trim_eq_self hhead hlast]

end Greenhouse.Text
