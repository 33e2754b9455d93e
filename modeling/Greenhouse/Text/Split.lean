/-!
# Greenhouse.Text.Split

Lists cut at separators.

* `join_pieces` — nothing but the separators is lost.
-/

namespace Greenhouse.Text

/-- The pieces of a list between the elements that satisfy `p`; there is always at least one. -/
def pieces (p : α → Bool) : List α → List (List α)
  | [] => [[]]
  | x :: xs =>
    if p x then [] :: pieces p xs
    else match pieces p xs with
      | [] => [[x]]
      | y :: ys => (x :: y) :: ys

/-- The pieces of a list put together again, with a separator between each two. -/
def join (sep : α) : List (List α) → List α
  | [] => []
  | [x] => x
  | x :: y :: ys => x ++ sep :: join sep (y :: ys)

/-- There is always a piece. -/
@[simp] theorem pieces_ne_nil (p : α → Bool) (xs : List α) : pieces p xs ≠ [] := by
  cases xs with
  | nil => simp [pieces]
  | cons x xs =>
    unfold pieces
    split
    · simp
    · split <;> simp

theorem pieces_cons_of_pos {p : α → Bool} {x : α} (h : p x) (xs : List α) :
    pieces p (x :: xs) = [] :: pieces p xs := by
  simp [pieces, h]

theorem pieces_cons_of_neg {p : α → Bool} {x : α} (h : p x = false) (xs : List α) :
    ∃ y ys, pieces p xs = y :: ys ∧ pieces p (x :: xs) = (x :: y) :: ys := by
  obtain ⟨y, ys, hy⟩ := List.exists_cons_of_ne_nil (pieces_ne_nil p xs)
  exact ⟨y, ys, hy, by simp [pieces, h, hy]⟩

/-- A list without separators is one piece. -/
theorem pieces_of_forall_not {p : α → Bool} {xs : List α} (h : ∀ x ∈ xs, p x = false) :
    pieces p xs = [xs] := by
  induction xs with
  | nil => rfl
  | cons x xs ih =>
    rw [pieces, if_neg (by simp [h x (by simp)]), ih fun y hy => h y (by simp [hy])]

/-- Whatever a piece holds was in the list. -/
theorem mem_of_mem_pieces {p : α → Bool} {xs ys : List α} (hys : ys ∈ pieces p xs) {y : α}
    (hy : y ∈ ys) : y ∈ xs := by
  induction xs generalizing ys with
  | nil => simp_all [pieces]
  | cons x xs ih =>
    cases hx : p x with
    | true =>
      rw [pieces_cons_of_pos hx, List.mem_cons] at hys
      rcases hys with rfl | hys
      · cases hy
      · exact List.mem_cons_of_mem _ (ih hys hy)
    | false =>
      obtain ⟨z, zs, hz, hxz⟩ := pieces_cons_of_neg hx xs
      rw [hxz, List.mem_cons] at hys
      rcases hys with rfl | hys
      · rcases List.mem_cons.mp hy with rfl | hy
        · exact List.mem_cons_self
        · exact List.mem_cons_of_mem _ (ih (by simp [hz]) hy)
      · exact List.mem_cons_of_mem _ (ih (by simp [hz, hys]) hy)

@[simp] theorem join_cons_cons_head (sep x : α) (y : List α) (ys : List (List α)) :
    join sep ((x :: y) :: ys) = x :: join sep (y :: ys) := by
  cases ys <;> simp [join]

/-- The pieces put together again are the list. -/
theorem join_pieces [BEq α] [LawfulBEq α] (sep : α) (xs : List α) :
    join sep (pieces (· == sep) xs) = xs := by
  induction xs with
  | nil => rfl
  | cons x xs ih =>
    obtain ⟨y, ys, hy⟩ := List.exists_cons_of_ne_nil (pieces_ne_nil (· == sep) xs)
    cases hx : x == sep with
    | true =>
      rw [pieces_cons_of_pos (p := (· == sep)) hx, hy, join, ← hy, ih, eq_of_beq hx,
        List.nil_append]
    | false =>
      rw [pieces, if_neg (by simp [hx]), hy]
      simp [← hy, ih]

/-- A separator ends one piece and begins the next. -/
theorem pieces_append_sep {p : α → Bool} {x : α} (hx : p x) (ys xs : List α) :
    pieces p (ys ++ x :: xs) = pieces p ys ++ pieces p xs := by
  induction ys with
  | nil => exact pieces_cons_of_pos hx xs
  | cons y ys ih =>
    cases hy : p y with
    | true => rw [List.cons_append, pieces_cons_of_pos hy, pieces_cons_of_pos hy, ih]; rfl
    | false =>
      obtain ⟨z, zs, hz, hyz⟩ := pieces_cons_of_neg hy ys
      rw [hyz, List.cons_append, pieces, if_neg (by simp [hy]), ih, hz]
      rfl

/-- The first separator ends the first piece. -/
theorem pieces_append_cons {p : α → Bool} {ys : List α} (h : ∀ y ∈ ys, p y = false) {x : α}
    (hx : p x) (xs : List α) : pieces p (ys ++ x :: xs) = ys :: pieces p xs := by
  rw [pieces_append_sep hx, pieces_of_forall_not h]
  rfl

/-- Pieces without separators are found again. -/
theorem pieces_join [BEq α] [LawfulBEq α] {sep : α} {parts : List (List α)} (hne : parts ≠ [])
    (h : ∀ ys ∈ parts, ∀ y ∈ ys, (y == sep) = false) :
    pieces (· == sep) (join sep parts) = parts := by
  induction parts with
  | nil => exact absurd rfl hne
  | cons ys rest ih =>
    cases rest with
    | nil => exact pieces_of_forall_not (h ys (by simp))
    | cons zs rest =>
      rw [join, pieces_append_cons (h ys (by simp)) (by simp),
        ih (by simp) fun ws hws => h ws (List.mem_cons_of_mem _ hws)]

end Greenhouse.Text
