import Mathlib.Data.List.DropRight
import Greenhouse.Json.Reader
import Greenhouse.Json.Writer
import Greenhouse.Text.Split

/-!
# Greenhouse.Proofs.Spellings

How documents may be spelled, and that every spelling is read as its document.

The grammar is a relation between documents and texts.  Which characters may stand between tokens is
left open, so that it gives both the texts that are read, with any blanks, and the compact ones, with
none.

* `Spells` — the grammar of documents.
* `ofChars?_of_spells` — a spelling, with blanks around it, is read as its document.
* `isWritten_array`, `isWritten_object` and the lemmas beside them — what is written is a compact
  spelling.
-/

namespace Greenhouse.Json

open Greenhouse.Text

/-! ## the grammar -/

/-- How a symbol may be spelled: a character as it is, unless it must be escaped; a character by its
short escape, if there is one; and any number of sixteen bits by its four digits. -/
inductive Symbol.Spells : Symbol → List Char → Prop where
  | plain {c : Char} (hcontrol : 0x20 ≤ c.toNat) (hquote : c ≠ '"') (hescape : c ≠ '\\') :
    Spells (.char c) [c]
  | short {e c : Char} (h : escaped? e = some c) : Spells (.char c) ['\\', e]
  | unit {a b c d : Char} {n : Nat} (h : Hex.natFrom? 0 [a, b, c, d] = some n) :
    Spells (.ofUnit n) ['\\', 'u', a, b, c, d]

/-- How symbols may be spelled, one after the other. -/
inductive SpellsAll : List Symbol → List Char → Prop where
  | nil : SpellsAll [] []
  | cons {s : Symbol} {ss : List Symbol} {cs ds : List Char} (head : s.Spells cs)
    (tail : SpellsAll ss ds) : SpellsAll (s :: ss) (cs ++ ds)

/-- How a string may be spelled: between quotes, and with surrogates for what they are together. -/
inductive SpellsString : List Symbol → List Char → Prop where
  | quoted {ss : List Symbol} {cs : List Char} (h : SpellsAll ss cs) :
    SpellsString (pairUp ss) ('"' :: (cs ++ ['"']))

/-- One or more digits. -/
def IsDigits (cs : List Char) : Prop := cs ≠ [] ∧ ∀ c ∈ cs, c.isDigit

/-- One or more digits that do not begin with a zero, unless that is all. -/
def IsWhole (cs : List Char) : Prop := IsDigits cs ∧ (cs.head? = some '0' → cs.length = 1)

/-- A fraction, which may be missing. -/
inductive IsFraction : List Char → Prop where
  | missing : IsFraction []
  | digits {ds : List Char} (h : IsDigits ds) : IsFraction ('.' :: ds)

/-- An exponent, which may be missing. -/
inductive IsExponent : List Char → Prop where
  | missing : IsExponent []
  | digits {e : Char} {sign ds : List Char} (he : e = 'e' ∨ e = 'E')
    (hsign : sign = [] ∨ sign = ['+'] ∨ sign = ['-']) (h : IsDigits ds) :
    IsExponent (e :: (sign ++ ds))

/-- The sign of a number. -/
def signChars (negative : Bool) : List Char := if negative then ['-'] else []

/-- How a number may be spelled. -/
inductive Numeral.Spells : Numeral → List Char → Prop where
  | integer (negative : Bool) {whole : List Char} (h : IsWhole whole) :
    Spells (.integer negative (Nat.ofDigitChars 10 whole 0)) (signChars negative ++ whole)
  | real (negative : Bool) {whole fraction exponent : List Char} (h : IsWhole whole)
    (hfraction : IsFraction fraction) (hexponent : IsExponent exponent)
    (hne : fraction ++ exponent ≠ []) :
    Spells (.real (signChars negative ++ whole ++ fraction ++ exponent))
      (signChars negative ++ whole ++ fraction ++ exponent)

/-- A document in a list of such, with its text and what stands around it. -/
structure Item where
  front : List Char
  text : List Char
  back : List Char
  value : Json

/-- The text of an item. -/
def Item.chars (i : Item) : List Char := i.front ++ i.text ++ i.back

/-- A member of an object, with the text of its name and what stands around that. -/
structure Member where
  front : List Char
  nameText : List Char
  back : List Char
  name : List Symbol
  item : Item

/-- The text of a member. -/
def Member.chars (m : Member) : List Char := m.front ++ m.nameText ++ m.back ++ ':' :: m.item.chars

/-- How a document may be spelled, with nothing between tokens but characters that are `blank`. -/
inductive Spells (blank : Char → Prop) : Json → List Char → Prop where
  | null : Spells blank .null ['n', 'u', 'l', 'l']
  | yes : Spells blank (.bool true) ['t', 'r', 'u', 'e']
  | no : Spells blank (.bool false) ['f', 'a', 'l', 's', 'e']
  | number {n : Numeral} {cs : List Char} (h : n.Spells cs) : Spells blank (.number n) cs
  | string {ss : List Symbol} {cs : List Char} (h : SpellsString ss cs) : Spells blank (.string ss) cs
  | emptyArray {gap : List Char} (hgap : ∀ c ∈ gap, blank c) :
    Spells blank (.array []) ('[' :: (gap ++ [']']))
  | array {items : List Item} (hne : items ≠ [])
    (hfront : ∀ i ∈ items, ∀ c ∈ i.front, blank c) (hback : ∀ i ∈ items, ∀ c ∈ i.back, blank c)
    (h : ∀ i ∈ items, Spells blank i.value i.text) :
    Spells blank (.array (items.map Item.value)) ('[' :: (join ',' (items.map Item.chars) ++ [']']))
  | emptyObject {gap : List Char} (hgap : ∀ c ∈ gap, blank c) :
    Spells blank (.object []) ('\x7b' :: (gap ++ ['\x7d']))
  | object {members : List Member} (hne : members ≠ [])
    (hfront : ∀ m ∈ members, ∀ c ∈ m.front ++ m.item.front, blank c)
    (hback : ∀ m ∈ members, ∀ c ∈ m.back ++ m.item.back, blank c)
    (hname : ∀ m ∈ members, SpellsString m.name m.nameText)
    (h : ∀ m ∈ members, Spells blank m.item.value m.item.text) :
    Spells blank (.object (members.map fun m => (m.name, m.item.value)))
      ('\x7b' :: (join ',' (members.map Member.chars) ++ ['\x7d']))

/-! ## reading strings -/

/-- A symbol that is spelled out is read, whatever follows it. -/
theorem rawString?_append {s : Symbol} {cs : List Char} (h : s.Spells cs) (rest : List Char) :
    rawString? (cs ++ rest) = (rawString? rest).map fun r => (s :: r.1, r.2) := by
  cases h with
  | @plain c hcontrol hquote hescape =>
    rw [List.singleton_append, rawString?]
    · have hplain : (decide (c.toNat < 0x20) || c == '\\') = false := by
        simp [hescape, Nat.not_lt.mpr hcontrol]
      rw [hplain, if_neg Bool.false_ne_true]
    · exact fun h => hquote h
    · exact fun _ _ _ _ _ h _ => hescape h
    · exact fun _ _ h _ => hescape h
  | @short e c he =>
    have hu : e ≠ 'u' := by
      rintro rfl
      cases he
    rw [List.cons_append, List.singleton_append, rawString?, he, Option.bind_some]
    exact fun _ _ _ _ _ h _ => hu h
  | unit hn =>
    simp only [List.cons_append, List.nil_append]
    rw [rawString?, hn, Option.bind_some]

/-- A string is read up to its closing quote. -/
theorem string?_of_spells {ss : List Symbol} {cs : List Char} (h : SpellsAll ss cs)
    (rest : List Char) : string? (cs ++ '"' :: rest) = some (pairUp ss, rest) := by
  have hraw : rawString? (cs ++ '"' :: rest) = some (ss, rest) := by
    induction h with
    | nil => rw [List.nil_append, rawString?]
    | cons head tail ih => rw [List.append_assoc, rawString?_append head, ih, Option.map_some]
  rw [string?, hraw, Option.map_some]

/-! ## reading numbers -/

/-- Whether a text does not go on with a number. -/
def Ends (rest : List Char) : Prop :=
  ∀ c ∈ rest.head?, c.isDigit = false ∧ c ≠ '.' ∧ c ≠ 'e' ∧ c ≠ 'E'

/-- A number may end with the text. -/
theorem ends_nil : Ends [] := fun _ h => by cases h

/-- A number ends before whatever cannot continue it. -/
theorem ends_cons {c : Char} {cs : List Char}
    (h : c.isDigit = false ∧ c ≠ '.' ∧ c ≠ 'e' ∧ c ≠ 'E') : Ends (c :: cs) := by
  intro d hd
  cases hd
  exact h

/-- A run of digits is read as a whole. -/
theorem digits?_append {ds rest : List Char} (h : IsDigits ds)
    (hrest : ∀ c ∈ rest.head?, c.isDigit = false) : digits? (ds ++ rest) = some (ds, rest) := by
  have htake : rest.takeWhile Char.isDigit = [] ∧ rest.dropWhile Char.isDigit = rest := by
    cases rest with
    | nil => exact ⟨rfl, rfl⟩
    | cons c cs =>
      have hc : ¬ c.isDigit := by simp [hrest c rfl]
      exact ⟨List.takeWhile_cons_of_neg hc, List.dropWhile_cons_of_neg hc⟩
  rw [digits?, List.takeWhile_append_of_pos h.2, List.dropWhile_append_of_pos h.2, htake.1, htake.2,
    List.append_nil]
  exact if_neg (by simpa using h.1)

/-- A fraction is read as a whole, if another cannot follow. -/
theorem fraction?_append {fraction rest : List Char} (h : IsFraction fraction)
    (hrest : ∀ c ∈ rest.head?, c.isDigit = false ∧ c ≠ '.') :
    fraction? (fraction ++ rest) = some (fraction, rest) := by
  cases h with
  | missing =>
    rw [List.nil_append, fraction?]
    rintro cs rfl
    exact (hrest '.' rfl).2 rfl
  | digits hds =>
    rw [List.cons_append, fraction?, digits?_append hds fun c hc => (hrest c hc).1, Option.map_some]

/-- A text that begins with digits begins with a digit. -/
theorem isDigit_of_append_eq_cons {ds rest cs : List Char} (h : IsDigits ds) {c : Char}
    (hcs : ds ++ rest = c :: cs) : c.isDigit := by
  obtain ⟨d, ds', rfl⟩ := List.exists_cons_of_ne_nil h.1
  obtain ⟨rfl, -⟩ := List.cons.inj hcs
  exact h.2 _ List.mem_cons_self

/-- An exponent is read as a whole, before the end of a number. -/
theorem exponent?_append {exponent rest : List Char} (h : IsExponent exponent) (hrest : Ends rest) :
    exponent? (exponent ++ rest) = some (exponent, rest) := by
  cases h with
  | missing =>
    cases rest with
    | nil => rfl
    | cons c cs =>
      obtain ⟨-, -, he, hE⟩ := hrest c rfl
      have hmark : (c == 'e' || c == 'E') = false := by simp [he, hE]
      rw [List.nil_append, exponent?.eq_def]
      exact if_neg (by rw [hmark]; exact Bool.false_ne_true)
  | @digits e sign ds he hsign hds =>
    have hmark : e == 'e' || e == 'E' := by simpa using he
    have hread := digits?_append hds fun c hc => (hrest c hc).1
    rw [List.cons_append, exponent?.eq_def]
    refine (if_pos hmark).trans ?_
    obtain rfl | rfl | rfl := hsign
    · rw [List.nil_append]
      split
      · next hcs => exact absurd (isDigit_of_append_eq_cons hds hcs) (by decide)
      · next hcs => exact absurd (isDigit_of_append_eq_cons hds hcs) (by decide)
      · rw [hread, Option.map_some]
    · show (digits? (ds ++ rest)).map _ = _
      rw [hread]
      rfl
    · show (digits? (ds ++ rest)).map _ = _
      rw [hread]
      rfl

/-- No part of a number but the first begins with a digit. -/
theorem not_isDigit_of_head? {fraction exponent rest : List Char} (hfraction : IsFraction fraction)
    (hexponent : IsExponent exponent) (hrest : Ends rest) {c : Char}
    (hc : c ∈ (fraction ++ (exponent ++ rest)).head?) : c.isDigit = false := by
  cases hfraction with
  | digits _ =>
    cases hc
    rfl
  | missing =>
    cases hexponent with
    | missing => exact (hrest c hc).1
    | digits he _ _ =>
      cases hc
      obtain rfl | rfl := he <;> rfl

/-- The three parts of a number are read, and with neither fraction nor exponent it is an integer. -/
theorem magnitude?_append (negative : Bool) {whole fraction exponent rest : List Char}
    (hwhole : IsWhole whole) (hfraction : IsFraction fraction) (hexponent : IsExponent exponent)
    (hrest : Ends rest) :
    magnitude? negative (whole ++ (fraction ++ (exponent ++ rest))) =
      some (if fraction.isEmpty && exponent.isEmpty then
        .integer negative (Nat.ofDigitChars 10 whole 0)
        else .real (signChars negative ++ whole ++ fraction ++ exponent), rest) := by
  have hdot : ∀ c ∈ (exponent ++ rest).head?, c.isDigit = false ∧ c ≠ '.' := by
    intro c hc
    refine ⟨not_isDigit_of_head? .missing hexponent hrest hc, ?_⟩
    cases hexponent with
    | missing => exact (hrest c hc).2.1
    | digits he _ _ =>
      cases hc
      obtain rfl | rfl := he <;> decide
  have hzero : ¬ (whole.head? = some '0' ∧ whole.length ≠ 1) := fun h => h.2 (hwhole.2 h.1)
  rw [magnitude?, digits?_append hwhole.1 fun c => not_isDigit_of_head? hfraction hexponent hrest]
  simp only [Option.bind_eq_bind, Option.bind_some, if_neg hzero, fraction?_append hfraction hdot,
    exponent?_append hexponent hrest]
  split <;> rfl

/-- A number is read up to what does not go on with it. -/
theorem numeral?_append {n : Numeral} {cs rest : List Char} (h : n.Spells cs) (hrest : Ends rest) :
    numeral? (cs ++ rest) = some (n, rest) := by
  -- A sign is passed to the reader of what follows it, which does not begin with one.
  have hsign : ∀ (negative : Bool) {whole more : List Char}, IsWhole whole →
      numeral? (signChars negative ++ (whole ++ more)) = magnitude? negative (whole ++ more) := by
    intro negative whole more hwhole
    cases negative with
    | true => rfl
    | false =>
      rw [signChars, if_neg Bool.false_ne_true, List.nil_append, numeral?]
      intro cs hcs
      exact absurd (isDigit_of_append_eq_cons hwhole.1 hcs) (by decide)
  cases h with
  | integer negative hwhole =>
    have hread := magnitude?_append negative hwhole .missing .missing hrest
    rw [List.append_assoc, hsign negative hwhole]
    exact hread
  | real negative hwhole hfraction hexponent hne =>
    have hread := magnitude?_append negative hwhole hfraction hexponent hrest
    rw [if_neg (by simpa using hne)] at hread
    simp only [List.append_assoc] at hread ⊢
    rw [hsign negative hwhole, hread]

/-! ## reading values -/

/-- Space in front is passed over. -/
theorem skip_append {front : List Char} (h : ∀ c ∈ front, isSpace c) (cs : List Char) :
    skip (front ++ cs) = skip cs := by
  rw [skip, List.dropWhile_append_of_pos h, skip]

/-- Where no space is, nothing is passed over. -/
theorem skip_of_head {c : Char} {cs : List Char} (h : isSpace c = false) : skip (c :: cs) = c :: cs :=
  List.dropWhile_cons_of_neg (by simp [h])

/-- All space is passed over at once. -/
theorem skip_skip (cs : List Char) : skip (skip cs) = skip cs := List.dropWhile_idempotent ..

/-- Blanks at the start of a value do not count. -/
theorem value?_skip (fuel : Nat) (cs : List Char) : value? fuel (skip cs) = value? fuel cs := by
  cases fuel with
  | zero => rw [value?, value?]
  | succ fuel => rw [value?, value?, skip_skip]

/-- Space before the first item does not matter. -/
theorem items?_skip (fuel : Nat) (cs : List Char) : items? fuel (skip cs) = items? fuel cs := by
  cases fuel with
  | zero => rw [items?, items?]
  | succ fuel => rw [items?, items?, value?_skip]

/-- Space before the first member does not matter. -/
theorem members?_skip (fuel : Nat) (cs : List Char) : members? fuel (skip cs) = members? fuel cs := by
  cases fuel with
  | zero => rw [members?, members?]
  | succ fuel => rw [members?, members?, skip_skip]

/-- Whether a character is neither a blank nor a closing bracket. -/
def IsStart (c : Char) : Prop := isSpace c = false ∧ c ≠ ']'

/-- A value may start with a digit. -/
theorem isStart_of_isDigit {c : Char} (h : c.isDigit) : IsStart c := by
  have hspace : ¬ c = ' ' ∧ ¬ c = '\t' ∧ ¬ c = '\n' ∧ ¬ c = '\r' :=
    ⟨Decimal.ne_of_isDigit h rfl, Decimal.ne_of_isDigit h rfl, Decimal.ne_of_isDigit h rfl,
      Decimal.ne_of_isDigit h rfl⟩
  exact ⟨by simp [isSpace, hspace], Decimal.ne_of_isDigit h rfl⟩

/-- A number begins with a sign or a digit. -/
theorem Numeral.head_of_spells {n : Numeral} {cs : List Char} (h : n.Spells cs) :
    ∃ c ds, cs = c :: ds ∧ (c = '-' ∨ c.isDigit) := by
  have hhead : ∀ (negative : Bool) {whole : List Char} (more : List Char), IsWhole whole →
      ∃ c ds, signChars negative ++ (whole ++ more) = c :: ds ∧ (c = '-' ∨ c.isDigit) := by
    intro negative whole more hwhole
    obtain ⟨d, ds, rfl⟩ := List.exists_cons_of_ne_nil hwhole.1.1
    cases negative with
    | true => exact ⟨'-', _, rfl, .inl rfl⟩
    | false => exact ⟨d, _, rfl, .inr (hwhole.1.2 d List.mem_cons_self)⟩
  cases h with
  | integer negative hwhole => simpa using hhead negative [] hwhole
  | real negative hwhole => simpa only [List.append_assoc] using hhead negative _ hwhole

variable {blank : Char → Prop}

/-- No spelling begins with a blank or with a closing bracket. -/
theorem exists_start_of_spells {j : Json} {cs : List Char} (h : Spells blank j cs) :
    ∃ c ds, cs = c :: ds ∧ IsStart c := by
  cases h with
  | number h =>
    obtain ⟨c, ds, rfl, hc⟩ := Numeral.head_of_spells h
    refine ⟨c, ds, rfl, ?_⟩
    obtain rfl | hc := hc
    · exact ⟨by decide, by decide⟩
    · exact isStart_of_isDigit hc
  | string h =>
    cases h
    exact ⟨_, _, rfl, by decide, by decide⟩
  | _ => exact ⟨_, _, rfl, by decide, by decide⟩

/-- A text is read as a document, whatever follows, unless it makes a number longer. -/
def ReadsAs (j : Json) (cs : List Char) : Prop :=
  ∀ fuel rest, 2 * cs.length ≤ fuel → Ends rest → value? fuel (cs ++ rest) = some (j, rest)

/-- What begins with a sign or a digit is read as a number. -/
theorem value?_of_numeral {c : Char} (hc : c = '-' ∨ c.isDigit) (fuel : Nat) (cs : List Char) :
    value? (fuel + 1) (c :: cs) = (numeral? (c :: cs)).map fun r => (.number r.1, r.2) := by
  have hskip : skip (c :: cs) = c :: cs := by
    refine skip_of_head ?_
    obtain rfl | hc := hc
    · rfl
    · exact (isStart_of_isDigit hc).1
  have hne : ∀ d, '-' ≠ d → d.isDigit = false → c ≠ d := by
    intro d hd hdigit
    obtain rfl | hc := hc
    · exact hd
    · exact Decimal.ne_of_isDigit hc hdigit
  rw [value?, hskip]
  -- Every other branch asks for a first character of its own.
  split
  case h_7 => rfl
  all_goals
    next h => exact absurd (List.cons.inj h).1 (hne _ (by decide) (by decide))

/-! ## reading lists -/

/-- What can stand behind a value in a list. -/
def IsMark (c : Char) : Prop := c = ',' ∨ c = ']' ∨ c = '\x7d'

/-- Space before a mark is passed over, up to the mark. -/
theorem skip_mark {c : Char} (hc : IsMark c) {back : List Char} (hback : ∀ d ∈ back, isSpace d)
    (rest : List Char) : skip (back ++ c :: rest) = c :: rest := by
  rw [skip_append hback]
  refine skip_of_head ?_
  obtain rfl | rfl | rfl := hc <;> rfl

/-- A number ends at a space. -/
theorem ends_space {c : Char} (hc : isSpace c) (cs : List Char) : Ends (c :: cs) := by
  simp only [isSpace, Bool.or_eq_true, beq_iff_eq, or_assoc] at hc
  obtain rfl | rfl | rfl | rfl := hc <;> exact ends_cons (by decide)

/-- Neither blanks nor marks make a number longer. -/
theorem ends_mark {c : Char} (hc : IsMark c) {back : List Char} (hback : ∀ d ∈ back, isSpace d)
    (rest : List Char) : Ends (back ++ c :: rest) := by
  cases back with
  | nil => obtain rfl | rfl | rfl := hc <;> exact ends_cons (by decide)
  | cons d ds => exact ends_space (hback d List.mem_cons_self) _

/-- What it takes to read an item. -/
structure Item.IsRead (i : Item) : Prop where
  front : ∀ c ∈ i.front, isSpace c
  back : ∀ c ∈ i.back, isSpace c
  text : ReadsAs i.value i.text

/-- An item that is spelled out is read up to the mark behind it. -/
theorem Item.IsRead.value? {i : Item} (h : i.IsRead) {c : Char} (hc : IsMark c) {fuel : Nat}
    (hfuel : 2 * i.chars.length ≤ fuel) (rest : List Char) :
    Json.value? fuel (i.chars ++ c :: rest) = some (i.value, i.back ++ c :: rest) := by
  have hlength : i.text.length ≤ i.chars.length := by
    simp only [chars, List.length_append]
    omega
  rw [← value?_skip, chars, List.append_assoc, List.append_assoc, skip_append h.front, value?_skip]
  exact h.text fuel _ (by omega) (ends_mark hc h.back rest)

/-- An item is read, and then the ones behind its comma, if it has one. -/
theorem Item.IsRead.items? {i : Item} (h : i.IsRead) {fuel : Nat} (hfuel : 2 * i.chars.length ≤ fuel)
    (rest : List Char) :
    Json.items? (fuel + 1) (i.chars ++ ',' :: rest) =
        (Json.items? fuel rest).map (fun r => (i.value :: r.1, r.2)) ∧
      Json.items? (fuel + 1) (i.chars ++ ']' :: rest) = some ([i.value], rest) := by
  have hcomma : IsMark ',' := .inl rfl
  have hclose : IsMark ']' := .inr (.inl rfl)
  constructor
  · rw [Json.items?, h.value? hcomma hfuel, Option.bind_some]
    simp only [skip_mark hcomma h.back]
  · rw [Json.items?, h.value? hclose hfuel, Option.bind_some]
    simp only [skip_mark hclose h.back]

theorem length_join_cons_cons {x y : List Char} {ys : List (List Char)} :
    (join ',' (x :: y :: ys)).length = x.length + 1 + (join ',' (y :: ys)).length := by
  rw [join, List.length_append, List.length_cons]
  omega

/-- Items between commas are read up to the closing bracket. -/
theorem items?_join {items : List Item} (hne : items ≠ []) (h : ∀ i ∈ items, i.IsRead) {fuel : Nat}
    (hfuel : 2 * (join ',' (items.map Item.chars)).length < fuel) (rest : List Char) :
    items? fuel (join ',' (items.map Item.chars) ++ ']' :: rest) =
      some (items.map Item.value, rest) := by
  induction items generalizing fuel with
  | nil => exact absurd rfl hne
  | cons i items ih =>
    obtain ⟨fuel, rfl⟩ : ∃ n, fuel = n + 1 := ⟨fuel - 1, by omega⟩
    have hi := h i List.mem_cons_self
    cases items with
    | nil =>
      simp only [List.map_cons, List.map_nil, join] at hfuel ⊢
      exact (hi.items? (by omega) rest).2
    | cons i' items =>
      simp only [List.map_cons, length_join_cons_cons] at hfuel
      have hrest : items? fuel (join ',' ((i' :: items).map Item.chars) ++ ']' :: rest) =
          some ((i' :: items).map Item.value, rest) :=
        ih (List.cons_ne_nil _ _) (fun j hj => h j (List.mem_cons_of_mem _ hj))
          (by rw [List.map_cons]; omega)
      rw [List.map_cons, List.map_cons, join, List.append_assoc, List.cons_append,
        (hi.items? (by omega) _).1]
      exact (congrArg (Option.map _) hrest).trans rfl

/-- What it takes to read a member. -/
structure Member.IsRead (m : Member) : Prop where
  front : ∀ c ∈ m.front, isSpace c
  back : ∀ c ∈ m.back, isSpace c
  name : SpellsString m.name m.nameText
  item : m.item.IsRead

/-- A member is read, and then the ones behind its comma, if it has one. -/
theorem Member.IsRead.members? {m : Member} (h : m.IsRead) {fuel : Nat}
    (hfuel : 2 * m.chars.length ≤ fuel) (rest : List Char) :
    Json.members? (fuel + 1) (m.chars ++ ',' :: rest) =
        (Json.members? fuel rest).map (fun r => ((m.name, m.item.value) :: r.1, r.2)) ∧
      Json.members? (fuel + 1) (m.chars ++ '\x7d' :: rest) =
        some ([(m.name, m.item.value)], rest) := by
  obtain ⟨front, nameText, back, name, item⟩ := m
  obtain ⟨hfront, hback, hname, hitem⟩ := h
  have hcomma : IsMark ',' := .inl rfl
  have hclose : IsMark '\x7d' := .inr (.inr rfl)
  cases hname with
  | @quoted ss cs hss =>
    have hlength : 2 * item.chars.length ≤ fuel := by
      simp only [chars, List.length_append, List.length_cons] at hfuel
      omega
    have htext : ∀ more, chars ⟨front, '"' :: (cs ++ ['"']), back, pairUp ss, item⟩ ++ more =
        front ++ '"' :: (cs ++ '"' :: (back ++ ':' :: (item.chars ++ more))) := by
      intro more
      simp only [chars, List.append_assoc, List.cons_append, List.nil_append]
    have hcolon : ∀ more, skip (back ++ ':' :: more) = ':' :: more := by
      intro more
      rw [skip_append hback]
      exact skip_of_head rfl
    constructor
    · rw [htext, Json.members?, skip_append hfront, skip_of_head rfl]
      simp only [string?_of_spells hss, Option.bind_some, hcolon, hitem.value? hcomma hlength,
        skip_mark hcomma hitem.back]
    · rw [htext, Json.members?, skip_append hfront, skip_of_head rfl]
      simp only [string?_of_spells hss, Option.bind_some, hcolon, hitem.value? hclose hlength,
        skip_mark hclose hitem.back]

/-- Members between commas are read up to the closing brace. -/
theorem members?_join {members : List Member} (hne : members ≠ []) (h : ∀ m ∈ members, m.IsRead)
    {fuel : Nat} (hfuel : 2 * (join ',' (members.map Member.chars)).length < fuel)
    (rest : List Char) :
    members? fuel (join ',' (members.map Member.chars) ++ '\x7d' :: rest) =
      some (members.map fun m => (m.name, m.item.value), rest) := by
  induction members generalizing fuel with
  | nil => exact absurd rfl hne
  | cons m members ih =>
    obtain ⟨fuel, rfl⟩ : ∃ n, fuel = n + 1 := ⟨fuel - 1, by omega⟩
    have hm := h m List.mem_cons_self
    cases members with
    | nil =>
      simp only [List.map_cons, List.map_nil, join] at hfuel ⊢
      exact (hm.members? (by omega) rest).2
    | cons m' members =>
      simp only [List.map_cons, length_join_cons_cons] at hfuel
      have hrest : members? fuel (join ',' ((m' :: members).map Member.chars) ++ '\x7d' :: rest) =
          some ((m' :: members).map fun m => (m.name, m.item.value), rest) :=
        ih (List.cons_ne_nil _ _) (fun j hj => h j (List.mem_cons_of_mem _ hj))
          (by rw [List.map_cons]; omega)
      rw [List.map_cons, List.map_cons, join, List.append_assoc, List.cons_append,
        (hm.members? (by omega) _).1]
      exact (congrArg (Option.map _) hrest).trans rfl

/-- Whether a text, after blanks, begins with something else than `close`. -/
def Opens (close : Char) (cs : List Char) : Prop := ∃ c ds, skip cs = c :: ds ∧ c ≠ close

/-- Parts between commas open as the first of them does. -/
theorem opens_join {close : Char} {parts : List (List Char)} (hne : parts ≠ [])
    (h : ∀ p ∈ parts, ∀ more, Opens close (p ++ more)) (rest : List Char) :
    Opens close (join ',' parts ++ rest) := by
  obtain ⟨p, parts, rfl⟩ := List.exists_cons_of_ne_nil hne
  have hp := h p List.mem_cons_self
  cases parts with
  | nil => exact hp rest
  | cons q parts =>
    rw [join, List.append_assoc]
    exact hp _

/-- An item does not open with a closing bracket. -/
theorem Item.opens {i : Item} (hfront : ∀ c ∈ i.front, isSpace c) (h : Spells blank i.value i.text)
    (more : List Char) : Opens ']' (i.chars ++ more) := by
  obtain ⟨c, ds, htext, hspace, hclose⟩ := exists_start_of_spells h
  refine ⟨c, ds ++ i.back ++ more, ?_, hclose⟩
  rw [chars, htext, List.append_assoc, List.append_assoc, skip_append hfront, List.cons_append,
    skip_of_head hspace, List.append_assoc]

/-- A member does not open with a closing brace. -/
theorem Member.opens {m : Member} (hfront : ∀ c ∈ m.front, isSpace c)
    (h : SpellsString m.name m.nameText) (more : List Char) : Opens '\x7d' (m.chars ++ more) := by
  obtain ⟨front, nameText, back, name, item⟩ := m
  cases h
  simp only [chars, List.append_assoc, List.cons_append]
  rw [Opens, skip_append hfront]
  exact ⟨'"', _, skip_of_head rfl, by decide⟩

/-- Items up to the closing bracket are an array. -/
theorem value?_of_items {fuel : Nat} {cs rest : List Char} {items : List Json} (hopens : Opens ']' cs)
    (h : items? fuel cs = some (items, rest)) :
    value? (fuel + 1) ('[' :: cs) = some (.array items, rest) := by
  obtain ⟨c, ds, hskip, hclose⟩ := hopens
  rw [← items?_skip, hskip] at h
  rw [value?, skip_of_head rfl]
  simp only [hskip]
  split
  · next hc => exact absurd (List.cons.inj hc).1 hclose
  · rw [h, Option.map_some]

/-- Members up to the closing brace are an object. -/
theorem value?_of_members {fuel : Nat} {cs rest : List Char} {members : List (List Symbol × Json)}
    (hopens : Opens '\x7d' cs) (h : members? fuel cs = some (members, rest)) :
    value? (fuel + 1) ('\x7b' :: cs) = some (.object members, rest) := by
  obtain ⟨c, ds, hskip, hclose⟩ := hopens
  rw [← members?_skip, hskip] at h
  rw [value?, skip_of_head rfl]
  simp only [hskip]
  split
  · next hc => exact absurd (List.cons.inj hc).1 hclose
  · rw [h, Option.map_some]

/-! ## every spelling is read -/

/-- Every spelling is read as its document, whatever follows it. -/
theorem readsAs_of_spells (hblank : ∀ c, blank c → isSpace c) {j : Json} {cs : List Char}
    (h : Spells blank j cs) : ReadsAs j cs := by
  -- Reading any text takes fuel.
  have hsucc : ∀ {fuel : Nat} {c : Char} {cs : List Char}, 2 * (c :: cs).length ≤ fuel →
      ∃ n, fuel = n + 1 ∧ 2 * cs.length < n := by
    intro fuel c cs hfuel
    rw [List.length_cons] at hfuel
    exact ⟨fuel - 1, by omega, by omega⟩
  induction h with
  | null | yes | no =>
    intro fuel rest hfuel _
    obtain ⟨n, rfl, -⟩ := hsucc hfuel
    rw [value?]
    rfl
  | number h =>
    intro fuel rest hfuel hrest
    have hread := numeral?_append h hrest
    obtain ⟨c, ds, rfl, hc⟩ := Numeral.head_of_spells h
    obtain ⟨n, rfl, -⟩ := hsucc hfuel
    rw [List.cons_append, value?_of_numeral hc, ← List.cons_append, hread, Option.map_some]
  | string h =>
    intro fuel rest hfuel _
    cases h with
    | @quoted ss cs hss =>
      obtain ⟨n, rfl, -⟩ := hsucc hfuel
      rw [List.cons_append, List.append_assoc, value?, skip_of_head rfl]
      exact (congrArg (Option.map _) (string?_of_spells hss rest)).trans rfl
  | @emptyArray gap hgap =>
    intro fuel rest hfuel _
    obtain ⟨n, rfl, -⟩ := hsucc hfuel
    have hclose : skip (gap ++ ']' :: rest) = ']' :: rest :=
      skip_mark (.inr (.inl rfl)) (fun c hc => hblank c (hgap c hc)) rest
    rw [List.cons_append, List.append_assoc, List.singleton_append, value?, skip_of_head rfl]
    simp only [hclose]
  | array hne hfront hback h ih =>
    intro fuel rest hfuel _
    obtain ⟨n, rfl, hn⟩ := hsucc hfuel
    rw [List.length_append, List.length_singleton] at hn
    rw [List.cons_append, List.append_assoc, List.singleton_append]
    refine value?_of_items (opens_join (by simpa using hne) ?_ _) (items?_join hne ?_ (by omega) rest)
    · rintro p hp more
      obtain ⟨i, hi, rfl⟩ := List.mem_map.mp hp
      exact Item.opens (fun c hc => hblank c (hfront i hi c hc)) (h i hi) more
    · exact fun i hi => ⟨fun c hc => hblank c (hfront i hi c hc),
        fun c hc => hblank c (hback i hi c hc), ih i hi⟩
  | @emptyObject gap hgap =>
    intro fuel rest hfuel _
    obtain ⟨n, rfl, -⟩ := hsucc hfuel
    have hclose : skip (gap ++ '\x7d' :: rest) = '\x7d' :: rest :=
      skip_mark (.inr (.inr rfl)) (fun c hc => hblank c (hgap c hc)) rest
    rw [List.cons_append, List.append_assoc, List.singleton_append, value?, skip_of_head rfl]
    simp only [hclose]
  | @object members hne hfront hback hname h ih =>
    intro fuel rest hfuel _
    obtain ⟨n, rfl, hn⟩ := hsucc hfuel
    rw [List.length_append, List.length_singleton] at hn
    have hfront' : ∀ m ∈ members, ∀ c ∈ m.front, isSpace c :=
      fun m hm c hc => hblank c (hfront m hm c (List.mem_append_left _ hc))
    rw [List.cons_append, List.append_assoc, List.singleton_append]
    refine value?_of_members (opens_join (by simpa using hne) ?_ _)
      (members?_join hne ?_ (by omega) rest)
    · rintro p hp more
      obtain ⟨m, hm, rfl⟩ := List.mem_map.mp hp
      exact Member.opens (hfront' m hm) (hname m hm) more
    · exact fun m hm => ⟨hfront' m hm,
        fun c hc => hblank c (hback m hm c (List.mem_append_left _ hc)), hname m hm,
        fun c hc => hblank c (hfront m hm c (List.mem_append_right _ hc)),
        fun c hc => hblank c (hback m hm c (List.mem_append_right _ hc)), ih m hm⟩

/-- Every spelling, with blanks around it or not, is read as its document. -/
theorem ofChars?_of_spells (hblank : ∀ c, blank c → isSpace c) {j : Json} {front cs back : List Char}
    (h : Spells blank j cs) (hfront : ∀ c ∈ front, isSpace c)
    (hback : ∀ c ∈ back, isSpace c) : ofChars? (front ++ cs ++ back) = some j := by
  have hends : Ends back := by
    cases back with
    | nil => exact ends_nil
    | cons c cs => exact ends_space (hback c List.mem_cons_self) cs
  have hskip : skip back = [] := List.dropWhile_eq_nil_iff.mpr hback
  have hread := readsAs_of_spells hblank h
    (2 * (front ++ cs ++ back).length + 2) back (by simp only [List.length_append]; omega) hends
  rw [ofChars?, ← value?_skip, List.append_assoc, skip_append hfront, value?_skip,
    ← List.append_assoc, hread, Option.bind_some]
  exact if_pos (by rw [hskip]; rfl)

/-! ## what is written is a compact spelling -/

/-- Whether what is written for a document spells it, with nothing between tokens. -/
def IsWritten (j : Json) : Prop := Spells (fun _ => False) j j.chars

/-- The escape of a character spells it. -/
theorem Symbol.spells_escape (c : Char) : (Symbol.char c).Spells (escape c) := by
  unfold escape
  split
  · exact .short rfl
  · exact .short rfl
  · exact .short rfl
  · exact .short rfl
  · exact .short rfl
  · exact .short rfl
  · exact .short rfl
  · next hquote hescape _ _ _ _ _ =>
    split
    · next hcontrol =>
      have hdigits : Hex.natFrom? 0 (Hex.ofNatPadded 4 c.toNat) = some c.toNat := by
        have hmod : c.toNat % Hex.count 4 = c.toNat :=
          Nat.mod_eq_of_lt (Nat.lt_trans hcontrol (by decide))
        rw [Hex.natFrom?_ofNatPadded, hmod, Nat.mul_zero, Nat.zero_add]
      have hunit : Symbol.ofUnit c.toNat = .char c := by
        rw [ofUnit, if_neg (by omega), Char.ofNat_toNat]
      rw [← hunit]
      exact .unit hdigits
    · next hcontrol => exact .plain (Nat.le_of_not_lt hcontrol) hquote hescape

/-- Characters have no partners to be joined with. -/
theorem pairUp_map_char (cs : List Char) : pairUp (cs.map .char) = cs.map .char := by
  induction cs with
  | nil => rfl
  | cons c cs ih => rw [List.map_cons, pairUp, ih]; exact fun _ _ _ h => by cases h

/-- A text is spelled by its characters, each escaped if it has to be. -/
theorem spellsString_symbols (s : String) : SpellsString (symbols s) (stringChars (symbols s)) := by
  have hall : ∀ cs : List Char, SpellsAll (cs.map .char) ((cs.map Symbol.char).flatMap Symbol.chars) := by
    intro cs
    induction cs with
    | nil => exact .nil
    | cons c cs ih => exact .cons (Symbol.spells_escape c) ih
  have hquoted := SpellsString.quoted (hall s.toList)
  rwa [pairUp_map_char] at hquoted

/-- A number above zero does not begin with a zero. -/
theorem head?_ofNat_ne {n : Nat} (h : 0 < n) : (Decimal.ofNat n).head? ≠ some '0' := by
  induction n using Nat.strongRecOn with
  | ind n ih =>
    by_cases hn : n < 10
    · have hdigit : ∀ d : Fin 10, 0 < d.val → d.val.digitChar ≠ '0' := by decide
      rw [Decimal.ofNat, Nat.toDigits_of_lt_base hn]
      exact fun hzero => hdigit ⟨n, hn⟩ h (Option.some.inj hzero)
    · have hrest := ih (n / 10) (by omega) (by omega)
      rw [Decimal.ofNat, Nat.toDigits_of_base_le (by decide) (by omega),
        List.head?_append_of_ne_nil _ Nat.toDigits_ne_nil]
      exact hrest

/-- A number is written without a leading zero. -/
theorem isWhole_ofNat (n : Nat) : IsWhole (Decimal.ofNat n) := by
  refine ⟨⟨Decimal.ofNat_ne_nil, fun c => Decimal.isDigit_of_mem_ofNat⟩, fun hzero => ?_⟩
  by_cases hn : 0 < n
  · exact absurd hzero (head?_ofNat_ne hn)
  · obtain rfl : n = 0 := by omega
    rfl

theorem isWritten_null : IsWritten .null := .null

theorem isWritten_bool (b : Bool) : IsWritten (.bool b) := by
  cases b with
  | true => exact .yes
  | false => exact .no

theorem isWritten_ofString (s : String) : IsWritten (.ofString s) := .string (spellsString_symbols s)

theorem isWritten_ofInt (n : Int) : IsWritten (.ofInt n) := by
  have hspells := Numeral.Spells.integer (n < 0) (isWhole_ofNat n.natAbs)
  rw [Decimal.ofNat, Nat.ofDigitChars_ten_toDigits] at hspells
  exact .number hspells

/-- Items are written with commas between them. -/
theorem itemsChars_eq_join (items : List Json) : itemsChars items = join ',' (items.map chars) := by
  induction items with
  | nil => rfl
  | cons j items ih =>
    cases items with
    | nil => rfl
    | cons j' items =>
      rw [itemsChars, ih, List.map_cons, List.map_cons, List.map_cons, join]
      exact List.cons_ne_nil _ _

/-- Members are written with commas between them, each behind its name. -/
theorem membersChars_eq_join (members : List (List Symbol × Json)) :
    membersChars members = join ',' (members.map fun m => stringChars m.1 ++ ':' :: m.2.chars) := by
  induction members with
  | nil => rfl
  | cons m members ih =>
    cases members with
    | nil => rfl
    | cons m' members =>
      rw [membersChars, ih, List.map_cons, List.map_cons, List.map_cons, join]
      exact List.cons_ne_nil _ _

/-- An item with nothing around it. -/
def Item.bare (j : Json) : Item := ⟨[], j.chars, [], j⟩

/-- An array is written as it is spelled, if its items are. -/
theorem isWritten_array {items : List Json} (h : ∀ j ∈ items, IsWritten j) :
    IsWritten (.array items) := by
  by_cases hne : items = []
  · subst hne
    exact @Spells.emptyArray _ [] fun _ => List.not_mem_nil
  · have hspells := @Spells.array (fun _ => False) (items.map Item.bare) (by simpa using hne)
      (List.forall_mem_map.mpr fun _ _ _ hc => List.not_mem_nil hc)
      (List.forall_mem_map.mpr fun _ _ _ hc => List.not_mem_nil hc)
      (List.forall_mem_map.mpr h)
    have hvalues : (items.map Item.bare).map Item.value = items := by
      rw [List.map_map]
      exact List.map_id' items
    have hchars : (items.map Item.bare).map Item.chars = items.map chars := by
      rw [List.map_map]
      exact List.map_congr_left fun j _ => List.append_nil _
    rw [hvalues, hchars, ← itemsChars_eq_join] at hspells
    exact hspells

/-- A member with nothing around it. -/
def Member.bare (m : String × Json) : Member :=
  ⟨[], stringChars (symbols m.1), [], symbols m.1, .bare m.2⟩

/-- An object is written as it is spelled, if its names are texts and its values are. -/
theorem isWritten_object {members : List (String × Json)} (h : ∀ m ∈ members, IsWritten m.2) :
    IsWritten (.object (members.map fun m => (symbols m.1, m.2))) := by
  by_cases hne : members = []
  · subst hne
    exact @Spells.emptyObject _ [] fun _ => List.not_mem_nil
  · have hspells := @Spells.object (fun _ => False) (members.map Member.bare) (by simpa using hne)
      (List.forall_mem_map.mpr fun _ _ _ hc => List.not_mem_nil hc)
      (List.forall_mem_map.mpr fun _ _ _ hc => List.not_mem_nil hc)
      (List.forall_mem_map.mpr fun m _ => spellsString_symbols m.1)
      (List.forall_mem_map.mpr h)
    have hvalues : (members.map Member.bare).map (fun m => (m.name, m.item.value)) =
        members.map fun m => (symbols m.1, m.2) := by
      rw [List.map_map]
      rfl
    have hchars : (members.map Member.bare).map Member.chars =
        (members.map fun m => (symbols m.1, m.2)).map fun m => stringChars m.1 ++ ':' :: m.2.chars := by
      rw [List.map_map, List.map_map]
      refine List.map_congr_left fun m _ => ?_
      simp [Member.bare, Member.chars, Item.bare, Item.chars]
    rw [hvalues, hchars, ← membersChars_eq_join] at hspells
    exact hspells

end Greenhouse.Json
