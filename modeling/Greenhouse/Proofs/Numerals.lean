import Greenhouse.Proofs.Statuses
import Mathlib.Data.List.Induction

/-!
# Greenhouse.Proofs.Numerals

Which bodies of a reply are taken for a level.

A numeral is one or more ASCII digits, with at most one sign in front.  It may have any number of
leading zeros, and it may denote more than a level can be.  The grammar says what a numeral denotes
without reading it: one more digit at the end counts the units, and what is in front of it the tens.

* `Text.Decimal.int?_eq_some_iff` — what reads as an integer is a numeral for it, and nothing else.
* `Power.read?_eq_some_iff` — the same for levels, with white space around the numeral.
* `Channel.level_iff_numeral` — what an operation makes of the body of its last reply.
-/

namespace Greenhouse

open Greenhouse.Text Greenhouse.Exchange

/-! ## numerals -/

namespace Text.Decimal

/-- Digits, and the number that they denote. -/
inductive Digits : List Char → Nat → Prop where
  | one {c : Char} (hc : c.isDigit) : Digits [c] (c.toNat - '0'.toNat)
  | concat {cs : List Char} {n : Nat} {c : Char} (h : Digits cs n) (hc : c.isDigit) :
      Digits (cs ++ [c]) (10 * n + (c.toNat - '0'.toNat))

/-- A numeral, and the integer that it denotes. -/
inductive Numeral : List Char → Int → Prop where
  | unsigned {cs : List Char} {n : Nat} (h : Digits cs n) : Numeral cs n
  | plus {cs : List Char} {n : Nat} (h : Digits cs n) : Numeral ('+' :: cs) n
  | minus {cs : List Char} {n : Nat} (h : Digits cs n) : Numeral ('-' :: cs) (-n)

variable {cs : List Char}

/-- Digits and nothing else are read as a natural number. -/
theorem nat?_eq_some_iff_ofDigitChars {n : Nat} :
    nat? cs = some n ↔ cs ≠ [] ∧ (∀ c ∈ cs, c.isDigit) ∧ Nat.ofDigitChars 10 cs 0 = n := by
  simp [nat?, and_assoc]

/-- Digits are read as what they denote. -/
theorem nat?_eq_some_iff {n : Nat} : nat? cs = some n ↔ Digits cs n := by
  rw [nat?_eq_some_iff_ofDigitChars]
  constructor
  · rintro ⟨hne, hdigits, rfl⟩
    induction cs using List.reverseRecOn with
    | nil => exact absurd rfl hne
    | append_singleton cs c ih =>
      obtain ⟨hcs, hc⟩ := List.forall_mem_append.mp hdigits
      have hc := hc c (by simp)
      cases cs with
      | nil => simpa [Nat.ofDigitChars_cons, Nat.ofDigitChars_nil] using Digits.one hc
      | cons d ds =>
        rw [Nat.ofDigitChars_append, Nat.ofDigitChars_cons, Nat.ofDigitChars_nil]
        exact .concat (ih (by simp) hcs) hc
  · intro h
    induction h with
    | one hc => exact ⟨by simp, by simpa using hc, by simp [Nat.ofDigitChars_cons]⟩
    | concat h hc ih =>
      obtain ⟨hne, hdigits, hvalue⟩ := ih
      refine ⟨by simp, List.forall_mem_append.mpr ⟨hdigits, by simpa using hc⟩, ?_⟩
      rw [Nat.ofDigitChars_append, Nat.ofDigitChars_cons, Nat.ofDigitChars_nil, hvalue]

namespace Digits

variable {n : Nat}

theorem isDigit_head (h : Digits cs n) : ∀ c ∈ cs.head?, c.isDigit := fun c hc =>
  (nat?_eq_some_iff_ofDigitChars.mp (nat?_eq_some_iff.mpr h)).2.1 c (List.mem_of_mem_head? hc)

theorem isDigit_getLast (h : Digits cs n) : ∀ c ∈ cs.getLast?, c.isDigit := fun c hc =>
  (nat?_eq_some_iff_ofDigitChars.mp (nat?_eq_some_iff.mpr h)).2.1 c (List.mem_of_getLast? hc)

theorem ne_nil (h : Digits cs n) : cs ≠ [] := by
  cases h <;> simp

/-- Digits without a sign are read as they are without signs. -/
theorem int?_eq (h : Digits cs n) : int? cs = some (n : Int) := by
  obtain ⟨c, ds, rfl⟩ := List.exists_cons_of_ne_nil h.ne_nil
  rw [int?_of_isDigit_head (h.isDigit_head c rfl), nat?_eq_some_iff.mpr h]
  rfl

end Digits

/-- Numerals are read as what they denote. -/
theorem int?_eq_some_iff {n : Int} : int? cs = some n ↔ Numeral cs n := by
  constructor
  · intro h
    unfold int? at h
    split at h
    all_goals
      obtain ⟨m, hm, rfl⟩ := Option.map_eq_some_iff.mp h
      have hdigits := nat?_eq_some_iff.mp hm
    · exact .plus hdigits
    · exact .minus hdigits
    · exact .unsigned hdigits
  · intro h
    cases h with
    | unsigned h => exact h.int?_eq
    | plus h => simp [int?, nat?_eq_some_iff.mpr h]
    | minus h => simp [int?, nat?_eq_some_iff.mpr h]

/-- A numeral neither begins nor ends with white space. -/
theorem Numeral.trim_eq {n : Int} (h : Numeral cs n) : trim cs = cs := by
  have hhead : ∀ c ∈ cs.head?, isBlank c = false := by
    cases h with
    | unsigned h => exact fun c hc => isBlank_eq_false_of_isDigit (h.isDigit_head c hc)
    | plus _ | minus _ => rintro _ ⟨⟩; decide
  have hlast : ∀ c ∈ cs.getLast?, c.isDigit := by
    cases h with
    | unsigned h => exact h.isDigit_getLast
    | plus h | minus h =>
      rw [List.getLast?_cons_of_ne_nil h.ne_nil]
      exact h.isDigit_getLast
  exact trim_eq_self hhead fun c hc => isBlank_eq_false_of_isDigit (hlast c hc)

end Text.Decimal

/-! ## levels -/

namespace Power

/-- Whether a text is a numeral for an integer, with white space around it or not. -/
def IsNumeral (text : String) (n : Int) : Prop :=
  ∃ front numeral back, (∀ c ∈ front, isBlank c) ∧ (∀ c ∈ back, isBlank c) ∧
    text.toList = front ++ (numeral ++ back) ∧ Decimal.Numeral numeral n

variable {text : String}

/-- The grammar of numerals is what is read once the white space around it is gone. -/
theorem isNumeral_iff {n : Int} :
    IsNumeral text n ↔ Decimal.int? (trim text.toList) = some n := by
  rw [Decimal.int?_eq_some_iff]
  constructor
  · rintro ⟨front, numeral, back, hfront, hback, htext, hnumeral⟩
    rw [htext, trim_append_left hfront, trim_append_right hback, hnumeral.trim_eq]
    exact hnumeral
  · intro h
    obtain ⟨front, back, hfront, hback, htext, -⟩ := trim_eq_iff.mp rfl
    exact ⟨front, _, back, hfront, hback, htext, h⟩

/-- A text is read as a level just if it is a numeral for it. -/
theorem read?_eq_some_iff {p : Power} : read? text = some p ↔ IsNumeral text p.toInt := by
  rw [read?, Option.bind_eq_some_iff, isNumeral_iff]
  constructor
  · rintro ⟨n, hn, hp⟩
    rw [ofInt?_eq_some_iff.mp hp]
    exact hn
  · exact fun h => ⟨_, h, ofInt?_toInt p⟩

/-- A text is not read just if it is no numeral, or one for what no level can be. -/
theorem read?_eq_none_iff : read? text = none ↔
    ∀ n, IsNumeral text n → ¬ (-0x8000000000000000 ≤ n ∧ n ≤ 0x7FFFFFFFFFFFFFFF) := by
  rw [Option.eq_none_iff_forall_ne_some]
  constructor
  · rintro h n hn ⟨hlower, hupper⟩
    exact h ⟨n, hlower, by omega⟩ (read?_eq_some_iff.mpr hn)
  · intro h p hp
    have hupper := p.upper
    exact h p.toInt (read?_eq_some_iff.mp hp) ⟨p.lower, by omega⟩

end Power

/-! ## bodies -/

namespace Channel

open Dialogue Power

/-- A body gives a level exactly if it reads as one. -/
theorem readLevel_eq_ok_iff {c : Channel} {body : String} {p : Power} :
    c.readLevel (.ok body) = .ok p ↔ read? body = some p := by
  simp only [readLevel]
  cases read? body <;> simp

/-- Any other body is handed on as it came. -/
theorem readLevel_eq_invalidResponse_iff {c : Channel} {body : String} :
    c.readLevel (.ok body) = .error (.invalidResponse c.url body) ↔ read? body = none := by
  simp only [readLevel]
  cases read? body <;> simp

variable {σ : Type} (device : Device σ) {c : Channel} {op : Operation} {s : σ} {request : Request}
  {response : Response}

/-- A reply that reports success and came whole is no failure. -/
theorem not_fails_of_success (hstatus : 200 ≤ response.status ∧ response.status ≤ 299)
    (hcomplete : response.complete) : ¬ Fails request response := by
  have hredirect : isRedirect response.status = false := by
    simp only [isRedirect, Bool.or_eq_false_iff, beq_eq_false_iff_ne]
    omega
  have hcourse : course request response = .final := by
    rw [course, hredirect]
    rfl
  rintro (hno | hrange | hbroken)
  · exact hno hcourse
  · omega
  · rw [hcomplete] at hbroken
    cases hbroken

/-- Where the last reply of an operation reports success and came whole, its body decides.  The level
is given that the body is a numeral for, with white space around it or not.  If it is a numeral for no
level, then the body comes back with the channel's url, as it was received.  So every level that is
written in decimal is read, whatever white space is put around it. -/
theorem level_iff_numeral
    (hlast : ((c.perform op).exchanges device s).getLast? = some (request, .answer response))
    (hstatus : 200 ≤ response.status ∧ response.status ≤ 299) (hcomplete : response.complete) :
    let body := String.ofList (Utf8.decodeLossy response.body)
    let value := ((c.perform op).run device s).value
    (∀ p, value = .ok p ↔ IsNumeral body p.toInt) ∧
      ((∀ n, IsNumeral body n → ¬ (-0x8000000000000000 ≤ n ∧ n ≤ 0x7FFFFFFFFFFFFFFF)) ↔
        value = .error (.invalidResponse c.url body)) ∧
      ((∃ p, value = .ok p) ∨ value = .error (.invalidResponse c.url body)) ∧
      ∀ (p : Power) (front back : List Char), (∀ ch ∈ front, isBlank ch) →
        (∀ ch ∈ back, isBlank ch) → body = String.ofList (front ++ p.text.toList ++ back) →
          value = .ok p := by
  intro body value
  have hvalue : value = c.readLevel (.ok body) :=
    (value_of_last device hlast).2 (not_fails_of_success hstatus hcomplete)
  refine ⟨fun p => ?_, ?_, ?_, fun p front back hfront hback hbody => ?_⟩
  · rw [hvalue, readLevel_eq_ok_iff, read?_eq_some_iff]
  · rw [hvalue, readLevel_eq_invalidResponse_iff, read?_eq_none_iff]
  · rw [hvalue]
    cases hread : read? body with
    | some p => exact .inl ⟨p, readLevel_eq_ok_iff.mpr hread⟩
    | none => exact .inr (readLevel_eq_invalidResponse_iff.mpr hread)
  · rw [hvalue, readLevel_eq_ok_iff, hbody]
    exact read?_text_padded p hfront hback

/-- A device that gives the same body for everything. -/
def bodyDevice (body : String) : Device Unit := fun _ s =>
  (.answer ⟨200, "OK", none, Utf8.encode body.toList, true⟩, s)

/-- The least level is read behind zeros and between blanks; one more than the greatest is not. -/
theorem level_iff_numeral_limits :
    ((sample.perform .read).run (bodyDevice " -009223372036854775808\r\n") ()).value =
        .ok ⟨-0x8000000000000000, by decide, by decide⟩ ∧
      ((sample.perform .read).run (bodyDevice "9223372036854775808") ()).value =
        .error (.invalidResponse "http://h/power/0" "9223372036854775808") := by
  have hlast : ∀ body, ((sample.perform .read).exchanges (bodyDevice body) ()).getLast? =
      some (sample.request .read, .answer ⟨200, "OK", none, Utf8.encode body.toList, true⟩) := by
    intro body
    rw [exchanges_of_onward?_eq_none _ (by decide) rfl]
    rfl
  constructor
  · obtain ⟨htaken, -⟩ := level_iff_numeral _ (hlast " -009223372036854775808\r\n") (by decide) rfl
    exact (htaken _).mpr (isNumeral_iff.mpr (by decide +kernel))
  · obtain ⟨-, hrefused, -⟩ := level_iff_numeral _ (hlast "9223372036854775808") (by decide) rfl
    rw [Utf8.decodeLossy_encode, String.ofList_toList] at hrefused
    refine hrefused.mp fun n hn hrange => ?_
    have hread : Decimal.int? (trim "9223372036854775808".toList) = some 0x8000000000000000 := by decide +kernel
    cases hread.symm.trans (isNumeral_iff.mp hn)
    omega

end Channel

end Greenhouse
