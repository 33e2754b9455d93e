import Greenhouse.Proofs.Names
import Mathlib.Algebra.Group.Nat.Defs

/-!
# Greenhouse.Proofs.Machines

The one form in which a machine is written.

A machine is a domain name, an address of four bytes or one of eight groups, and each kind is
written in its own way: a domain name never ends in a number, while an address of four bytes does,
and an address of eight groups stands between brackets.

* `Ipv6.parse?_text` — an address of eight groups is read back from its shortened form.
* `Host.text_injective` — no two machines are written alike.
* `splitPort_text` — a machine and the port behind it are told apart again.
-/

namespace Greenhouse

open Greenhouse.Text

/-- What a joined list holds is a separator or in one of the pieces. -/
theorem Text.mem_of_mem_join {α : Type} {sep c : α} {parts : List (List α)}
    (h : c ∈ join sep parts) : c = sep ∨ ∃ ds ∈ parts, c ∈ ds := by
  induction parts with
  | nil => cases h
  | cons ds parts ih =>
    cases parts with
    | nil => exact .inr ⟨ds, by simp, h⟩
    | cons es parts =>
      rw [join, List.mem_append, List.mem_cons] at h
      obtain h | h | h := h
      · exact .inr ⟨ds, by simp, h⟩
      · exact .inl h
      · obtain h | ⟨fs, hfs, h⟩ := ih h
        · exact .inl h
        · exact .inr ⟨fs, List.mem_cons_of_mem _ hfs, h⟩

/-! ## hexadecimal numbers -/

namespace Text.Hex

/-- A hexadecimal number is read back. -/
theorem natFrom?_ofNat (n : Nat) : natFrom? 0 (ofNat n) = some n := by
  induction n using Nat.strongRecOn with
  | ind n ih =>
    by_cases hlt : n < 16
    · rw [ofNat, Nat.toDigits_of_lt_base hlt, natFrom?, digit?_digitChar hlt]
      simp [natFrom?]
    · have hdigit : n % 16 < 16 := Nat.mod_lt _ (by decide)
      have hdiv : natFrom? 0 (Nat.toDigits 16 (n / 16)) = some (n / 16) := ih (n / 16) (by omega)
      rw [ofNat, Nat.toDigits_of_base_le (by decide) (by omega), natFrom?_append, hdiv,
        Option.bind_some, natFrom?, digit?_digitChar hdigit, Option.bind_some, natFrom?,
        Nat.div_add_mod]

theorem ofNat_ne_nil (n : Nat) : ofNat n ≠ [] := Nat.toDigits_ne_nil

theorem nat?_ofNat (n : Nat) : nat? (ofNat n) = some n := by
  rw [nat?, if_neg (by simpa using ofNat_ne_nil n), natFrom?_ofNat]

/-- What is read holds digits only. -/
theorem isDigit_of_natFrom? {cs : List Char} {m n : Nat} (h : natFrom? m cs = some n) :
    ∀ c ∈ cs, isDigit c := by
  induction cs generalizing m with
  | nil => simp
  | cons c cs ih =>
    rw [natFrom?, Option.bind_eq_some_iff] at h
    obtain ⟨d, hd, hrest⟩ := h
    refine List.forall_mem_cons.mpr ⟨?_, ih hrest⟩
    rw [isDigit, hd]
    rfl

theorem isDigit_of_mem_ofNat {n : Nat} : ∀ c ∈ ofNat n, isDigit c :=
  isDigit_of_natFrom? (natFrom?_ofNat n)

/-- No digit delimits the parts of an address. -/
theorem ne_of_isDigit {c : Char} (h : isDigit c) : c ≠ ':' ∧ c ≠ '[' ∧ c ≠ ']' := by
  refine ⟨?_, ?_, ?_⟩ <;> (rintro rfl; exact absurd h (by decide))

theorem digit?_lt {c : Char} {d : Nat} (h : digit? c = some d) : d < 16 := by
  unfold digit? at h
  split at h
  · next hc =>
    cases h
    have hle : c.toNat ≤ '9'.toNat := hc.2
    have hlast : '9'.toNat = '0'.toNat + 9 := rfl
    omega
  · split at h
    · next hc =>
      cases h
      have hle : c.toNat ≤ 'f'.toNat := hc.2
      have hlast : 'f'.toNat = 'a'.toNat + 5 := rfl
      omega
    · split at h
      · next hc =>
        cases h
        have hle : c.toNat ≤ 'F'.toNat := hc.2
        have hlast : 'F'.toNat = 'A'.toNat + 5 := rfl
        omega
      · cases h

/-- Each digit makes room for sixteen times as many numbers. -/
theorem natFrom?_lt {cs : List Char} {m n : Nat} (h : natFrom? m cs = some n) :
    n < (m + 1) * 16 ^ cs.length := by
  induction cs generalizing m with
  | nil =>
    cases h
    simp
  | cons c cs ih =>
    rw [natFrom?, Option.bind_eq_some_iff] at h
    obtain ⟨d, hd, hrest⟩ := h
    have hlt := digit?_lt hd
    calc n < (16 * m + d + 1) * 16 ^ cs.length := ih hrest
      _ ≤ (16 * (m + 1)) * 16 ^ cs.length := Nat.mul_le_mul_right _ (by omega)
      _ = (m + 1) * 16 ^ (c :: cs).length := by
        rw [List.length_cons, Nat.pow_succ, ← Nat.mul_assoc, Nat.mul_comm 16, Nat.mul_right_comm]

end Text.Hex

namespace Url

/-! ## addresses of eight groups -/

namespace Ipv6

/-- A group that fits into sixteen bits is read back. -/
theorem group?_ofNat {n : Nat} (h : n < 0x10000) : group? (Hex.ofNat n) = some n := by
  have hlength : (Hex.ofNat n).length ≤ 4 :=
    (Nat.length_toDigits_le_iff (by decide) (by decide)).mpr h
  rw [group?, if_pos hlength, Hex.nat?_ofNat]

/-- Groups that are written are read back. -/
theorem groups?_map {ns : List Nat} (h : ∀ n ∈ ns, n < 0x10000) (tail : Bool) :
    groups? tail (ns.map Hex.ofNat) = some ns := by
  induction ns with
  | nil => rfl
  | cons n ns ih =>
    have hn := group?_ofNat (h n (by simp))
    cases ns with
    | nil => simp [groups?, hn]
    | cons m ns =>
      have hrest := ih fun k hk => h k (by simp [hk])
      rw [List.map_cons] at hrest
      rw [List.map_cons, List.map_cons, groups?, hn, Option.bind_some, hrest, Option.map_some]
      simp

theorem groupsText_cons_cons (n m : Nat) (ns : List Nat) :
    groupsText (n :: m :: ns) = Hex.ofNat n ++ ':' :: groupsText (m :: ns) := rfl

/-- Groups are written with colons between them. -/
theorem pieces_groupsText {ns : List Nat} (h : ns ≠ []) :
    pieces (· == ':') (groupsText ns) = ns.map Hex.ofNat := by
  refine pieces_join (by simpa using h) fun ys hys c hc => ?_
  obtain ⟨n, -, rfl⟩ := List.mem_map.mp hys
  exact beq_false_of_ne (Hex.ne_of_isDigit (Hex.isDigit_of_mem_ofNat c hc)).1

/-- Groups begin with a digit. -/
theorem head?_groupsText (n : Nat) (ns : List Nat) (cs : List Char) :
    ∃ c ds, groupsText (n :: ns) ++ cs = c :: ds ∧ c ≠ ':' := by
  obtain ⟨c, ds, hc⟩ := List.exists_cons_of_ne_nil (Hex.ofNat_ne_nil n)
  have hcolon := (Hex.ne_of_isDigit (Hex.isDigit_of_mem_ofNat c (by rw [hc]; simp))).1
  cases ns with
  | nil => exact ⟨c, ds ++ cs, by simp [groupsText, Text.join, hc], hcolon⟩
  | cons m ns => exact ⟨c, _, by rw [groupsText_cons_cons, hc]; rfl, hcolon⟩

/-- One side of a double colon is read back. -/
theorem side?_groupsText {ns : List Nat} (h : ∀ n ∈ ns, n < 0x10000) (tail : Bool) :
    side? tail (groupsText ns) = some ns := by
  cases ns with
  | nil => rfl
  | cons n ns =>
    obtain ⟨c, ds, hc, -⟩ := head?_groupsText n ns []
    rw [List.append_nil] at hc
    rw [side?, if_neg (by simp [hc]), pieces_groupsText (by simp), groups?_map h]

/-- There is no double colon among characters other than colons. -/
theorem splitDouble?_append_of_ne {ds : List Char} (h : ∀ d ∈ ds, d ≠ ':') (cs : List Char) :
    splitDouble? (ds ++ cs) = (splitDouble? cs).map fun s => (ds ++ s.1, s.2) := by
  induction ds with
  | nil => simp
  | cons d ds ih =>
    rw [List.cons_append, splitDouble?, ih fun e he => h e (by simp [he]), Option.map_map]
    · rfl
    · rintro rest rfl
      exact absurd rfl (h ':' (by simp))

/-- There is no double colon among groups between single colons. -/
theorem splitDouble?_groupsText_append (ns : List Nat) (cs : List Char) :
    splitDouble? (groupsText ns ++ cs) =
      (splitDouble? cs).map fun s => (groupsText ns ++ s.1, s.2) := by
  have hdigits : ∀ n, ∀ c ∈ Hex.ofNat n, c ≠ ':' := fun n c hc =>
    (Hex.ne_of_isDigit (Hex.isDigit_of_mem_ofNat c hc)).1
  induction ns with
  | nil => simp [groupsText, Text.join]
  | cons n ns ih =>
    cases ns with
    | nil => exact splitDouble?_append_of_ne (hdigits n) cs
    | cons m ns =>
      obtain ⟨c, ds, hc, hcolon⟩ := head?_groupsText m ns cs
      rw [groupsText_cons_cons, List.append_assoc, splitDouble?_append_of_ne (hdigits n),
        List.cons_append, splitDouble?, ih, Option.map_map, Option.map_map]
      · simp [Function.comp_def]
      · rintro rest - hrest
        rw [hc] at hrest
        exact hcolon (List.cons.inj hrest).1

/-! ### the run that is left out -/

/-- There are no more zeros than groups. -/
theorem zeros_le_length (ns : List Nat) : zeros ns ≤ ns.length := by
  induction ns with
  | nil => exact Nat.le_refl 0
  | cons n ns ih =>
    unfold zeros
    split
    · next h => cases h; exact Nat.succ_le_succ ih
    · exact Nat.zero_le _

/-- The groups in front are the zeros counted. -/
theorem take_zeros (ns : List Nat) : ns.take (zeros ns) = List.replicate (zeros ns) 0 := by
  induction ns with
  | nil => rfl
  | cons n ns ih =>
    unfold zeros
    split
    · next h =>
      cases h
      rw [List.take_succ_cons, ih, List.replicate_succ]
    · rfl

/-- What is left out is a run of two or more zeros. -/
theorem longestZeros_spec {ns : List Nat} {place start length : Nat}
    (h : longestZeros place ns = some (start, length)) :
    ∃ k, start = place + k ∧ 2 ≤ length ∧ k + length ≤ ns.length ∧
      (ns.drop k).take length = List.replicate length 0 := by
  induction ns generalizing place start length with
  | nil => cases h
  | cons n ns ih =>
    -- a run that begins here is taken if no longer one follows
    have here : 2 ≤ zeros (n :: ns) → ∃ k, place = place + k ∧ 2 ≤ zeros (n :: ns) ∧
        k + zeros (n :: ns) ≤ (n :: ns).length ∧
        ((n :: ns).drop k).take (zeros (n :: ns)) = List.replicate (zeros (n :: ns)) 0 :=
      fun htwo => ⟨0, rfl, htwo, by rw [Nat.zero_add]; exact zeros_le_length _, take_zeros _⟩
    rw [longestZeros] at h
    split at h
    · next start' length' hrest =>
      obtain ⟨k, hstart, htwo, hle, hzeros⟩ := ih hrest
      split at h
      · next hlonger =>
        cases h
        exact here (Nat.le_trans htwo hlonger)
      · cases h
        refine ⟨k + 1, by omega, htwo, ?_, hzeros⟩
        rw [List.length_cons]
        omega
    · split at h
      · next htwo =>
        cases h
        exact here htwo
      · cases h

/-- A list is what stands in front of its run of zeros, the zeros, and what stands behind them. -/
theorem eq_append_of_longestZeros {ns : List Nat} {start length : Nat}
    (h : longestZeros 0 ns = some (start, length)) :
    2 ≤ length ∧ start + length ≤ ns.length ∧
      ns = ns.take start ++ List.replicate length 0 ++ ns.drop (start + length) := by
  obtain ⟨k, hstart, htwo, hle, hzeros⟩ := longestZeros_spec h
  obtain rfl : start = k := by omega
  refine ⟨htwo, hle, ?_⟩
  rw [← hzeros, List.append_assoc, ← List.drop_drop, List.take_append_drop, List.take_append_drop]

/-- An address of eight groups is read back. -/
theorem parse?_text {groups : List Nat} (hlength : groups.length = 8)
    (hgroups : ∀ n ∈ groups, n < 0x10000) : parse? (text groups) = some groups := by
  have hne : groups ≠ [] := by
    rintro rfl
    cases hlength
  rw [text]
  cases hzeros : longestZeros 0 groups with
  | none =>
    have hsplit := splitDouble?_groupsText_append groups []
    rw [List.append_nil] at hsplit
    rw [parse?, hsplit]
    simp only [splitDouble?, Option.map_none, pieces_groupsText hne, groups?_map hgroups]
    simp [hlength]
  | some run =>
    -- the double colon stands for as many zeros as the groups around it leave out of eight
    obtain ⟨start, length⟩ := run
    obtain ⟨htwo, hle, hsplit⟩ := eq_append_of_longestZeros hzeros
    have hfront : side? false (groupsText (groups.take start)) = some (groups.take start) :=
      side?_groupsText (fun n hn => hgroups n (List.mem_of_mem_take hn)) false
    have hback : side? true (groupsText (groups.drop (start + length))) =
        some (groups.drop (start + length)) :=
      side?_groupsText (fun n hn => hgroups n (List.mem_of_mem_drop hn)) true
    have hdouble : splitDouble? (groupsText (groups.take start) ++ [':', ':'] ++
        groupsText (groups.drop (start + length))) =
          some (groupsText (groups.take start), groupsText (groups.drop (start + length))) := by
      rw [List.append_assoc, splitDouble?_groupsText_append]
      simp [splitDouble?]
    have htake : (groups.take start).length = start := List.length_take_of_le (by omega)
    have hdrop : (groups.drop (start + length)).length = 8 - (start + length) := by
      rw [List.length_drop, hlength]
    have hmissing : 8 - start - (8 - (start + length)) = length := by omega
    simp only [parse?, hdouble, hfront, hback, Option.bind_eq_bind, Option.bind_some, htake, hdrop,
      hmissing]
    rw [if_pos (by omega), ← hsplit]

theorem ne_of_mem_groupsText {ns : List Nat} {c : Char} (h : c ∈ groupsText ns) :
    c ≠ '[' ∧ c ≠ ']' := by
  obtain rfl | ⟨ds, hds, hc⟩ := mem_of_mem_join h
  · decide
  · obtain ⟨n, -, rfl⟩ := List.mem_map.mp hds
    exact (Hex.ne_of_isDigit (Hex.isDigit_of_mem_ofNat c hc)).2

/-- An address holds no brackets. -/
theorem ne_of_mem_text {groups : List Nat} {c : Char} (h : c ∈ text groups) :
    c ≠ '[' ∧ c ≠ ']' := by
  rw [text] at h
  split at h
  · exact ne_of_mem_groupsText h
  · simp only [List.mem_append, List.mem_cons, List.not_mem_nil, or_false] at h
    obtain (h | rfl | rfl) | h := h
    · exact ne_of_mem_groupsText h
    · decide
    · decide
    · exact ne_of_mem_groupsText h

/-! ### what is read -/

theorem lt_of_group? {cs : List Char} {n : Nat} (h : group? cs = some n) : n < 0x10000 := by
  unfold group? at h
  split at h
  · next hlength =>
    rw [Hex.nat?] at h
    split at h
    · cases h
    · calc n < (0 + 1) * 16 ^ cs.length := Hex.natFrom?_lt h
        _ ≤ (0 + 1) * 16 ^ 4 := Nat.mul_le_mul_left _ (Nat.pow_le_pow_right (by decide) hlength)
  · cases h

theorem le_of_byte? {cs : List Char} {n : Nat} (h : byte? cs = some n) : n ≤ 255 := by
  unfold byte? at h
  split at h
  · simpa using (Option.filter_eq_some_iff.mp h).2
  · cases h

/-- What is read piece by piece is read from pieces. -/
theorem exists_of_mem_mapM {α β : Type} {f : α → Option β} {xs : List α} {ys : List β}
    (h : xs.mapM f = some ys) : ∀ y ∈ ys, ∃ x, f x = some y := by
  induction xs generalizing ys with
  | nil =>
    cases h
    simp
  | cons x xs ih =>
    simp only [List.mapM_cons, Option.bind_eq_bind, Option.bind_eq_some_iff] at h
    obtain ⟨y, hy, zs, hzs, h⟩ := h
    cases h
    exact List.forall_mem_cons.mpr ⟨⟨x, hy⟩, ih hzs⟩

theorem lt_of_dotted? {cs : List Char} {ns : List Nat} (h : dotted? cs = some ns) :
    ∀ n ∈ ns, n < 0x10000 := by
  unfold dotted? at h
  split at h
  · next a b c d hbytes =>
    cases h
    have hle : ∀ n ∈ [a, b, c, d], n ≤ 255 := by
      intro n hn
      obtain ⟨ds, hds⟩ := exists_of_mem_mapM hbytes n hn
      exact le_of_byte? hds
    simp only [List.forall_mem_cons, List.not_mem_nil, IsEmpty.forall_iff, implies_true,
      and_true] at hle ⊢
    omega
  · cases h

/-- Every group that is read fits into 16 bits. -/
theorem lt_of_groups? {tail : Bool} {ps : List (List Char)} {ns : List Nat}
    (h : groups? tail ps = some ns) : ∀ n ∈ ns, n < 0x10000 := by
  induction ps generalizing ns with
  | nil => cases h; simp
  | cons p ps ih =>
    cases ps with
    | nil =>
      rw [groups?] at h
      split at h
      · next n hn =>
        cases h
        simpa using lt_of_group? hn
      · split at h
        · exact lt_of_dotted? h
        · cases h
    | cons q ps =>
      simp only [groups?, Option.bind_eq_some_iff, Option.map_eq_some_iff] at h
      obtain ⟨n, hn, rest, hrest, rfl⟩ := h
      exact List.forall_mem_cons.mpr ⟨lt_of_group? hn, ih hrest⟩

theorem lt_of_side? {tail : Bool} {cs : List Char} {ns : List Nat} (h : side? tail cs = some ns) :
    ∀ n ∈ ns, n < 0x10000 := by
  unfold side? at h
  split at h
  · cases h
    simp
  · exact lt_of_groups? h

/-- What is read are eight groups of sixteen bits. -/
theorem spec_of_parse? {cs : List Char} {groups : List Nat} (h : parse? cs = some groups) :
    groups.length = 8 ∧ ∀ n ∈ groups, n < 0x10000 := by
  unfold parse? at h
  split at h
  · obtain ⟨hgroups, hlength⟩ := Option.filter_eq_some_iff.mp h
    exact ⟨by simpa using hlength, lt_of_groups? hgroups⟩
  · next front back _ =>
    simp only [Option.bind_eq_bind, Option.bind_eq_some_iff] at h
    obtain ⟨ms, hms, ns, hns, h⟩ := h
    split at h
    · next hle =>
      cases h
      refine ⟨?_, ?_⟩
      · simp only [List.length_append, List.length_replicate]
        omega
      · simp only [List.mem_append]
        rintro n ((hn | hn) | hn)
        · exact lt_of_side? hms n hn
        · rw [List.eq_of_mem_replicate hn]
          decide
        · exact lt_of_side? hns n hn
    · cases h

end Ipv6

/-! ## addresses of four bytes -/

namespace Ipv4

/-- The numbers that an address is written with. -/
def numbers (address : Nat) : List Nat :=
  [address / 0x1000000, address / 0x10000 % 0x100, address / 0x100 % 0x100, address % 0x100]

theorem text_eq_join (address : Nat) :
    text address = Text.join '.' ((numbers address).map Decimal.ofNat) := rfl

/-- An address is written as four numbers with dots between them. -/
theorem pieces_text (address : Nat) :
    pieces (· == '.') (text address) = (numbers address).map Decimal.ofNat := by
  refine pieces_join (List.cons_ne_nil _ _) fun ys hys c hc => ?_
  obtain ⟨n, -, rfl⟩ := List.mem_map.mp hys
  exact beq_false_of_ne (Decimal.ne_of_mem_ofNat hc rfl)

/-- Different addresses are written in different ways. -/
theorem text_injective {a b : Nat} (h : text a = text b) : a = b := by
  have hpieces : (numbers a).map Decimal.ofNat = (numbers b).map Decimal.ofNat := by
    rw [← pieces_text, h, pieces_text]
  simp only [numbers, List.map_cons, List.map_nil, List.cons.injEq, and_true] at hpieces
  obtain ⟨h₁, h₂, h₃, h₄⟩ := hpieces
  have h₁ := Decimal.ofNat_injective h₁
  have h₂ := Decimal.ofNat_injective h₂
  have h₃ := Decimal.ofNat_injective h₃
  have h₄ := Decimal.ofNat_injective h₄
  omega

/-- An address ends in a number. -/
theorem endsInNumber_text (address : Nat) : endsInNumber (text address) := by
  have hparts : parts (text address) = (numbers address).map Decimal.ofNat := by
    rw [parts, pieces_text, if_neg (by simp [numbers])]
  rw [endsInNumber, hparts]
  have hdigits : (Decimal.ofNat (address % 0x100)).all Char.isDigit :=
    List.all_eq_true.mpr fun c => Decimal.isDigit_of_mem_ofNat
  simp [numbers, hdigits]

/-- A name that does not end in a number is written in no way that an address is. -/
theorem ne_text {name : List Char} (h : endsInNumber name = false) (address : Nat) :
    name ≠ text address := by
  rintro rfl
  rw [endsInNumber_text] at h
  cases h

/-- An address holds nothing that delimits the parts of a url. -/
theorem ne_of_mem_text {address : Nat} {c : Char} (h : c ∈ text address) :
    c ≠ ':' ∧ c ≠ '[' ∧ c ≠ ']' := by
  rw [text_eq_join] at h
  obtain rfl | ⟨ds, hds, hc⟩ := mem_of_mem_join h
  · decide
  · obtain ⟨n, -, rfl⟩ := List.mem_map.mp hds
    exact ⟨Decimal.ne_of_mem_ofNat hc rfl, Decimal.ne_of_mem_ofNat hc rfl,
      Decimal.ne_of_mem_ofNat hc rfl⟩

end Ipv4

/-! ## machines -/

namespace Host

/-- What a machine is like that has been read. -/
inductive Proper : Host → Prop where
  | domain {name : List Char} (hne : name ≠ []) (hallowed : ∀ c ∈ name, Domain.isAllowed c)
      (hnumber : Ipv4.endsInNumber name = false) : Proper (.domain name)
  | ipv4 (address : Nat) : Proper (.ipv4 address)
  | ipv6 {groups : List Nat} (hlength : groups.length = 8) (hgroups : ∀ n ∈ groups, n < 0x10000) :
      Proper (.ipv6 groups)

/-- A name or number that is accepted is a proper host. -/
theorem proper_of_ofAscii {name : List Char} {h : Host} (hallowed : ∀ c ∈ name, Domain.isAllowed c)
    (hh : ofAscii name = .ok h) : Proper h := by
  unfold ofAscii at hh
  split at hh
  · cases hh
  · next hne =>
    split at hh
    · split at hh
      · cases hh
        exact .ipv4 _
      · cases hh
    · next hnumber =>
      cases hh
      exact .domain (by simpa using hne) hallowed (by simpa using hnumber)

/-- Whatever is accepted as the host of an authority is a proper host. -/
theorem proper_of_parse {cs : List Char} {h : Host} (hh : parse cs = .ok h) : Proper h := by
  unfold parse at hh
  split at hh
  · unfold ofBracketed at hh
    split at hh
    · next hgroups =>
      cases hh
      obtain ⟨hlength, hlt⟩ := Ipv6.spec_of_parse? hgroups
      exact .ipv6 hlength hlt
    · cases hh
  · split at hh
    · next name hname =>
      obtain ⟨decoded, -, hname⟩ := Option.bind_eq_some_iff.mp hname
      exact proper_of_ofAscii (Domain.isAllowed_of_mem_toAscii? hname) hh
    · cases hh

/-- Whether a machine is an address of eight groups, which stands between brackets. -/
def isBracketed : Host → Bool
  | .ipv6 _ => true
  | .domain _ | .ipv4 _ => false

/-- What does not stand between brackets holds nothing that delimits the parts of a url. -/
theorem Proper.ne_of_mem_text {h : Host} (hh : Proper h) (hb : h.isBracketed = false) {c : Char}
    (hc : c ∈ h.text) : c ≠ ':' ∧ c ≠ '[' ∧ c ≠ ']' := by
  cases hh with
  | domain hne hallowed hnumber => exact (Domain.isBare_of_isAllowed (hallowed c hc)).2.2.2
  | ipv4 address => exact Ipv4.ne_of_mem_text hc
  | ipv6 hlength hgroups => cases hb

/-- A machine stands between brackets just if its text begins with one. -/
theorem Proper.isBracketed_iff {h : Host} (hh : Proper h) :
    h.isBracketed ↔ h.text.head? = some '[' := by
  constructor
  · intro hb
    cases hh with
    | ipv6 _ _ => rfl
    | _ => cases hb
  · intro hhead
    by_contra hb
    exact (hh.ne_of_mem_text (by simpa using hb) (List.mem_of_mem_head? hhead)).2.1 rfl

/-- No two machines are written alike. -/
theorem text_injective {h h' : Host} (hh : Proper h) (hh' : Proper h') (heq : h.text = h'.text) :
    h = h' := by
  have hb : h.isBracketed = h'.isBracketed := by
    rw [Bool.eq_iff_iff, hh.isBracketed_iff, hh'.isBracketed_iff, heq]
  cases hh with
  | domain hne hallowed hnumber =>
    cases hh' with
    | domain _ _ _ => exact congrArg _ heq
    | ipv4 address => exact absurd heq (Ipv4.ne_text hnumber address)
    | ipv6 _ _ => cases hb
  | ipv4 address =>
    cases hh' with
    | domain _ _ hnumber => exact absurd heq.symm (Ipv4.ne_text hnumber address)
    | ipv4 address' => exact congrArg _ (Ipv4.text_injective heq)
    | ipv6 _ _ => cases hb
  | @ipv6 groups hlength hgroups =>
    cases hh' with
    | @ipv6 groups' hlength' hgroups' =>
      have htext : Ipv6.text groups = Ipv6.text groups' := by simpa [text] using heq
      have hparse := Ipv6.parse?_text hlength hgroups
      rw [htext, Ipv6.parse?_text hlength' hgroups', Option.some.injEq] at hparse
      rw [hparse]
    | _ => cases hb

end Host

/-! ## machines with ports -/

/-- A port as it stands behind a machine, if it does. -/
def portText (port : Option Nat) : List Char := (port.map fun n => ':' :: Decimal.ofNat n).getD []

/-- Ports are told apart by how they are written. -/
theorem portText_injective {port port' : Option Nat} (h : portText port = portText port') :
    port = port' := by
  cases port with
  | none =>
    cases port' with
    | none => rfl
    | some n => cases h
  | some n =>
    cases port' with
    | none => cases h
    | some n' => exact congrArg some (Decimal.ofNat_injective (List.cons.inj h).2)

/-- No port begins among characters that are no brackets nor, outside brackets, colons. -/
theorem splitPort_append {inside : Bool} {cs : List Char}
    (h : ∀ c ∈ cs, c ≠ '[' ∧ c ≠ ']' ∧ (inside = false → c ≠ ':')) (rest : List Char) :
    splitPort inside (cs ++ rest) =
      (cs ++ (splitPort inside rest).1, (splitPort inside rest).2) := by
  induction cs with
  | nil => rfl
  | cons c cs ih =>
    obtain ⟨hopen, hclose, hcolon⟩ := h c (by simp)
    have hstop : (c == ':' && !inside) = false := by
      cases inside with
      | true => simp
      | false => simpa using hcolon rfl
    rw [List.cons_append, splitPort, hstop, if_neg (by simp), if_neg (by simpa using hopen),
      if_neg (by simpa using hclose), ih fun d hd => h d (by simp [hd])]
    rfl

/-- A port that is written is cut off where it begins. -/
theorem splitPort_portText (port : Option Nat) :
    splitPort false (portText port) = ([], portText port) := by
  cases port <;> rfl

/-- A machine and its port are told apart again. -/
theorem splitPort_text {h : Host} (hh : h.Proper) (port : Option Nat) :
    splitPort false (h.text ++ portText port) = (h.text, portText port) := by
  cases hb : h.isBracketed with
  | false =>
    have hplain : ∀ c ∈ h.text, c ≠ '[' ∧ c ≠ ']' ∧ (false = false → c ≠ ':') := fun c hc =>
      have hne := hh.ne_of_mem_text hb hc
      ⟨hne.2.1, hne.2.2, fun _ => hne.1⟩
    rw [splitPort_append hplain, splitPort_portText, List.append_nil]
  | true =>
    cases hh with
    | @ipv6 groups _ _ =>
      have hinside : ∀ c ∈ Ipv6.text groups, c ≠ '[' ∧ c ≠ ']' ∧ (true = false → c ≠ ':') :=
        fun c hc => ⟨(Ipv6.ne_of_mem_text hc).1, (Ipv6.ne_of_mem_text hc).2, nofun⟩
      have hclose : splitPort true (']' :: portText port) = ([']'], portText port) := by
        simp [splitPort, splitPort_portText]
      have hopen : (Host.ipv6 groups).text ++ portText port =
          '[' :: (Ipv6.text groups ++ ']' :: portText port) := by
        simp [Host.text]
      rw [hopen, splitPort, if_neg (by simp), if_pos (by simp), splitPort_append hinside, hclose]
      rfl
    | _ => cases hb

/-- No two machines with ports are written alike. -/
theorem text_append_injective {h h' : Host} (hh : h.Proper) (hh' : h'.Proper)
    {port port' : Option Nat} (heq : h.text ++ portText port = h'.text ++ portText port') :
    h = h' ∧ port = port' := by
  have hsplit := splitPort_text hh port
  rw [heq, splitPort_text hh' port', Prod.mk.injEq] at hsplit
  exact ⟨Host.text_injective hh hh' hsplit.1.symm, portText_injective hsplit.2.symm⟩

/-- The machine of an authority is one that has been read. -/
theorem proper_of_hostAndPort {cs : List Char} {m : Host × Option Nat}
    (hm : hostAndPort cs = .ok m) : m.1.Proper := by
  unfold hostAndPort at hm
  generalize splitPort false cs = parts at hm
  obtain ⟨host, rest⟩ := parts
  dsimp only at hm
  split at hm
  · cases hm
  · cases hhost : Host.parse host with
    | error fault => rw [hhost] at hm; cases hm
    | ok h =>
      replace hm : (readPort rest >>= fun port => pure (h, port)) = .ok m := by rwa [hhost] at hm
      cases hport : readPort rest with
      | error fault => rw [hport] at hm; cases hm
      | ok port =>
        rw [hport] at hm
        cases hm
        exact Host.proper_of_parse hhost

end Url

end Greenhouse
