import Greenhouse.Proofs.Spellings
import Greenhouse.Stored

/-!
# Greenhouse.Proofs.Persistence

Nothing is lost by writing a value and reading it back.

A value goes through its document: the document must be written as it is spelled, and must be read as
the value.  Both are shown for simple values first, then for records of them.

* `Stored.Lawful` — what is shown of each type.
* `members?_record` — the members of a record that was written are found.
* `isLossless_stored` — the values that are kept, and all texts that are read as one of them.
-/

namespace Greenhouse

open Greenhouse.Text

/-! ## sets of identifiers -/

/-- No identifier comes before itself. -/
theorem Identifier.lt_irrefl (p : Identifier) : ¬ lt p p := by
  rintro (h | ⟨-, h⟩)
  · exact List.lt_irrefl _ h
  · exact List.lt_irrefl _ h

namespace Identifiers

/-- What comes after all of a list is put at its end. -/
theorem insertInto_of_forall_lt {p : Identifier} {qs : List Identifier}
    (h : ∀ q ∈ qs, Identifier.lt q p) : insertInto p qs = qs ++ [p] := by
  induction qs with
  | nil => rfl
  | cons q qs ih =>
    have hq : Identifier.lt q p := h q List.mem_cons_self
    have hne : p ≠ q := by
      rintro rfl
      exact Identifier.lt_irrefl p hq
    have hnlt : ¬ Identifier.lt p q := fun hpq =>
      Identifier.lt_irrefl p (Identifier.lt_trans hpq hq)
    rw [insertInto, if_neg hne, if_neg hnlt,
      ih fun r hr => h r (List.mem_cons_of_mem _ hr), List.cons_append]

/-- Sets are told apart by their elements in order. -/
@[ext] theorem ext {s t : Identifiers} (h : s.toList = t.toList) : s = t := by
  cases s
  cases t
  cases h
  rfl

/-- Identifiers that come after all of a set, in ascending order, are put at its end. -/
theorem toList_foldl_insert {ps : List Identifier} {s : Identifiers}
    (h : (s.toList ++ ps).Pairwise Identifier.lt) :
    (ps.foldl (fun s p => s.insert p) s).toList = s.toList ++ ps := by
  induction ps generalizing s with
  | nil => rw [List.foldl_nil, List.append_nil]
  | cons p ps ih =>
    have hinsert : (s.insert p).toList = s.toList ++ [p] :=
      insertInto_of_forall_lt fun q hq =>
        (List.pairwise_append.mp h).2.2 q hq p List.mem_cons_self
    rw [List.append_cons, ← hinsert] at h ⊢
    exact ih h

/-- A set is made again of its identifiers in ascending order. -/
theorem ofList_toList (s : Identifiers) : ofList s.toList = s := ext (toList_foldl_insert s.ascending)

end Identifiers

namespace Stored

/-! ## values and their documents -/

/-- A type whose values are kept by their documents. -/
structure Lawful (α : Type) [Stored α] : Prop where
  isWritten (a : α) : (toJson a).IsWritten
  ofJson?_toJson (a : α) : ofJson? (toJson a) = some a

namespace Lawful

variable {α : Type} [Stored α]

/-- What is written spells the document, with nothing between tokens. -/
theorem spells (h : Lawful α) (a : α) : Json.Spells (fun _ => False) (toJson a) (write a).toList := by
  rw [write, String.toList_ofList]
  exact h.isWritten a

/-- What was written is read back. -/
theorem read?_write (h : Lawful α) (a : α) : read? (write a) = some a := by
  have hread : Json.ofChars? ([] ++ (write a).toList ++ []) = some (toJson a) :=
    Json.ofChars?_of_spells (fun _ hc => hc.elim) (h.spells a) (fun _ hc => by cases hc)
      fun _ hc => by cases hc
  rw [List.nil_append, List.append_nil] at hread
  rw [read?, hread, Option.bind_some, h.ofJson?_toJson]

/-- Values are read back from a list of their documents. -/
theorem mapM_toJson (h : Lawful α) (as : List α) : (as.map toJson).mapM ofJson? = some as := by
  induction as with
  | nil => rfl
  | cons a as ih =>
    rw [List.map_cons, List.mapM_cons, h.ofJson?_toJson, ih]
    rfl

/-- A value that is written is found as it was. -/
theorem required?_toJson (h : Lawful α) (a : α) : required? (some (toJson a)) = some a :=
  h.ofJson?_toJson a

/-- A value that may be left out is found as it was, if it was written. -/
theorem optional?_toJson (h : Lawful (Option α)) (a : Option α) :
    optional? (some (toJson a)) = some a :=
  h.ofJson?_toJson a

end Lawful

/-! ## simple values -/

theorem lawful_string : Lawful String where
  isWritten := Json.isWritten_ofString
  ofJson?_toJson := Json.text?_symbols

theorem lawful_bool : Lawful Bool where
  isWritten := Json.isWritten_bool
  ofJson?_toJson _ := rfl

/-- An integer is read back, whatever its sign. -/
theorem integer?_ofInt (n : Int) : integer? (.ofInt n) = some n := by
  by_cases h : n < 0
  · have hne : n.natAbs ≠ 0 := by omega
    have hneg : -(n.natAbs : Int) = n := by omega
    rw [Json.ofInt, decide_eq_true h, integer?, if_neg hne, hneg]
  · have hpos : (n.natAbs : Int) = n := by omega
    rw [Json.ofInt, decide_eq_false h, integer?, hpos]

theorem lawful_power : Lawful Power where
  isWritten p := Json.isWritten_ofInt p.toInt
  ofJson?_toJson p := by
    show (integer? (.ofInt p.toInt)).bind Power.ofInt? = some p
    rw [integer?_ofInt, Option.bind_some, Power.ofInt?_toInt]

theorem lawful_uint32 : Lawful UInt32 where
  isWritten n := Json.isWritten_ofInt n.toNat
  ofJson?_toJson n := by
    have hrange : 0 ≤ (n.toNat : Int) ∧ (n.toNat : Int) < UInt32.size :=
      ⟨Int.natCast_nonneg _, Int.ofNat_lt.mpr n.toNat_lt⟩
    show (integer? (.ofInt n.toNat)).bind _ = some n
    rw [integer?_ofInt, Option.bind_some, if_pos hrange, Int.toNat_natCast, UInt32.ofNat_toNat]

/-- Identifiers are read back. -/
theorem lawful_entryId : Lawful EntryId where
  isWritten id := Json.isWritten_ofString id.text
  ofJson?_toJson id := by
    show (Json.text? (Json.symbols id.text)).bind (fun s => EntryId.read? s.toList) = some id
    rw [Json.text?_symbols, Option.bind_some, EntryId.text, String.toList_ofList, EntryId.read?_chars]

/-- Null is told from what may be missing, as long as that is not null itself. -/
theorem lawful_option {α : Type} [Stored α] (h : Lawful α) (hne : ∀ a : α, toJson a ≠ .null) :
    Lawful (Option α) where
  isWritten
    | none => Json.isWritten_null
    | some a => h.isWritten a
  ofJson?_toJson
    | none => rfl
    | some a => by
      have hmap : (ofJson? (toJson a)).map some = some (some a) := by
        rw [h.ofJson?_toJson, Option.map_some]
      cases hj : toJson a with
      | null => exact absurd hj (hne a)
      | _ =>
        rw [hj] at hmap
        exact hmap

theorem lawful_optionPower : Lawful (Option Power) := lawful_option lawful_power fun _ h => by cases h

theorem lawful_optionBool : Lawful (Option Bool) := lawful_option lawful_bool fun _ h => by cases h

theorem lawful_identifier : Lawful Identifier where
  isWritten p := by
    refine Json.isWritten_array fun j hj => ?_
    obtain rfl | rfl : j = toJson p.1 ∨ j = toJson p.2 := by simpa using hj
    · exact lawful_string.isWritten p.1
    · exact lawful_string.isWritten p.2
  ofJson?_toJson p := by
    show (do return (← ofJson? (toJson p.1), ← ofJson? (toJson p.2))) = some p
    rw [lawful_string.ofJson?_toJson, lawful_string.ofJson?_toJson]
    rfl

/-- Sets of identifiers are read back, in their order. -/
theorem lawful_identifiers : Lawful Identifiers where
  isWritten s := by
    refine Json.isWritten_array fun j hj => ?_
    obtain ⟨p, -, rfl⟩ := List.mem_map.mp hj
    exact lawful_identifier.isWritten p
  ofJson?_toJson s := by
    show ((s.toList.map toJson).mapM ofJson?).map Identifiers.ofList = some s
    rw [lawful_identifier.mapM_toJson, Option.map_some, Identifiers.ofList_toList]

/-! ## records -/

/-- A record is written as it is spelled if the values of its members are. -/
theorem isWritten_record {members : List (String × Json)} (h : ∀ m ∈ members, m.2.IsWritten) :
    (record members).IsWritten := Json.isWritten_object h

/-- Names that are texts are read. -/
theorem named?_record (members : List (String × Json)) :
    named? (members.map fun m => (Json.symbols m.1, m.2)) = some members := by
  induction members with
  | nil => rfl
  | cons m members ih =>
    rw [named?] at ih ⊢
    rw [List.map_cons, List.mapM_cons, ih]
    simp only [Json.text?_symbols]
    rfl

section

variable {members : List (String × Json)} (h : (members.map Prod.fst).Nodup)

include h

/-- In a record no name comes twice. -/
theorem length_filter_le_one (n : String) : (members.filter (·.1 = n)).length ≤ 1 := by
  have hcount := List.nodup_iff_count.mp h n
  rwa [List.count, List.countP_map, List.countP_eq_length_filter] at hcount

/-- In a record every member is found by its name. -/
theorem lookup_of_mem {m : String × Json} (hm : m ∈ members) : List.lookup m.1 members = some m.2 := by
  obtain ⟨front, back, rfl⟩ := List.append_of_mem hm
  refine List.lookup_eq_some_iff.mpr ⟨front, back, rfl, fun p hp => ?_⟩
  rw [List.map_append, List.map_cons] at h
  have hne := (List.nodup_append.mp h).2.2 p.1 (List.mem_map_of_mem hp) m.1 List.mem_cons_self
  simpa using hne.symm

end

/-- The members of a record that was written are found. -/
theorem members?_record {names : List String} {members : List (String × Json)}
    (hnames : members.map Prod.fst = names) (hnodup : names.Nodup) :
    members? names (record members) = some (members.map fun m => some m.2) := by
  subst hnames
  have hone : (members.map Prod.fst).all fun n => (members.filter (·.1 = n)).length ≤ 1 :=
    List.all_eq_true.mpr fun n _ => decide_eq_true (length_filter_le_one hnodup n)
  rw [record, members?]
  simp only [named?_record, Option.bind_some]
  rw [if_pos hone, List.map_map]
  exact congrArg some (List.map_congr_left fun m hm => lookup_of_mem hnodup hm)

/-- A record of nothing but a host. -/
theorem lawful_of_host {α : Type} [Stored α] (make : String → α) (host : α → String)
    (hmake : ∀ a, make (host a) = a) (htoJson : ∀ a, toJson a = record [("host", toJson (host a))])
    (hofJson : ∀ j, ofJson? j = do
      let [host] ← members? ["host"] j | none
      return make (← required? host)) : Lawful α where
  isWritten a := by
    rw [htoJson]
    exact isWritten_record (by simpa using lawful_string.isWritten (host a))
  ofJson?_toJson a := by
    rw [htoJson, hofJson, members?_record (by rfl) (by simp)]
    simp only [List.map_cons, List.map_nil, Option.bind_eq_bind, Option.bind_some, Option.pure_def,
      lawful_string.required?_toJson, hmake]

theorem lawful_entryData : Lawful EntryData :=
  lawful_of_host EntryData.mk EntryData.host (fun _ => rfl) (fun _ => rfl) fun _ => rfl

theorem lawful_userInput : Lawful UserInput :=
  lawful_of_host UserInput.mk UserInput.host (fun _ => rfl) (fun _ => rfl) fun _ => rfl

/-- Entries are read back. -/
theorem lawful_entry : Lawful Entry where
  isWritten e := by
    refine isWritten_record fun m hm => ?_
    simp only [List.mem_cons, List.not_mem_nil, or_false] at hm
    obtain rfl | rfl | rfl | rfl | rfl := hm
    · exact lawful_entryId.isWritten e.id
    · exact lawful_uint32.isWritten e.version
    · exact lawful_string.isWritten e.title
    · exact lawful_string.isWritten e.uniqueId
    · exact lawful_entryData.isWritten e.data
  ofJson?_toJson e := by
    show (members? _ (record _) >>= _) = some e
    rw [members?_record (by rfl) (by simp)]
    simp only [List.map_cons, List.map_nil, Option.bind_eq_bind, Option.bind_some, Option.pure_def,
      lawful_entryId.required?_toJson, lawful_uint32.required?_toJson,
      lawful_string.required?_toJson, lawful_entryData.required?_toJson]

/-- Descriptions of devices are read back. -/
theorem lawful_deviceInfo : Lawful DeviceInfo where
  isWritten d := by
    refine isWritten_record fun m hm => ?_
    simp only [List.mem_cons, List.not_mem_nil, or_false] at hm
    obtain rfl | rfl := hm
    · exact lawful_identifiers.isWritten d.identifiers
    · exact lawful_string.isWritten d.name
  ofJson?_toJson d := by
    show (members? _ (record _) >>= _) = some d
    rw [members?_record (by rfl) (by simp)]
    simp only [List.map_cons, List.map_nil, Option.bind_eq_bind, Option.bind_some, Option.pure_def,
      lawful_identifiers.required?_toJson, lawful_string.required?_toJson]

/-- States are read back. -/
theorem lawful_entityState : Lawful EntityState where
  isWritten s := by
    refine isWritten_record fun m hm => ?_
    simp only [List.mem_cons, List.not_mem_nil, or_false] at hm
    obtain rfl | rfl | rfl := hm
    · exact lawful_string.isWritten s.uniqueId
    · exact lawful_optionPower.isWritten s.power
    · exact lawful_optionBool.isWritten s.isOn
  ofJson?_toJson s := by
    show (members? _ (record _) >>= _) = some s
    rw [members?_record (by rfl) (by simp)]
    simp only [List.map_cons, List.map_nil, Option.bind_eq_bind, Option.bind_some, Option.pure_def,
      lawful_string.required?_toJson, lawful_optionPower.optional?_toJson,
      lawful_optionBool.optional?_toJson]

/-! ## what is kept -/

/-- Nothing is lost by writing values of a type. -/
structure IsLossless (α : Type) [Stored α] : Prop where
  /-- The text of a value spells its document, with nothing between tokens. -/
  compact (a : α) : Json.Spells (fun _ => False) (toJson a) (write a).toList
  /-- A value is read back. -/
  restored (a : α) : read? (write a) = some a
  /-- Whatever text a value is read from, its own text gives the same value, and is written again. -/
  settled {text : String} {a : α} (h : read? text = some a) :
    ∃ b, read? (write a) = some b ∧ b = a ∧ write b = write a

/-- What is read back from its text is stored without loss. -/
theorem Lawful.isLossless {α : Type} [Stored α] (h : Lawful α) : IsLossless α where
  compact := h.spells
  restored := h.read?_write
  settled _ := ⟨_, h.read?_write _, rfl, rfl⟩

/-- Entries and what they are made of, the owner's input, the information on a device and the state of
an entity are read back from their texts, whatever identifiers, texts and levels they hold. -/
theorem isLossless_stored : IsLossless Entry ∧ IsLossless EntryData ∧ IsLossless UserInput ∧
    IsLossless DeviceInfo ∧ IsLossless EntityState :=
  ⟨lawful_entry.isLossless, lawful_entryData.isLossless, lawful_userInput.isLossless,
    lawful_deviceInfo.isLossless, lawful_entityState.isLossless⟩

/-- A text that is far from what is written for its value: its members are in another order and with
blanks between them, one of them is unknown, one is missing, and characters are escaped. -/
theorem isLossless_stored_escapes :
    let text := " \x7b\"power\": -9223372036854775808, \"more\": [1.5e3, \x7b\x7d], \"unique_id\":" ++
      " \"\\ud83c\\udf31\\u0001\\/\"\x7d\n"
    let state : EntityState := ⟨"🌱\x01/", some ⟨-0x8000000000000000, by decide, by decide⟩, none⟩
    read? text = some state ∧
      ∃ b : EntityState, read? (write state) = some b ∧ b = state ∧ write b = write state := by
  intro text state
  have hread : read? text = some state := by decide +kernel
  exact ⟨hread, isLossless_stored.2.2.2.2.settled hread⟩

end Stored

end Greenhouse
