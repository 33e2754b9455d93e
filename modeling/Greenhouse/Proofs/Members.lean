import Greenhouse.Proofs.Persistence
import Mathlib.Data.List.Forall2
import Mathlib.Data.List.Nodup

/-!
# Greenhouse.Proofs.Members

What counts of a stored record is its members, not how they are laid out.

A record may be given in many ways.  Its members may come in any order, others may stand among them,
one that is null may be left out, and the values alone in their order will do.  All these are
arrangements of the record, and each can be spelled in many ways again.

* `Stored.Arranged` — the arrangements of a record.
* `members?_of_arranged` — the members of a record are found in each of its arrangements.
* `readByMembers_stored` — every text of an arrangement is read as the record, and no text is that has
  a member twice, or lacks one that it must have.
-/

namespace Greenhouse

open Greenhouse.Text

namespace Json

/-! ## texts of documents -/

/-- Whether a text is a document, however that is spelled and with any blanks between and around the
tokens. -/
def IsTextOf (j : Json) (text : String) : Prop :=
  ∃ front cs back, (∀ c ∈ front, isSpace c) ∧ (∀ c ∈ back, isSpace c) ∧
    Spells (fun c => isSpace c) j cs ∧ text.toList = front ++ cs ++ back

/-- A text of a value is read to that value. -/
theorem IsTextOf.ofChars? {j : Json} {text : String} (h : j.IsTextOf text) :
    Json.ofChars? text.toList = some j := by
  obtain ⟨front, cs, back, hfront, hback, hspells, htext⟩ := h
  rw [htext]
  exact ofChars?_of_spells (fun _ hc => hc) hspells hfront hback

/-- What may stand between tokens may as well be more. -/
theorem Spells.mono {blank more : Char → Prop} (hmore : ∀ c, blank c → more c) {j : Json}
    {cs : List Char} (h : Spells blank j cs) : Spells more j cs := by
  induction h with
  | null => exact .null
  | yes => exact .yes
  | no => exact .no
  | number h => exact .number h
  | string h => exact .string h
  | emptyArray hgap => exact .emptyArray fun c hc => hmore c (hgap c hc)
  | array hne hfront hback _ ih =>
    exact .array hne (fun i hi c hc => hmore c (hfront i hi c hc))
      (fun i hi c hc => hmore c (hback i hi c hc)) ih
  | emptyObject hgap => exact .emptyObject fun c hc => hmore c (hgap c hc)
  | object hne hfront hback hname _ ih =>
    exact .object hne (fun m hm c hc => hmore c (hfront m hm c hc))
      (fun m hm c hc => hmore c (hback m hm c hc)) hname ih

/-- What is written is one of the spellings that are read. -/
theorem IsWritten.spells {j : Json} (h : j.IsWritten) : Spells (fun c => isSpace c) j j.chars :=
  h.mono fun _ hc => hc.elim

/-- What is written is a text of the value. -/
theorem IsWritten.isTextOf {j : Json} (h : j.IsWritten) : j.IsTextOf (String.ofList j.chars) :=
  ⟨[], j.chars, [], by simp, by simp, h.spells, by simp⟩

/-- Texts are told apart by their symbols. -/
theorem symbols_injective {s t : String} (h : symbols s = symbols t) : s = t := by
  have htext := congrArg text? h
  rw [text?_symbols, text?_symbols] at htext
  exact Option.some.inj htext

/-- Symbols are a text just if they are those of the text. -/
theorem text?_eq_some_iff {ss : List Symbol} {s : String} : text? ss = some s ↔ ss = symbols s := by
  constructor
  · intro h
    obtain ⟨cs, hcs, rfl⟩ := Option.map_eq_some_iff.mp h
    rw [symbols, String.toList_ofList]
    clear h
    induction ss generalizing cs with
    | nil =>
      cases hcs
      rfl
    | cons x ss ih =>
      cases x with
      | surrogate unit => simp [Symbol.char?] at hcs
      | char c =>
        simp only [List.mapM_cons, Symbol.char?, Option.pure_def, Option.bind_eq_bind,
          Option.bind_some, Option.bind_eq_some_iff, Option.some.injEq] at hcs
        obtain ⟨cs, hcs, rfl⟩ := hcs
        rw [List.map_cons, ih cs hcs]
  · rintro rfl
    exact text?_symbols s

end Json

namespace Stored

/-! ## arrangements -/

/-- A member of a record: its name, the documents that its value may be given as, and whether it may
be left out. -/
structure Part where
  name : String
  given : Json → Prop
  dispensable : Prop

/-- The arrangements of a record: objects that hold its members in any order, but for some that may be
left out, and among them any others of other names; and arrays of the values of all its members in
order.  The names are texts, and the values of the others are any documents. -/
inductive Arranged (parts : List Part) : Json → Prop where
  | object {kept : List Part} {own others members : List (String × Json)} (hkept : kept.Sublist parts)
    (hleft : ∀ p ∈ parts, p ∈ kept ∨ p.dispensable)
    (hown : List.Forall₂ (fun p m => m.1 = p.name ∧ p.given m.2) kept own)
    (hothers : ∀ m ∈ others, m.1 ∉ parts.map Part.name) (hperm : members.Perm (own ++ others)) :
    Arranged parts (record members)
  | array {items : List Json} (h : List.Forall₂ (fun p j => p.given j) parts items) :
    Arranged parts (.array items)

/-- Whether the value found for a member, if any, is one of those that it may be given as. -/
def Part.Fits (p : Part) : Option Json → Prop
  | some j => p.given j
  | none => p.dispensable

/-- The value of a member is found if no other one has its name. -/
theorem lookup_of_mem_of_length_filter_le_one {n : String} {j : Json} {members : List (String × Json)}
    (hone : (members.filter (·.1 = n)).length ≤ 1) (h : (n, j) ∈ members) :
    List.lookup n members = some j := by
  induction members with
  | nil => cases h
  | cons m members ih =>
    by_cases hm : m.1 = n
    · rw [List.filter_cons_of_pos (by simpa using hm), List.length_cons] at hone
      have hnone : members.filter (·.1 = n) = [] := List.length_eq_zero_iff.mp (by omega)
      obtain rfl | h := List.mem_cons.mp h
      · exact List.lookup_cons_self
      · exact absurd (decide_eq_true rfl) (List.filter_eq_nil_iff.mp hnone _ h)
    · rw [List.filter_cons_of_neg (by simpa using hm)] at hone
      obtain rfl | h := List.mem_cons.mp h
      · exact absurd rfl hm
      · have hne : (n == m.1) = false := beq_eq_false_iff_ne.mpr (Ne.symm hm)
        rw [List.lookup_cons, hne]
        exact ih hone h

section

variable {kept : List Part} {own : List (String × Json)}
  (hown : List.Forall₂ (fun p m => m.1 = p.name ∧ p.given m.2) kept own)

include hown

/-- Members that are given have the names of their parts. -/
theorem map_fst_of_given : own.map Prod.fst = kept.map Part.name := by
  induction hown with
  | nil => rfl
  | cons h _ ih => rw [List.map_cons, List.map_cons, h.1, ih]

/-- Every part that is kept has a member. -/
theorem exists_mem_of_given {p : Part} (hp : p ∈ kept) : ∃ j, (p.name, j) ∈ own ∧ p.given j := by
  induction hown with
  | nil => cases hp
  | @cons q m kept own h _ ih =>
    obtain rfl | hp := List.mem_cons.mp hp
    · exact ⟨m.2, List.mem_cons.mpr (.inl (Prod.ext h.1.symm rfl)), h.2⟩
    · obtain ⟨j, hj, hgiven⟩ := ih hp
      exact ⟨j, List.mem_cons_of_mem _ hj, hgiven⟩

end

section

variable {parts kept : List Part} {own others members : List (String × Json)}
  (hnodup : (parts.map Part.name).Nodup) (hkept : kept.Sublist parts)
  (hown : List.Forall₂ (fun p m => m.1 = p.name ∧ p.given m.2) kept own)
  (hothers : ∀ m ∈ others, m.1 ∉ parts.map Part.name) (hperm : members.Perm (own ++ others))

include hothers hperm

/-- The members of the name of a part are all own ones. -/
theorem filter_perm_own {p : Part} (hp : p ∈ parts) :
    (members.filter (·.1 = p.name)).Perm (own.filter (·.1 = p.name)) := by
  have hnone : others.filter (·.1 = p.name) = [] := by
    rw [List.filter_eq_nil_iff]
    intro m hm hname
    exact hothers m hm (of_decide_eq_true hname ▸ List.mem_map_of_mem hp)
  have hfilter := hperm.filter (·.1 = p.name)
  rwa [List.filter_append, hnone, List.append_nil] at hfilter

include hnodup hkept hown

/-- No part is found twice. -/
theorem length_filter_le_one_of_given {p : Part} (hp : p ∈ parts) :
    (members.filter (·.1 = p.name)).length ≤ 1 := by
  have hnames : (own.map Prod.fst).Nodup := by
    rw [map_fst_of_given hown]
    exact hnodup.sublist (hkept.map Part.name)
  rw [(filter_perm_own hothers hperm hp).length_eq]
  exact length_filter_le_one hnames p.name

/-- What is found for a part is what is given for it. -/
theorem fits_lookup (hleft : ∀ p ∈ parts, p ∈ kept ∨ p.dispensable) {p : Part} (hp : p ∈ parts) :
    p.Fits (List.lookup p.name members) := by
  by_cases hmem : p ∈ kept
  · obtain ⟨j, hj, hgiven⟩ := exists_mem_of_given hown hmem
    have hone := length_filter_le_one_of_given hnodup hkept hown hothers hperm hp
    rw [lookup_of_mem_of_length_filter_le_one hone
      (hperm.mem_iff.mpr (List.mem_append_left others hj))]
    exact hgiven
  · have hnone : List.lookup p.name members = none := by
      rw [List.lookup_eq_none_iff]
      intro m hm
      have hne : p.name ≠ m.1 := by
        intro hname
        obtain hm | hm := List.mem_append.mp (hperm.mem_iff.mp hm)
        · have hkeptName : p.name ∈ kept.map Part.name := by
            rw [← map_fst_of_given hown, hname]
            exact List.mem_map_of_mem hm
          obtain ⟨q, hq, hqp⟩ := List.mem_map.mp hkeptName
          rw [List.inj_on_of_nodup_map hnodup (hkept.subset hq) hp hqp] at hq
          exact hmem hq
        · exact hothers m hm (hname ▸ List.mem_map_of_mem hp)
      simpa using hne
    rw [hnone]
    exact (hleft p hp).resolve_left hmem

end

/-- The members of a record are found in each of its arrangements. -/
theorem members?_of_arranged {parts : List Part} (hnodup : (parts.map Part.name).Nodup) {j : Json}
    (h : Arranged parts j) :
    ∃ values, members? (parts.map Part.name) j = some values ∧
      List.Forall₂ Part.Fits parts values := by
  cases h with
  | @object _ _ _ members hkept hleft hown hothers hperm =>
    have hone : (parts.map Part.name).all fun n => (members.filter (·.1 = n)).length ≤ 1 := by
      rw [List.all_map, List.all_eq_true]
      intro p hp
      exact decide_eq_true (length_filter_le_one_of_given hnodup hkept hown hothers hperm hp)
    rw [record, members?]
    simp only [named?_record, Option.bind_some]
    rw [if_pos hone]
    refine ⟨_, rfl, ?_⟩
    rw [List.map_map, List.forall₂_map_right_iff, List.forall₂_same]
    intro p hp
    exact fits_lookup hnodup hkept hown hothers hperm hleft hp
  | @array items hitems =>
    have hlength : items.length = (parts.map Part.name).length := by
      rw [List.length_map, hitems.length_eq]
    rw [members?, if_pos hlength]
    refine ⟨_, rfl, ?_⟩
    rw [List.forall₂_map_right_iff]
    exact hitems

/-- A record with all its members as they are given is an arrangement of it. -/
theorem arranged_record {parts : List Part} {members : List (String × Json)}
    (h : List.Forall₂ (fun p m => m.1 = p.name ∧ p.given m.2) parts members) :
    Arranged parts (record members) :=
  @Arranged.object parts parts members [] members (.refl parts) (fun _ hp => .inl hp) h (by simp)
    (by simp)

/-! ## what is refused -/

/-- Whether an object has more than one member of one of some names. -/
def Repeats (names : List String) (members : List (List Json.Symbol × Json)) : Prop :=
  ∃ n ∈ names, 2 ≤ (members.filter (·.1 = Json.symbols n)).length

/-- Whether an object has no member of one of some names. -/
def Lacks (names : List String) (members : List (List Json.Symbol × Json)) : Prop :=
  ∃ n ∈ names, ∀ m ∈ members, m.1 ≠ Json.symbols n

/-- The names of members are texts if they can be read. -/
theorem eq_map_of_named? {members : List (List Json.Symbol × Json)} {ms : List (String × Json)}
    (h : named? members = some ms) : members = ms.map fun m => (Json.symbols m.1, m.2) := by
  rw [named?] at h
  induction members generalizing ms with
  | nil =>
    cases h
    rfl
  | cons m members ih =>
    simp only [List.mapM_cons, Option.pure_def, Option.bind_eq_bind, Option.bind_eq_some_iff,
      Option.some.injEq, Option.map_eq_some_iff] at h
    obtain ⟨_, ⟨s, hs, rfl⟩, ms, hms, rfl⟩ := h
    rw [List.map_cons, ← ih hms, ← Json.text?_eq_some_iff.mp hs]

/-- An object whose members are found has names that are texts, and none of a record's twice. -/
theorem members?_object {names : List String} {members : List (List Json.Symbol × Json)}
    {values : List (Option Json)} (h : members? names (.object members) = some values) :
    ∃ ms, members = ms.map (fun m => (Json.symbols m.1, m.2)) ∧
      (∀ n ∈ names, (ms.filter (·.1 = n)).length ≤ 1) ∧
      values = names.map fun n => List.lookup n ms := by
  rw [members?] at h
  obtain ⟨ms, hms, hvalues⟩ := Option.bind_eq_some_iff.mp h
  obtain ⟨hone, hvalues⟩ := (Option.ite_none_right_eq_some ..).mp hvalues
  exact ⟨ms, eq_map_of_named? hms, fun n hn => of_decide_eq_true (List.all_eq_true.mp hone n hn),
    (Option.some.inj hvalues).symm⟩

/-- No name comes twice if none is found twice. -/
theorem not_repeats {names : List String} {ms : List (String × Json)}
    (h : ∀ n ∈ names, (ms.filter (·.1 = n)).length ≤ 1) :
    ¬ Repeats names (ms.map fun m => (Json.symbols m.1, m.2)) := by
  rintro ⟨n, hn, htwo⟩
  have hsame : (fun m : String × Json => decide (Json.symbols m.1 = Json.symbols n)) =
      fun m => decide (m.1 = n) := by
    funext m
    exact decide_eq_decide.mpr ⟨Json.symbols_injective, congrArg Json.symbols⟩
  rw [List.filter_map, List.length_map, Function.comp_def, hsame] at htwo
  have hle := h n hn
  omega

/-- A name that is lacking is not found. -/
theorem lookup_eq_none_of_lacks {ms : List (String × Json)} {n : String}
    (h : ∀ m ∈ ms.map (fun m => (Json.symbols m.1, m.2)), m.1 ≠ Json.symbols n) :
    List.lookup n ms = none := by
  rw [List.lookup_eq_none_iff]
  intro m hm
  have hne := h _ (List.mem_map_of_mem hm)
  simpa using fun hname : n = m.1 => hne (congrArg Json.symbols hname.symm)

/-! ## reading by members -/

/-- Values are read by the members of their records: whichever way those are arranged and spelled, and
not from an object with one of the names of the members more than once, or without one of those that
are required. -/
structure ReadByMembers (α : Type) [Stored α] (names required : List String)
    (parts : α → List Part) : Prop where
  named (a : α) : (parts a).map Part.name = names
  arranged (a : α) : Arranged (parts a) (toJson a)
  read {a : α} {j : Json} {text : String} (h : Arranged (parts a) j) (htext : j.IsTextOf text) :
    read? text = some a
  refused {members : List (List Json.Symbol × Json)} {text : String}
    (h : Repeats names members ∨ Lacks required members)
    (htext : (Json.object members).IsTextOf text) : read? (α := α) text = none

section

variable {α : Type} [Stored α] {names required : List String} {parts : List Part}
  {build : List (Option Json) → Option α} (hofJson : ∀ j, ofJson? j = (members? names j).bind build)

include hofJson

/-- A value that is built of what is found for its parts is read from each arrangement of these. -/
theorem ofJson?_of_arranged {a : α} (hnames : parts.map Part.name = names) (hnodup : names.Nodup)
    (hbuild : ∀ values, List.Forall₂ Part.Fits parts values → build values = some a) {j : Json}
    (h : Arranged parts j) : ofJson? j = some a := by
  subst hnames
  obtain ⟨values, hvalues, hfits⟩ := members?_of_arranged hnodup h
  rw [hofJson, hvalues, Option.bind_some, hbuild values hfits]

/-- An object that repeats a name, or lacks one that is needed, is refused. -/
theorem ofJson?_of_refused
    (hrequired : ∀ (find : String → Option Json), ∀ n ∈ required, find n = none →
      build (names.map find) = none)
    {members : List (List Json.Symbol × Json)} (h : Repeats names members ∨ Lacks required members) :
    ofJson? (α := α) (.object members) = none := by
  rw [hofJson]
  cases hvalues : members? names (.object members) with
  | none => rfl
  | some values =>
    obtain ⟨ms, rfl, hone, rfl⟩ := members?_object hvalues
    obtain ⟨n, hn, hlacks⟩ := h.resolve_left (not_repeats hone)
    exact hrequired _ n hn (lookup_eq_none_of_lacks hlacks)

end

/-- Texts are read as their documents are. -/
theorem read?_of_isTextOf {α : Type} [Stored α] {j : Json} {text : String} (h : j.IsTextOf text) :
    read? (α := α) text = ofJson? j := by
  rw [read?, h.ofChars?, Option.bind_some]

/-! ## the members of each type -/

/-- A member that must be there, as it is written. -/
def Part.required [Stored α] (name : String) (a : α) : Part := ⟨name, (· = toJson a), False⟩

/-- A member as it is written, which may be left out just if it is null. -/
def Part.optional [Stored α] (name : String) (a : Option α) : Part :=
  ⟨name, (· = toJson a), a = none⟩

/-- A value in any of the arrangements of its own members, which must be there. -/
def Part.nested (name : String) (parts : List Part) : Part := ⟨name, Arranged parts, False⟩

/-- A part that must be given is read from what is found for it. -/
theorem Part.required?_of_fits {α : Type} [Stored α] (hlawful : Lawful α) {name : String} {a : α}
    {value : Option Json} (h : (Part.required name a).Fits value) : required? value = some a := by
  cases value with
  | none => exact h.elim
  | some j =>
    cases h
    exact hlawful.required?_toJson a

/-- A part that may be left out is read from what is found for it, if anything is. -/
theorem Part.optional?_of_fits {α : Type} [Stored α] (hlawful : Lawful (Option α)) {name : String}
    {a : Option α} {value : Option Json} (h : (Part.optional name a).Fits value) :
    optional? value = some a := by
  cases value with
  | none =>
    cases h
    rfl
  | some j =>
    cases h
    exact hlawful.optional?_toJson a

/-- An object within the object is read from its own parts. -/
theorem Part.required?_of_nested {α : Type} [Stored α] {name : String} {parts : List Part} {a : α}
    (hread : ∀ {j}, Arranged parts j → ofJson? j = some a) {value : Option Json}
    (h : (Part.nested name parts).Fits value) : required? value = some a := by
  cases value with
  | none => exact h.elim
  | some j => exact hread h

/-- The members of a record of nothing but a host. -/
def hostParts (host : String) : List Part := [.required "host" host]

/-- The members of an entry. -/
def entryParts (e : Entry) : List Part :=
  [.required "entry_id" e.id, .required "version" e.version, .required "title" e.title,
    .required "unique_id" e.uniqueId, .nested "data" (hostParts e.data.host)]

/-- The members of the information on a device. -/
def deviceParts (d : DeviceInfo) : List Part :=
  [.required "identifiers" d.identifiers, .required "name" d.name]

/-- The members of the state of an entity. -/
def stateParts (s : EntityState) : List Part :=
  [.required "unique_id" s.uniqueId, .optional "power" s.power, .optional "is_on" s.isOn]

section

variable {α : Type} [Stored α] {make : String → α} (host : α → String)
  (hofJson : ∀ j, ofJson? j = do
    let [host] ← members? ["host"] j | none
    return make (← required? host))

include hofJson

/-- A record of nothing but a host is read from its arrangements. -/
theorem ofJson?_of_arranged_host (hmake : ∀ a, make (host a) = a) {a : α} {j : Json}
    (h : Arranged (hostParts (host a)) j) : ofJson? j = some a := by
  refine ofJson?_of_arranged hofJson rfl (by simp) ?_ h
  intro values hvalues
  obtain ⟨v, _, hfits, hnil, rfl⟩ := List.forall₂_cons_left_iff.mp hvalues
  obtain rfl := List.forall₂_nil_left_iff.mp hnil
  simp [Part.required?_of_fits lawful_string hfits, hmake]

/-- Without a host, or with two, nothing is read. -/
theorem ofJson?_of_refused_host {members : List (List Json.Symbol × Json)}
    (h : Repeats ["host"] members ∨ Lacks ["host"] members) :
    ofJson? (α := α) (.object members) = none := by
  refine ofJson?_of_refused hofJson ?_ h
  intro find n hn hfind
  obtain rfl := List.mem_singleton.mp hn
  simp [hfind, required?]

/-- A record of nothing but a host is read by its members. -/
theorem readByMembers_of_host (hmake : ∀ a, make (host a) = a)
    (htoJson : ∀ a, toJson a = record [("host", toJson (host a))]) :
    ReadByMembers α ["host"] ["host"] (hostParts ∘ host) where
  named _ := rfl
  arranged a := by
    rw [htoJson]
    exact arranged_record (by simp [hostParts, Part.required])
  read h htext := by
    rw [read?_of_isTextOf htext]
    exact ofJson?_of_arranged_host host hofJson hmake h
  refused h htext := by
    rw [read?_of_isTextOf htext]
    exact ofJson?_of_refused_host hofJson h

end

/-- An entry is read by its members, in any order. -/
theorem readByMembers_entry :
    ReadByMembers Entry ["entry_id", "version", "title", "unique_id", "data"]
      ["entry_id", "version", "title", "unique_id", "data"] entryParts where
  named _ := rfl
  arranged e := by
    have hdata : Arranged (hostParts e.data.host) (toJson e.data) :=
      arranged_record (by simp [hostParts, Part.required])
    exact arranged_record (by simp [entryParts, Part.required, Part.nested, hdata])
  read {e j text} h htext := by
    rw [read?_of_isTextOf htext]
    refine ofJson?_of_arranged (fun _ => rfl) rfl
      (by simp [entryParts, Part.required, Part.nested]) ?_ h
    intro values hvalues
    simp only [entryParts, List.forall₂_cons_left_iff, List.forall₂_nil_left_iff] at hvalues
    obtain ⟨_, _, hid, ⟨_, _, hversion, ⟨_, _, htitle, ⟨_, _, huniqueId, ⟨_, _, hdata, rfl, rfl⟩,
      rfl⟩, rfl⟩, rfl⟩, rfl⟩ := hvalues
    have hread := Part.required?_of_nested (a := e.data)
      (ofJson?_of_arranged_host EntryData.host (fun _ => rfl) fun _ => rfl) hdata
    simp [Part.required?_of_fits lawful_entryId hid, Part.required?_of_fits lawful_uint32 hversion,
      Part.required?_of_fits lawful_string htitle, Part.required?_of_fits lawful_string huniqueId,
      hread]
  refused h htext := by
    rw [read?_of_isTextOf htext]
    refine ofJson?_of_refused (fun _ => rfl) ?_ h
    intro find n hn hfind
    simp only [List.mem_cons, List.not_mem_nil, or_false] at hn
    obtain rfl | rfl | rfl | rfl | rfl := hn <;> simp [hfind, required?]

/-- The description of a device is read by its members, in any order. -/
theorem readByMembers_deviceInfo :
    ReadByMembers DeviceInfo ["identifiers", "name"] ["identifiers", "name"] deviceParts where
  named _ := rfl
  arranged d := arranged_record (by simp [deviceParts, Part.required])
  read {d j text} h htext := by
    rw [read?_of_isTextOf htext]
    refine ofJson?_of_arranged (fun _ => rfl) rfl (by simp [deviceParts, Part.required]) ?_ h
    intro values hvalues
    simp only [deviceParts, List.forall₂_cons_left_iff, List.forall₂_nil_left_iff] at hvalues
    obtain ⟨_, _, hidentifiers, ⟨_, _, hname, rfl, rfl⟩, rfl⟩ := hvalues
    simp [Part.required?_of_fits lawful_identifiers hidentifiers,
      Part.required?_of_fits lawful_string hname]
  refused h htext := by
    rw [read?_of_isTextOf htext]
    refine ofJson?_of_refused (fun _ => rfl) ?_ h
    intro find n hn hfind
    simp only [List.mem_cons, List.not_mem_nil, or_false] at hn
    obtain rfl | rfl := hn <;> simp [hfind, required?]

/-- A state is read by its members, and its power and its being on may be left out. -/
theorem readByMembers_entityState :
    ReadByMembers EntityState ["unique_id", "power", "is_on"] ["unique_id"] stateParts where
  named _ := rfl
  arranged s := arranged_record (by simp [stateParts, Part.required, Part.optional])
  read {s j text} h htext := by
    rw [read?_of_isTextOf htext]
    refine ofJson?_of_arranged (fun _ => rfl) rfl
      (by simp [stateParts, Part.required, Part.optional]) ?_ h
    intro values hvalues
    simp only [stateParts, List.forall₂_cons_left_iff, List.forall₂_nil_left_iff] at hvalues
    obtain ⟨_, _, huniqueId, ⟨_, _, hpower, ⟨_, _, hisOn, rfl, rfl⟩, rfl⟩, rfl⟩ := hvalues
    simp [Part.required?_of_fits lawful_string huniqueId,
      Part.optional?_of_fits lawful_optionPower hpower,
      Part.optional?_of_fits lawful_optionBool hisOn]
  refused h htext := by
    rw [read?_of_isTextOf htext]
    refine ofJson?_of_refused (fun _ => rfl) ?_ h
    intro find n hn hfind
    obtain rfl := List.mem_singleton.mp hn
    simp [hfind, required?]

/-! ## the data of an entry -/

/-- What an entry is given as its data: by name in an object, or as the last item of an array. -/
inductive HasData (data : Json) : Json → Prop where
  | member {members : List (List Json.Symbol × Json)} (h : (Json.symbols "data", data) ∈ members) :
    HasData data (.object members)
  | item {items : List Json} (h : items[4]? = some data) : HasData data (.array items)

/-- No entry is read with data that is refused. -/
theorem ofJson?_entry_of_hasData {data j : Json} (hdata : HasData data j)
    (hrefused : ofJson? (α := EntryData) data = none) : ofJson? (α := Entry) j = none := by
  show (members? ["entry_id", "version", "title", "unique_id", "data"] j >>= _) = none
  cases hvalues : members? ["entry_id", "version", "title", "unique_id", "data"] j with
  | none => rfl
  | some values =>
    have hrequired : required? (α := EntryData) (some data) = none := hrefused
    cases hdata with
    | member h =>
      obtain ⟨ms, rfl, hone, rfl⟩ := members?_object hvalues
      obtain ⟨⟨n, d⟩, hm, heq⟩ := List.mem_map.mp h
      obtain ⟨hn, rfl⟩ := Prod.mk.inj heq
      obtain rfl := Json.symbols_injective hn
      have hlookup := lookup_of_mem_of_length_filter_le_one (hone "data" (by simp)) hm
      simp [hlookup, hrequired]
    | @item items h =>
      obtain ⟨hlength, hvalues⟩ := (Option.ite_none_right_eq_some ..).mp hvalues
      obtain ⟨a, b, c, d, e, rfl⟩ : ∃ a b c d e, items = [a, b, c, d, e] := by
        simpa [List.length_eq_succ_iff, eq_comm] using hlength
      cases h
      cases hvalues
      simp [hrequired]

/-! ## all types -/

/-- Entries and what they are made of, the owner's input, the information on a device and the state of
an entity are read by their members, and so is the data within an entry. -/
theorem readByMembers_stored :
    ReadByMembers Entry ["entry_id", "version", "title", "unique_id", "data"]
        ["entry_id", "version", "title", "unique_id", "data"] entryParts ∧
      ReadByMembers EntryData ["host"] ["host"] (hostParts ∘ EntryData.host) ∧
      ReadByMembers UserInput ["host"] ["host"] (hostParts ∘ UserInput.host) ∧
      ReadByMembers DeviceInfo ["identifiers", "name"] ["identifiers", "name"] deviceParts ∧
      ReadByMembers EntityState ["unique_id", "power", "is_on"] ["unique_id"] stateParts ∧
      ∀ {members : List (List Json.Symbol × Json)} {j : Json} {text : String},
        Repeats ["host"] members ∨ Lacks ["host"] members → HasData (.object members) j →
          j.IsTextOf text → read? (α := Entry) text = none := by
  refine ⟨readByMembers_entry, readByMembers_of_host _ (fun _ => rfl) (fun _ => rfl) fun _ => rfl,
    readByMembers_of_host _ (fun _ => rfl) (fun _ => rfl) fun _ => rfl, readByMembers_deviceInfo,
    readByMembers_entityState, ?_⟩
  intro members j text h hdata htext
  rw [read?_of_isTextOf htext]
  exact ofJson?_entry_of_hasData hdata (ofJson?_of_refused_host (fun _ => rfl) h)

/-- A state with a member that is not known in front of its only one, and an entry whose data has a
member twice. -/
theorem readByMembers_stored_more :
    let entry := record [("entry_id", .ofString "00000000-0000-4000-8000-000000000000"),
      ("version", .ofInt 1), ("title", .ofString "t"), ("unique_id", .ofString "u"),
      ("data", record [("host", .ofString "a"), ("host", .ofString "a")])]
    read? " \x7b \"more\": [[],\x7b\"power\":1\x7d] ,\"unique_id\":\"a\" \x7d\n" =
        some (⟨"a", none, none⟩ : EntityState) ∧
      read? (α := Entry) (String.ofList entry.chars) = none := by
  intro entry
  let more : Json := .array [.array [], record [("power", .ofInt 1)]]
  have hmore : more.IsWritten := by
    refine Json.isWritten_array ?_
    simp only [List.mem_cons, List.not_mem_nil, or_false, forall_eq_or_imp, forall_eq]
    exact ⟨Json.isWritten_array (by simp), isWritten_record (by simp [Json.isWritten_ofInt])⟩
  have harranged : Arranged (stateParts ⟨"a", none, none⟩)
      (record [("more", more), ("unique_id", .ofString "a")]) :=
    @Arranged.object _ [.required "unique_id" "a"] [("unique_id", .ofString "a")] [("more", more)] _
      (by simp [stateParts])
      (by simp [stateParts, Part.required, Part.optional])
      (by simp [Part.required, toJson]) (by simp [stateParts, Part.required, Part.optional])
      (List.Perm.swap ..)
  have htext : (record [("more", more), ("unique_id", .ofString "a")]).IsTextOf
      " \x7b \"more\": [[],\x7b\"power\":1\x7d] ,\"unique_id\":\"a\" \x7d\n" := by
    let members : List Json.Member :=
      [⟨[' '], Json.stringChars (Json.symbols "more"), [], Json.symbols "more",
          ⟨[' '], more.chars, [' '], more⟩⟩,
        ⟨[], Json.stringChars (Json.symbols "unique_id"), [], Json.symbols "unique_id",
          ⟨[], (Json.ofString "a").chars, [' '], .ofString "a"⟩⟩]
    have hspells := @Json.Spells.object (fun c => Json.isSpace c) members
      (by simp [members]) (by simp [members, Json.isSpace]) (by simp [members, Json.isSpace])
      (by simp [members, Json.spellsString_symbols])
      (by simp [members, hmore.spells, (Json.isWritten_ofString "a").spells])
    exact ⟨[' '], _, ['\n'], by simp [Json.isSpace], by simp [Json.isSpace], hspells,
      by decide +kernel⟩
  have hentry : entry.IsTextOf (String.ofList entry.chars) := by
    refine (isWritten_record ?_).isTextOf
    have hdata : (record [("host", .ofString "a"), ("host", .ofString "a")]).IsWritten :=
      isWritten_record (by simp [Json.isWritten_ofString])
    simp [Json.isWritten_ofString, Json.isWritten_ofInt, hdata]
  have hrepeats : Repeats ["host"]
      [(Json.symbols "host", .ofString "a"), (Json.symbols "host", .ofString "a")] :=
    ⟨"host", by simp, by simp⟩
  have hdata : HasData (.object [(Json.symbols "host", .ofString "a"),
      (Json.symbols "host", .ofString "a")]) entry := .member (by simp [record])
  exact ⟨readByMembers_stored.2.2.2.2.1.read harranged htext,
    readByMembers_stored.2.2.2.2.2 (.inl hrepeats) hdata hentry⟩

end Stored
end Greenhouse
