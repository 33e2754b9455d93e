import Greenhouse.Proofs.Members

/-!
# Greenhouse.Proofs.Identifiers

The identifiers of a device are a set: neither the order in which they are listed counts, nor how often.

What is read from a list is in ascending order and without repetitions, and of all lists with the same
members there is just one like that.  So it is one text that is written for all of them.

* `Identifiers.ofList_eq_ofList_iff` — lists give the same set just if they have the same members.
* `exists_write_eq_iff_of_lists` — the same of the texts that hold them, and what is written for one.
-/

namespace Greenhouse

namespace Identifiers

/-! ## sets and lists -/

/-- A set has what it had and all that is put in. -/
theorem mem_foldl_insert {ps : List Identifier} {s : Identifiers} {p : Identifier} :
    p ∈ (ps.foldl (fun s p => s.insert p) s).toList ↔ p ∈ s.toList ∨ p ∈ ps := by
  induction ps generalizing s with
  | nil => simp
  | cons q ps ih =>
    rw [List.foldl_cons, ih, mem_insert, List.mem_cons]
    constructor
    · rintro ((h | h) | h)
      · exact .inr (.inl h)
      · exact .inl h
      · exact .inr (.inr h)
    · rintro (h | h | h)
      · exact .inl (.inr h)
      · exact .inl (.inl h)
      · exact .inr h

/-- A set has the members of the list that it is made of. -/
theorem mem_ofList {ps : List Identifier} {p : Identifier} : p ∈ (ofList ps).toList ↔ p ∈ ps := by
  rw [ofList, mem_foldl_insert]
  simp [empty]

/-- Nothing is in a set twice. -/
theorem nodup_toList (s : Identifiers) : s.toList.Nodup := by
  refine s.ascending.imp ?_
  rintro p _ hlt rfl
  exact Identifier.lt_irrefl p hlt

/-- A set is known by its members, since no two of them can come in either order. -/
theorem eq_of_mem_iff {s t : Identifiers} (h : ∀ p, p ∈ s.toList ↔ p ∈ t.toList) : s = t := by
  have hperm : s.toList.Perm t.toList :=
    (List.perm_ext_iff_of_nodup s.nodup_toList t.nodup_toList).mpr h
  have hantisymm : ∀ p q, p ∈ s.toList → q ∈ t.toList → Identifier.lt p q → Identifier.lt q p → p = q :=
    fun p _ _ _ hpq hqp => absurd (Identifier.lt_trans hpq hqp) (Identifier.lt_irrefl p)
  exact ext (hperm.eq_of_pairwise hantisymm s.ascending t.ascending)

/-- Lists give the same set just if they have the same members. -/
theorem ofList_eq_ofList_iff {ps qs : List Identifier} :
    ofList ps = ofList qs ↔ ∀ p, p ∈ ps ↔ p ∈ qs := by
  constructor
  · intro h p
    rw [← mem_ofList, h, mem_ofList]
  · intro h
    apply eq_of_mem_iff
    intro p
    rw [mem_ofList, mem_ofList, h]

/-- Each member of a list is once in the set that is made of it. -/
theorem count_ofList (ps : List Identifier) (p : Identifier) :
    (ofList ps).toList.count p = if p ∈ ps then 1 else 0 := by
  split
  · next h => exact List.count_eq_one_of_mem (nodup_toList _) (mem_ofList.mpr h)
  · next h => exact List.count_eq_zero.mpr fun hmem => h (mem_ofList.mp hmem)

end Identifiers

namespace Stored

/-! ## texts with lists -/

/-- The members of the information on a device, with any list as its identifiers. -/
def listParts (ps : List Identifier) (name : String) : List Part :=
  [⟨"identifiers", (· = .array (ps.map toJson)), False⟩, .required "name" name]

/-- Whether a text is a record with a list of identifiers and a name. -/
def Lists (ps : List Identifier) (name text : String) : Prop :=
  ∃ j, Arranged (listParts ps name) j ∧ j.IsTextOf text

/-- What is read from a list has the set that is made of it. -/
theorem read?_of_lists {ps : List Identifier} {name text : String} (h : Lists ps name text) :
    read? text = some (⟨.ofList ps, name⟩ : DeviceInfo) := by
  obtain ⟨j, harranged, htext⟩ := h
  rw [read?_of_isTextOf htext]
  refine ofJson?_of_arranged (fun _ => rfl) rfl (by simp [listParts, Part.required]) ?_ harranged
  intro values hvalues
  simp only [listParts, List.forall₂_cons_left_iff, List.forall₂_nil_left_iff] at hvalues
  obtain ⟨value, _, hlist, ⟨_, _, hname, rfl, rfl⟩, rfl⟩ := hvalues
  have hidentifiers : required? value = some (Identifiers.ofList ps) := by
    cases value with
    | none => exact hlist.elim
    | some j =>
      cases hlist
      show ((ps.map toJson).mapM ofJson?).map Identifiers.ofList = some (Identifiers.ofList ps)
      rw [lawful_identifier.mapM_toJson, Option.map_some]
  simp [hidentifiers, Part.required?_of_fits lawful_string hname]

/-- The compact text with a list. -/
def listText (ps : List Identifier) (name : String) : String :=
  String.ofList (record [("identifiers", .array (ps.map toJson)), ("name", toJson name)]).chars

/-- A list of identifiers has a text. -/
theorem lists_listText (ps : List Identifier) (name : String) : Lists ps name (listText ps name) := by
  have hlist : (Json.array (ps.map toJson)).IsWritten :=
    Json.isWritten_array (List.forall_mem_map.mpr fun p _ => lawful_identifier.isWritten p)
  refine ⟨_, arranged_record ?_, (isWritten_record ?_).isTextOf⟩
  · simp [listParts, Part.required]
  · simp [hlist, lawful_string.isWritten name]

/-- What is read from two texts with lists is the same, and is written as the same text, just if the
names are the same and so are the members of the lists.  Each of these is written once, and they are in
ascending order. -/
theorem exists_write_eq_iff_of_lists {ps ps' : List Identifier} {name name' text text' : String}
    (h : Lists ps name text) (h' : Lists ps' name' text') :
    ∃ d d' : DeviceInfo, read? text = some d ∧ read? text' = some d' ∧
      (d = d' ↔ name = name' ∧ ∀ p, p ∈ ps ↔ p ∈ ps') ∧
      (write d = write d' ↔ name = name' ∧ ∀ p, p ∈ ps ↔ p ∈ ps') ∧
      ∃ qs : List Identifier, write d = listText qs name ∧ qs.Pairwise Identifier.lt ∧
        ∀ p, qs.count p = if p ∈ ps then 1 else 0 := by
  have heq : (⟨.ofList ps, name⟩ : DeviceInfo) = ⟨.ofList ps', name'⟩ ↔
      name = name' ∧ ∀ p, p ∈ ps ↔ p ∈ ps' := by
    rw [DeviceInfo.mk.injEq, Identifiers.ofList_eq_ofList_iff, and_comm]
  refine ⟨_, _, read?_of_lists h, read?_of_lists h', heq, ?_, (Identifiers.ofList ps).toList, rfl,
    (Identifiers.ofList ps).ascending, Identifiers.count_ofList ps⟩
  rw [← heq]
  constructor
  · intro hwrite
    have hread := congrArg (read? (α := DeviceInfo)) hwrite
    rw [lawful_deviceInfo.read?_write, lawful_deviceInfo.read?_write] at hread
    exact Option.some.inj hread
  · exact congrArg write

/-- Two identifiers whose order is another by their numbers of sixteen bits than by their bytes, one of
them listed again. -/
theorem exists_write_eq_iff_of_lists_again :
    ∃ d d' : DeviceInfo, read? (listText [("🌱", "a"), ("～", "b"), ("🌱", "a")] "n") = some d ∧
      read? (listText [("～", "b"), ("🌱", "a")] "n") = some d' ∧ d = d' ∧ write d = write d' ∧
      ∃ qs : List Identifier, write d = listText qs "n" ∧ qs.Pairwise Identifier.lt ∧
        qs.count ("🌱", "a") = 1 := by
  obtain ⟨d, d', hread, hread', heq, hwrite, qs, hqs, hascending, hcount⟩ :=
    exists_write_eq_iff_of_lists (lists_listText [("🌱", "a"), ("～", "b"), ("🌱", "a")] "n")
      (lists_listText [("～", "b"), ("🌱", "a")] "n")
  have hsame : ∀ p : Identifier, p ∈ [("🌱", "a"), ("～", "b"), ("🌱", "a")] ↔
      p ∈ [("～", "b"), ("🌱", "a")] := by
    intro p
    simp only [List.mem_cons, List.not_mem_nil, or_false]
    constructor
    · rintro (h | h | h)
      · exact .inr h
      · exact .inl h
      · exact .inr h
    · rintro (h | h)
      · exact .inr (.inl h)
      · exact .inl h
  exact ⟨d, d', hread, hread', heq.mpr ⟨rfl, hsame⟩, hwrite.mpr ⟨rfl, hsame⟩, qs, hqs, hascending,
    hcount _⟩

end Stored

end Greenhouse
