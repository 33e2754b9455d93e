import Greenhouse.Host
import Greenhouse.Text.Utf8

/-!
# Greenhouse.DeviceInfo

What tells one device from another: its identifiers, and the name to show.

Identifiers are pairs of a namespace and a text.  They form a set, kept in ascending order of the
UTF-8 bytes of the namespace and then of the text.

* `mem_insert` — inserting adds exactly the pair.
-/

namespace Greenhouse

open Greenhouse.Text

/-- A namespace and a text in it. -/
abbrev Identifier : Type := String × String

namespace Identifier

/-- The bytes that order texts. -/
def bytes (s : String) : List UInt8 := Utf8.encode s.toList

/-- The order of identifiers. -/
def lt (p q : Identifier) : Prop := bytes p.1 < bytes q.1 ∨ p.1 = q.1 ∧ bytes p.2 < bytes q.2

instance (p q : Identifier) : Decidable (lt p q) := by unfold lt; infer_instance

/-- Texts are told apart by their bytes. -/
theorem bytes_injective {s t : String} (h : bytes s = bytes t) : s = t := by
  have := congrArg Utf8.decodeLossy h
  simpa [bytes, String.toList_inj] using this

/-- Any two texts are in order, the same, or in reverse order. -/
theorem bytes_trichotomy (s t : String) : bytes s < bytes t ∨ s = t ∨ bytes t < bytes s := by
  by_cases h : bytes s < bytes t
  · exact .inl h
  · by_cases h' : bytes t < bytes s
    · exact .inr (.inr h')
    · refine .inr (.inl (bytes_injective ?_))
      exact List.le_antisymm (List.not_lt.mp h') (List.not_lt.mp h)

/-- Of two different identifiers one comes before the other. -/
theorem lt_trichotomy (p q : Identifier) : lt p q ∨ p = q ∨ lt q p := by
  rcases bytes_trichotomy p.1 q.1 with h | h | h
  · exact .inl (.inl h)
  · rcases bytes_trichotomy p.2 q.2 with h' | h' | h'
    · exact .inl (.inr ⟨h, h'⟩)
    · exact .inr (.inl (Prod.ext h h'))
    · exact .inr (.inr (.inr ⟨h.symm, h'⟩))
  · exact .inr (.inr (.inl h))

/-- What comes before an earlier identifier comes before a later one. -/
theorem lt_trans {p q r : Identifier} (hpq : lt p q) (hqr : lt q r) : lt p r := by
  rcases hpq with h | ⟨h, h'⟩
  · rcases hqr with k | ⟨k, _⟩
    · exact .inl (List.lt_trans h k)
    · exact .inl (k ▸ h)
  · rcases hqr with k | ⟨k, k'⟩
    · exact .inl (h ▸ k)
    · exact .inr ⟨h.trans k, List.lt_trans h' k'⟩

end Identifier

/-- A set of identifiers. -/
structure Identifiers where
  toList : List Identifier
  ascending : toList.Pairwise Identifier.lt
deriving DecidableEq

namespace Identifiers

/-- No identifier. -/
def empty : Identifiers := ⟨[], .nil⟩

/-- Puts an identifier where it belongs in an ascending list. -/
def insertInto (p : Identifier) : List Identifier → List Identifier
  | [] => [p]
  | q :: qs =>
    if p = q then q :: qs else if Identifier.lt p q then p :: q :: qs else q :: insertInto p qs

/-- An identifier is put in, and nothing is lost. -/
theorem mem_insertInto {p q : Identifier} {qs : List Identifier} :
    q ∈ insertInto p qs ↔ q = p ∨ q ∈ qs := by
  induction qs with
  | nil => simp [insertInto]
  | cons r rs ih =>
    unfold insertInto
    split
    · next h => subst h; simp
    · split
      · simp
      · simp only [List.mem_cons, ih]
        constructor <;> (rintro (h | h | h) <;> simp [h])

/-- Identifiers in order stay in order. -/
theorem ascending_insertInto {p : Identifier} {qs : List Identifier}
    (h : qs.Pairwise Identifier.lt) : (insertInto p qs).Pairwise Identifier.lt := by
  induction qs with
  | nil => simp [insertInto]
  | cons q qs ih =>
    have ⟨hq, hqs⟩ := List.pairwise_cons.mp h
    unfold insertInto
    split
    · exact h
    · next hne =>
      split
      · next hlt =>
        refine List.pairwise_cons.mpr ⟨fun r hr => ?_, h⟩
        rcases List.mem_cons.mp hr with rfl | hr
        · exact hlt
        · exact Identifier.lt_trans hlt (hq r hr)
      · next hnlt =>
        refine List.pairwise_cons.mpr ⟨fun r hr => ?_, ih hqs⟩
        rcases mem_insertInto.mp hr with rfl | hr
        · exact ((Identifier.lt_trichotomy r q).resolve_left hnlt).resolve_left hne
        · exact hq r hr

/-- Adds an identifier. -/
def insert (p : Identifier) (s : Identifiers) : Identifiers :=
  ⟨insertInto p s.toList, ascending_insertInto s.ascending⟩

/-- The set of the identifiers in a list. -/
def ofList (ps : List Identifier) : Identifiers := ps.foldl (fun s p => s.insert p) empty

/-- A set has the new identifier and those it had. -/
theorem mem_insert {p q : Identifier} {s : Identifiers} :
    q ∈ (s.insert p).toList ↔ q = p ∨ q ∈ s.toList := mem_insertInto

end Identifiers

/-- What tells one device from another. -/
structure DeviceInfo where
  identifiers : Identifiers
  name : String
deriving DecidableEq

/-- The information on the device at a host. -/
def DeviceInfo.ofHost (host : String) : DeviceInfo :=
  ⟨.ofList [("id", Host.baseId host)], "PlantCare [" ++ host ++ "]"⟩

end Greenhouse
