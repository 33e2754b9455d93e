import Greenhouse.Adapter

/-!
# Greenhouse.Proofs.Identity

When identifiers coincide.

The identifier of an entity has three parts between dots: the name of the system, the host with its
dots replaced, and what kind of entity it is.  No part holds a dot, so that each is found again.

* `idAt_eq_iff` — when the identifiers of two entities coincide.
* `identifiers_ofHost_eq_iff` — when those of two devices do.
-/

namespace Greenhouse

open Greenhouse.Text

namespace Host

/-- No dot is left in the host of an identifier. -/
theorem dot_not_mem_undotted (host : String) : '.' ∉ (undotted host).toList := by
  simp only [undotted, String.toList_ofList, List.mem_map, not_exists, not_and]
  intro c _
  split
  · decide
  · assumption

/-- The beginning of an identifier gives away the host but for its dots. -/
theorem baseId_eq_iff {h h' : String} : baseId h = baseId h' ↔ undotted h = undotted h' := by
  constructor
  · intro heq
    have hlist := congrArg String.toList heq
    simp only [baseId, String.toList_append] at hlist
    exact String.toList_inj.mp (List.append_cancel_left hlist)
  · intro heq
    rw [baseId, baseId, heq]

end Host

namespace Adapter

/-- No suffix holds a dot. -/
theorem Kind.dot_not_mem_suffix (k : Kind) : '.' ∉ k.suffix.toList := by
  cases k <;> decide

/-- Kinds are told apart by their suffix. -/
theorem Kind.suffix_injective {k k' : Kind} (h : k.suffix = k'.suffix) : k = k' := by
  cases k <;> cases k' <;> first | rfl | exact absurd h (by decide)

/-- The parts of an identifier. -/
def idParts (host : String) (kind : Kind) : List (List Char) :=
  [Host.domain.toList, (Host.undotted host).toList, kind.suffix.toList]

/-- An identifier is its parts, with dots between them. -/
theorem toList_idAt (host : String) (kind : Kind) :
    (idAt host kind).toList = join '.' (idParts host kind) := by
  simp [idAt, Host.baseId, idParts, join]

/-- The parts of an identifier are found again. -/
theorem pieces_idAt (host : String) (kind : Kind) :
    pieces (· == '.') (idAt host kind).toList = idParts host kind := by
  rw [toList_idAt, pieces_join (by simp [idParts])]
  intro part hpart c hc
  rw [beq_eq_false_iff_ne]
  rintro rfl
  simp only [idParts, List.mem_cons, List.not_mem_nil, or_false] at hpart
  obtain rfl | rfl | rfl := hpart
  · exact absurd hc (by decide)
  · exact Host.dot_not_mem_undotted host hc
  · exact kind.dot_not_mem_suffix hc

/-- Two identifiers agree exactly if the kinds do, and the hosts but for their dots. -/
theorem idAt_eq_iff {h h' : String} {k k' : Kind} :
    idAt h k = idAt h' k' ↔ k = k' ∧ Host.undotted h = Host.undotted h' := by
  constructor
  · intro heq
    have hparts : idParts h k = idParts h' k' := by rw [← pieces_idAt, ← pieces_idAt, heq]
    simp only [idParts, List.cons.injEq, and_true, true_and] at hparts
    obtain ⟨hhost, hkind⟩ := hparts
    exact ⟨Kind.suffix_injective (String.toList_inj.mp hkind), String.toList_inj.mp hhost⟩
  · rintro ⟨rfl, hhost⟩
    rw [idAt, idAt, Host.baseId_eq_iff.mpr hhost]

end Adapter

/-- Two hosts are the same appliance exactly if they agree but for their dots. -/
theorem DeviceInfo.identifiers_ofHost_eq_iff {h h' : String} :
    (ofHost h).identifiers = (ofHost h').identifiers ↔ Host.undotted h = Host.undotted h' := by
  rw [← Host.baseId_eq_iff]
  constructor
  · intro heq
    have hlist : [(("id", Host.baseId h) : Identifier)] = [("id", Host.baseId h')] :=
      congrArg Identifiers.toList heq
    exact (Prod.mk.inj (List.cons.inj hlist).1).2
  · intro heq
    rw [ofHost, ofHost, heq]

end Greenhouse
