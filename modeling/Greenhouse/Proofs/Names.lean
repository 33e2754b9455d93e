import Greenhouse.Proofs.Address

/-!
# Greenhouse.Proofs.Names

Plain names: hosts in ASCII that hold nothing but what a domain name may hold.

Such a name needs none of the tables.  Its capital letters become small, and it has channels unless it
ends in a number and is no address.

* `toAscii?_of_plain` — the ASCII form of a plain name.
* `hasChannels_of_plain` — a plain name that is a machine has channels.
-/

namespace Greenhouse

open Greenhouse.Text

namespace Domain

/-- Whether a name is plain: no label of it comes with the mark of Punycode, and it holds only what a
domain name in ASCII may hold. -/
def isPlain (cs : List Char) : Bool :=
  cs.all isAllowed &&
    (pieces (· == '.') (cs.map Char.toLower)).all fun label => !Label.mark.isPrefixOf label

/-- What holds of all ASCII characters holds of each. -/
theorem of_forall_ascii {P : Char → Prop} (h : ∀ n < 0x80, P (Char.ofNat n)) {c : Char}
    (hc : c.toNat < 0x80) : P c := by
  have := h c.toNat hc
  rwa [Char.ofNat_toNat] at this

theorem lt_of_isAllowed {c : Char} (h : isAllowed c) : c.toNat < 0x80 := by
  simp only [isAllowed, Bool.and_eq_true, decide_eq_true_eq] at h
  omega

/-- A small letter is allowed where its capital is. -/
theorem isAllowed_toLower {c : Char} (h : isAllowed c) : isAllowed c.toLower :=
  of_forall_ascii (P := fun c => isAllowed c → isAllowed c.toLower) (by decide) (lt_of_isAllowed h) h

/-- What a domain name may hold separates no segments and may stand in a bare address. -/
theorem isBare_of_isAllowed {c : Char} (h : isAllowed c) :
    Host.isBare c ∧ Url.Path.isSeparator c = false ∧ c ≠ '%' ∧ c ≠ ':' ∧ c ≠ '[' ∧ c ≠ ']' :=
  of_forall_ascii (P := fun c => isAllowed c → Host.isBare c ∧ Url.Path.isSeparator c = false ∧
    c ≠ '%' ∧ c ≠ ':' ∧ c ≠ '[' ∧ c ≠ ']') (by decide) (lt_of_isAllowed h) h

theorem mapM_ofMapped?_of_ascii {labels : List (List Char)}
    (hmark : ∀ cs ∈ labels, Label.mark.isPrefixOf cs = false)
    (hascii : ∀ cs ∈ labels, ∀ c ∈ cs, isAscii c) :
    labels.mapM Label.ofMapped? = some (labels.map fun cs => ⟨cs, cs⟩) := by
  induction labels with
  | nil => rfl
  | cons cs labels ih =>
    rw [List.mapM_cons, Label.ofMapped?_of_ascii (hmark cs (by simp)) (hascii cs (by simp)),
      ih (fun ds hds => hmark ds (by simp [hds])) fun ds hds => hascii ds (by simp [hds])]
    rfl

/-- A plain name becomes itself in lower case. -/
theorem toAscii?_of_plain {cs : List Char} (h : isPlain cs) :
    toAscii? cs = some (cs.map Char.toLower) := by
  obtain ⟨hallowed, hmark⟩ := Bool.and_eq_true_iff.mp h
  rw [List.all_eq_true] at hallowed hmark
  have hlower : ∀ c ∈ cs.map Char.toLower, isAllowed c := by
    intro c hc
    obtain ⟨d, hd, rfl⟩ := List.mem_map.mp hc
    exact isAllowed_toLower (hallowed d hd)
  -- every label is its own label
  have hlabel : ∀ label ∈ pieces (· == '.') (cs.map Char.toLower), ∀ c ∈ label,
      c.toNat < 0x80 := by
    intro label hlabel c hc
    exact lt_of_isAllowed (hlower c (mem_of_mem_pieces hlabel hc))
  have hlabels := mapM_ofMapped?_of_ascii (fun label hl => by simpa using hmark label hl)
    (fun label hl c hc => decide_eq_true (hlabel label hl c hc))
  have hself : (pieces (· == '.') (cs.map Char.toLower)).map (Label.text ∘ fun cs => ⟨cs, cs⟩) =
      pieces (· == '.') (cs.map Char.toLower) := List.map_id _
  have hascii : (pieces (· == '.') (cs.map Char.toLower)).map (Label.ascii ∘ fun cs => ⟨cs, cs⟩) =
      pieces (· == '.') (cs.map Char.toLower) := List.map_id _
  rw [toAscii?, Mapping.map?_of_ascii fun c hc => lt_of_isAllowed (hallowed c hc)]
  simp only [Option.bind_eq_bind, Option.bind_some, hlabels, List.map_map, hself, hascii, join_pieces,
    directionsAgree_of_ascii hlabel, List.all_eq_true.mpr hlower, Bool.and_self, if_true]

end Domain

namespace Url

/-- A plain name is a machine by itself. -/
theorem hostAndPort_of_plain {cs : List Char} (h : Domain.isPlain cs) (hne : cs ≠ []) :
    hostAndPort cs = (Host.ofAscii (cs.map Char.toLower)).map fun m => (m, none) := by
  have hallowed := List.all_eq_true.mp (Bool.and_eq_true_iff.mp h).1
  have hsplit : ∀ {ds : List Char}, (∀ c ∈ ds, c ≠ ':' ∧ c ≠ '[' ∧ c ≠ ']') →
      splitPort false ds = (ds, []) := by
    intro ds hds
    induction ds with
    | nil => rfl
    | cons d ds ih =>
      obtain ⟨hcolon, hopen, hclose⟩ := hds d (by simp)
      simp [splitPort, hcolon, hopen, hclose, ih fun c hc => hds c (by simp [hc])]
  have hpercent : '%' ∉ cs := fun hmem => (Domain.isBare_of_isAllowed (hallowed _ hmem)).2.2.1 rfl
  have hparse : Host.parse cs = Host.ofAscii (cs.map Char.toLower) := by
    unfold Host.parse
    split
    · next cs => exact absurd rfl (Domain.isBare_of_isAllowed (hallowed '[' (by simp))).2.2.2.2.1
    · rw [Percent.decode?_of_not_mem hpercent, Option.bind_some, Domain.toAscii?_of_plain h]
  rw [hostAndPort, hsplit fun c hc => (Domain.isBare_of_isAllowed (hallowed c hc)).2.2.2, ← hparse]
  simp only [List.isEmpty_eq_false_iff.mpr hne]
  cases Host.parse cs <;> rfl

end Url

/-- A plain name that is a machine has channels. -/
theorem Host.hasChannels_of_plain {host : String} (h : Domain.isPlain host.toList)
    (hne : host.toList ≠ []) {m : Url.Host}
    (hm : Url.Host.ofAscii (host.toList.map Char.toLower) = .ok m) : hasChannels host := by
  have hallowed := List.all_eq_true.mp (Bool.and_eq_true_iff.mp h).1
  have hseparator : ∀ c ∈ host.toList, (! Url.Path.isSeparator c) = true :=
    fun c hc => by simp [(Domain.isBare_of_isAllowed (hallowed c hc)).2.1]
  have hdrop : host.toList.dropWhile Url.Path.isSeparator = host.toList := by
    cases hcs : host.toList with
    | nil => rfl
    | cons c cs =>
      have hc := hseparator c (by simp [hcs])
      rw [List.dropWhile_cons_of_neg (by simpa using hc)]
  rw [hasChannels_iff]
  have hbare : ∀ c ∈ host.toList, isBare c :=
    fun c hc => (Domain.isBare_of_isAllowed (hallowed c hc)).1
  refine ⟨check_eq_ok_iff.mpr ⟨hne, hbare⟩, ?_, ?_⟩
  · rw [authority, hdrop, List.takeWhile_eq_self_iff.mpr hseparator,
      Url.hostAndPort_of_plain h hne, hm]
    exact ⟨_, rfl⟩
  · rw [strays, hdrop, List.dropWhile_eq_nil_iff.mpr hseparator]
    rfl

end Greenhouse
