import Greenhouse.Proofs.Identity
import Greenhouse.Proofs.Refusals

/-!
# Greenhouse.Proofs.Hosts

What the host alone decides.

A channel has an index besides its host, and an adapter has a kind.  Whether there is a channel is up to
the host and not to the index, so that a device never gets its first channel without its second.  What
tells the adapters of one device apart is their kind, and nothing of two hosts but their dots is lost in
the identifiers.

* `open?_any_index` — a host has all channels or none, and a device is set up just if it has one.
* `ids_coincide_iff` — when the identifiers of two adapters coincide.
-/

namespace Greenhouse

open Dialogue

/-! ## channels -/

/-- A device has its second channel if it has the first. -/
theorem Fittings.atHost_of_open? {host : String} {light : Channel}
    (hlight : Channel.open? host Role.light.index = .ok light) :
    ∃ pump, Channel.open? host Role.waterPump.index = .ok pump ∧
      atHost host = .ok ⟨.new .light light, .new .pump pump, .new .level pump⟩ := by
  obtain ⟨pump, hpump⟩ := Channel.exists_open?_iff.mpr (Channel.exists_open?_iff.mp ⟨light, hlight⟩)
  exact ⟨pump, hpump, atHost_eq_ok_iff.mpr ⟨light, pump, hlight, hpump, rfl⟩⟩

/-- A host has a channel of one index if it has one of any other.  So the second channel of a device
never fails behind the first.  A device that is not set up yet is set up just if its host has a channel,
whichever it is, and if it is refused, then for what is wrong with the first channel. -/
theorem Channel.open?_any_index (host : String) (i j : UInt32) :
    ((∃ c, open? host i = .ok c) ↔ ∃ c, open? host j = .ok c) ∧
      (∀ light, open? host Role.light.index = .ok light →
        ∃ pump, open? host Role.waterPump.index = .ok pump ∧
          Fittings.atHost host = .ok ⟨.new .light light, .new .pump pump, .new .level pump⟩) ∧
      ∀ (h : House) (entry : Entry), entry.data.host = host → h.registry.find? entry.id = none →
        ((∃ d h', (h.setUp (.ok ()) entry).value? = some (.ok d, h')) ↔
            ∃ c, open? host i = .ok c) ∧
          ∀ e, open? host Role.light.index = .error e →
            (h.setUp (.ok ()) entry).value? = some (.error e, h) := by
  refine ⟨?_, fun light hlight => Fittings.atHost_of_open? hlight, fun h entry hhost hfind => ?_⟩
  · rw [exists_open?_iff, exists_open?_iff]
  · constructor
    · rw [House.exists_setUp_iff, exists_open?_iff, hhost]
      simp only [hfind, true_and]
    · intro e he
      refine House.value?_setUp_of_error ?_
      rw [Registry.fittings?_of_find?_eq_none hfind, hhost, Fittings.atHost, he]
      rfl

/-- A backslash with a dot behind it adds nothing to the path, so that the device is set up; with a name
behind it, it does. -/
theorem Channel.open?_any_index_backslash :
    ((∃ c, open? "h\\." 7 = .ok c) ∧ ∃ d h',
        (House.empty.setUp (.ok ()) (Enrolment.newEntry ⟨0⟩ "h\\.")).value? = some (.ok d, h')) ∧
      (¬ ∃ c, open? "h\\x" 7 = .ok c) ∧ ¬ ∃ d h',
        (House.empty.setUp (.ok ()) (Enrolment.newEntry ⟨0⟩ "h\\x")).value? = some (.ok d, h') := by
  have hdot : ∃ c, open? "h\\." 0 = .ok c := by
    have hmachine : Url.hostAndPort (Host.authority "h\\.") = .ok (.domain ['h'], none) :=
      Url.hostAndPort_of_plain (by decide) (by decide)
    exact exists_open?_iff.mpr (Host.hasChannels_iff.mpr ⟨by decide, ⟨_, hmachine⟩, by decide⟩)
  have hname : ¬ ∃ c, open? "h\\x" 0 = .ok c := by
    rw [exists_open?_iff, Host.hasChannels_iff]
    exact fun h => absurd h.2.2 (by decide)
  obtain ⟨hseven, -, hset⟩ := open?_any_index "h\\." 7 0
  obtain ⟨hseven', -, hset'⟩ := open?_any_index "h\\x" 7 0
  rw [(hset .empty (Enrolment.newEntry ⟨0⟩ "h\\.") rfl rfl).1,
    (hset' .empty (Enrolment.newEntry ⟨0⟩ "h\\x") rfl rfl).1, hseven, hseven']
  exact ⟨⟨hdot, hdot⟩, hname, hname⟩

/-! ## identifiers -/

namespace Adapter

/-- Whether an adapter is on a channel of a host. -/
def IsAt (a : Adapter) (host : String) : Prop := ∃ index, Channel.open? host index = .ok a.channel

variable {a a' : Adapter} {host host' : String}

/-- The channel of an adapter keeps the host that the adapter is at. -/
theorem IsAt.host_eq (h : a.IsAt host) : a.channel.host = host := by
  obtain ⟨index, hopen⟩ := h
  exact Channel.host_of_open? hopen

/-- The three adapters of a device are at its host, and each is of a kind of its own. -/
theorem isAt_of_atHost {f : Fittings} (hf : Fittings.atHost host = .ok f) :
    (∀ b ∈ f.toList, b.IsAt host) ∧ f.toList.map Adapter.kind = [.light, .pump, .level] := by
  obtain ⟨light, pump, hlight, hpump, rfl⟩ := Fittings.atHost_eq_ok_iff.mp hf
  refine ⟨?_, rfl⟩
  simp only [Fittings.toList, List.forall_mem_cons, List.not_mem_nil, false_imp_iff, implies_true,
    and_true]
  exact ⟨⟨_, hlight⟩, ⟨_, hpump⟩, ⟨_, hpump⟩⟩

/-- When the identifiers of two adapters coincide: they are of one kind, and their hosts are the same but
for dots that stand where the other has underscores.  So adapters of different kinds at one host never
have the same identifier, and they always belong to the same device; this goes for the three adapters
that a device is fitted with. -/
theorem ids_coincide_iff (h : a.IsAt host) (h' : a'.IsAt host') :
    (a.uniqueId = a'.uniqueId ↔ a.kind = a'.kind ∧ Host.undotted host = Host.undotted host') ∧
      (host = host' → a.deviceInfo = a'.deviceInfo ∧ (a.kind ≠ a'.kind → a.uniqueId ≠ a'.uniqueId)) ∧
      ∀ f, Fittings.atHost host = .ok f →
        (f.toList.map uniqueId).Nodup ∧ ∀ b ∈ f.toList, b.deviceInfo = .ofHost host := by
  have hids : ∀ {b b' : Adapter}, b.uniqueId = b'.uniqueId ↔ b.kind = b'.kind ∧
      Host.undotted b.channel.host = Host.undotted b'.channel.host := idAt_eq_iff
  refine ⟨?_, ?_, fun f hf => ⟨?_, fun b hb => ?_⟩⟩
  · rw [hids, h.host_eq, h'.host_eq]
  · rintro rfl
    refine ⟨?_, fun hkind heq => hkind (hids.mp heq).1⟩
    rw [deviceInfo, deviceInfo, h.host_eq, h'.host_eq]
  · have hkinds : (f.toList.map Adapter.kind).Nodup := by
      rw [(isAt_of_atHost hf).2]
      decide
    rw [List.Nodup, List.pairwise_map] at hkinds ⊢
    exact hkinds.imp fun hkind heq => hkind (hids.mp heq).1
  · rw [deviceInfo, ((isAt_of_atHost hf).1 b hb).host_eq]

/-- The switches of `a.b` and `a_b` have the same identifier, and the slider of `a.b` has another. -/
theorem ids_coincide_undotted :
    ∃ c c', Channel.open? "a.b" 1 = .ok c ∧ Channel.open? "a_b" 1 = .ok c' ∧
      (new .pump c).uniqueId = (new .pump c').uniqueId ∧
      (new .pump c).uniqueId ≠ (new .level c').uniqueId := by
  have hdotted : Host.hasChannels "a.b" :=
    Host.hasChannels_of_plain (m := .domain ['a', '.', 'b']) (by decide) (by decide) (by decide)
  have hundotted : Host.hasChannels "a_b" :=
    Host.hasChannels_of_plain (m := .domain ['a', '_', 'b']) (by decide) (by decide) (by decide)
  obtain ⟨c, hc⟩ := Channel.exists_open?_iff.mpr hdotted
  obtain ⟨c', hc'⟩ := Channel.exists_open?_iff.mpr hundotted
  have hat : ∀ k, (new k c).IsAt "a.b" := fun k => ⟨1, hc⟩
  have hat' : ∀ k, (new k c').IsAt "a_b" := fun k => ⟨1, hc'⟩
  have hsame := (ids_coincide_iff (hat .pump) (hat' .pump)).1
  have hother := (ids_coincide_iff (hat .pump) (hat' .level)).1
  exact ⟨c, c', hc, hc', hsame.mpr ⟨rfl, by decide⟩, fun heq => nomatch (hother.mp heq).1⟩

end Adapter

end Greenhouse
