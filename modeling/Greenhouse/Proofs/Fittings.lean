import Greenhouse.Proofs.Admission
import Greenhouse.Proofs.Memory

/-!
# Greenhouse.Proofs.Fittings

The adapters of the devices that are set up.

A device holds handles on its adapters, and these stay where they are whatever is done: what a command
does to an adapter never touches its kind and its channel.

* `Chronicle.Fitted` — the handles of a device lead to its adapters, each on the channel of its role.
* `fitted_of_mem_devices_proceed` — so it is for all devices that are set up, after any command.
-/

namespace Greenhouse

open Dialogue

variable {σ : Type} (device : Device σ)

/-- The role of the channel that an adapter of a kind is on. -/
def Adapter.Kind.role : Kind → Role
  | .light => .light
  | .pump | .level => .waterPump

/-- The handle of a device's adapter of a kind. -/
def Appliance.handle (d : Appliance) : Adapter.Kind → Handle
  | .light => d.light
  | .pump => d.pump
  | .level => d.level

/-- The adapter of a kind among those of a device. -/
def Fittings.ofKind (f : Fittings) : Adapter.Kind → Adapter
  | .light => f.light
  | .pump => f.pump
  | .level => f.level

/-- The adapters for an entry are of their kinds, each on the channel of its role at the host. -/
theorem Registry.ofKind_fittings? {r : Registry} {provided : Except String Unit} {entry : Entry}
    {f : Fittings} (hf : r.fittings? provided entry = .ok f) (k : Adapter.Kind) :
    (f.ofKind k).kind = k ∧
      Channel.open? entry.data.host k.role.index = .ok (f.ofKind k).channel := by
  obtain ⟨-, -, light, pump, hlight, hpump, rfl⟩ := fittings?_eq_ok_iff.mp hf
  cases k with
  | light => exact ⟨rfl, hlight⟩
  | pump => exact ⟨rfl, hpump⟩
  | level => exact ⟨rfl, hpump⟩

/-- Once an entry has been set up, its adapters are where the handles of its device say. -/
theorem House.getElem?_withFittings (entry : Entry) (f : Fittings) (h : House) (k : Adapter.Kind) :
    (h.withFittings entry f).entities[(h.applianceOf entry).handle k]? =
      some (.adapter (f.ofKind k)) := by
  cases k <;>
    simp [withFittings, applianceOf, Appliance.handle, Fittings.toList, Fittings.ofKind]

namespace Chronicle

/-- The adapters of a device are where its handles say, each on the channel of its role at the host of
the device. -/
def Fitted (ch : Chronicle σ) (d : Appliance) : Prop :=
  ∀ k, ∃ a, ch.house.entities[d.handle k]? = some (.adapter a) ∧ a.kind = k ∧
    Channel.open? d.host k.role.index = .ok a.channel

/-- A device stays fitted, whatever is done. -/
theorem fitted_proceed {ch : Chronicle σ} {d : Appliance} (h : ch.Fitted d) (c : Command) :
    (ch.proceed device c).Fitted d := by
  intro k
  obtain ⟨a, ha, hkind, hopen⟩ := h k
  obtain ⟨a', ha', hkind', hchannel, -, -⟩ := next_of_adapter device ch c ha
  exact ⟨a', ha', hkind'.trans hkind, by rw [hchannel, hopen]⟩

/-- Setting up fits the new device. -/
theorem fitted_setUp {ch : Chronicle σ} {provided : Except String Unit} {entry : Entry}
    {f : Fittings} (hf : ch.house.registry.fittings? provided entry = .ok f) :
    (ch.proceed device (.setUp provided entry)).Fitted (ch.house.applianceOf entry) := by
  intro k
  rw [(proceed_of_value? device (Command.value?_setUp_of_ok hf)).2]
  exact ⟨_, House.getElem?_withFittings entry f ch.house k, Registry.ofKind_fittings? hf k⟩

/-- A device that is set up after a command was set up before it, and not unloaded, or has just been
set up. -/
theorem mem_devices_proceed {ch : Chronicle σ} {c : Command} {d : Appliance}
    (hd : d ∈ (ch.proceed device c).house.registry.devices) :
    d ∈ ch.house.registry.devices ∨
      ∃ provided entry f, c = .setUp provided entry ∧
        ch.house.registry.fittings? provided entry = .ok f ∧
        d = ch.house.applianceOf entry := by
  rw [registry_proceed] at hd
  cases c with
  | setUp provided entry =>
    dsimp only at hd
    cases hf : ch.house.registry.fittings? provided entry with
    | error e =>
      rw [hf] at hd
      exact .inl hd
    | ok f =>
      rw [hf] at hd
      obtain rfl | hd := Registry.mem_insertInto.mp hd
      · exact .inr ⟨provided, entry, f, rfl, hf, rfl⟩
      · exact .inl hd
  | unload id => exact .inl (Registry.mem_erase.mp hd).1
  | _ => exact .inl hd

/-- All devices that are set up are fitted. -/
theorem fitted_of_mem_devices_proceed {ch : Chronicle σ}
    (h : ∀ d ∈ ch.house.registry.devices, ch.Fitted d) (c : Command) :
    ∀ d ∈ (ch.proceed device c).house.registry.devices, (ch.proceed device c).Fitted d := by
  intro d hd
  obtain hd | ⟨provided, entry, f, rfl, hf, rfl⟩ := mem_devices_proceed device hd
  · exact fitted_proceed device (h d hd) c
  · exact fitted_setUp device hf

end Chronicle

end Greenhouse
