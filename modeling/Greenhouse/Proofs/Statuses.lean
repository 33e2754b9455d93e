import Greenhouse.Proofs.Redirects

/-!
# Greenhouse.Proofs.Statuses

What a channel makes of the last reply of an operation.

The client takes a reply for a failure if its status lies between 400 and 599, if its body broke off,
or if it sends the client where the client does not go.  The body of any other last reply is taken for
a level, whatever its status is: also that of a redirect without a place to go to, and that of a status
beyond 599.

* `Channel.unreachable_iff_fails` — after which last replies a device counts as unreachable.
-/

namespace Greenhouse

open Greenhouse.Text Greenhouse.Exchange

namespace Exchange

/-- Whether the last reply of a call is a failure to the client. -/
def Fails (request : Request) (response : Response) : Prop :=
  course request response ≠ .final ∨ (400 ≤ response.status ∧ response.status < 600) ∨
    response.complete = false

variable {first : String} {budget : Nat} {request : Request} {response : Response}

/-- A failure gives no body. -/
theorem exists_failure_of_fails (h : Fails request response) :
    ∃ failure, (conclusion first budget request (.answer response)).bind
      (fun r => bodyOf r.1 r.2) = .error failure := by
  cases hconclusion : conclusion first budget request (.answer response) with
  | error failure => exact ⟨failure, rfl⟩
  | ok r =>
    obtain ⟨⟨⟩, hfinal, -⟩ := conclusion_eq_ok_iff.mp hconclusion
    simp only [Except.bind, bodyOf]
    obtain hcourse | hstatus | hbroken := h
    · exact absurd hfinal hcourse
    · rw [if_pos hstatus]
      exact ⟨_, rfl⟩
    · rw [hbroken]
      split <;> exact ⟨_, rfl⟩

/-- Any other last reply gives its body. -/
theorem bodyOf_conclusion (h : ¬ Fails request response) :
    (conclusion first budget request (.answer response)).bind (fun r => bodyOf r.1 r.2) =
      .ok (String.ofList (Utf8.decodeLossy response.body)) := by
  obtain ⟨hfinal, hstatus, hcomplete⟩ := by simpa [Fails] using h
  have hconclusion : conclusion first budget request (.answer response) =
      .ok (response, request.url) := conclusion_eq_ok_iff.mpr ⟨rfl, hfinal, rfl⟩
  have hno : ¬ (400 ≤ response.status ∧ response.status < 600) := by omega
  rw [hconclusion, Except.bind, bodyOf, if_neg hno, if_pos hcomplete]

end Exchange

namespace Channel

open Dialogue

variable {σ : Type} (device : Device σ) {c : Channel} {op : Operation} {s : σ} {request : Request}
  {response : Response}

/-- What an operation gives, by its last reply. -/
theorem value_of_last
    (hlast : ((c.perform op).exchanges device s).getLast? = some (request, .answer response)) :
    (Fails request response →
        ∃ failure, ((c.perform op).run device s).value = .error (.unreachable c.url failure)) ∧
      (¬ Fails request response → ((c.perform op).run device s).value =
        c.readLevel (.ok (String.ofList (Utf8.decodeLossy response.body)))) := by
  have haddressable : c.target.isAddressable := by
    by_contra h
    rw [(run_perform_of_not_isAddressable device h op s).1] at hlast
    cases hlast
  obtain ⟨result, htrail, hvalue⟩ := trail_perform device haddressable op s
  rw [hvalue, htrail.result _ hlast]
  constructor
  · intro h
    obtain ⟨failure, hfailure⟩ := exists_failure_of_fails h
    rw [hfailure]
    exact ⟨failure, rfl⟩
  · intro h
    rw [bodyOf_conclusion h]

/-- A body that is read makes no device unreachable. -/
theorem readLevel_ok_ne_unreachable (c : Channel) (body : String) (failure : Failure) :
    c.readLevel (.ok body) ≠ .error (.unreachable c.url failure) := by
  simp only [readLevel]
  split <;> simp

/-- What an adapter remembers after a call that carries out an operation. -/
theorem keep_of_exchange {a : Adapter} {call : Adapter.Call}
    (h : a.exchange call = .ok (c.perform op)) :
    ((a.call call).run device s).value.2 = a.keep ((c.perform op).run device s).value := by
  rw [Adapter.call_of_exchange h, run_bind]
  rfl

/-- The last reply of an operation decides what becomes of it, by whether it is a failure to the
client.  After a failure, and after no other last reply, the device is unreachable at the channel's
url, and every adapter whose call this was keeps what it remembers.  The body of any other last reply
is taken for a level, and the adapter keeps that level. -/
theorem unreachable_iff_fails
    (hlast : ((c.perform op).exchanges device s).getLast? = some (request, .answer response)) :
    let value := ((c.perform op).run device s).value
    (Fails request response ↔ (∃ failure, value = .error (.unreachable c.url failure)) ∧
        ∀ (a : Adapter) (call : Adapter.Call), a.channel = c → a.exchange call = .ok (c.perform op) →
          ((a.call call).run device s).value.2 = a) ∧
      (¬ Fails request response →
        value = c.readLevel (.ok (String.ofList (Utf8.decodeLossy response.body)))) ∧
      ∀ (a : Adapter) (call : Adapter.Call), a.channel = c → a.exchange call = .ok (c.perform op) →
        ((a.call call).run device s).value.2 = a.keep value := by
  intro value
  obtain ⟨hfails, htaken⟩ := value_of_last device hlast
  refine ⟨⟨fun h => ?_, fun h => ?_⟩, htaken, fun a call _ hcall => keep_of_exchange device hcall⟩
  · obtain ⟨failure, hvalue⟩ := hfails h
    refine ⟨⟨failure, hvalue⟩, fun a call _ hcall => ?_⟩
    rw [keep_of_exchange device hcall, hvalue]
    rfl
  · by_contra hno
    obtain ⟨⟨failure, hvalue⟩, -⟩ := h
    exact c.readLevel_ok_ne_unreachable _ failure ((htaken hno).symm.trans hvalue)

/-- A device that is out of order but names a level all the same. -/
def brokenDevice : Device Unit := fun _ s =>
  (.answer ⟨500, "Internal Server Error", none, [0x35], true⟩, s)

/-- A light that remembers a level keeps it when the device is out of order. -/
theorem unreachable_iff_fails_broken :
    (∃ failure, ((sample.perform .read).run brokenDevice ()).value =
        .error (.unreachable "http://h/power/0" failure)) ∧
      ((Adapter.call ⟨.light, sample, some .full⟩ .update).run brokenDevice ()).value.2.last =
        some .full := by
  have hlast : ((sample.perform .read).exchanges brokenDevice ()).getLast? =
      some (sample.request .read, .answer ⟨500, "Internal Server Error", none, [0x35], true⟩) := by
    decide +kernel
  obtain ⟨hiff, -, -⟩ := unreachable_iff_fails brokenDevice hlast
  obtain ⟨hunreachable, hkept⟩ := hiff.mp (.inr (.inl (by decide)))
  exact ⟨hunreachable, congrArg Adapter.last (hkept ⟨.light, sample, some .full⟩ .update rfl rfl)⟩

/-- A device that offers several resources in place of the one asked for. -/
def offeringDevice : Device Unit := fun _ s =>
  (.answer ⟨300, "Multiple Choices", none, [0x35], true⟩, s)

/-- A status that is no success is taken for a reading of 5, and the light remembers it. -/
theorem level_of_multiple_choices :
    open? "h" 0 = .ok sample ∧
      ((sample.perform .read).exchanges offeringDevice ()).getLast? =
        some (sample.request .read, .answer ⟨300, "Multiple Choices", none, [0x35], true⟩) ∧
      ((sample.perform .read).run offeringDevice ()).value = .ok ⟨5, by decide, by decide⟩ ∧
      ((Adapter.call ⟨.light, sample, none⟩ .update).run offeringDevice ()).value.2.last =
        some ⟨5, by decide, by decide⟩ :=
  ⟨open?_sample, by decide +kernel, by decide +kernel, by decide +kernel⟩

end Channel

end Greenhouse
