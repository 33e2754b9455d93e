import Greenhouse.Proofs.Refusals
import Greenhouse.Proofs.Registers
import Mathlib.Data.Fintype.Basic
import Mathlib.Tactic.FinCases

/-!
# Greenhouse.Proofs.Ensembles

Adapters of different resources, side by side with one device.

What is done with each adapter is a sequence of acts: calls of it, and looks at what it remembers.  An
ensemble carries out acts of its adapters in some order (`Ensemble.actAll`); that order interleaves the
sequences if the acts of each adapter come in their own order (`Ensemble.own`).  With a device that
keeps its resources apart (`Device.Separates`), an adapter cannot tell whether there are others.

* `Adapter.exchanges_act` — an act is at most one exchange, with the adapter's own resource.
* `Ensemble.run_own` — in an ensemble, an adapter fares as it does alone.
* `Ensemble.interleavings_agree` — so any two interleavings come to the same.
-/

namespace Greenhouse

open Greenhouse.Exchange

variable {σ α : Type} {device : Device σ} {s : σ}

/-! ## devices that keep their resources apart -/

/-- The requests to a url, in its one form. -/
def requestsTo (url : String) (requests : List Request) : List Request :=
  requests.filter (·.url.text = url)

/-- The state in which a device is left by some requests. -/
def Device.after (device : Device σ) (s : σ) (requests : List Request) : σ :=
  requests.foldl (fun s request => (device request s).2) s

/-- A device that keeps its resources apart from a state on.  It never redirects, by which no more is
asked here than that no reply leads a client on; and what it replies to a request depends on the
earlier requests to the same url alone. -/
structure Device.Separates (device : Device σ) (s : σ) : Prop where
  stays : ∀ past request, onward? request (device request (device.after s past)).1 = none
  apart : ∀ request past past',
    requestsTo request.url.text past = requestsTo request.url.text past' →
      (device request (device.after s past)).1 = (device request (device.after s past')).1

theorem requestsTo_append (url : String) (rs rs' : List Request) :
    requestsTo url (rs ++ rs') = requestsTo url rs ++ requestsTo url rs' :=
  List.filter_append ..

theorem requestsTo_eq_self {url : String} {rs : List Request} (h : ∀ r ∈ rs, r.url.text = url) :
    requestsTo url rs = rs :=
  List.filter_eq_self.mpr fun r hr => decide_eq_true (h r hr)

theorem requestsTo_eq_nil {url : String} {rs : List Request} (h : ∀ r ∈ rs, r.url.text ≠ url) :
    requestsTo url rs = [] :=
  List.filter_eq_nil_iff.mpr fun r hr => by simpa using h r hr

namespace Dialogue

variable (device)

/-- A dialogue leaves a device where its requests do. -/
theorem state_run_after (d : Dialogue α) (past : List Request) :
    (d.run device (device.after s past)).state =
      device.after s (past ++ (d.run device (device.after s past)).requests) := by
  rw [Device.after, Device.after, List.foldl_append, state_run, requests_run, List.foldl_map]

/-- A dialogue begins with its question. -/
theorem head?_exchanges (d : Dialogue α) (s : σ) :
    (d.exchanges device s).head? = d.question?.map fun r => (r, (device r s).1) := by
  induction d with
  | done a => rfl
  | note n rest ih => exact ih
  | ask request next => rfl

/-- Dialogues that go alike come to the same. -/
theorem value_eq_of_exchanges_eq {d : Dialogue α} {s' : σ}
    (h : d.exchanges device s = d.exchanges device s') :
    (d.run device s).value = (d.run device s').value := by
  have hs := outcome?_replies device d s
  rw [replies_eq_map, h, ← replies_eq_map, outcome?_replies] at hs
  exact (Option.some.inj hs).symm

end Dialogue

/-! ## acts -/

namespace Adapter

open Dialogue

/-- What is done with an adapter: a call of it, or a look at what it remembers. -/
inductive Act where
  | call (c : Call)
  | look

/-- What an adapter shows of the level that it remembers. -/
structure View where
  state : EntityState
  isOn : Option Bool
  brightness : Option UInt8
  value : Option Double

/-- What an adapter shows. -/
def view (a : Adapter) : View := ⟨a.state, a.isOn, a.brightness, a.value⟩

/-- What an act gives. -/
inductive Outcome where
  | result (r : Except Error (Option EntityState))
  | view (v : View)

/-- Carries out an act. -/
def act (a : Adapter) : Act → Dialogue (Outcome × Adapter)
  | .call c => do
    let (r, a) ← a.call c
    return (.result r, a)
  | .look => .done (.view a.view, a)

/-- Carries out acts, one after the other. -/
def actAll (a : Adapter) : List Act → Dialogue (List Outcome × Adapter)
  | [] => .done ([], a)
  | x :: xs => do
    let (o, a) ← a.act x
    let (os, a) ← a.actAll xs
    return (o :: os, a)

/-- The first act comes first, and the others meet the device as it leaves it. -/
theorem run_actAll_cons (a : Adapter) (x : Act) (xs : List Act) (past : List Request) :
    (a.actAll (x :: xs)).run device (device.after s past) =
      let t := (a.act x).run device (device.after s past)
      let u := (t.value.2.actAll xs).run device (device.after s (past ++ t.requests))
      ⟨(t.value.1 :: u.value.1, u.value.2), t.requests ++ u.requests, t.notes ++ u.notes,
        u.state⟩ := by
  simp [actAll, run_bind, state_run_after]

/-- An adapter stays on its channel. -/
theorem channel_act (a : Adapter) (x : Act) (s : σ) :
    ((a.act x).run device s).value.2.channel = a.channel := by
  have hkeep : ∀ r, (a.keep r).channel = a.channel := fun r => by cases r <;> rfl
  cases x with
  | look => rfl
  | call c =>
    cases h : a.exchange c with
    | error e => rw [act, call_of_refusal h]; rfl
    | ok d =>
      simp only [act, call_of_exchange h, run_bind, run_done, run_pure]
      exact hkeep _

/-- The exchanges of an act are those of an operation of the adapter's channel, or there are none. -/
theorem exchanges_act_cases (device : Device σ) (a : Adapter) (x : Act) :
    (∀ s, (a.act x).exchanges device s = []) ∨
      ∃ op, ∀ s, (a.act x).exchanges device s = (a.channel.perform op).exchanges device s := by
  cases x with
  | look => exact .inl fun s => rfl
  | call c =>
    cases h : a.exchange c with
    | error e => exact .inl fun s => by rw [act, call_of_refusal h]; rfl
    | ok d =>
      obtain ⟨op, rfl⟩ := exists_perform_of_exchange h
      refine .inr ⟨op, fun s => ?_⟩
      rw [act, call_of_exchange h, bind_assoc]
      exact (run_bind_of_value? device (g := fun r => (.result (r.map (a.answer c)), a.keep r))
        (fun r => rfl) _ s).2

/-- With a device none of whose replies leads on, an act is no exchange or one with the adapter's own
resource, and which request it makes does not depend on the device. -/
theorem exchanges_act (h : ∀ request, onward? request (device request s).1 = none) (a : Adapter)
    (x : Act) :
    (a.act x).exchanges device s = (a.act x).question?.toList.map (fun r => (r, (device r s).1)) ∧
      ∀ r ∈ ((a.act x).run device s).requests, r.url = a.channel.target := by
  -- there is at most one exchange, so the first question is all that is asked
  have hquestion := head?_exchanges device (a.act x) s
  rw [requests_run]
  obtain hnone | ⟨op, hop⟩ := exchanges_act_cases device a x
  · rw [hnone] at hquestion ⊢
    simpa using hquestion.symm
  · rw [hop] at hquestion ⊢
    by_cases haddressable : a.channel.target.isAddressable
    · rw [Channel.exchanges_of_onward?_eq_none device haddressable (h _)] at hquestion ⊢
      cases hasked : (a.act x).question? with
      | none => rw [hasked] at hquestion; cases hquestion
      | some r =>
        rw [hasked] at hquestion
        simpa using hquestion
    · rw [(Channel.run_perform_of_not_isAddressable device haddressable op s).1] at hquestion ⊢
      simpa using hquestion.symm

/-- An act goes alike behind requests that were the same at the adapter's own resource. -/
theorem act_congr (hdevice : device.Separates s) (a : Adapter) (x : Act) {past past' : List Request}
    (hpast : requestsTo a.channel.target.text past = requestsTo a.channel.target.text past') :
    let t := (a.act x).run device (device.after s past)
    let u := (a.act x).run device (device.after s past')
    t.value = u.value ∧ t.requests = u.requests := by
  obtain ⟨hexchanges, hurl⟩ := exchanges_act (hdevice.stays past) a x
  obtain ⟨hexchanges', -⟩ := exchanges_act (hdevice.stays past') a x
  have heq : (a.act x).exchanges device (device.after s past) =
      (a.act x).exchanges device (device.after s past') := by
    rw [requests_run, hexchanges] at hurl
    rw [hexchanges, hexchanges']
    refine List.map_congr_left fun r hr => ?_
    have hr : r.url = a.channel.target := hurl r (by simpa using hr)
    rw [hdevice.apart r past past' (by rwa [hr])]
  exact ⟨value_eq_of_exchanges_eq device heq, by rw [requests_run, requests_run, heq]⟩

end Adapter

/-! ## ensembles -/

namespace Ensemble

open Dialogue

variable {ι β : Type} [DecidableEq ι]

/-- What belongs to one adapter of an ensemble. -/
def own (i : ι) (xs : List (ι × β)) : List β :=
  (xs.filter (·.1 = i)).map Prod.snd

@[simp] theorem own_cons_self (i : ι) (b : β) (xs : List (ι × β)) :
    own i ((i, b) :: xs) = b :: own i xs := by
  simp [own]

theorem own_cons_of_ne {i j : ι} (h : j ≠ i) (b : β) (xs : List (ι × β)) :
    own i ((j, b) :: xs) = own i xs := by
  simp [own, h]

/-- Carries out acts with the adapters of an ensemble, one after the other. -/
def actAll (family : ι → Adapter) :
    List (ι × Adapter.Act) → Dialogue (List (ι × Adapter.Outcome) × (ι → Adapter))
  | [] => .done ([], family)
  | (i, x) :: xs => do
    let (o, a) ← (family i).act x
    let (os, family) ← actAll (Function.update family i a) xs
    return ((i, o) :: os, family)

/-- Of several adapters, too, the first act comes first. -/
theorem run_actAll_cons (family : ι → Adapter) (i : ι) (x : Adapter.Act)
    (xs : List (ι × Adapter.Act)) (past : List Request) :
    (actAll family ((i, x) :: xs)).run device (device.after s past) =
      let t := ((family i).act x).run device (device.after s past)
      let u := (actAll (Function.update family i t.value.2) xs).run device
        (device.after s (past ++ t.requests))
      ⟨((i, t.value.1) :: u.value.1, u.value.2), t.requests ++ u.requests, t.notes ++ u.notes,
        u.state⟩ := by
  simp [actAll, run_bind, state_run_after]

/-- The channels of an ensemble stay as they are. -/
theorem channel_update (device : Device σ) (family : ι → Adapter) (i : ι) (x : Adapter.Act) (s : σ)
    (j : ι) :
    (Function.update family i (((family i).act x).run device s).value.2 j).channel =
      (family j).channel := by
  by_cases h : j = i
  · subst h
    rw [Function.update_self, Adapter.channel_act]
  · rw [Function.update_of_ne h]

/-- An ensemble asks at the resources of its adapters only. -/
theorem exists_channel_of_mem_requests (hdevice : device.Separates s) {family : ι → Adapter}
    {xs : List (ι × Adapter.Act)} (past : List Request) :
    ∀ r ∈ ((actAll family xs).run device (device.after s past)).requests,
      ∃ i, r.url = (family i).channel.target := by
  induction xs generalizing family past with
  | nil => simp [actAll]
  | cons x xs ih =>
    obtain ⟨i, x⟩ := x
    intro r hr
    rw [run_actAll_cons] at hr
    obtain hfirst | hrest := List.mem_append.mp hr
    · exact ⟨i, (Adapter.exchanges_act (hdevice.stays past) (family i) x).2 r hfirst⟩
    · obtain ⟨j, hj⟩ := ih _ r hrest
      exact ⟨j, by rwa [channel_update] at hj⟩

/-- In an ensemble of adapters of different resources, each one fares as it does alone, behind
requests that were the same at its resource: what its acts give, what it remembers in the end and what
its resource is asked. -/
theorem run_own (hdevice : device.Separates s) {family : ι → Adapter}
    (hurls : Function.Injective fun i => (family i).channel.target.text) (i : ι)
    (xs : List (ι × Adapter.Act)) (past past' : List Request)
    (hpast : requestsTo (family i).channel.target.text past =
      requestsTo (family i).channel.target.text past') :
    let t := (actAll family xs).run device (device.after s past)
    let u := ((family i).actAll (own i xs)).run device (device.after s past')
    own i t.value.1 = u.value.1 ∧ t.value.2 i = u.value.2 ∧
      requestsTo (family i).channel.target.text t.requests = u.requests := by
  induction xs generalizing family past past' with
  | nil => exact ⟨rfl, rfl, rfl⟩
  | cons x xs ih =>
    obtain ⟨j, x⟩ := x
    have hurl := (Adapter.exchanges_act (hdevice.stays past) (family j) x).2
    have hchannel := channel_update device family j x (device.after s past)
    rw [run_actAll_cons]
    generalize ht : ((family j).act x).run device (device.after s past) = t at hurl hchannel ⊢
    -- the rest of the ensemble's work, with the adapter `j` as its act has left it
    have hurls' : Function.Injective fun k =>
        (Function.update family j t.value.2 k).channel.target.text := by
      simpa only [hchannel] using hurls
    have hrest := ih hurls' (past ++ t.requests)
    rw [hchannel] at hrest
    dsimp only
    by_cases hij : j = i
    · subst hij
      obtain ⟨hvalue, hrequests⟩ := Adapter.act_congr hdevice (family j) x hpast
      rw [ht] at hvalue hrequests
      rw [own_cons_self, own_cons_self, Adapter.run_actAll_cons]
      simp only [← hvalue, ← hrequests]
      have hown := requestsTo_eq_self fun r hr => congrArg Url.text (hurl r hr)
      obtain ⟨hresults, hlast, hasked⟩ := hrest (past' ++ t.requests)
        (by rw [requestsTo_append, requestsTo_append, hpast])
      rw [Function.update_self] at hresults hlast hasked
      exact ⟨by rw [hresults], hlast, by rw [requestsTo_append, hown, hasked]⟩
    · -- what another adapter asks does not reach this one's resource
      have hnone : requestsTo (family i).channel.target.text t.requests = [] :=
        requestsTo_eq_nil fun r hr htext =>
          hij (hurls (show (family j).channel.target.text = _ by rw [← hurl r hr, htext]))
      obtain ⟨hresults, hlast, hasked⟩ := hrest past'
        (by rw [requestsTo_append, hnone, List.append_nil, hpast])
      rw [Function.update_of_ne (Ne.symm hij)] at hresults hlast hasked
      rw [own_cons_of_ne hij, own_cons_of_ne hij]
      exact ⟨hresults, hlast, by rw [requestsTo_append, hnone, List.nil_append, hasked]⟩

/-- Adapters of different resources do not interfere.  With a device that keeps its resources apart,
and with sequences of acts for the adapters of an ensemble whose urls differ, any two interleavings of
the sequences give every adapter the same outcomes, leave it with the same memory, and ask the device
the same at every url. -/
theorem interleavings_agree (hdevice : device.Separates s) {family : ι → Adapter}
    (hurls : Function.Injective fun i => (family i).channel.target.text)
    {acts : ι → List Adapter.Act} {xs ys : List (ι × Adapter.Act)} (hxs : ∀ i, own i xs = acts i)
    (hys : ∀ i, own i ys = acts i) :
    let t := (actAll family xs).run device s
    let u := (actAll family ys).run device s
    (∀ i, own i t.value.1 = own i u.value.1) ∧ t.value.2 = u.value.2 ∧
      ∀ url, requestsTo url t.requests = requestsTo url u.requests := by
  intro t u
  have halone : ∀ i, own i t.value.1 = own i u.value.1 ∧ t.value.2 i = u.value.2 i ∧
      requestsTo (family i).channel.target.text t.requests =
        requestsTo (family i).channel.target.text u.requests := by
    intro i
    obtain ⟨hresults, hlast, hasked⟩ := run_own hdevice hurls i xs [] [] rfl
    obtain ⟨hresults', hlast', hasked'⟩ := run_own hdevice hurls i ys [] [] rfl
    rw [hxs, ← hys] at hresults hlast hasked
    exact ⟨hresults.trans hresults'.symm, hlast.trans hlast'.symm, hasked.trans hasked'.symm⟩
  refine ⟨fun i => (halone i).1, funext fun i => (halone i).2.1, fun url => ?_⟩
  by_cases hurl : ∃ i, (family i).channel.target.text = url
  · obtain ⟨i, rfl⟩ := hurl
    exact (halone i).2.2
  · -- nothing is asked at a url that no adapter has
    have hnone : ∀ zs, requestsTo url ((actAll family zs).run device s).requests = [] := by
      intro zs
      refine requestsTo_eq_nil fun r hr htext => ?_
      obtain ⟨i, hi⟩ := exists_channel_of_mem_requests hdevice [] r hr
      exact hurl ⟨i, by rw [← hi, htext]⟩
    rw [hnone, hnone]

/-! ## a light and a pump -/

/-- A device that answers with the body last set at a url, or with 0 if none was.  It keeps the requests
that it has had. -/
def ledgerDevice : Device (List Request) := fun request past =>
  let own := requestsTo request.url.text (past ++ [request])
  let body := ((own.reverse.find? (·.method = .put)).map Request.body).getD "0"
  (.answer ⟨200, "OK", none, Text.Utf8.encode body.toList, true⟩, past ++ [request])

theorem after_ledgerDevice (past requests : List Request) :
    ledgerDevice.after past requests = past ++ requests := by
  induction requests generalizing past with
  | nil => exact (List.append_nil past).symm
  | cons r rs ih => exact (ih (past ++ [r])).trans (by simp)

/-- A device that keeps a ledger for each url keeps them apart. -/
theorem separates_ledgerDevice : ledgerDevice.Separates [] where
  stays past request := rfl
  apart request past past' h := by
    simp only [ledgerDevice, after_ledgerDevice, List.nil_append, requestsTo_append, h]

/-- A light and a pump of a device called `h`. -/
def lightAndPump (i : Fin 2) : Adapter :=
  if i = 0 then .new .light ⟨"h", 0, Channel.targetAt (.domain ['h'], none) [] 0⟩
  else .new .pump ⟨"h", 1, Channel.targetAt (.domain ['h'], none) [] 1⟩

/-- A light is turned on and looked at, and a pump is read.  The order in which the device is asked
changes nothing. -/
theorem interleavings_agree_light_and_pump :
    let t := (actAll lightAndPump [(0, .call (.turnOn (some 9))), (0, .look),
      (1, .call .update)]).run ledgerDevice []
    let u := (actAll lightAndPump [(1, .call .update), (0, .call (.turnOn (some 9))),
      (0, .look)]).run ledgerDevice []
    t.requests.map Request.method = [.put, .get] ∧ u.requests.map Request.method = [.get, .put] ∧
      t.value.2 = u.value.2 ∧ (t.value.2 0).last = some ⟨9, by decide, by decide⟩ := by
  intro t u
  have hurls : Function.Injective fun i => (lightAndPump i).channel.target.text := by
    intro i j h
    fin_cases i <;> fin_cases j
    · rfl
    · cases Channel.index_eq_of_text_eq (Channel.open?_name 0) (Channel.open?_name 1) h
    · cases Channel.index_eq_of_text_eq (Channel.open?_name 1) (Channel.open?_name 0) h
    · rfl
  have hxs : ∀ i : Fin 2, own i [(0, .call (.turnOn (some 9))), (0, .look), (1, .call .update)] =
      if i = 0 then [Adapter.Act.call (.turnOn (some 9)), .look] else [.call .update] :=
    fun i => by fin_cases i <;> rfl
  have hys : ∀ i : Fin 2, own i [(1, .call .update), (0, .call (.turnOn (some 9))), (0, .look)] =
      if i = 0 then [Adapter.Act.call (.turnOn (some 9)), .look] else [.call .update] :=
    fun i => by fin_cases i <;> rfl
  obtain ⟨-, hlast, -⟩ := interleavings_agree separates_ledgerDevice hurls hxs hys
  exact ⟨by decide +kernel, by decide +kernel, hlast, by decide +kernel⟩

end Ensemble

end Greenhouse
