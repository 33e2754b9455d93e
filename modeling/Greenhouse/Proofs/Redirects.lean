import Mathlib.Data.List.Chain
import Greenhouse.Proofs.Calls
import Greenhouse.Proofs.Names

/-!
# Greenhouse.Proofs.Redirects

The requests of a call, one after the other.

A call begins with a request of its own, and every further request is the one that the reply before
it led to.  So an operation of a channel keeps to the channel's resource as long as the first reply
leads nowhere, and no longer.

* `trail_follow` — how a call goes with any device, from its first request to its last reply.
* `Channel.isSingleExchange_iff` — which operations are one exchange with the channel's own resource.
* `Channel.requests_of_operation` — what any operation sends, and whose reply it gives.
-/

namespace Greenhouse

open Greenhouse.Text Greenhouse.Exchange Greenhouse.Url

namespace Exchange

open Dialogue

variable {σ : Type} (device : Device σ)

/-! ## from the first request to the last reply -/

/-- How a call goes with a device: which request each reply leads to, and what the last one means. -/
structure Trail (s : σ) (first : String) (budget : Nat) (request : Request)
    (xs : List (Request × Reply)) (result : Except Failure (Response × Url)) : Prop where
  begins : xs.head? = some (request, (device request s).1)
  hops : xs.IsChain fun x y => onward? x.1 x.2 = some y.1
  short : xs.length ≤ budget + 1
  /-- The last reply leads nowhere, or the client has gone on as often as it may. -/
  ends : ∀ x ∈ xs.getLast?, onward? x.1 x.2 = none ∨ xs.length = budget + 1
  result : ∀ x ∈ xs.getLast?, result = conclusion first (budget + 1 - xs.length) x.1 x.2

namespace Trail

variable {device} {s : σ} {first : String} {budget : Nat} {request : Request}
  {xs : List (Request × Reply)} {result : Except Failure (Response × Url)}

/-- A reply that leads nowhere, or that comes when the client may not go on, is the last one. -/
theorem stop (h : onward? request (device request s).1 = none ∨ budget = 0) :
    Trail device s first budget request [(request, (device request s).1)]
      (conclusion first budget request (device request s).1) where
  begins := rfl
  hops := .singleton _
  short := by simp
  ends := by
    rintro _ ⟨⟩
    simpa [eq_comm] using h
  result := by
    rintro _ ⟨⟩
    rfl

/-- Behind a reply that leads on, the call goes as one that begins there. -/
theorem hop {next : Request} (hnext : onward? request (device request s).1 = some next)
    (h : Trail device (device request s).2 first budget next xs result) :
    Trail device s first (budget + 1) request ((request, (device request s).1) :: xs) result := by
  have hlast : ∀ x ∈ ((request, (device request s).1) :: xs).getLast?, x ∈ xs.getLast? := by
    cases xs with
    | nil => cases h.begins
    | cons y ys => exact fun x hx => hx
  refine ⟨rfl, List.isChain_cons.mpr ⟨fun y hy => ?_, h.hops⟩, ?_, fun x hx => ?_, fun x hx => ?_⟩
  · rw [h.begins] at hy
    cases hy
    exact hnext
  · simpa using h.short
  · simpa using h.ends x (hlast x hx)
  · rw [h.result x (hlast x hx), List.length_cons, Nat.add_sub_add_right]

/-- A client that may go on makes no request but its own exactly if the first reply leads nowhere. -/
theorem requests_eq_singleton_iff (hbudget : 0 < budget)
    (h : Trail device s first budget request xs result) :
    xs.map Prod.fst = [request] ↔ onward? request (device request s).1 = none := by
  cases xs with
  | nil => cases h.begins
  | cons x xs =>
    obtain rfl : x = (request, (device request s).1) := Option.some.inj h.begins
    cases xs with
    | nil =>
      obtain hnone | hspent := h.ends _ rfl
      · simpa using hnone
      · rw [List.length_singleton] at hspent
        omega
    | cons y ys =>
      have hnext := (List.isChain_cons_cons.mp h.hops).1
      simp [hnext]

/-- A call whose first reply leads nowhere is that one exchange. -/
theorem eq_singleton (hnone : onward? request (device request s).1 = none)
    (h : Trail device s first budget request xs result) : xs = [(request, (device request s).1)] := by
  cases xs with
  | nil => cases h.begins
  | cons x xs =>
    obtain rfl : x = (request, (device request s).1) := Option.some.inj h.begins
    cases xs with
    | nil => rfl
    | cons y ys =>
      have hnext := (List.isChain_cons_cons.mp h.hops).1
      rw [hnone] at hnext
      cases hnext

end Trail

/-- The exchanges of a call are a trail, which ends in what the call gives. -/
theorem trail_follow (first : String) (budget : Nat) (request : Request) (s : σ) :
    Trail device s first budget request ((follow first budget request).exchanges device s)
      ((follow first budget request).run device s).value := by
  induction budget generalizing request s with
  | zero =>
    rw [follow_zero]
    exact .stop (.inr rfl)
  | succ budget ih =>
    rw [follow_succ]
    simp only [exchanges, run]
    cases hnext : onward? request (device request s).1 with
    | none => exact .stop (.inl hnext)
    | some next => exact (ih next _).hop hnext

/-- A call to an address that no request can be made to asks nothing. -/
theorem value?_fetch_of_not_isAddressable {request : Request} (h : ¬ request.url.isAddressable) :
    (fetch request).value? = some (.error (.unaddressable request.url.text)) := by
  rw [fetch, if_neg h]
  rfl

/-- Any other call follows redirects and takes the body of the last reply. -/
theorem run_fetch {request : Request} (h : request.url.isAddressable) (s : σ) :
    let d := follow request.url.text maxRedirects request
    ((fetch request).run device s).value =
        ((d.run device s).value.bind fun r => bodyOf r.1 r.2) ∧
      (fetch request).exchanges device s = d.exchanges device s := by
  rw [fetch, if_pos h]
  refine run_bind_of_value? device
    (g := fun r : Except Failure (Response × Url) => r.bind fun r => bodyOf r.1 r.2) (fun r => ?_) _ s
  cases r <;> rfl

end Exchange

/-! ## operations of a channel -/

namespace Channel

open Dialogue

/-- What can be done with a channel. -/
inductive Operation where
  | read
  | write (value : Power)

/-- Carries out an operation. -/
def perform (c : Channel) : Operation → Dialogue (Except Error Power)
  | .read => c.get
  | .write value => c.set value

/-- The request that an operation is for: the level is read with an empty body, and set with its
decimal text as the body. -/
def request (c : Channel) : Operation → Request
  | .read => ⟨.get, c.target, ""⟩
  | .write value => ⟨.put, c.target, value.text⟩

/-- Every operation asks for the resource of the channel. -/
@[simp] theorem url_request (c : Channel) (op : Operation) : (c.request op).url = c.target := by
  cases op <;> rfl

/-- An operation gives what its replies say. -/
theorem reads_perform (c : Channel) (op : Operation) : c.Reads (c.perform op) := by
  cases op with
  | read => exact c.reads_get
  | write value => exact c.reads_set value

/-- A channel asks at what its url reads as. -/
theorem parse_url {host : String} {index : UInt32} {c : Channel} (hc : open? host index = .ok c) :
    c.url = urlText host index ∧ Url.parse c.url.toList = .ok c.target := by
  unfold open? at hc
  split at hc
  · cases hc
  · split at hc
    · cases hc
    · next target htarget =>
      split at hc
      · cases hc
        exact ⟨rfl, htarget⟩
      · cases hc

variable {σ : Type} (device : Device σ)

/-- An operation is a call for its request, the body of which it takes for a level. -/
theorem run_perform (c : Channel) (op : Operation) (s : σ) :
    ((c.perform op).run device s).value =
        c.readLevel ((fetch (c.request op)).run device s).value ∧
      (c.perform op).exchanges device s = (fetch (c.request op)).exchanges device s := by
  cases op with
  | read =>
    rw [perform, get, tell_bind]
    refine run_bind_of_value? device (fun result => ?_) _ s
    dsimp only
    split <;> rfl
  | write value =>
    rw [perform, set, tell_bind]
    refine run_bind_of_value? device (fun result => ?_) _ s
    dsimp only
    split
    · split <;> rfl
    · rfl

/-- How an operation goes, and what it makes of the last reply. -/
theorem trail_perform {c : Channel} (h : c.target.isAddressable) (op : Operation) (s : σ) :
    ∃ result, Trail device s c.target.text maxRedirects (c.request op)
        ((c.perform op).exchanges device s) result ∧
      ((c.perform op).run device s).value =
        c.readLevel (result.bind fun r => bodyOf r.1 r.2) := by
  obtain ⟨hvalue, hexchanges⟩ := c.run_perform device op s
  have hrequest : (c.request op).url.isAddressable := by rwa [url_request]
  obtain ⟨hbody, hfollow⟩ := run_fetch device hrequest s
  rw [hvalue, hbody, hexchanges, hfollow, url_request]
  exact ⟨_, trail_follow device _ _ _ s, rfl⟩

/-- An operation whose first reply leads nowhere is that one exchange. -/
theorem exchanges_of_onward?_eq_none {c : Channel} (h : c.target.isAddressable) {op : Operation}
    {s : σ} (hnone : onward? (c.request op) (device (c.request op) s).1 = none) :
    (c.perform op).exchanges device s = [(c.request op, (device (c.request op) s).1)] := by
  obtain ⟨result, htrail, -⟩ := trail_perform device h op s
  exact htrail.eq_singleton hnone

/-- Nothing is sent to an address that no request can be made to. -/
theorem run_perform_of_not_isAddressable {c : Channel} (h : ¬ c.target.isAddressable)
    (op : Operation) (s : σ) : (c.perform op).exchanges device s = [] ∧
      ((c.perform op).run device s).value =
        .error (.unreachable c.url (.unaddressable c.target.text)) := by
  have hrequest : ¬ (c.request op).url.isAddressable := by rwa [url_request]
  have hfetch := value?_fetch_of_not_isAddressable hrequest
  obtain ⟨hvalue, hexchanges⟩ := c.run_perform device op s
  obtain ⟨hresult, hrequests, -⟩ := run_of_value? device hfetch s
  rw [requests_run] at hrequests
  rw [hexchanges, hvalue, hresult, url_request]
  exact ⟨List.map_eq_nil_iff.mp hrequests, rfl⟩

/-- The level that an operation gives is that of its last reply. -/
theorem level?_of_perform {c : Channel} {op : Operation} {s : σ} {p : Power}
    (h : ((c.perform op).run device s).value = .ok p) :
    ∃ x ∈ ((c.perform op).exchanges device s).getLast?, x.2.level? = some p := by
  have houtcome := outcome?_replies device (c.perform op) s
  rw [h] at houtcome
  obtain ⟨response, hlast, -, -, hp⟩ := (c.reads_perform op).last houtcome
  rw [replies_eq_map, List.getLast?_map] at hlast
  obtain ⟨x, hx, hreply⟩ := Option.map_eq_some_iff.mp hlast
  exact ⟨x, hx, by rw [hreply]; exact hp⟩

/-! ## single exchanges -/

/-- An operation that sends nothing but its own request, at most once, and gives no level but the one
in the reply to it. -/
def IsSingleExchange (c : Channel) (op : Operation) (s : σ) : Prop :=
  let t := (c.perform op).run device s
  (t.requests = [] ∨ t.requests = [c.request op]) ∧
    ∀ p, t.value = .ok p → t.requests = [c.request op] ∧
      (device (c.request op) s).1.level? = some p

/-- An operation is a single exchange exactly if its first reply leads nowhere. -/
theorem isSingleExchange_iff {c : Channel} {op : Operation} {s : σ} :
    c.IsSingleExchange device op s ↔
      (c.target.isAddressable → onward? (c.request op) (device (c.request op) s).1 = none) := by
  simp only [IsSingleExchange, requests_run]
  by_cases haddressable : c.target.isAddressable
  · obtain ⟨result, htrail, -⟩ := trail_perform device haddressable op s
    rw [htrail.requests_eq_singleton_iff (by decide)]
    constructor
    · rintro ⟨hnone | hown, -⟩ -
      · rw [List.map_eq_nil_iff.mp hnone] at htrail
        cases htrail.begins
      · exact hown
    · intro h
      refine ⟨.inr (h haddressable), fun p hp => ⟨h haddressable, ?_⟩⟩
      -- there is one exchange, so the last reply is the first one
      have hone := (htrail.requests_eq_singleton_iff (by decide)).mpr (h haddressable)
      obtain ⟨x, hx, hlevel⟩ := level?_of_perform device hp
      have hbegins := htrail.begins
      generalize (c.perform op).exchanges device s = xs at hone hx hbegins
      obtain ⟨y, rfl, -⟩ := List.map_eq_singleton_iff.mp hone
      cases hx
      cases hbegins
      exact hlevel
  · obtain ⟨hnone, hvalue⟩ := run_perform_of_not_isAddressable device haddressable op s
    simp [hnone, hvalue, haddressable]

/-- What an operation sends, whatever the device does.  It asks at what the channel's url reads as,
or nothing if no request can be made there; its own request comes first, each further one is where the
reply before it led, and a level that it gives is that of the last reply.  So it is a single exchange
exactly if the first reply leads nowhere. -/
theorem requests_of_operation {host : String} {index : UInt32} {c : Channel}
    (hc : open? host index = .ok c) (op : Operation) (s : σ) :
    let request := c.request op
    let reply := (device request s).1
    let t := (c.perform op).run device s
    let xs := (c.perform op).exchanges device s
    (c.url = urlText host index ∧ Url.parse c.url.toList = .ok c.target) ∧
      t.requests = xs.map Prod.fst ∧
      (¬ c.target.isAddressable → xs = [] ∧
        t.value = .error (.unreachable c.url (.unaddressable c.target.text))) ∧
      (c.target.isAddressable → xs.head? = some (request, reply) ∧
        (xs.IsChain fun x y => onward? x.1 x.2 = some y.1) ∧ xs.length ≤ maxRedirects + 1) ∧
      (∀ p, t.value = .ok p → ∃ x ∈ xs.getLast?, x.2.level? = some p) ∧
      (c.IsSingleExchange device op s ↔
        (c.target.isAddressable → onward? request reply = none)) := by
  intro request reply t xs
  refine ⟨parse_url hc, requests_run device _ s,
    fun h => run_perform_of_not_isAddressable device h op s, fun h => ?_,
    fun p hp => level?_of_perform device hp, isSingleExchange_iff device⟩
  obtain ⟨result, htrail, -⟩ := trail_perform device h op s
  exact ⟨htrail.begins, htrail.hops, htrail.short⟩

/-- The channels of a device called `h`. -/
theorem open?_name (index : UInt32) :
    open? "h" index = .ok ⟨"h", index, targetAt (.domain ['h'], none) [] index⟩ := by
  have hhost : Host.hasChannels "h" :=
    Host.hasChannels_of_plain (m := .domain ['h']) (by decide) (by decide) (by decide)
  have hmachine : hostAndPort (Host.authority "h") = .ok (.domain ['h'], none) :=
    Url.hostAndPort_of_plain (by decide) (by decide)
  exact open?_eq_ok_iff.mpr ⟨hhost, _, hmachine, rfl⟩

theorem open?_sample : open? "h" 0 = .ok sample := open?_name 0

/-- A device that has moved, but does not say where. -/
def movedDevice : Device Unit := fun _ s => (.answer ⟨302, "Found", none, [0x35], true⟩, s)

/-- A redirect to nowhere ends the call that sets a level. -/
theorem requests_of_operation_moved :
    open? "h" 0 = .ok sample ∧
      sample.IsSingleExchange movedDevice (.write ⟨9, by decide, by decide⟩) () ∧
      ((sample.perform (.write ⟨9, by decide, by decide⟩)).run movedDevice ()).requests =
        [⟨.put, sample.target, "9"⟩] := by
  obtain ⟨-, -, -, -, -, hsingle⟩ :=
    requests_of_operation movedDevice open?_sample (.write ⟨9, by decide, by decide⟩) ()
  exact ⟨open?_sample, hsingle.mpr fun _ => rfl, by decide +kernel⟩

/-- A device that sends the client from the resource that it sets to another one. -/
def sendingDevice : Device Unit := fun request s =>
  (match request.method with
    | .put => .answer ⟨303, "See Other", some "/other", [], true⟩
    | .get => .answer ⟨200, "OK", none, [0x37], true⟩, s)

/-- A level of 5 is set, and the level of another resource comes back as the acknowledged one. -/
theorem level_of_other_resource :
    let t := (sample.perform (.write ⟨5, by decide, by decide⟩)).run sendingDevice ()
    open? "h" 0 = .ok sample ∧ t.value = .ok ⟨7, by decide, by decide⟩ ∧
      t.requests = [⟨.put, sample.target, "5"⟩,
        ⟨.get, { sample.target with path := ["other".toList] }, ""⟩] ∧
      ¬ sample.IsSingleExchange sendingDevice (.write ⟨5, by decide, by decide⟩) () := by
  intro t
  have hrequests : t.requests = [⟨.put, sample.target, "5"⟩,
      ⟨.get, { sample.target with path := ["other".toList] }, ""⟩] := by decide +kernel
  refine ⟨open?_sample, by decide +kernel, hrequests, ?_⟩
  rintro ⟨hone, -⟩
  simp [t, hrequests] at hone

end Channel

end Greenhouse
