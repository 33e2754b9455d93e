import Greenhouse.Channel

/-!
# Greenhouse.Proofs.Replies

Dialogues seen from the replies that they get.

A dialogue that has got a reply goes on as another dialogue (`hear?`), and what it comes to in the end
depends on its replies alone (`outcome?`), whoever gave them.

* `outcome?_replies` — a run with a device comes to what its replies decide.
* `Channel.Reads.last` — a level that a channel gives was read from the body of the last reply.
-/

namespace Greenhouse

open Greenhouse.Text Greenhouse.Exchange

namespace Dialogue

variable {α β : Type}

/-! ## going on with replies -/

/-- How a dialogue goes on once its next question is answered, if it asks one. -/
def hear? (reply : Reply) : Dialogue α → Option (Dialogue α)
  | done _ => none
  | note _ rest => rest.hear? reply
  | ask _ next => some (next reply)

/-- What a dialogue asks next, if anything. -/
def question? : Dialogue α → Option Request
  | done _ => none
  | note _ rest => rest.question?
  | ask request _ => some request

/-- How a dialogue goes on behind some replies, if it asked for that many. -/
def after? (d : Dialogue α) (replies : List Reply) : Option (Dialogue α) :=
  replies.foldlM (fun d reply => d.hear? reply) d

/-- What a dialogue comes to with some replies, if it asks for just as many. -/
def outcome? (d : Dialogue α) (replies : List Reply) : Option α :=
  (d.after? replies).bind value?

/-- The replies of a device in a dialogue. -/
def replies {σ : Type} (device : Device σ) : Dialogue α → σ → List Reply
  | done _, _ => []
  | note _ rest, s => rest.replies device s
  | ask request next, s =>
    let (reply, s) := device request s
    reply :: (next reply).replies device s

/-- Before any reply. -/
@[simp] theorem after?_nil (d : Dialogue α) : d.after? [] = some d := rfl

/-- The first reply is heard first. -/
theorem after?_cons (d : Dialogue α) (r : Reply) (rs : List Reply) :
    d.after? (r :: rs) = (d.hear? r).bind (·.after? rs) := rfl

/-- Replies are heard one after the other. -/
theorem after?_append (d : Dialogue α) (rs rs' : List Reply) :
    d.after? (rs ++ rs') = (d.after? rs).bind (·.after? rs') := by
  induction rs generalizing d with
  | nil => rfl
  | cons r rs ih =>
    rw [List.cons_append, after?_cons, after?_cons, Option.bind_assoc]
    exact congrArg _ (funext ih)

/-- One more reply. -/
theorem after?_concat (d : Dialogue α) (rs : List Reply) (r : Reply) :
    d.after? (rs ++ [r]) = (d.after? rs).bind (·.hear? r) := by
  rw [after?_append]
  refine congrArg _ (funext fun d => ?_)
  cases hr : d.hear? r <;> simp [after?_cons, hr]

/-- The first reply is heard first. -/
theorem outcome?_cons (d : Dialogue α) (r : Reply) (rs : List Reply) :
    d.outcome? (r :: rs) = (d.hear? r).bind (·.outcome? rs) := by
  rw [outcome?, after?_cons, Option.bind_assoc]
  rfl

/-- A dialogue that has come to its end hears nothing more. -/
theorem hear?_eq_none {d : Dialogue α} {a : α} (h : d.value? = some a) (r : Reply) :
    d.hear? r = none := by
  induction d with
  | done _ => rfl
  | note _ rest ih => exact ih h
  | ask _ _ => cases h

/-- A dialogue that has come to its end asks nothing more. -/
theorem question?_eq_none {d : Dialogue α} {a : α} (h : d.value? = some a) :
    d.question? = none := by
  induction d with
  | done _ => rfl
  | note _ rest ih => exact ih h
  | ask _ _ => cases h

/-- A note does not bear on the outcome. -/
@[simp] theorem outcome?_note (n : Note) (rest : Dialogue α) (rs : List Reply) :
    (note n rest).outcome? rs = rest.outcome? rs := by
  cases rs with
  | nil => rfl
  | cons r rs => rw [outcome?_cons, outcome?_cons]; rfl

/-- A dialogue that asks nothing is over before any reply. -/
theorem outcome?_of_value? {d : Dialogue α} {a : α} (h : d.value? = some a) (rs : List Reply) :
    d.outcome? rs = if rs = [] then some a else none := by
  cases rs with
  | nil => exact h
  | cons r rs => rw [outcome?_cons, hear?_eq_none h]; rfl

/-- Three dialogues in a row are one, however they are grouped. -/
theorem bind_assoc {γ : Type} (d : Dialogue α) (f : α → Dialogue β) (g : β → Dialogue γ) :
    d >>= f >>= g = d >>= fun a => f a >>= g := by
  show (d.bind f).bind g = d.bind fun a => (f a).bind g
  induction d with
  | done a => rfl
  | note n rest ih => exact congrArg (note n) ih
  | ask request next ih => exact congrArg (ask request) (funext ih)

theorem tell_bind (n : Note) (f : Unit → Dialogue α) : (tell n >>= f) = note n (f ()) := rfl

/-- What is done without a question at the end of a dialogue needs no more replies. -/
theorem outcome?_bind {f : α → Dialogue β} {g : α → β} (hf : ∀ a, (f a).value? = some (g a))
    (d : Dialogue α) (rs : List Reply) : (d >>= f).outcome? rs = (d.outcome? rs).map g := by
  show (d.bind f).outcome? rs = _
  induction d generalizing rs with
  | done a =>
    rw [bind, outcome?_of_value? (hf a), outcome?_of_value? (a := a) rfl]
    split <;> rfl
  | note n rest ih => rw [bind, outcome?_note, outcome?_note, ih]
  | ask request next ih =>
    cases rs with
    | nil => rfl
    | cons r rs => rw [outcome?_cons, outcome?_cons]; exact ih r rs

/-- Two dialogues ask nothing if neither does. -/
theorem value?_bind (d : Dialogue α) (f : α → Dialogue β) :
    (d >>= f).value? = d.value?.bind fun a => (f a).value? := by
  show (d.bind f).value? = _
  induction d with
  | done a => rfl
  | note n rest ih => exact ih
  | ask request next => rfl

/-- To tell notes asks nothing. -/
@[simp] theorem value?_tellAll (ns : List Note) : (tellAll ns).value? = some () := by
  induction ns with
  | nil => rfl
  | cons n ns ih => exact ih

/-! ## replies in a run -/

variable {σ : Type} (device : Device σ)

/-- A run comes to what its replies decide. -/
theorem outcome?_replies (d : Dialogue α) (s : σ) :
    d.outcome? (d.replies device s) = some (d.run device s).value := by
  induction d generalizing s with
  | done a => rfl
  | note n rest ih => rw [outcome?_note]; exact ih s
  | ask request next ih => exact (outcome?_cons ..).trans (ih _ _)

/-- The replies of two dialogues are those of the first, then those of the second. -/
theorem replies_bind (d : Dialogue α) (f : α → Dialogue β) (s : σ) :
    (d >>= f).replies device s =
      d.replies device s ++
        (f (d.run device s).value).replies device (d.run device s).state := by
  show (d.bind f).replies device s = _
  induction d generalizing s with
  | done a => rfl
  | note n rest ih => exact ih s
  | ask request next ih => exact congrArg (_ :: ·) (ih _ _)

/-- What asks nothing gets no replies. -/
theorem replies_eq_nil {d : Dialogue α} {a : α} (h : d.value? = some a) (s : σ) :
    d.replies device s = [] := by
  induction d with
  | done _ => rfl
  | note _ rest ih => exact ih h
  | ask _ _ => cases h

/-- What is asked in a dialogue with a device, each request with its reply. -/
def exchanges : Dialogue α → σ → List (Request × Reply)
  | done _, _ => []
  | note _ rest, s => rest.exchanges s
  | ask request next, s =>
    (request, (device request s).1) :: (next (device request s).1).exchanges (device request s).2

/-- The requests of a run are those of its exchanges. -/
theorem requests_run (d : Dialogue α) (s : σ) :
    (d.run device s).requests = (d.exchanges device s).map Prod.fst := by
  induction d generalizing s with
  | done a => rfl
  | note n rest ih => exact ih s
  | ask request next ih => exact congrArg (request :: ·) (ih _ _)

/-- The replies of a run are those of its exchanges. -/
theorem replies_eq_map (d : Dialogue α) (s : σ) :
    d.replies device s = (d.exchanges device s).map Prod.snd := by
  induction d generalizing s with
  | done a => rfl
  | note n rest ih => exact ih s
  | ask request next ih => exact congrArg (_ :: ·) (ih _ _)

/-- A device is left in the state that the requests have brought it to. -/
theorem state_run (d : Dialogue α) (s : σ) :
    (d.run device s).state = (d.exchanges device s).foldl (fun s x => (device x.1 s).2) s := by
  induction d generalizing s with
  | done a => rfl
  | note n rest ih => exact ih s
  | ask request next ih => exact ih _ _

/-- What asks nothing leaves the device alone. -/
theorem run_of_value? {d : Dialogue α} {a : α} (h : d.value? = some a) (s : σ) :
    (d.run device s).value = a ∧ (d.run device s).requests = [] ∧
      (d.run device s).state = s := by
  induction d with
  | done _ => cases h; exact ⟨rfl, rfl, rfl⟩
  | note _ rest ih => exact ih h
  | ask _ _ => cases h

/-- What is done without a question at the end of a dialogue adds no exchanges. -/
theorem run_bind_of_value? {f : α → Dialogue β} {g : α → β} (hf : ∀ a, (f a).value? = some (g a))
    (d : Dialogue α) (s : σ) : ((d >>= f).run device s).value = g (d.run device s).value ∧
      (d >>= f).exchanges device s = d.exchanges device s := by
  show ((d.bind f).run device s).value = _ ∧ (d.bind f).exchanges device s = _
  induction d generalizing s with
  | done a =>
    obtain ⟨hvalue, hrequests, -⟩ := run_of_value? device (hf a) s
    rw [requests_run] at hrequests
    exact ⟨hvalue, List.map_eq_nil_iff.mp hrequests⟩
  | note n rest ih => exact ih s
  | ask request next ih =>
    obtain ⟨hvalue, hexchanges⟩ := ih (device request s).1 (device request s).2
    exact ⟨hvalue, congrArg (_ :: ·) hexchanges⟩

end Dialogue

/-! ## the last reply of an exchange -/

/-- The level that the body of a reply gives, if it gives one. -/
def Reply.level? : Reply → Option Power
  | .answer response => Power.read? (String.ofList (Utf8.decodeLossy response.body))
  | .silence => none

namespace Exchange

open Dialogue

/-- The response that a call ends with is its last reply. -/
theorem last_of_outcome?_follow {first : String} {budget : Nat} {request : Request}
    {rs : List Reply} {response : Response} {url : Url}
    (h : (follow first budget request).outcome? rs = some (.ok (response, url))) :
    rs.getLast? = some (.answer response) := by
  -- what is concluded from a reply needs no reply behind it
  have concluded : ∀ {budget : Nat} {request : Request} {reply : Reply} {rs : List Reply},
      (done (conclusion first budget request reply)).outcome? rs = some (.ok (response, url)) →
        (reply :: rs).getLast? = some (.answer response) := by
    intro budget request reply rs h
    rw [outcome?_of_value? (a := conclusion first budget request reply) rfl] at h
    split at h
    · next hrs =>
      rw [hrs, (conclusion_eq_ok_iff.mp (Option.some.inj h)).1]
      rfl
    · cases h
  induction budget generalizing request rs with
  | zero =>
    rw [follow_zero] at h
    cases rs with
    | nil => cases h
    | cons r rs => exact concluded h
  | succ budget ih =>
    rw [follow_succ] at h
    cases rs with
    | nil => cases h
    | cons r rs =>
      simp only [outcome?_cons, hear?, Option.bind_some] at h
      split at h
      · -- the client went on, so the last reply is among those behind this one
        have hlast := ih h
        cases rs with
        | nil => cases hlast
        | cons r' rs => exact hlast
      · exact concluded h

/-- The body that a call gives is that of its last reply, and its status is no failure. -/
theorem last_of_outcome?_fetch {request : Request} {rs : List Reply} {body : String}
    (h : (fetch request).outcome? rs = some (.ok body)) :
    ∃ response, rs.getLast? = some (.answer response) ∧
      ¬ (400 ≤ response.status ∧ response.status < 600) ∧ response.complete ∧
      body = String.ofList (Utf8.decodeLossy response.body) := by
  unfold fetch at h
  split at h
  · rw [outcome?_bind (g := fun r => r.bind fun r => bodyOf r.1 r.2)
      (fun r => by cases r <;> rfl)] at h
    obtain ⟨r, hr, hb⟩ := Option.map_eq_some_iff.mp h
    cases r with
    | error failure => cases hb
    | ok r =>
      obtain ⟨response, url⟩ := r
      refine ⟨response, last_of_outcome?_follow hr, ?_⟩
      simp only [Except.bind, bodyOf] at hb
      split at hb
      · cases hb
      · next hstatus =>
        split at hb
        · next hcomplete =>
          cases hb
          exact ⟨hstatus, hcomplete, rfl⟩
        · cases hb
  · rw [show (pure (.error _) : Dialogue (Except Failure String)) = done (.error _) from rfl,
      outcome?_of_value? (a := .error _) rfl] at h
    split at h <;> cases h

end Exchange

namespace Channel

open Dialogue

/-- Taking a body for a level succeeds on levels only. -/
theorem read?_of_readLevel {c : Channel} {result : Except Failure String} {p : Power}
    (h : c.readLevel result = .ok p) : ∃ body, result = .ok body ∧ Power.read? body = some p := by
  cases result with
  | error failure => cases h
  | ok body =>
    refine ⟨body, rfl, ?_⟩
    simp only [readLevel] at h
    split at h
    · next hp => cases h; exact hp
    · cases h

/-- What a channel makes of the replies when it reads. -/
theorem outcome?_get (c : Channel) (rs : List Reply) :
    c.get.outcome? rs = ((fetch ⟨.get, c.target, ""⟩).outcome? rs).map c.readLevel := by
  rw [get, tell_bind, outcome?_note, outcome?_bind (g := c.readLevel)]
  intro result
  dsimp only
  split <;> rfl

/-- What a channel makes of the replies when it sets. -/
theorem outcome?_set (c : Channel) (value : Power) (rs : List Reply) :
    (c.set value).outcome? rs =
      ((fetch ⟨.put, c.target, value.text⟩).outcome? rs).map c.readLevel := by
  rw [set, tell_bind, outcome?_note, outcome?_bind (g := c.readLevel)]
  intro result
  dsimp only
  split
  · split <;> rfl
  · rfl

/-- A dialogue that takes the body of a call for a level. -/
def Reads (c : Channel) (d : Dialogue (Except Error Power)) : Prop :=
  ∃ request, ∀ rs, d.outcome? rs = ((fetch request).outcome? rs).map c.readLevel

/-- To read a channel gives what its replies say. -/
theorem reads_get (c : Channel) : c.Reads c.get := ⟨_, c.outcome?_get⟩

/-- To set a channel gives what its replies say. -/
theorem reads_set (c : Channel) (value : Power) : c.Reads (c.set value) := ⟨_, c.outcome?_set value⟩

/-- The level that a channel gives is what the body of the last reply says. -/
theorem Reads.last {c : Channel} {d : Dialogue (Except Error Power)} (hd : c.Reads d)
    {rs : List Reply} {p : Power} (h : d.outcome? rs = some (.ok p)) :
    ∃ response, rs.getLast? = some (.answer response) ∧
      ¬ (400 ≤ response.status ∧ response.status < 600) ∧ response.complete ∧
      Power.read? (String.ofList (Utf8.decodeLossy response.body)) = some p := by
  obtain ⟨request, hd⟩ := hd
  rw [hd] at h
  obtain ⟨result, hr, hl⟩ := Option.map_eq_some_iff.mp h
  obtain ⟨body, rfl, hp⟩ := read?_of_readLevel hl
  obtain ⟨response, hlast, hstatus, hcomplete, rfl⟩ := last_of_outcome?_fetch hr
  exact ⟨response, hlast, hstatus, hcomplete, hp⟩

end Channel

end Greenhouse
