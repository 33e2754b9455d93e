import Greenhouse.Dialogue

/-!
# Greenhouse.Exchange.Fetch

One call to a device: a request, and the requests that the device's redirects lead to.

Some statuses send the client elsewhere if the reply says where.  The client follows at most ten
times.  It keeps method and body, except where the status asks to look at another resource: that one
is only read.  What would not do as the address of a request is not followed.  Any other status ends
the call, and from 400 to 599 it is a failure.

* `onward?_eq_some_iff` — which replies the client follows.
* `follow_succ` — a call either goes on behind a reply or comes to its `conclusion`.
-/

namespace Greenhouse.Exchange

open Greenhouse.Text

/-- How often a client follows a redirect within one call. -/
def maxRedirects : Nat := 10

/-- How long a client waits for a reply, in milliseconds. -/
def timeout : Nat := 5000

/-- Whether a status sends the client elsewhere. -/
def isRedirect (status : Nat) : Bool :=
  status == 301 || status == 302 || status == 303 || status == 307 || status == 308

/-- What a reply means for the call. -/
inductive Course where
  /-- The reply is the last one. -/
  | final
  /-- The device sent the client off the web. -/
  | astray
  | onward (request : Request)

/-- The request that follows a redirect to a url. -/
def redirected (request : Request) (status : Nat) (url : Url) : Request :=
  let url := { url with fragment := none }
  if status = 303 then ⟨.get, url, ""⟩ else { request with url }

/-- What a reply to a request means for the call. -/
def course (request : Request) (response : Response) : Course :=
  if !isRedirect response.status then .final
  else match response.location with
    | none => .final
    | some location =>
      match request.url.join location.toList with
      | .error _ | .ok .nowhere => .final
      | .ok .elsewhere => .astray
      | .ok (.web url) =>
        if url.isAddressable then .onward (redirected request response.status url) else .final

/-- Makes a request and follows its redirects, at most as many as the number says; `first` is the url
of the first request of the call.  The result is the last reply and the url that it came from. -/
def follow (first : String) : Nat → Request → Dialogue (Except Failure (Response × Url))
  | 0, request =>
    .ask request fun reply =>
      match reply with
      | .silence => .done (.error (.unanswered first))
      | .answer response =>
        match course request response with
        | .final => .done (.ok (response, request.url))
        | _ => .done (.error (.tooManyRedirects first))
  | budget + 1, request =>
    .ask request fun reply =>
      match reply with
      | .silence => .done (.error (.unanswered first))
      | .answer response =>
        match course request response with
        | .final => .done (.ok (response, request.url))
        | .astray => .done (.error (.unaddressable first))
        | .onward next =>
          if next.url.scheme = .http then follow first budget next
          else .done (.error (.unanswered first))

/-- The body of a reply that came from a url. -/
def bodyOf (response : Response) (url : Url) : Except Failure String :=
  if 400 ≤ response.status ∧ response.status < 600 then
    .error (.refused response.status response.phrase url.text)
  else if response.complete then .ok (String.ofList (Utf8.decodeLossy response.body))
  else .error .brokenBody

/-- Makes one call: the body of its last reply. -/
def fetch (request : Request) : Dialogue (Except Failure String) :=
  if request.url.isAddressable then do
    match ← follow request.url.text maxRedirects request with
    | .error failure => return .error failure
    | .ok (response, url) => return bodyOf response url
  else return .error (.unaddressable request.url.text)

/-! ## where replies lead -/

/-- The request that a reply leads the client to, if it can make that one. -/
def onward? (request : Request) : Reply → Option Request
  | .silence => none
  | .answer response =>
    match course request response with
    | .onward next => if next.url.scheme = .http then some next else none
    | _ => none

/-- What a call comes to with its last request and reply, `budget` being how often the client might
still have followed a redirect. -/
def conclusion (first : String) (budget : Nat) (request : Request) :
    Reply → Except Failure (Response × Url)
  | .silence => .error (.unanswered first)
  | .answer response =>
    match course request response with
    | .final => .ok (response, request.url)
    | .astray => .error (if budget = 0 then .tooManyRedirects first else .unaddressable first)
    | .onward _ => .error (if budget = 0 then .tooManyRedirects first else .unanswered first)

/-- With no redirect left the first reply is the last. -/
theorem follow_zero (first : String) (request : Request) :
    follow first 0 request =
      .ask request fun reply => .done (conclusion first 0 request reply) := by
  rw [follow]
  refine congrArg _ (funext fun reply => ?_)
  cases reply with
  | silence => rfl
  | answer response =>
    simp only [conclusion]
    cases course request response <;> rfl

/-- With redirects left, a call either goes on behind a reply or comes to its conclusion. -/
theorem follow_succ (first : String) (budget : Nat) (request : Request) :
    follow first (budget + 1) request =
      .ask request fun reply =>
        match onward? request reply with
        | some next => follow first budget next
        | none => .done (conclusion first (budget + 1) request reply) := by
  rw [follow]
  refine congrArg _ (funext fun reply => ?_)
  cases reply with
  | silence => rfl
  | answer response =>
    simp only [conclusion, onward?]
    cases course request response with
    | final => rfl
    | astray => rfl
    | onward next =>
      dsimp only
      split <;> rfl

/-- A call that comes to a response ends with it. -/
theorem conclusion_eq_ok_iff {first : String} {budget : Nat} {request : Request} {reply : Reply}
    {response : Response} {url : Url} :
    conclusion first budget request reply = .ok (response, url) ↔
      reply = .answer response ∧ course request response = .final ∧ request.url = url := by
  cases reply with
  | silence => simp [conclusion]
  | answer response' =>
    simp only [conclusion, Reply.answer.injEq]
    constructor
    · intro h
      split at h
      · next hfinal =>
        cases h
        exact ⟨rfl, hfinal, rfl⟩
      · cases h
      · cases h
    · rintro ⟨rfl, hfinal, rfl⟩
      rw [hfinal]

/-- A response leads on exactly if it is a redirect and says where, and a request can be made
there. -/
theorem course_eq_onward_iff {request next : Request} {response : Response} :
    course request response = .onward next ↔
      isRedirect response.status ∧ ∃ location url, response.location = some location ∧
        request.url.join location.toList = .ok (.web url) ∧ url.isAddressable ∧
        next = redirected request response.status url := by
  unfold course
  by_cases hredirect : isRedirect response.status
  · cases hlocation : response.location with
    | none => simp [hredirect]
    | some location =>
      cases hjoin : request.url.join location.toList with
      | error fault => simp [hredirect, hjoin]
      | ok target =>
        cases target with
        | web url =>
          by_cases haddressable : url.isAddressable
          · simp only [hredirect, hjoin, haddressable, Bool.not_true, Bool.false_eq_true, if_false,
              if_true, Course.onward.injEq, true_and]
            constructor
            · rintro rfl
              exact ⟨location, url, rfl, hjoin, haddressable, rfl⟩
            · rintro ⟨_, _, ⟨⟩, hjoin', -, rfl⟩
              rw [hjoin] at hjoin'
              cases hjoin'
              rfl
          · simp [hredirect, hjoin, haddressable]
        | elsewhere => simp [hredirect, hjoin]
        | nowhere => simp [hredirect, hjoin]
  · simp [hredirect]

/-- The next request is made to the resource that was named. -/
@[simp] theorem scheme_redirected (request : Request) (status : Nat) (url : Url) :
    (redirected request status url).url.scheme = url.scheme := by
  unfold redirected
  split <;> rfl

/-- A reply leads on exactly if it is a redirect to a web address that a request can be made to. -/
theorem onward?_eq_some_iff {request next : Request} {reply : Reply} :
    onward? request reply = some next ↔
      ∃ response location url, reply = .answer response ∧ isRedirect response.status ∧
        response.location = some location ∧ request.url.join location.toList = .ok (.web url) ∧
        url.isAddressable ∧ url.scheme = .http ∧
        next = redirected request response.status url := by
  constructor
  · intro h
    cases reply with
    | silence => cases h
    | answer response =>
      simp only [onward?] at h
      split at h
      · next next' hcourse =>
        split at h
        · next hscheme =>
          cases h
          obtain ⟨hredirect, location, url, hlocation, hjoin, haddressable, rfl⟩ :=
            course_eq_onward_iff.mp hcourse
          exact ⟨response, location, url, rfl, hredirect, hlocation, hjoin, haddressable,
            scheme_redirected request response.status url ▸ hscheme, rfl⟩
        · cases h
      · cases h
  · rintro ⟨response, location, url, rfl, hredirect, hlocation, hjoin, haddressable, hscheme, rfl⟩
    have hcourse : course request response = .onward (redirected request response.status url) :=
      course_eq_onward_iff.mpr ⟨hredirect, location, url, hlocation, hjoin, haddressable, rfl⟩
    simp only [onward?, hcourse, scheme_redirected, hscheme, if_true]

end Greenhouse.Exchange
