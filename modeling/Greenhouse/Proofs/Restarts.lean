import Mathlib.Data.List.Induction
import Greenhouse.Proofs.Admission
import Greenhouse.Proofs.Persistence

/-!
# Greenhouse.Proofs.Restarts

What an enrolment keeps over a restart.

Of all that has happened only the entries are stored, and of these only the last one of each host that
is configured.  The enrolment that is made of them is another list of hosts than the one before, in
another order; but no answer tells the two apart.

* `Alike` — two enrolments with the same hosts, which answer alike for ever (`Alike.answers`).
* `Backed` — every host that is configured has its last entry.
* `answers_restored` — an enrolment that is stored and restored answers as before.
-/

namespace Greenhouse.Enrolment

/-! ## requests -/

/-- What an enrolment can be asked. -/
inductive Request where
  | submit (id : EntryId) (input : Option UserInput)
  | ask (host : String)
  | forget (entry : Entry)

/-- What a request is answered. -/
inductive Response where
  | stepped (result : Result)
  | asked (isConfigured : Bool)
  | forgotten (wasConfigured : Bool)

/-- Answers a request, and gives the enrolment afterwards. -/
def answer : Request → Enrolment → Response × Enrolment
  | .submit id input, f => (.stepped (f.step id input).1, (f.step id input).2)
  | .ask host, f => (.asked (f.isConfigured host), f)
  | .forget entry, f => (.forgotten (f.isConfigured entry.uniqueId), f.forget entry.uniqueId)

/-- Answers requests one after the other. -/
def answers : List Request → Enrolment → List Response × Enrolment
  | [], f => ([], f)
  | r :: rs, f =>
    let t := answer r f
    let u := answers rs t.2
    (t.1 :: u.1, u.2)

/-- Requests are answered one after the other. -/
theorem answers_append (rs rs' : List Request) (f : Enrolment) :
    answers (rs ++ rs') f =
      ((answers rs f).1 ++ (answers rs' (answers rs f).2).1, (answers rs' (answers rs f).2).2) := by
  induction rs generalizing f with
  | nil => rfl
  | cons r rs ih => simp only [List.cons_append, answers, ih]

/-! ## identifiers do not matter -/

/-- An entry whose identifier is left open. -/
def anonymous (entry : Entry) : Entry := { entry with id := ⟨0⟩ }

/-- A request whose identifiers are left open. -/
def Request.anonymous : Request → Request
  | submit _ input => submit ⟨0⟩ input
  | ask host => ask host
  | forget entry => forget (Enrolment.anonymous entry)

/-- A response whose identifiers are left open. -/
def Response.anonymous : Response → Response
  | stepped (.entry entry) => stepped (.entry (Enrolment.anonymous entry))
  | r => r

/-- What is answered depends on the identifier that is drawn in nothing but that identifier. -/
theorem answer_anonymous (r : Request) (f : Enrolment) :
    answer r.anonymous f = ((answer r f).1.anonymous, (answer r f).2) := by
  cases r with
  | ask host => rfl
  | forget entry => rfl
  | submit id input =>
    cases input with
    | none => rfl
    | some input =>
      simp only [Request.anonymous, answer, step]
      split
      · rfl
      · split <;> rfl

/-- Answers hang on identifiers only as far as they give them back. -/
theorem answers_anonymous (rs : List Request) (f : Enrolment) :
    answers (rs.map Request.anonymous) f =
      ((answers rs f).1.map Response.anonymous, (answers rs f).2) := by
  induction rs generalizing f with
  | nil => rfl
  | cons r rs ih => simp only [List.map_cons, answers, answer_anonymous, ih]

/-! ## enrolments that answer alike -/

/-- Whether two enrolments have the same hosts. -/
def Alike (f g : Enrolment) : Prop := ∀ host, f.isConfigured host = g.isConfigured host

namespace Alike

variable {f g : Enrolment}

/-- Alike enrolments answer alike, and are alike afterwards. -/
theorem answer (h : Alike f g) (r : Request) :
    (answer r f).1 = (answer r g).1 ∧ Alike (answer r f).2 (answer r g).2 := by
  cases r with
  | ask host => exact ⟨congrArg Response.asked (h host), h⟩
  | forget entry =>
    refine ⟨congrArg Response.forgotten (h entry.uniqueId), fun host => ?_⟩
    show (f.forget entry.uniqueId).isConfigured host = (g.forget entry.uniqueId).isConfigured host
    rw [Bool.eq_iff_iff, isConfigured_forget, isConfigured_forget, h host]
  | submit id input =>
    cases input with
    | none => exact ⟨rfl, h⟩
    | some input =>
      simp only [Enrolment.answer, step, ← h (hostOf input.host)]
      split
      · exact ⟨rfl, h⟩
      · split
        · exact ⟨rfl, h⟩
        · refine ⟨rfl, fun host => ?_⟩
          rw [Bool.eq_iff_iff, isConfigured_iff, isConfigured_iff, List.mem_cons, List.mem_cons,
            ← isConfigured_iff, ← isConfigured_iff, h host]

/-- Alike enrolments answer alike for ever. -/
theorem answers (h : Alike f g) (rs : List Request) :
    (Enrolment.answers rs f).1 = (Enrolment.answers rs g).1 := by
  induction rs generalizing f g with
  | nil => rfl
  | cons r rs ih =>
    obtain ⟨hresponse, halike⟩ := h.answer r
    simp only [Enrolment.answers, hresponse, ih halike]

end Alike

/-! ## the last entries -/

/-- The entry that a response gives. -/
def Response.made? : Response → Option Entry
  | stepped (.entry entry) => some entry
  | _ => none

/-- The last entry for a host among some responses. -/
def latest? (responses : List Response) (host : String) : Option Entry :=
  (responses.filterMap Response.made?).reverse.find? (·.data.host == host)

/-- The last response that made an entry for a host is the one that counts. -/
theorem latest?_concat (responses : List Response) (r : Response) (host : String) :
    latest? (responses ++ [r]) host =
      match r.made? with
      | some entry => if entry.data.host = host then some entry else latest? responses host
      | none => latest? responses host := by
  cases h : r.made? with
  | none => simp [latest?, h]
  | some entry => by_cases hhost : entry.data.host = host <;> simp [latest?, h, hhost]

/-- Every host that is configured has a last entry, and is what that entry stands for. -/
def Backed (responses : List Response) (f : Enrolment) : Prop :=
  ∀ host, f.isConfigured host → ∃ e, latest? responses host = some e ∧ e.uniqueId = host

/-- A response that is added to the others backs the flow that gave it. -/
theorem Backed.answer {responses : List Response} {f : Enrolment} (h : Backed responses f)
    (r : Request) : Backed (responses ++ [(answer r f).1]) (answer r f).2 := by
  cases r with
  | ask host =>
    intro other hother
    rw [latest?_concat]
    exact h other hother
  | forget entry =>
    intro host hhost
    rw [latest?_concat]
    exact h host (isConfigured_forget.mp hhost).1
  | submit id input =>
    intro host hhost
    rw [latest?_concat]
    simp only [Enrolment.answer] at hhost ⊢
    obtain ⟨new, -, hstep⟩ | ⟨hno, hstate⟩ := f.step_cases id input
    · rw [hstep] at hhost ⊢
      simp only [Response.made?, newEntry]
      by_cases hnew : new = host
      · exact ⟨_, if_pos hnew, hnew⟩
      · rw [if_neg hnew]
        rw [isConfigured_iff, List.mem_cons] at hhost
        exact h host (isConfigured_iff.mpr (hhost.resolve_left (Ne.symm hnew)))
    · have hentry : (Response.stepped (f.step id input).1).made? = none := by
        cases hresult : (f.step id input).1 with
        | entry entry => exact absurd hresult (hno entry)
        | _ => rfl
      rw [hstate] at hhost
      rw [hentry]
      exact h host hhost

/-- Every host that is configured after some requests has its last entry. -/
theorem backed_answers (rs : List Request) : Backed (answers rs .empty).1 (answers rs .empty).2 := by
  induction rs using List.reverseRecOn with
  | nil =>
    intro host hhost
    cases hhost
  | append_singleton rs r ih =>
    rw [answers_append]
    exact ih.answer r

/-! ## restarts -/

/-- Whether a list holds, of each host that is configured, the last entry, and nothing else. -/
def IsStock (responses : List Response) (f : Enrolment) (entries : List Entry) : Prop :=
  ∀ e, e ∈ entries ↔ ∃ host, f.isConfigured host ∧ latest? responses host = some e

/-- The hosts themselves tell which entries these are. -/
theorem isStock_filterMap (responses : List Response) (f : Enrolment) :
    IsStock responses f (f.configured.filterMap (latest? responses)) := by
  intro e
  simp only [List.mem_filterMap, isConfigured_iff]

/-- The last entries restore the hosts, in whatever order they come. -/
theorem IsStock.alike {responses : List Response} {f : Enrolment} {entries : List Entry}
    (h : IsStock responses f entries) (hbacked : Backed responses f) : Alike (ofEntries entries) f := by
  intro host
  rw [Bool.eq_iff_iff, isConfigured_iff, ofEntries, List.mem_map]
  constructor
  · rintro ⟨e, he, rfl⟩
    obtain ⟨other, hother, hlast⟩ := (h e).mp he
    obtain ⟨e', hlast', hhost⟩ := hbacked other hother
    obtain rfl : e = e' := Option.some.inj (hlast.symm.trans hlast')
    rwa [hhost]
  · intro hhost
    obtain ⟨e, hlast, huniqueId⟩ := hbacked host hhost
    exact ⟨e, (h e).mpr ⟨host, hhost, hlast⟩, huniqueId⟩

/-- Entries that are written, each by itself, are read back. -/
theorem mapM_read?_write (entries : List Entry) :
    (entries.map Stored.write).mapM Stored.read? = some entries := by
  induction entries with
  | nil => rfl
  | cons e entries ih =>
    rw [List.map_cons, List.mapM_cons, Stored.lawful_entry.read?_write, ih]
    rfl

/-- After any requests, every host that is configured has a last entry.  If these are written, read
back and put in any order, then the enrolment restored from them gives every further request the answer
that the one before would have given; and for requests that differ in identifiers only, answers that
differ in identifiers only. -/
theorem answers_restored (requests : List Request) (entries : List Entry)
    (hentries : IsStock (answers requests .empty).1 (answers requests .empty).2 entries) :
    let t := answers requests .empty
    (∀ host, t.2.isConfigured host → ∃ e ∈ entries, latest? t.1 host = some e ∧ e.uniqueId = host) ∧
      ∃ back, (entries.map Stored.write).mapM Stored.read? = some back ∧
        ∀ shuffled : List Entry, shuffled.Perm back →
          (∀ further, (answers further (ofEntries shuffled)).1 = (answers further t.2).1) ∧
          ∀ further further', further.map Request.anonymous = further'.map Request.anonymous →
            (answers further (ofEntries shuffled)).1.map Response.anonymous =
              (answers further' t.2).1.map Response.anonymous := by
  intro t
  have hbacked : Backed t.1 t.2 := backed_answers requests
  refine ⟨fun host hhost => ?_, entries, mapM_read?_write entries, fun shuffled hshuffled => ?_⟩
  · obtain ⟨e, hlast, hhost'⟩ := hbacked host hhost
    exact ⟨e, (hentries e).mpr ⟨host, hhost, hlast⟩, hlast, hhost'⟩
  · have hstock : IsStock t.1 t.2 shuffled := fun e => hshuffled.mem_iff.trans (hentries e)
    have halike : Alike (ofEntries shuffled) t.2 := hstock.alike hbacked
    refine ⟨halike.answers, fun further further' hsame => ?_⟩
    have herase : ∀ rs f, (answers rs f).1.map Response.anonymous =
        (answers (rs.map Request.anonymous) f).1 := fun rs f => by rw [answers_anonymous]
    rw [herase, herase, hsame]
    exact halike.answers _

/-- Two hosts, one of which was forgotten and configured again: its later entry is stored, and the
restored enrolment knows both. -/
theorem answers_restored_two_hosts :
    let requests : List Request := [.submit ⟨1⟩ (some ⟨"a"⟩), .submit ⟨2⟩ (some ⟨"b"⟩),
      .forget (newEntry ⟨1⟩ "a"), .submit ⟨3⟩ (some ⟨" a "⟩)]
    let entries := [newEntry ⟨3⟩ "a", newEntry ⟨2⟩ "b"]
    let further : List Request := [.submit ⟨4⟩ (some ⟨"b"⟩), .forget (newEntry ⟨1⟩ "a"), .ask "a"]
    let t := answers requests .empty
    IsStock t.1 t.2 entries ∧
      ∃ back, (entries.map Stored.write).mapM Stored.read? = some back ∧
        (answers further (ofEntries back.reverse)).1 = (answers further t.2).1 ∧
        (answers further t.2).1 =
          [.stepped (.abort "already_configured"), .forgotten true, .asked false] := by
  intro requests entries further t
  have hstock : IsStock t.1 t.2 entries := isStock_filterMap t.1 t.2
  obtain ⟨-, back, hback, hall⟩ := answers_restored requests entries hstock
  exact ⟨hstock, back, hback, (hall back.reverse back.reverse_perm).1 further, rfl⟩

end Greenhouse.Enrolment
