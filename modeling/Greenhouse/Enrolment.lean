import Greenhouse.Entry
import Greenhouse.Note

/-!
# Greenhouse.Enrolment

The form by which an owner adds a device.

The form has one field, the host.  A host that is no bare address shows the form again with an error;
a host that is configured already ends the enrolment; any other host becomes an entry.  The enrolment
remembers the hosts that it has made entries for, and those of entries made earlier.
-/

namespace Greenhouse

open Greenhouse.Text

/-- The hosts that are configured. -/
structure Enrolment where
  configured : List String

/-- Where a step of the form leads. -/
inductive Enrolment.Result where
  /-- A step of the form is shown, with its fields, and with an error for each field at fault. -/
  | form (step : String) (fields : List String) (errors : List (String × String))
  | abort (reason : String)
  | entry (entry : Entry)

namespace Enrolment

/-- The version of the entries. -/
def version : UInt32 := 1

/-- The name of the form's only step. -/
def stepName : String := "user"

/-- The name of the form's only field. -/
def hostField : String := "host"

/-- The error shown with the field when the host is no bare address. -/
def invalidHost : String := "invalid_host"

/-- Why an enrolment ends without an entry. -/
def alreadyConfiguredReason : String := "already_configured"

/-- No host is configured. -/
def empty : Enrolment := ⟨[]⟩

/-- The hosts of stored entries are configured. -/
def ofEntries (entries : List Entry) : Enrolment := ⟨entries.map Entry.uniqueId⟩

/-- Whether a host is configured. -/
def isConfigured (f : Enrolment) (host : String) : Bool := f.configured.contains host

/-- Forgets a host, so that it can be configured again. -/
def forget (f : Enrolment) (host : String) : Enrolment := ⟨f.configured.filter (· != host)⟩

/-- The entry for a host. -/
def newEntry (id : EntryId) (host : String) : Entry :=
  ⟨id, version, "PlantCare " ++ host, host, ⟨host⟩⟩

/-- The host that an input asks for. -/
def hostOf (input : String) : String := String.ofList (trim input.toList)

/-- The form, shown with some errors. -/
def form (errors : List (String × String)) : Result := .form stepName [hostField] errors

/-- A step of the form.  Without input it is shown; `id` becomes the identifier of a new entry. -/
def step (f : Enrolment) (id : EntryId) : Option UserInput → Result × Enrolment
  | none => (form [], f)
  | some input =>
    let host := hostOf input.host
    match Host.check host with
    | .error _ => (form [(hostField, invalidHost)], f)
    | .ok () =>
      if f.isConfigured host then (.abort alreadyConfiguredReason, f)
      else (.entry (newEntry id host), ⟨host :: f.configured⟩)

/-- What is noted about a step of the form. -/
def notes (f : Enrolment) : Option UserInput → List Note
  | none => []
  | some input =>
    let host := hostOf input.host
    match Host.check host with
    | .error fault => [.hostRejected input.host fault]
    | .ok () => if f.isConfigured host then [.alreadyConfigured host] else [.entryCreated host]

/-! ## small facts -/

/-- A form that is shown makes no entry. -/
@[simp] theorem form_ne_entry (errors : List (String × String)) (entry : Entry) :
    form errors ≠ .entry entry := nofun

/-- A host is configured if it is one of those that are remembered. -/
theorem isConfigured_iff {f : Enrolment} {host : String} :
    f.isConfigured host ↔ host ∈ f.configured := by
  simp [isConfigured]

/-- A host that is forgotten is configured no more, and the others are as before. -/
theorem isConfigured_forget {f : Enrolment} {host h : String} :
    (f.forget host).isConfigured h ↔ f.isConfigured h ∧ h ≠ host := by
  simp [isConfigured, forget]

end Enrolment

end Greenhouse
