import Greenhouse.DeviceInfo
import Greenhouse.Entry
import Greenhouse.EntityState
import Greenhouse.Json.Reader
import Greenhouse.Json.Writer
import Greenhouse.Mode
import Greenhouse.Role

/-!
# Greenhouse.Stored

Values as documents.

A record is written as an object with its members in a fixed order.  It is read from an object with
its members in any order, among others that are passed over, or from an array of all its members in
order.  None of its members may come twice, and only one that may be null may be missing.

A choice between words is written as its word, and also read from an object with that word as its only
member and null as its value.
-/

namespace Greenhouse

open Greenhouse.Text

/-- A type with a form as a document. -/
class Stored (α : Type) where
  toJson : α → Json
  ofJson? : Json → Option α

namespace Stored

/-- A value as text. -/
def write [Stored α] (a : α) : String := String.ofList (toJson a).chars

/-- Reads a value from text. -/
def read? [Stored α] (text : String) : Option α := (Json.ofChars? text.toList).bind ofJson?

/-! ## simple values -/

instance : Stored String where
  toJson := .ofString
  ofJson?
    | .string ss => Json.text? ss
    | _ => none

instance : Stored Bool where
  toJson := .bool
  ofJson?
    | .bool b => some b
    | _ => none

/-- The integer of a number without fraction and exponent; the negative of zero is no integer. -/
def integer? : Json → Option Int
  | .number (.integer false n) => some n
  | .number (.integer true n) => if n = 0 then none else some (-n)
  | _ => none

instance : Stored Power where
  toJson p := .ofInt p.toInt
  ofJson? j := (integer? j).bind Power.ofInt?

instance : Stored UInt32 where
  toJson n := .ofInt n.toNat
  ofJson? j := (integer? j).bind fun n =>
    if 0 ≤ n ∧ n < UInt32.size then some (UInt32.ofNat n.toNat) else none

instance : Stored EntryId where
  toJson id := .ofString id.text
  ofJson?
    | .string ss => (Json.text? ss).bind fun s => EntryId.read? s.toList
    | _ => none

instance [Stored α] : Stored (Option α) where
  toJson
    | none => .null
    | some a => toJson a
  ofJson?
    | .null => some none
    | j => (ofJson? j).map some

instance : Stored Identifier where
  toJson p := .array [toJson p.1, toJson p.2]
  ofJson?
    | .array [a, b] => do return (← ofJson? a, ← ofJson? b)
    | _ => none

instance : Stored Identifiers where
  toJson s := .array (s.toList.map toJson)
  ofJson?
    | .array items => (items.mapM ofJson?).map Identifiers.ofList
    | _ => none

/-! ## choices -/

/-- The word that a document chooses. -/
def word? : Json → Option String
  | .string ss => Json.text? ss
  | .object [(name, .null)] => Json.text? name
  | _ => none

/-- The choice of a word. -/
def choice? (names : List (String × α)) (j : Json) : Option α :=
  (word? j).bind fun w => names.lookup w

instance : Stored Role where
  toJson r := .ofString r.suffix
  ofJson? := choice? [(Role.light.suffix, .light), (Role.waterPump.suffix, .waterPump)]

instance : Stored ColorMode where
  toJson m := .ofString m.name
  ofJson? := choice? [(ColorMode.brightness.name, .brightness)]

instance : Stored NumberMode where
  toJson m := .ofString m.name
  ofJson? := choice? [(NumberMode.slider.name, .slider)]

/-! ## records -/

/-- The members of an object with their names as text. -/
def named? (members : List (List Json.Symbol × Json)) : Option (List (String × Json)) :=
  members.mapM fun (name, value) => (Json.text? name).map fun s => (s, value)

/-- The values of the members of a record, by the names of its members. -/
def members? (names : List String) : Json → Option (List (Option Json))
  | .array items => if items.length = names.length then some (items.map some) else none
  | .object members =>
    (named? members).bind fun ms =>
      if names.all fun n => (ms.filter (·.1 = n)).length ≤ 1 then some (names.map fun n => List.lookup n ms)
      else none
  | _ => none

/-- The value of a member that must be there. -/
def required? [Stored α] (member : Option Json) : Option α := member.bind ofJson?

/-- The value of a member that is null if it is missing. -/
def optional? [Stored α] : Option Json → Option (Option α)
  | none => some none
  | some j => ofJson? j

/-- A record as a document. -/
def record (members : List (String × Json)) : Json :=
  .object (members.map fun (name, value) => (Json.symbols name, value))

instance : Stored EntryData where
  toJson d := record [("host", toJson d.host)]
  ofJson? j := do
    let [host] ← members? ["host"] j | none
    return ⟨← required? host⟩

instance : Stored UserInput where
  toJson d := record [("host", toJson d.host)]
  ofJson? j := do
    let [host] ← members? ["host"] j | none
    return ⟨← required? host⟩

instance : Stored Entry where
  toJson e := record [("entry_id", toJson e.id), ("version", toJson e.version),
    ("title", toJson e.title), ("unique_id", toJson e.uniqueId), ("data", toJson e.data)]
  ofJson? j := do
    let [id, version, title, uniqueId, data] ←
      members? ["entry_id", "version", "title", "unique_id", "data"] j | none
    return ⟨← required? id, ← required? version, ← required? title, ← required? uniqueId,
      ← required? data⟩

instance : Stored DeviceInfo where
  toJson d := record [("identifiers", toJson d.identifiers), ("name", toJson d.name)]
  ofJson? j := do
    let [identifiers, name] ← members? ["identifiers", "name"] j | none
    return ⟨← required? identifiers, ← required? name⟩

instance : Stored EntityState where
  toJson s := record [("unique_id", toJson s.uniqueId), ("power", toJson s.power),
    ("is_on", toJson s.isOn)]
  ofJson? j := do
    let [uniqueId, power, isOn] ← members? ["unique_id", "power", "is_on"] j | none
    return ⟨← required? uniqueId, ← optional? power, ← optional? isOn⟩

end Stored

end Greenhouse
