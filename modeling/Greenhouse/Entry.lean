import Greenhouse.EntryId

/-!
# Greenhouse.Entry

What is stored about a configured device.
-/

namespace Greenhouse

/-- What the owner's form asks for. -/
structure UserInput where
  host : String
deriving DecidableEq, Repr

/-- What was collected by the form. -/
structure EntryData where
  host : String
deriving DecidableEq, Repr

/-- The stored configuration of one device. -/
structure Entry where
  id : EntryId
  version : UInt32
  title : String
  /-- What no two configured entries share. -/
  uniqueId : String
  data : EntryData
deriving DecidableEq

end Greenhouse
