import Greenhouse.Power

/-!
# Greenhouse.EntityState

What an entity shows of itself.
-/

namespace Greenhouse

/-- The state of an entity as it was last known. -/
structure EntityState where
  uniqueId : String
  /-- The level that the device last acknowledged, if it ever did. -/
  power : Option Power
  isOn : Option Bool
deriving DecidableEq

/-- The state of an entity whose last known level is `power`. -/
def EntityState.ofPower (uniqueId : String) (power : Option Power) : EntityState :=
  ⟨uniqueId, power, power.map Power.isOn⟩

end Greenhouse
