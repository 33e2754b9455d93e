/-!
# Greenhouse.Role

What the power channels of a device are for: the first drives the light, the second the water pump.
-/

namespace Greenhouse

/-- The role of a power channel. -/
inductive Role where
  | light
  | waterPump
deriving DecidableEq, Repr

namespace Role

/-- The channel that has a role. -/
def index : Role → UInt32
  | light => 0
  | waterPump => 1

/-- The last part of the identifier of the entity with a role. -/
def suffix : Role → String
  | light => "light"
  | waterPump => "water_pump"

/-- A role as a word. -/
def title : Role → String
  | light => "Light"
  | waterPump => "WaterPump"

end Role

end Greenhouse
