import Greenhouse.Double

/-!
# Greenhouse.Mode

How lights and number entities present themselves, and what a slider position asks for.
-/

namespace Greenhouse

/-- What a light can vary. -/
inductive ColorMode where
  | brightness
deriving DecidableEq, Repr

/-- The word for what a light can vary. -/
def ColorMode.name : ColorMode → String
  | brightness => "brightness"

/-- How a number is set. -/
inductive NumberMode where
  | slider
deriving DecidableEq, Repr

/-- The word for how a number is set. -/
def NumberMode.name : NumberMode → String
  | slider => "slider"

/-- The ends of a slider and the distance between its positions. -/
structure SliderRange where
  min : Double
  max : Double
  step : Double

/-- The slider of the pump: every conventional level. -/
def SliderRange.levels : SliderRange := ⟨.ofInt 0, .ofPower .full, .ofInt 1⟩

/-- The level that a slider position asks for: the nearest whole number, brought to the ends of the
slider; `none` for what is no number. -/
def Double.level? (d : Double) : Option Power :=
  match d.value with
  | .finite .. => some (d.round.clamp SliderRange.levels.min SliderRange.levels.max).toPower
  | _ => none

end Greenhouse
