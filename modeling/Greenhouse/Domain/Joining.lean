import Greenhouse.Domain.Joining.Table
import Greenhouse.Text.Composed

/-!
# Greenhouse.Domain.Joining

Where a label may hold the two invisible joiners.

Both are welcome behind a virama, which joins consonants.  The non-joiner is also welcome between
two letters that would otherwise join, transparent characters left aside.
-/

namespace Greenhouse.Domain

open Greenhouse.Text

/-- How a letter joins its neighbours. -/
inductive Joining where
  | transparent
  | leftJoining
  | rightJoining
  | dualJoining
  | joinCausing
  | nonJoining
deriving DecidableEq

namespace Joining

/-- The joining that the table gives a number. -/
def ofClass : Nat → Joining
  | 0 => transparent
  | 1 => leftJoining
  | 2 => rightJoining
  | 3 => dualJoining
  | 4 => joinCausing
  | _ => nonJoining

/-- The joining of a character. -/
def ofChar (c : Char) : Joining := ((classes.get? c).map ofClass).getD nonJoining

/-- The zero-width non-joiner. -/
def nonJoiner : Char := '\u200c'

/-- The zero-width joiner. -/
def joiner : Char := '\u200d'

/-- The combining class of the viramas. -/
def virama : Nat := 9

/-- The nearest character that is not transparent satisfies `p`. -/
def nearest (p : Joining → Bool) (cs : List Char) : Bool :=
  ((cs.map ofChar).find? (· != transparent)).any p

/-- Whether a joiner may stand between two texts, the one in front given in reverse. -/
def mayStand (before : List Char) (c : Char) (after : List Char) : Bool :=
  before.head?.any (Composed.combiningClass · == virama) ||
    c == nonJoiner &&
      nearest (fun j => j == leftJoining || j == dualJoining) before &&
      nearest (fun j => j == rightJoining || j == dualJoining) after

/-- Whether every joiner in `cs` may stand where it does, `before` being what comes in front, in
reverse. -/
def allowedFrom (before : List Char) : List Char → Bool
  | [] => true
  | c :: cs =>
    ((c != joiner && c != nonJoiner) || mayStand before c cs) && allowedFrom (c :: before) cs

/-- Whether every joiner of a label may stand where it does. -/
def allowed (label : List Char) : Bool := allowedFrom [] label

end Joining

end Greenhouse.Domain
