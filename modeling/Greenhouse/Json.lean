import Greenhouse.Text.Decimal

/-!
# Greenhouse.Json

Documents: the values that JSON texts stand for.

Two things are kept that a plain value would lose, since they decide what a text may be read as.  A
number without fraction and exponent is told from other numbers, and from its negative when it is
zero.  A string may hold surrogates without a partner, which escapes can give but no text can hold.
-/

namespace Greenhouse

open Greenhouse.Text

namespace Json

/-- A part of a string. -/
inductive Symbol where
  | char (c : Char)
  /-- A surrogate without a partner. -/
  | surrogate (unit : Nat)
deriving DecidableEq

/-- A number. -/
inductive Numeral where
  | integer (negative : Bool) (magnitude : Nat)
  /-- A number with a fraction or an exponent, as it is written. -/
  | real (text : List Char)
deriving DecidableEq

end Json

/-- A document. -/
inductive Json where
  | null
  | bool (value : Bool)
  | number (value : Json.Numeral)
  | string (symbols : List Json.Symbol)
  | array (items : List Json)
  | object (members : List (List Json.Symbol × Json))

namespace Json

/-! ## text in documents -/

/-- The symbols of a text. -/
def symbols (s : String) : List Symbol := s.toList.map .char

/-- The character of a symbol, if it is one. -/
def Symbol.char? : Symbol → Option Char
  | char c => some c
  | surrogate _ => none

/-- The text of some symbols, if they are all characters. -/
def text? (ss : List Symbol) : Option String := (ss.mapM Symbol.char?).map String.ofList

/-- A text as a document. -/
def ofString (s : String) : Json := string (symbols s)

/-- An integer as a document. -/
def ofInt (n : Int) : Json := number (.integer (n < 0) n.natAbs)

/-- A text is what its own symbols say. -/
@[simp] theorem text?_symbols (s : String) : text? (symbols s) = some s := by
  have : ∀ cs : List Char, (cs.map Symbol.char).mapM Symbol.char? = some cs := by
    intro cs
    induction cs with
    | nil => rfl
    | cons c cs ih => simp [ih, Symbol.char?]
  simp [text?, symbols, this]

end Json

end Greenhouse
