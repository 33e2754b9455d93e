import Greenhouse.Json
import Greenhouse.Text.Hex

/-!
# Greenhouse.Json.Reader

Reading documents.

The grammar is the strict one: no comments, no trailing commas, no leading zeros, no raw control
characters in strings, and nothing but blanks around the document.
-/

namespace Greenhouse.Json

open Greenhouse.Text

/-- The blanks between the tokens of a document. -/
def isSpace (c : Char) : Bool := c == ' ' || c == '\t' || c == '\n' || c == '\r'

/-- A text without the blanks at its start. -/
def skip (cs : List Char) : List Char := cs.dropWhile isSpace

/-! ## strings -/

/-- The symbol of a number of sixteen bits. -/
def Symbol.ofUnit (unit : Nat) : Symbol :=
  if 0xD800 ≤ unit ∧ unit ≤ 0xDFFF then surrogate unit else char (Char.ofNat unit)

/-- What the letter of a short escape stands for. -/
def escaped? : Char → Option Char
  | '"' => some '"'
  | '\\' => some '\\'
  | '/' => some '/'
  | 'b' => some '\x08'
  | 'f' => some '\x0c'
  | 'n' => some '\n'
  | 'r' => some '\r'
  | 't' => some '\t'
  | _ => none

/-- Joins surrogates that have a partner right behind them. -/
def pairUp : List Symbol → List Symbol
  | .surrogate high :: .surrogate low :: ss =>
    if high < 0xDC00 ∧ 0xDC00 ≤ low then
      .char (Char.ofNat (0x10000 + (high - 0xD800) * 0x400 + (low - 0xDC00))) :: pairUp ss
    else .surrogate high :: pairUp (.surrogate low :: ss)
  | s :: ss => s :: pairUp ss
  | [] => []

/-- Reads a string up to its closing quote, each escape giving a symbol of its own. -/
def rawString? : List Char → Option (List Symbol × List Char)
  | [] => none
  | '"' :: cs => some ([], cs)
  | '\\' :: 'u' :: a :: b :: c :: d :: cs =>
    (Hex.natFrom? 0 [a, b, c, d]).bind fun unit =>
      (rawString? cs).map fun r => (.ofUnit unit :: r.1, r.2)
  | '\\' :: e :: cs =>
    (escaped? e).bind fun c => (rawString? cs).map fun r => (.char c :: r.1, r.2)
  | c :: cs =>
    if c.toNat < 0x20 || c == '\\' then none
    else (rawString? cs).map fun r => (.char c :: r.1, r.2)

/-- Reads a string behind its opening quote. -/
def string? (cs : List Char) : Option (List Symbol × List Char) :=
  (rawString? cs).map fun r => (pairUp r.1, r.2)

/-! ## numbers -/

/-- Reads one or more digits. -/
def digits? (cs : List Char) : Option (List Char × List Char) :=
  let ds := cs.takeWhile Char.isDigit
  if ds.isEmpty then none else some (ds, cs.dropWhile Char.isDigit)

/-- Reads a fraction, which may be missing. -/
def fraction? : List Char → Option (List Char × List Char)
  | '.' :: cs => (digits? cs).map fun r => ('.' :: r.1, r.2)
  | cs => some ([], cs)

/-- Reads an exponent, which may be missing. -/
def exponent? : List Char → Option (List Char × List Char)
  | c :: cs =>
    if c == 'e' || c == 'E' then
      match cs with
      | '+' :: cs => (digits? cs).map fun r => (c :: '+' :: r.1, r.2)
      | '-' :: cs => (digits? cs).map fun r => (c :: '-' :: r.1, r.2)
      | cs => (digits? cs).map fun r => (c :: r.1, r.2)
    else some ([], c :: cs)
  | [] => some ([], [])

/-- Reads a number without its sign. -/
def magnitude? (negative : Bool) (cs : List Char) : Option (Numeral × List Char) := do
  let (whole, cs) ← digits? cs
  if whole.head? = some '0' ∧ whole.length ≠ 1 then none
  else
    let (fraction, cs) ← fraction? cs
    let (exponent, cs) ← exponent? cs
    if fraction.isEmpty && exponent.isEmpty then
      return (.integer negative (Nat.ofDigitChars 10 whole 0), cs)
    else
      return (.real ((if negative then ['-'] else []) ++ whole ++ fraction ++ exponent), cs)

/-- Reads a number. -/
def numeral? : List Char → Option (Numeral × List Char)
  | '-' :: cs => magnitude? true cs
  | cs => magnitude? false cs

/-! ## values -/

mutual

/-- Reads a value; `fuel` bounds how deep and how long its lists are. -/
def value? : Nat → List Char → Option (Json × List Char)
  | 0, _ => none
  | fuel + 1, cs =>
    match skip cs with
    | '"' :: cs => (string? cs).map fun r => (.string r.1, r.2)
    | '[' :: cs =>
      match skip cs with
      | ']' :: cs => some (.array [], cs)
      | cs => (items? fuel cs).map fun r => (.array r.1, r.2)
    | '\x7b' :: cs =>
      match skip cs with
      | '\x7d' :: cs => some (.object [], cs)
      | cs => (members? fuel cs).map fun r => (.object r.1, r.2)
    | 'n' :: 'u' :: 'l' :: 'l' :: cs => some (.null, cs)
    | 't' :: 'r' :: 'u' :: 'e' :: cs => some (.bool true, cs)
    | 'f' :: 'a' :: 'l' :: 's' :: 'e' :: cs => some (.bool false, cs)
    | cs => (numeral? cs).map fun r => (.number r.1, r.2)

/-- Reads one or more items of an array, and its closing bracket. -/
def items? : Nat → List Char → Option (List Json × List Char)
  | 0, _ => none
  | fuel + 1, cs =>
    (value? fuel cs).bind fun (item, cs) =>
      match skip cs with
      | ',' :: cs => (items? fuel cs).map fun r => (item :: r.1, r.2)
      | ']' :: cs => some ([item], cs)
      | _ => none

/-- Reads one or more members of an object, and its closing brace. -/
def members? : Nat → List Char → Option (List (List Symbol × Json) × List Char)
  | 0, _ => none
  | fuel + 1, cs =>
    match skip cs with
    | '"' :: cs =>
      (string? cs).bind fun (name, cs) =>
        match skip cs with
        | ':' :: cs =>
          (value? fuel cs).bind fun (value, cs) =>
            match skip cs with
            | ',' :: cs => (members? fuel cs).map fun r => ((name, value) :: r.1, r.2)
            | '\x7d' :: cs => some ([(name, value)], cs)
            | _ => none
        | _ => none
    | _ => none

end

/-- Reads a document that takes up a whole text.  Each step into a list takes a character, so twice
the length of the text is fuel enough. -/
def ofChars? (cs : List Char) : Option Json :=
  (value? (2 * cs.length + 2) cs).bind fun (value, rest) =>
    if (skip rest).isEmpty then some value else none

end Greenhouse.Json
