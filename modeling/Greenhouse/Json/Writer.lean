import Greenhouse.Json
import Greenhouse.Text.Hex

/-!
# Greenhouse.Json.Writer

Writing documents without any blanks.  Only what must be escaped is escaped: quotes, backslashes and
control characters, the latter by their letter where they have one.
-/

namespace Greenhouse.Json

open Greenhouse.Text

/-- A number of sixteen bits as an escape. -/
def unitChars (unit : Nat) : List Char := '\\' :: 'u' :: Hex.ofNatPadded 4 unit

/-- A character as it stands in a string. -/
def escape (c : Char) : List Char :=
  match c with
  | '"' => ['\\', '"']
  | '\\' => ['\\', '\\']
  | '\x08' => ['\\', 'b']
  | '\x0c' => ['\\', 'f']
  | '\n' => ['\\', 'n']
  | '\r' => ['\\', 'r']
  | '\t' => ['\\', 't']
  | c => if c.toNat < 0x20 then unitChars c.toNat else [c]

/-- A symbol as it stands in a string. -/
def Symbol.chars : Symbol → List Char
  | char c => escape c
  | surrogate unit => unitChars unit

/-- A string with its quotes. -/
def stringChars (ss : List Symbol) : List Char := '"' :: ss.flatMap Symbol.chars ++ ['"']

/-- A number. -/
def Numeral.chars : Numeral → List Char
  | integer negative magnitude => (if negative then ['-'] else []) ++ Decimal.ofNat magnitude
  | real text => text

mutual

/-- A document. -/
def chars : Json → List Char
  | null => ['n', 'u', 'l', 'l']
  | bool true => ['t', 'r', 'u', 'e']
  | bool false => ['f', 'a', 'l', 's', 'e']
  | number n => n.chars
  | string ss => stringChars ss
  | array items => '[' :: itemsChars items ++ [']']
  | object members => '\x7b' :: membersChars members ++ ['\x7d']

/-- Items with commas between them. -/
def itemsChars : List Json → List Char
  | [] => []
  | [item] => item.chars
  | item :: items => item.chars ++ ',' :: itemsChars items

/-- Members with commas between them. -/
def membersChars : List (List Symbol × Json) → List Char
  | [] => []
  | [(name, value)] => stringChars name ++ ':' :: value.chars
  | (name, value) :: members => stringChars name ++ ':' :: value.chars ++ ',' :: membersChars members

end

end Greenhouse.Json
