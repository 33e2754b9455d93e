import Greenhouse.Text.Hex
import Greenhouse.Text.Unprinted

/-!
# Greenhouse.Text.Quoted

Text quoted for a message.

The text stands between double quotes.  A double quote and a backslash get a backslash in front, the
usual controls have their letter, and every other character that does not show by itself is named by
its number in lower-case hexadecimal between braces.  A single quote stays as it is.
-/

namespace Greenhouse.Text

/-- A character as it stands between the quotes. -/
def quoteChar (c : Char) : List Char :=
  match c with
  | '"' => ['\\', '"']
  | '\\' => ['\\', '\\']
  | '\n' => ['\\', 'n']
  | '\r' => ['\\', 'r']
  | '\t' => ['\\', 't']
  | '\x00' => ['\\', '0']
  | c =>
    if c.toNat < 0x7F ∧ 0x20 ≤ c.toNat then [c]
    else if unprinted.contains c then ['\\', 'u', '\x7b'] ++ Hex.ofNat c.toNat ++ ['\x7d']
    else [c]

/-- Text between quotes. -/
def quote (s : String) : String :=
  String.ofList ('"' :: s.toList.flatMap quoteChar ++ ['"'])

example : quote "a'b\"c\\d\n" = "\"a'b\\\"c\\\\d\\n\"" := by decide +kernel

end Greenhouse.Text
