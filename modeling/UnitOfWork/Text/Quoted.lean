import UnitOfWork.Text.Shapeless

/-!
# Quoted texts

A text between double quotes, in which every character that would end the text
or could not be seen is written with a backslash: the quote and the backslash
themselves, the usual blank controls by a letter, and any other character
without a shape by its number.
-/

namespace UnitOfWork.Text

/-- A number in hexadecimal digits, small letters and no leading zero. -/
def hexadecimal (n : Nat) : List Char :=
  Nat.toDigits 16 n

/-- How a character is written inside a quoted text. -/
def quoteChar (c : Char) : List Char :=
  match c with
  | '"' => ['\\', '"']
  | '\\' => ['\\', '\\']
  | '\t' => ['\\', 't']
  | '\r' => ['\\', 'r']
  | '\n' => ['\\', 'n']
  | '\x00' => ['\\', '0']
  | c =>
      if isShapeless c then
        ['\\', 'u', '\x7b'] ++ hexadecimal c.toNat ++ ['\x7d']
      else [c]

def quote (s : String) : String :=
  String.ofList ('"' :: s.toList.flatMap quoteChar ++ ['"'])

example : quote "a\"b\n" = "\"a\\\"b\\n\"" := by decide +kernel

example : quote "\u0301é" = "\"\\u\x7b301\x7dé\"" := by decide +kernel

end UnitOfWork.Text
