import UnitOfWork.Json.Value

/-!
# Printing JSON

A value is printed without blanks.  In a string, only the quote, the backslash
and the control characters are escaped, by a letter where there is one.
-/

namespace UnitOfWork.Json

/-- What stands for a character after a backslash, if the character is written
that way. -/
def letter? : Char → Option Char
  | '"' => some '"'
  | '\\' => some '\\'
  | '\x08' => some 'b'
  | '\x0c' => some 'f'
  | '\n' => some 'n'
  | '\r' => some 'r'
  | '\t' => some 't'
  | _ => none

/-- How a character is written in a string. -/
def printChar (c : Char) : List Char :=
  match letter? c with
  | some letter => ['\\', letter]
  | none =>
      if c.toNat < 0x20 then
        ['\\', 'u', '0', '0', Nat.digitChar (c.toNat / 16),
          Nat.digitChar (c.toNat % 16)]
      else [c]

def printText (s : String) : List Char :=
  '"' :: s.toList.flatMap printChar ++ ['"']

/-- A string.  One that is no text is printed as half of a pair of code
units. -/
def printString : Option String → List Char
  | some s => printText s
  | none => ['"', '\\', 'u', 'd', '8', '0', '0', '"']

mutual

def print : Json → List Char
  | null => ['n', 'u', 'l', 'l']
  | bool true => ['t', 'r', 'u', 'e']
  | bool false => ['f', 'a', 'l', 's', 'e']
  | integer value => (toString value).toList
  | real literal => literal.toList
  | string value => printString value
  | array [] => ['[', ']']
  | array (element :: rest) =>
      '[' :: print element ++ printElements rest ++ [']']
  | object [] => ['\x7b', '\x7d']
  | object ((name, value) :: rest) =>
      '\x7b' :: printString name ++ ':' :: print value ++
      printMembers rest ++ ['\x7d']

def printElements : List Json → List Char
  | [] => []
  | element :: rest => ',' :: print element ++ printElements rest

def printMembers : List (Option String × Json) → List Char
  | [] => []
  | (name, value) :: rest =>
      ',' :: printString name ++ ':' :: print value ++ printMembers rest

end

def render (j : Json) : String :=
  String.ofList (print j)

end UnitOfWork.Json
