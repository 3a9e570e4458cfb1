import UnitOfWork.Json.Literal

/-!
# Reading JSON

A text is a JSON value when it is one value with nothing but blanks around it.
The depth of a value is bounded by the length of its text, which bounds the
recursion.
-/

namespace UnitOfWork.Json

/-- The characters that may stand between two tokens. -/
def isSpace (c : Char) : Bool :=
  c = ' ' || c = '\n' || c = '\t' || c = '\r'

def skipSpaces (cs : List Char) : List Char :=
  cs.dropWhile isSpace

def readWord (value : Json) (word cs : List Char) : Option (Json × List Char) :=
  if word.isPrefixOf cs then some (value, cs.drop word.length) else none

def readNumber (cs : List Char) : Option (Json × List Char) :=
  match ofNumber (cs.takeWhile isNumberChar) with
  | some number => some (number, cs.dropWhile isNumberChar)
  | none => none

/-- Reads the name of a member, its colon included. -/
def readName (cs : List Char) : Option (Option String × List Char) :=
  match cs with
  | '"' :: rest =>
      match readString rest with
      | some (name, rest) =>
          match skipSpaces rest with
          | ':' :: rest => some (name, rest)
          | _ => none
      | none => none
  | _ => none

mutual

/-- Reads a value, with blanks before it. -/
def readValue : (fuel : Nat) → List Char → Option (Json × List Char)
  | 0, _ => none
  | fuel + 1, cs =>
      match skipSpaces cs with
      | '\x7b' :: rest =>
          match skipSpaces rest with
          | '\x7d' :: rest => some (.object [], rest)
          | rest => (readMembers fuel rest).map fun r => (.object r.1, r.2)
      | '[' :: rest =>
          match skipSpaces rest with
          | ']' :: rest => some (.array [], rest)
          | rest => (readElements fuel rest).map fun r => (.array r.1, r.2)
      | '"' :: rest => (readString rest).map fun r => (.string r.1, r.2)
      | 'n' :: rest => readWord .null ['u', 'l', 'l'] rest
      | 't' :: rest => readWord (.bool true) ['r', 'u', 'e'] rest
      | 'f' :: rest => readWord (.bool false) ['a', 'l', 's', 'e'] rest
      | rest => readNumber rest

def readElements : (fuel : Nat) → List Char → Option (List Json × List Char)
  | 0, _ => none
  | fuel + 1, cs =>
      match readValue fuel cs with
      | none => none
      | some (element, rest) =>
          match skipSpaces rest with
          | ']' :: rest => some ([element], rest)
          | ',' :: rest =>
              (readElements fuel rest).map fun r => (element :: r.1, r.2)
          | _ => none

def readMembers : (fuel : Nat) → List Char →
    Option (List (Option String × Json) × List Char)
  | 0, _ => none
  | fuel + 1, cs =>
      match readName (skipSpaces cs) with
      | none => none
      | some (name, rest) =>
          match readValue fuel rest with
          | none => none
          | some (value, rest) =>
              match skipSpaces rest with
              | '\x7d' :: rest => some ([(name, value)], rest)
              | ',' :: rest =>
                  (readMembers fuel rest).map fun r =>
                    ((name, value) :: r.1, r.2)
              | _ => none

end

def ofChars? (cs : List Char) : Option Json :=
  match readValue (2 * cs.length + 1) cs with
  | some (value, rest) => if (skipSpaces rest).isEmpty then some value else none
  | none => none

def parse? (s : String) : Option Json :=
  ofChars? s.toList

end UnitOfWork.Json
