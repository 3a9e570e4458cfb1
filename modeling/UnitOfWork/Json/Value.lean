/-!
# JSON values

A value as its text says it.  The members of an object are in the order of the
text and may repeat a name.  A text between quotes may consist of code units
that are no text, which is known of it and nothing else.  Numbers with a
fraction or an exponent are kept as they are written, and so is the integer
`-0`.
-/

namespace UnitOfWork

inductive Json where
  | null
  | bool (value : Bool)
  | integer (value : Int)
  | real (literal : String)
  /-- A string, which is missing when its code units are no text. -/
  | string (value : Option String)
  | array (elements : List Json)
  | object (members : List (Option String × Json))

namespace Json

def text (s : String) : Json :=
  string (some s)

def record (members : List (String × Json)) : Json :=
  object (members.map fun m => (some m.1, m.2))

def text? : Json → Option String
  | string value => value
  | _ => none

def bool? : Json → Option Bool
  | bool value => some value
  | _ => none

def integer? : Json → Option Int
  | integer value => some value
  | _ => none

def elements? : Json → Option (List Json)
  | array elements => some elements
  | _ => none

/-- The value of the first member with a name. -/
def lookup (name : String) : List (Option String × Json) → Option Json
  | [] => none
  | (n, value) :: rest => if n = some name then some value else lookup name rest

def member? (j : Json) (name : String) : Option Json :=
  match j with
  | object members => lookup name members
  | _ => none

end Json

end UnitOfWork
