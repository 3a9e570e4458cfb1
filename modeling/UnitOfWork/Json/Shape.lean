import UnitOfWork.Json.Value

/-!
# Shapes of JSON values

How choices and records are written as JSON values and read back.  A choice
without a content is its name, or an object whose only member has that name and
the value `null`.  A choice with a content is an object whose only member has
its name.  A record is an object, in which members with other names are of no
account, or an array of its fields in order; fields that are not there have
their defaults.
-/

namespace UnitOfWork.Json

/-- The name and the content of a choice. -/
def choice? : Json → Option (String × Option Json)
  | string (some name) => some (name, none)
  | object [(some name, value)] => some (name, some value)
  | _ => none

/-- The name of a choice without a content. -/
def plainChoice? (j : Json) : Option String :=
  match j.choice? with
  | some (name, none) => some name
  | some (name, some null) => some name
  | _ => none

/-- The choice among values whose names are known. -/
def oneOf? (name : α → String) (values : List α) (j : Json) : Option α :=
  j.plainChoice?.bind fun n => values.find? fun v => name v = n

/-- The members of an object that have one of the given names.  There are none
if a name is no text, or if one of the given names occurs twice. -/
def known? (names : List String) :
    List (Option String × Json) → Option (List (String × Json))
  | [] => some []
  | (none, _) :: _ => none
  | (some name, value) :: rest =>
      match known? names rest with
      | none => none
      | some fields =>
          if name ∉ names then some fields
          else if name ∈ fields.map (·.1) then none
          else some ((name, value) :: fields)

def fields? (names : List String) : Json → Option (List (String × Json))
  | object members => known? names members
  | array elements =>
      if elements.length ≤ names.length then some (names.zip elements) else none
  | _ => none

def field? (read : Json → Option α) (default : α) (name : String)
    (fields : List (String × Json)) : Option α :=
  match fields.lookup name with
  | some value => read value
  | none => some default

def optional? (read : Json → Option α) : Json → Option (Option α)
  | null => some none
  | j => (read j).map some

def ofOptional (write : α → Json) : Option α → Json
  | none => null
  | some a => write a

def int64? (j : Json) : Option Int64 :=
  match j with
  | integer n =>
      if Int64.minValue.toInt ≤ n ∧ n ≤ Int64.maxValue.toInt then
        some (.ofInt n)
      else none
  | _ => none

def ofInt64 (n : Int64) : Json :=
  integer n.toInt

end UnitOfWork.Json
