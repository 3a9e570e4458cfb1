import UnitOfWork.Json.Shape
import UnitOfWork.Policy.Definition

/-!
# The written form of policies

How isolation levels, definitions of transactions and settings of coordinators
are written as JSON values.  What is written has every field; what is read may
leave fields out, which then have their defaults.
-/

namespace UnitOfWork

def StandardLevel.formName : StandardLevel → String
  | readUncommitted => "ReadUncommitted"
  | readCommitted => "ReadCommitted"
  | repeatableRead => "RepeatableRead"
  | serializable => "Serializable"

namespace Level

def toJson : Level → Json
  | standard level => .text level.formName
  | vendor name => .record [("Vendor", .text name)]

def ofJson? (j : Json) : Option Level :=
  match j.choice? with
  | some ("Vendor", some content) => content.text?.map vendor
  | _ => (j.oneOf? StandardLevel.formName StandardLevel.all).map standard

end Level

namespace IsolationRequest

def toJson (r : IsolationRequest) : Json :=
  .text r.name

def ofJson? : Json → Option IsolationRequest :=
  Json.oneOf? name all

end IsolationRequest

namespace Propagation

def toJson (p : Propagation) : Json :=
  .text p.name

def ofJson? : Json → Option Propagation :=
  Json.oneOf? name all

end Propagation

namespace Timeout

def toJson : Timeout → Json
  | default => .text "default"
  | seconds count => .record [("seconds", .ofInt64 count)]

def ofJson? (j : Json) : Option Timeout :=
  match j.choice? with
  | some ("seconds", some content) => content.int64?.map seconds
  | _ =>
      match j.plainChoice? with
      | some "default" => some default
      | _ => none

end Timeout

namespace Definition

def fieldNames : List String :=
  ["propagation", "isolation", "read_only", "timeout", "name"]

def toJson (d : Definition) : Json :=
  .record
    [("propagation", d.propagation.toJson), ("isolation", d.isolation.toJson),
      ("read_only", .bool d.readOnly), ("timeout", d.timeout.toJson),
      ("name", .ofOptional .text d.name)]

def ofFields? (fields : List (String × Json)) : Option Definition := do
  let propagation ← Json.field? Propagation.ofJson? plain.propagation
    "propagation" fields
  let isolation ← Json.field? IsolationRequest.ofJson? plain.isolation
    "isolation" fields
  let readOnly ← Json.field? Json.bool? plain.readOnly "read_only" fields
  let timeout ← Json.field? Timeout.ofJson? plain.timeout "timeout" fields
  let name ← Json.field? (Json.optional? Json.text?) plain.name "name" fields
  return { propagation, isolation, readOnly, timeout, name }

def ofJson? (j : Json) : Option Definition :=
  (j.fields? fieldNames).bind ofFields?

end Definition

namespace Config

def fieldNames : List String :=
  ["enforce_read_only", "read_only_statement", "default_timeout_secs"]

def toJson (c : Config) : Json :=
  .record
    [("enforce_read_only", .bool c.enforceReadOnly),
      ("read_only_statement", .text c.readOnlyStatement),
      ("default_timeout_secs", .ofOptional .ofInt64 c.defaultTimeout)]

def ofFields? (fields : List (String × Json)) : Option Config := do
  let usual : Config := {}
  let enforceReadOnly ←
    Json.field? Json.bool? usual.enforceReadOnly "enforce_read_only" fields
  let readOnlyStatement ←
    Json.field? Json.text? usual.readOnlyStatement "read_only_statement" fields
  let defaultTimeout ←
    Json.field? (Json.optional? Json.int64?) usual.defaultTimeout
      "default_timeout_secs" fields
  return { enforceReadOnly, readOnlyStatement, defaultTimeout }

def ofJson? (j : Json) : Option Config :=
  (j.fields? fieldNames).bind ofFields?

end Config

end UnitOfWork
