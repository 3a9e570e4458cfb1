import UnitOfWork.Isolation.Request
import UnitOfWork.Policy.Propagation

/-!
# Definitions of transactions

What a unit of work asks of its transaction, and the settings of the coordinator
that answers it.  Both have a default for every field.  The two together decide
whether a transaction has a time limit.
-/

namespace UnitOfWork

/-- The time that a transaction may take. -/
inductive Timeout where
  /-- The limit that the coordinator is configured with. -/
  | default
  /-- A limit in seconds; there is none unless the number is positive. -/
  | seconds (count : Int64)
  deriving DecidableEq

/-- A number of seconds as a timeout, where `-1` stands for the default. -/
def Timeout.ofSeconds (count : Int64) : Timeout :=
  if count = -1 then .default else .seconds count

/-- What a unit of work asks of its transaction. -/
structure Definition where
  propagation : Propagation := .required
  isolation : IsolationRequest := .default
  readOnly : Bool := false
  timeout : Timeout := .default
  /-- The name under which the transaction appears in the journal. -/
  name : Option String := none
  deriving DecidableEq

namespace Definition

def plain : Definition := {}

def withPropagation (d : Definition) (propagation : Propagation) : Definition :=
  { d with propagation }

def withIsolation (d : Definition) (isolation : IsolationRequest) :
    Definition :=
  { d with isolation }

def withReadOnly (d : Definition) (readOnly : Bool) : Definition :=
  { d with readOnly }

def withTimeoutSeconds (d : Definition) (count : Int64) : Definition :=
  { d with timeout := .ofSeconds count }

def withName (d : Definition) (name : String) : Definition :=
  { d with name := some name }

end Definition

structure Config where
  /-- Whether a read-only transaction starts with the read-only statement. -/
  enforceReadOnly : Bool := false
  /-- The statement that makes the current transaction read-only. -/
  readOnlyStatement : String := "SET TRANSACTION READ ONLY"
  /-- The limit in seconds for definitions that ask for the default one. -/
  defaultTimeout : Option Int64 := none
  deriving DecidableEq

namespace Config

/-- The number of seconds that a definition asks for under these settings. -/
def requestedSeconds (config : Config) : Timeout → Option Int64
  | .default => config.defaultTimeout
  | .seconds count => some count

/-- The time limit of a transaction in seconds.  A number that is not positive
means that there is none. -/
def timeLimit (config : Config) (definition : Definition) : Option Nat :=
  match config.requestedSeconds definition.timeout with
  | some count => if 0 < count.toInt then some count.toInt.toNat else none
  | none => none

end Config

end UnitOfWork
