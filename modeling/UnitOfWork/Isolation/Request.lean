import UnitOfWork.Isolation.Level

/-!
# Requested isolation

What a unit of work asks of the isolation of its transaction: the level that
the connection already has, or one of the standard levels.
-/

namespace UnitOfWork

inductive IsolationRequest where
  | default
  | exactly (level : StandardLevel)
  deriving DecidableEq

namespace IsolationRequest

def name : IsolationRequest → String
  | default => "DEFAULT"
  | exactly .readUncommitted => "READ_UNCOMMITTED"
  | exactly .readCommitted => "READ_COMMITTED"
  | exactly .repeatableRead => "REPEATABLE_READ"
  | exactly .serializable => "SERIALIZABLE"

def all : List IsolationRequest :=
  default :: StandardLevel.all.map exactly

/-- The level to be set on a connection.  The default request leaves the
connection as it is. -/
def resolve : IsolationRequest → Option Level
  | default => none
  | exactly level => some (.standard level)

/-- The request that a text names, in any case but with nothing around it and
with no other separator than the underscore. -/
def parse? (s : String) : Option IsolationRequest :=
  all.find? fun r => Text.sameLetters r.name s

def unknownName : String := "Matching variant not found"

end IsolationRequest

end UnitOfWork
