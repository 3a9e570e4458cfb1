import UnitOfWork.Key
import UnitOfWork.Recording.Call

/-!
# Sources and their connections

A source of connections is known by a number and has the key under which its
connections are bound.  Two sources may have the same key.  A connection is
known by the number of its source together with the number that the source gave
it, so that no two sources share a connection.
-/

namespace UnitOfWork

/-- The number by which sources are told apart. -/
abbrev SourceId := Nat

/-- A source of connections. -/
structure Source where
  id : SourceId
  key : Key
  deriving DecidableEq

/-- A connection of some source. -/
structure Connection where
  source : SourceId
  id : ConnectionId
  deriving DecidableEq

def Connection.text (c : Connection) : String :=
  "MockConnection \x7b id: " ++ toString c.id ++ " \x7d"

end UnitOfWork
