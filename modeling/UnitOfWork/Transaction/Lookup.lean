import UnitOfWork.Transaction.Coordinator

/-!
# Connections for data access

How code that may or may not run in a transaction comes by a connection: it gets
the one that is bound in the context, and a fresh one if there is none.  Handing
a connection back releases it, unless it is the bound one, which belongs to its
transaction.
-/

namespace UnitOfWork

namespace Source

/-- The connection that is bound in the context for a source. -/
def boundConnection (source : Source) (s : State) : Option Connection :=
  (s.boundHolder source.key).bind fun id => (s.holders id).connection

/-- The bound connection of a source, or a fresh one that is bound nowhere. -/
def getConnection (source : Source) (s : State) :
    Except TransactionError Connection × State :=
  match source.boundConnection s with
  | some connection => (.ok connection, s)
  | none =>
      match s.create source.id with
      | (.ok connection, s') => (.ok connection, s'.say (.fetched connection))
      | (.error fault, s') => (.error (.cannotGetConnection (.fault fault)), s')

end Source

/-- Whether a connection is the one that the holder bound to a key has. -/
def State.isTransactional (s : State) (key : Key) (connection : Connection) :
    Bool :=
  match s.boundHolder key with
  | some id => decide ((s.holders id).connection = some connection)
  | none => false

namespace Source

/-- Hands a connection back to its source, unless it is the bound one. -/
def releaseConnection (source : Source) (connection : Connection) (s : State) :
    Except TransactionError Unit × State :=
  if s.isTransactional source.key connection then (.ok (), s)
  else
    match s.release source.id connection with
    | (.ok (), s') => (.ok (), s')
    | (.error fault, s') => (.error (.cannotCloseConnection (.fault fault)), s')

end Source

end UnitOfWork
