import UnitOfWork.Transaction.Lookup

/-!
# Scopes

What a unit of work sees of the transaction that it runs in: whether there is
one, whether it was begun for this work, and the operations that the work may
ask for.
-/

namespace UnitOfWork

/-- The view that a unit of work has of its transaction. -/
structure Scope where
  coordinator : Coordinator
  /-- The handle of the transaction, if the work runs in one. -/
  handle : Option Handle := none
  /-- The transaction was begun for this work. -/
  isNew : Bool := false
  deriving DecidableEq

namespace Scope

def beginning (c : Coordinator) (h : Handle) : Scope where
  coordinator := c
  handle := some h
  isNew := true

/-- The scope of a transaction that the work joins. -/
def joining (c : Coordinator) (h : Handle) : Scope where
  coordinator := c
  handle := some h

def without (c : Coordinator) : Scope where
  coordinator := c

def hasTransaction (scope : Scope) : Bool :=
  scope.handle.isSome

/-- Whether the transaction is to be rolled back when the work is done. -/
def isRollbackOnly (scope : Scope) (s : State) : Bool :=
  match scope.handle with
  | some h => h.isRollbackOnly s
  | none => false

/-- The deadline of a transaction that was begun for the work.  One that the
work joined is watched over by the work that it was begun for. -/
def deadline (scope : Scope) (s : State) : Option Instant :=
  match scope.handle with
  | some h => if scope.isNew then h.deadline s else none
  | none => none

/-- The connection of the transaction, or a fresh one if there is none. -/
def connection (scope : Scope) (s : State) :
    Except TransactionError Connection × State :=
  scope.coordinator.source.getConnection s

/-- Hands back a connection, which stays open if it is the transaction's. -/
def release (scope : Scope) (connection : Connection) (s : State) :
    Except TransactionError Unit × State :=
  scope.coordinator.source.releaseConnection connection s

/-- Asks for a rollback once the work is done. -/
def markRollbackOnly (scope : Scope) (s : State) :
    Except TransactionError Unit × Scope × State :=
  match scope.handle with
  | none => (.error (.illegal .nothingToMark), scope, s)
  | some h =>
      match Coordinator.markRollbackOnly h s with
      | (outcome, h', s') => (outcome, { scope with handle := some h' }, s')

end Scope

end UnitOfWork
