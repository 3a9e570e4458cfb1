import UnitOfWork.Transaction.State

/-!
# Handles

The bookkeeping of one attempt at a transaction: which holder it uses, whether
it made that holder itself, whether it has begun, and what it has to put back on
the connection afterwards.
-/

namespace UnitOfWork

/-- The bookkeeping of one attempt at a transaction. -/
structure Handle where
  holder : Option HolderId := none
  /-- The attempt made the holder, and has to release its connection. -/
  ownsHolder : Bool := false
  /-- A transaction has begun through this handle. -/
  began : Bool := false
  /-- The isolation level to be restored on the connection. -/
  previousIsolation : Option Level := none
  /-- Auto-commit has to be switched on again on the connection. -/
  restoresAutoCommit : Bool := false
  /-- A rollback was requested through this handle. -/
  rollbackOnly : Bool := false
  deriving DecidableEq

namespace Handle

def connection (h : Handle) (s : State) : Except IllegalState Connection :=
  match h.holder with
  | some id => (s.holders id).held
  | none => .error .noHolder

def isActive (h : Handle) (s : State) : Bool :=
  match h.holder with
  | some id => (s.holders id).isActive
  | none => false

/-- Whether the handle's holder is marked for rollback, by anyone. -/
def isHolderRollbackOnly (h : Handle) (s : State) : Bool :=
  match h.holder with
  | some id => (s.holders id).rollbackOnly
  | none => false

/-- Whether a rollback was requested through the handle or on its holder. -/
def isRollbackOnly (h : Handle) (s : State) : Bool :=
  h.rollbackOnly || h.isHolderRollbackOnly s

def deadline (h : Handle) (s : State) : Option Instant :=
  match h.holder with
  | some id => (s.holders id).deadline
  | none => none

end Handle

end UnitOfWork
