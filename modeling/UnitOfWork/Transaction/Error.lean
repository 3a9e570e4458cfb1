import UnitOfWork.Bindings
import UnitOfWork.Clock
import UnitOfWork.Recording.Call

/-!
# Errors of transactions

The stages in the life of a holder, the reasons why an operation is refused in
the state that it finds, and the errors that the operations on transactions
give.  Some errors have a cause of their own, which is told apart from what the
error itself says.
-/

namespace UnitOfWork

/-- The stages in the life of a holder of a connection. -/
inductive Stage where
  /-- Looked up or created, and not claimed by a transaction. -/
  | unbound
  /-- Claimed by a transaction that has not begun on the connection yet. -/
  | claimed
  /-- A transaction is running on the connection. -/
  | active
  /-- Cleared, and not to be used again. -/
  | completed
  deriving DecidableEq

def Stage.name : Stage → String
  | unbound => "Unbound"
  | claimed => "Claimed"
  | active => "Active"
  | completed => "Completed"

/-- The reasons why an operation is refused in the state that it finds. -/
inductive IllegalState where
  | noHolder
  | noConnection
  | cannotClaim (stage : Stage)
  | cannotActivate (stage : Stage)
  | occupied (key : OccupiedKey)
  /-- A unit of work that forbids a transaction found one. -/
  | transactionForbidden
  /-- A unit of work that needs a transaction found none. -/
  | transactionMissing
  /-- A unit of work without a transaction asked for a rollback. -/
  | nothingToMark
  | other (text : String)
  deriving DecidableEq

def IllegalState.text : IllegalState → String
  | noHolder => "no connection holder available"
  | noConnection => "no connection held"
  | cannotClaim stage =>
      "cannot claim connection holder in state " ++ stage.name
  | cannotActivate stage =>
      "cannot activate connection holder in state " ++ stage.name
  | occupied key => key.message
  | transactionForbidden =>
      "existing transaction found for transaction marked with propagation NEVER"
  | transactionMissing =>
      "no existing transaction found for transaction marked with propagation MANDATORY"
  | nothingToMark => "no transaction to mark rollback-only"
  | other text => text

/-- The full sentence about an illegal state. -/
def IllegalState.message (reason : IllegalState) : String :=
  "illegal state: " ++ reason.text

/-- What made an operation on a transaction fail. -/
inductive Cause where
  /-- A call on the driver failed by a fault. -/
  | fault (fault : Fault)
  /-- A step was refused in the state that it found. -/
  | illegal (reason : IllegalState)
  /-- Any other failure, known by its description. -/
  | described (text : String)
  deriving DecidableEq

def Cause.message : Cause → String
  | fault f => f.message
  | illegal reason => reason.message
  | described text => text

/-- The errors of the operations on transactions. -/
inductive TransactionError where
  /-- No connection could be acquired or prepared for a new transaction. -/
  | cannotCreate (cause : Cause)
  /-- The driver refused to commit or to roll back. -/
  | system (task : String) (cause : Cause)
  | illegal (reason : IllegalState)
  | timedOut (overdue : Duration)
  /-- A commit was asked for, but a participant wanted a rollback. -/
  | unexpectedRollback
  | cannotGetConnection (cause : Cause)
  | cannotCloseConnection (cause : Cause)
  deriving DecidableEq

namespace TransactionError

def message : TransactionError → String
  | cannotCreate _ => "could not open connection for transaction"
  | system task _ => task ++ " failed"
  | illegal reason => reason.message
  | timedOut overdue =>
      "transaction timed out: deadline exceeded by " ++ overdue.text
  | unexpectedRollback =>
      "transaction rolled back because it has been marked as rollback-only"
  | cannotGetConnection _ => "failed to obtain connection"
  | cannotCloseConnection _ => "failed to close connection"

def cause? : TransactionError → Option Cause
  | cannotCreate cause => some cause
  | system _ cause => some cause
  | cannotGetConnection cause => some cause
  | cannotCloseConnection cause => some cause
  | _ => none

def isIllegalState : TransactionError → Bool
  | illegal _ => true
  | _ => false

end TransactionError

end UnitOfWork
