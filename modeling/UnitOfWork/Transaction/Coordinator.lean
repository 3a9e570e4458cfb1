import UnitOfWork.Policy.Definition
import UnitOfWork.Transaction.Handle

/-!
# Coordinators

A coordinator runs transactions on the connections of one source.  It has no
state of its own: what belongs to a transaction is in its handle and in the
holder that is bound in the context.  Here are the operations that look for a
transaction, take it out of the context for a while, and end it; its beginning
and the clean-up after it have modules of their own.
-/

namespace UnitOfWork

/-- Runs transactions on the connections of one source. -/
structure Coordinator where
  source : Source
  config : Config := {}
  deriving DecidableEq

namespace Coordinator

def key (c : Coordinator) : Key :=
  c.source.key

def setEnforceReadOnly (c : Coordinator) (on : Bool) : Coordinator :=
  { c with config := { c.config with enforceReadOnly := on } }

/-- A handle for the holder that is bound in the context, if there is one. -/
def discover (c : Coordinator) (s : State) : Handle where
  holder := s.boundHolder c.key

/-- Takes the bound holder out of the context, and out of the handle. -/
def suspend (c : Coordinator) (h : Handle) (s : State) :
    Option HolderId × Handle × State :=
  match s.unbind c.key with
  | (suspended, s') => (suspended, { h with holder := none }, s')

/-- Binds a suspended holder again. -/
def resume (c : Coordinator) (suspended : HolderId) (s : State) :
    Except TransactionError Unit × State :=
  match s.bind c.key suspended with
  | .ok s' => (.ok (), s')
  | .error occupied => (.error (.illegal (.occupied occupied)), s)

/-- Ends the transaction of a handle by a call on its connection, which is
announced in the journal. -/
def finish (task : String) (call : Call) (announcement : Connection → Line)
    (h : Handle) (s : State) : Except TransactionError Unit × State :=
  match h.connection s with
  | .error reason => (.error (.illegal reason), s)
  | .ok connection =>
      match (s.say (announcement connection)).call connection call with
      | (.ok (), s') => (.ok (), s')
      | (.error fault, s') => (.error (.system task (.fault fault)), s')

def commit (h : Handle) (s : State) : Except TransactionError Unit × State :=
  finish "commit" .commit .committing h s

def rollback (h : Handle) (s : State) : Except TransactionError Unit × State :=
  finish "rollback" .rollback .rollingBack h s

/-- Marks the transaction of a handle, so that whoever ends it rolls it back. -/
def markRollbackOnly (h : Handle) (s : State) :
    Except TransactionError Unit × Handle × State :=
  match h.holder with
  | none => (.error (.illegal .noHolder), h, s)
  | some id =>
      let holder := s.holders id
      (.ok (), { h with rollbackOnly := true },
        (s.say (.markingRollbackOnly holder.connection)).setHolder id
          holder.markRollbackOnly)

end Coordinator

end UnitOfWork
