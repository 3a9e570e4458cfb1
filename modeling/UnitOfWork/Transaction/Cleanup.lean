import UnitOfWork.Transaction.Begin

/-!
# The clean-up after a transaction

The last step of every attempt at a transaction.  It never fails: each of its
calls is tried, and a call that fails is written to the journal.
-/

namespace UnitOfWork

namespace Coordinator

/-- Unbinds a holder, if it is the one that is bound in the context. -/
def unbindHolder (c : Coordinator) (id : HolderId) (s : State) : State :=
  if s.boundHolder c.key = some id then (s.unbind c.key).2 else s

/-- Restores the session of the connection, and releases it if the handle owns
the holder. -/
def restoreConnection (c : Coordinator) (connection : Connection) (h : Handle)
    (s : State) : State :=
  let s := (h.restoreSession connection s).2
  if h.ownsHolder then
    State.restoring .release
      ((s.say (.releasing connection)).release c.source.id connection)
  else s

/-- What is left of the holder of a handle that is cleaned up: nothing if the
handle owns it, and an unclaimed holder if the handle had begun on it. -/
def settle (h : Handle) (holder : Holder Connection) : Holder Connection :=
  if h.ownsHolder then holder.clear
  else if h.began then holder.release
  else holder

/-- Cleans up after the transaction of a handle, which is not to be used
again. -/
def cleanup (c : Coordinator) (h : Handle) (s : State) : State :=
  match h.holder with
  | none => s
  | some id =>
      let s := if h.ownsHolder then c.unbindHolder id s else s
      let s :=
        match (s.holders id).connection with
        | some connection => c.restoreConnection connection h s
        | none => s
      s.setHolder id (settle h (s.holders id))

end Coordinator

end UnitOfWork
