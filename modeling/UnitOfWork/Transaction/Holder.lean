import UnitOfWork.Transaction.Error

/-!
# Holders of connections

A holder has one connection and the state of the transaction on it.  It is
claimed before a transaction begins and active while one runs.  It goes back to
its owner unclaimed, with its connection, or it is cleared for good:

    unbound --claim--> claimed --activate--> active
       ^                  |                     |
       +-------------- release -----------------+

    any stage --clear--> completed
-/

namespace UnitOfWork

/-- A connection with the state of the transaction on it. -/
structure Holder (γ : Type u) where
  connection : Option γ
  stage : Stage := .unbound
  rollbackOnly : Bool := false
  deadline : Option Instant := none
  deriving DecidableEq

namespace Holder

variable {γ : Type u}

/-- A holder that no transaction has claimed. -/
def of (connection : γ) : Holder γ where
  connection := some connection

def held (h : Holder γ) : Except IllegalState γ :=
  match h.connection with
  | some connection => .ok connection
  | none => .error .noConnection

def isSynchronized (h : Holder γ) : Bool :=
  match h.stage with
  | .claimed | .active => true
  | .unbound | .completed => false

def isActive (h : Holder γ) : Bool :=
  decide (h.stage = .active)

/-- Claims the holder for a transaction that is about to begin. -/
def claim (h : Holder γ) : Except IllegalState (Holder γ) :=
  match h.stage with
  | .unbound | .claimed => .ok { h with stage := .claimed }
  | stage => .error (.cannotClaim stage)

/-- Records that the transaction that claimed the holder has begun, and until
when it may run. -/
def activate (h : Holder γ) (deadline : Option Instant) :
    Except IllegalState (Holder γ) :=
  match h.stage with
  | .claimed => .ok { h with stage := .active, deadline }
  | stage => .error (.cannotActivate stage)

def markRollbackOnly (h : Holder γ) : Holder γ :=
  { h with rollbackOnly := true }

/-- Sets the deadline a number of seconds ahead.  A deadline that the clock does
not reach is none. -/
def setTimeout (h : Holder γ) (now : Instant) (seconds : Nat) : Holder γ :=
  { h with deadline := now.after seconds }

/-- The seconds left before the deadline, if there is one.  A holder whose
deadline has passed is marked for rollback. -/
def checkDeadline (h : Holder γ) (now : Instant) :
    Except TransactionError (Option Nat) × Holder γ :=
  match h.deadline with
  | none => (.ok none, h)
  | some deadline =>
      if deadline ≤ now then
        (.error (.timedOut { seconds := now - deadline }), h.markRollbackOnly)
      else
        (.ok (some (deadline - now)), h)

/-- Gives the holder back to its owner: it keeps its connection and has nothing
left of the transaction. -/
def release (h : Holder γ) : Holder γ where
  connection := h.connection

def finished : Holder γ where
  connection := none
  stage := .completed

/-- Drops the connection and all state of the transaction. -/
def clear (_ : Holder γ) : Holder γ :=
  finished

/-! ## Calls by name -/

/-- The calls on a holder. -/
inductive Command (γ : Type u) where
  | claim
  /-- Activates with a deadline a number of seconds ahead, or with none. -/
  | activate (seconds : Option Nat)
  | markRollbackOnly
  | setTimeout (seconds : Nat)
  | checkDeadline
  | release
  | clear
  | setConnection (connection : Option γ)
  | connection
  /-- Asks for nothing. -/
  | inspect

inductive Answer (γ : Type u) where
  | done
  | connection (connection : γ)
  | unlimited
  | secondsLeft (seconds : Nat)

/-- The holder after a call that may be refused, which then changes nothing. -/
def attempt (h : Holder γ) (result : Except IllegalState (Holder γ)) :
    Except TransactionError (Answer γ) × Holder γ :=
  match result with
  | .ok h' => (.ok .done, h')
  | .error reason => (.error (.illegal reason), h)

/-- Carries out a call at a given time. -/
def perform (h : Holder γ) (now : Instant) :
    Command γ → Except TransactionError (Answer γ) × Holder γ
  | .claim => h.attempt h.claim
  | .activate seconds => h.attempt (h.activate (seconds.bind now.after))
  | .markRollbackOnly => (.ok .done, h.markRollbackOnly)
  | .setTimeout seconds => (.ok .done, h.setTimeout now seconds)
  | .checkDeadline =>
      match h.checkDeadline now with
      | (.ok none, h') => (.ok .unlimited, h')
      | (.ok (some seconds), h') => (.ok (.secondsLeft seconds), h')
      | (.error e, h') => (.error e, h')
  | .release => (.ok .done, h.release)
  | .clear => (.ok .done, h.clear)
  | .setConnection connection => (.ok .done, { h with connection })
  | .connection =>
      match h.held with
      | .ok connection => (.ok (.connection connection), h)
      | .error reason => (.error (.illegal reason), h)
  | .inspect => (.ok .done, h)

/-- Carries out calls one after the other, and gives every answer together with
the holder after it. -/
def performAll (now : Instant) :
    Holder γ → List (Command γ) →
      List (Except TransactionError (Answer γ) × Holder γ)
  | _, [] => []
  | h, command :: rest =>
      let answered := h.perform now command
      answered :: performAll now answered.2 rest

end Holder

end UnitOfWork
