import UnitOfWork.Transaction.Coordinator

/-!
# The beginning of a transaction

A transaction begins in steps: a connection is obtained, its session is brought
to what the definition asks for, the driver begins, and the holder becomes
active and is bound in the context.  When a step fails, what the earlier steps
did is put back as far as the driver allows, and the failure of that step is the
cause of the error.
-/

namespace UnitOfWork

/-- What a step of a beginning leaves behind. -/
structure Progress where
  outcome : Except Cause Unit
  handle : Handle
  state : State

namespace Progress

/-- Goes on with another step, unless this one failed. -/
def andThen (p : Progress) (next : Handle → State → Progress) : Progress :=
  match p.outcome with
  | .ok () => next p.handle p.state
  | .error _ => p

/-- A step that is done with a call on a driver, after which a successful step
changes the handle. -/
def ofCall (h : Handle) (onSuccess : Handle → Handle) :
    Except Fault Unit × State → Progress
  | (.ok (), s) => ⟨.ok (), onSuccess h, s⟩
  | (.error fault, s) => ⟨.error (.fault fault), h, s⟩

end Progress

/-- Puts the session of a connection back to what it was before the transaction
of the handle.  A step that fails does not keep the other one from being
tried. -/
def Handle.restoreSession (h : Handle) (connection : Connection) (s : State) :
    Handle × State :=
  let s :=
    if h.restoresAutoCommit then
      State.restoring .restoreAutoCommit
        (s.call connection (.setAutoCommit true))
    else s
  let s :=
    match h.previousIsolation with
    | some level =>
        State.restoring .restoreIsolation
          (s.call connection (.setIsolation level))
    | none => s
  ({ h with restoresAutoCommit := false, previousIsolation := none }, s)

namespace Coordinator

/-- The holder of a handle, if it has a connection that no transaction has
claimed. -/
def reusableHolder (h : Handle) (s : State) : Option HolderId :=
  match h.holder with
  | none => none
  | some id =>
      let holder := s.holders id
      if !holder.isSynchronized && holder.connection.isSome then some id
      else none

def claimConnection (id : HolderId) (s : State) :
    Except Cause Connection × State :=
  match (s.holders id).claim with
  | .error reason => (.error (.illegal reason), s)
  | .ok holder =>
      match holder.held with
      | .error reason => (.error (.illegal reason), s.setHolder id holder)
      | .ok connection => (.ok connection, s.setHolder id holder)

/-- Gets the connection for a new transaction: the one of the handle's holder if
that can be reused, otherwise a fresh one in a holder of its own. -/
def obtainConnection (c : Coordinator) (h : Handle) (s : State) :
    Except Cause Connection × Handle × State :=
  match reusableHolder h s with
  | some id =>
      match claimConnection id s with
      | (outcome, s') => (outcome, h, s')
  | none =>
      match s.create c.source.id with
      | (.error fault, s') => (.error (.fault fault), h, s')
      | (.ok connection, s') =>
          match (s'.say (.acquired connection)).addHolder
              { Holder.of connection with stage := .claimed } with
          | (id, s'') =>
              (.ok connection,
                { h with holder := some id, ownsHolder := true }, s'')

/-- Sets the isolation level that the definition asks for, unless the connection
has an equivalent one. -/
def requestIsolation (d : Definition) (connection : Connection) (h : Handle)
    (s : State) : Progress :=
  match d.isolation.resolve with
  | none => ⟨.ok (), h, s⟩
  | some level =>
      let current := s.isolation connection
      if current.equivalent level then ⟨.ok (), h, s⟩
      else
        Progress.ofCall h
          (fun h => { h with previousIsolation := some current })
          ((s.say (.changingIsolation connection level)).call connection
            (.setIsolation level))

def disableAutoCommit (connection : Connection) (h : Handle) (s : State) :
    Progress :=
  if s.autoCommit connection then
    Progress.ofCall h (fun h => { h with restoresAutoCommit := true })
      ((s.say (.disablingAutoCommit connection)).call connection
        (.setAutoCommit false))
  else ⟨.ok (), h, s⟩

def beginOnDriver (connection : Connection) (h : Handle) (s : State) :
    Progress :=
  Progress.ofCall h id (s.call connection .begin)

/-- Makes the transaction read-only, if it is to be and the coordinator enforces
it. -/
def enforceReadOnly (c : Coordinator) (d : Definition) (connection : Connection)
    (h : Handle) (s : State) : Progress :=
  if c.config.enforceReadOnly && d.readOnly then
    Progress.ofCall h id
      ((s.say (.markingReadOnly connection)).call connection
        (.execute c.config.readOnlyStatement))
  else ⟨.ok (), h, s⟩

/-- The deadline of a transaction that begins now.  One that the clock does not
reach is none. -/
def deadline (c : Coordinator) (d : Definition) (now : Instant) :
    Option Instant :=
  (c.config.timeLimit d).bind now.after

/-- Makes the holder active, and binds it if the handle has made it. -/
def activate (c : Coordinator) (d : Definition) (h : Handle) (s : State) :
    Progress :=
  match h.holder with
  | none => ⟨.error (.illegal .noHolder), h, s⟩
  | some id =>
      match (s.holders id).activate (c.deadline d s.now) with
      | .error reason => ⟨.error (.illegal reason), h, s⟩
      | .ok holder =>
          let s := s.setHolder id holder
          if h.ownsHolder then
            match s.bind c.key id with
            | .ok s' => ⟨.ok (), h, s'⟩
            | .error occupied => ⟨.error (.illegal (.occupied occupied)), h, s⟩
          else ⟨.ok (), h, s⟩

/-- Releases the connection of a beginning that failed, and clears the holder
that was made for it. -/
def discard (c : Coordinator) (connection : Connection) (h : Handle)
    (s : State) :
    Handle × State :=
  let s := State.restoring .releaseAfterFailedBegin
    ((s.say (.releasingAfterFailedBegin connection)).release
      c.source.id connection)
  let s :=
    match h.holder with
    | some id => s.setHolder id (s.holders id).clear
    | none => s
  ({ h with holder := none, ownsHolder := false }, s)

/-- Puts back what the steps of a failed beginning did: the driver is rolled
back if it had begun, the session is restored, and the connection is released or
its holder given back. -/
def abandon (c : Coordinator) (driverBegan : Bool) (connection : Connection)
    (h : Handle) (s : State) : Handle × State :=
  let s :=
    if driverBegan then
      State.restoring .rollBackFailedBegin (s.call connection .rollback)
    else s
  match h.restoreSession connection s with
  | (h, s) =>
      if h.ownsHolder then c.discard connection h s
      else
        match h.holder with
        | some id => (h, s.setHolder id (s.holders id).release)
        | none => (h, s)

def failBegin (c : Coordinator) (driverBegan : Bool) (connection : Connection)
    (cause : Cause) (h : Handle) (s : State) :
    Except TransactionError Unit × Handle × State :=
  (.error (.cannotCreate cause), c.abandon driverBegan connection h s)

/-- Begins a transaction on a handle.  It runs on the connection of the handle's
holder, if no transaction has claimed that, and otherwise on a fresh one, whose
holder is bound in the context. -/
def begin (c : Coordinator) (d : Definition) (h : Handle) (s : State) :
    Except TransactionError Unit × Handle × State :=
  match c.obtainConnection h s with
  | (.error cause, h, s) => (.error (.cannotCreate cause), h, s)
  | (.ok connection, h, s) =>
      let started := ((requestIsolation d connection h s).andThen
        (disableAutoCommit connection)).andThen (beginOnDriver connection)
      match started.outcome with
      | .error cause =>
          c.failBegin false connection cause started.handle started.state
      | .ok () =>
          let ready :=
            (c.enforceReadOnly d connection started.handle
              started.state).andThen (c.activate d)
          match ready.outcome with
          | .error cause =>
              c.failBegin true connection cause ready.handle ready.state
          | .ok () => (.ok (), { ready.handle with began := true }, ready.state)

end Coordinator

end UnitOfWork
