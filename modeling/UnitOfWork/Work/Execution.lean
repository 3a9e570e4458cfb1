import UnitOfWork.Transaction.Cleanup
import UnitOfWork.Work.Scope

/-!
# The execution of units of work

A unit of work is executed in the transaction that its definition asks for.  The
one that a transaction was begun for commits it when it succeeds, and rolls it
back when it fails, when a rollback was asked for, or when the deadline passes
while it waits.  A transaction that was joined is left to its owner: work that
fails in it only marks it for rollback.

Time passes only where work waits.  Work that waits past the deadline of a
transaction around it is cut off there, and so is all work between the two;
`Ending.overdue` carries the news outwards to the execution whose deadline it
was, which alone cleans up.
-/

namespace UnitOfWork

/-- What work fails with: the error of an operation on a transaction, or an
error of its own. -/
inductive Failure (ε : Type) where
  | transaction (error : TransactionError)
  | own (error : ε)
  deriving DecidableEq

/-- How work ends. -/
inductive Ending (ε α : Type) where
  | finished (result : Except (Failure ε) α)
  /-- The work was cut off, because the deadline of a transaction passed.  Of
  the executions around it that watch over a deadline, it is the one with this
  number, counted from the inside. -/
  | overdue (outer : Nat)

/-- What work leaves behind: its ending, the state, and whatever else it
remembers. -/
structure Run (σ ε α : Type) where
  ending : Ending ε α
  state : State
  memory : σ

/-- A unit of work.  It gets its scope, which it gives back together with what
it leaves behind. -/
abbrev Work (σ ε α : Type) : Type :=
  Scope → State → σ → Scope × Run σ ε α

namespace Run

variable {σ ε α : Type}

def failed (e : TransactionError) (s : State) (m : σ) : Run σ ε α where
  ending := .finished (.error (.transaction e))
  state := s
  memory := m

/-- Goes on after work that was not cut off. -/
def afterFinish (r : Run σ ε α)
    (next : Except (Failure ε) α → State → σ → Run σ ε α) : Run σ ε α :=
  match r.ending with
  | .finished result => next result r.state r.memory
  | .overdue _ => r

end Run

namespace Coordinator

variable {σ ε α : Type}

/-- Ends an execution by resuming what it suspended.  When that fails, its error
takes the place of the result. -/
def conclude (c : Coordinator) (suspended : Option HolderId)
    (result : Except (Failure ε) α) (s : State) (m : σ) : Run σ ε α :=
  match suspended with
  | none => ⟨.finished result, s, m⟩
  | some id =>
      match c.resume id s with
      | (.ok (), s') => ⟨.finished result, s', m⟩
      | (.error e, s') => .failed e s' m

def runWithout (c : Coordinator) (work : Work σ ε α) (s : State) (m : σ) :
    Run σ ε α :=
  (work (.without c) s m).2

/-- Runs work in the transaction of a handle, and marks that for rollback if the
work fails. -/
def runJoining (c : Coordinator) (d : Definition) (h : Handle)
    (work : Work σ ε α) (s : State) (m : σ) : Run σ ε α :=
  match work (.joining c h) (s.say (.participating d.name)) m with
  | (scope, run) =>
      run.afterFinish fun result s m =>
        match result with
        | .ok value => ⟨.finished (.ok value), s, m⟩
        | .error failure =>
            match scope.markRollbackOnly (s.say .participantFailed) with
            | (.ok (), _, s') => ⟨.finished (.error failure), s', m⟩
            | (.error e, _, s') => .failed e s' m

def rollbackWith (h : Handle) (result : Except (Failure ε) α) (s : State) :
    Except (Failure ε) α × State :=
  match rollback h s with
  | (.ok (), s') => (result, s')
  | (.error e, s') => (.error (.transaction e), s')

/-- Rolls a transaction back for a reason that counts more than a failure to do
so, which is only written to the journal. -/
def rollbackAnyway (line : TransactionError → Line) (h : Handle) (s : State) :
    State :=
  match rollback h s with
  | (.ok (), s') => s'
  | (.error e, s') => s'.say (line e)

/-- Commits a transaction or rolls it back, as the result of its work and the
marks on it demand. -/
def complete (h : Handle) (result : Except (Failure ε) α) (s : State) :
    Except (Failure ε) α × State :=
  match result with
  | .error failure =>
      (.error failure, rollbackAnyway .rollbackAfterFailureFailed h s)
  | .ok value =>
      if h.rollbackOnly then
        rollbackWith h (.ok value) (s.say .rollbackRequested)
      else if h.isHolderRollbackOnly s then
        rollbackWith h (.error (.transaction .unexpectedRollback))
          (s.say .rollbackImposed)
      else
        match commit h s with
        | (.ok (), s') => (.ok value, s')
        | (.error e, s') => (.error (.transaction e), s')

def completeOverdue (deadline : Instant) (h : Handle) (s : State) :
    Except (Failure ε) α × State :=
  let s := rollbackAnyway .rollbackAfterTimeoutFailed h s
  (.error (.transaction (.timedOut { seconds := s.now - deadline })), s)

/-- Cleans up after a transaction and resumes what was suspended for it. -/
def close (c : Coordinator) (suspended : Option HolderId) (h : Handle)
    (completed : Except (Failure ε) α × State) (m : σ) : Run σ ε α :=
  c.conclude suspended completed.1 (c.cleanup h completed.2) m

/-- Runs work in a transaction that has begun for it. -/
def runBegun (c : Coordinator) (suspended : Option HolderId) (h : Handle)
    (work : Work σ ε α) (s : State) (m : σ) : Run σ ε α :=
  let scope := Scope.beginning c h
  match work scope s m with
  | (scope', run) =>
      let h' := scope'.handle.getD h
      match run.ending, scope.deadline s with
      | .finished result, _ =>
          c.close suspended h' (complete h' result run.state) run.memory
      | .overdue 0, some deadline =>
          c.close suspended h'
            (completeOverdue deadline h' run.state) run.memory
      | .overdue (outer + 1), some _ => { run with ending := .overdue outer }
      | .overdue _, none => run

/-- Begins a transaction and runs work in it.  When it cannot begin, what was
suspended for it is resumed. -/
def runNew (c : Coordinator) (d : Definition) (suspended : Option HolderId)
    (h : Handle) (work : Work σ ε α) (s : State) (m : σ) : Run σ ε α :=
  match c.begin d h (s.say (.creating d.name)) with
  | (.ok (), h, s) => c.runBegun suspended h work s m
  | (.error e, _, s) =>
      match suspended with
      | none => .failed e s m
      | some id =>
          match c.resume id s with
          | (.ok (), s) => .failed e s m
          | (.error resumeError, s) =>
              .failed e (s.say (.resumeFailed resumeError)) m

/-- Executes work where a transaction is running already. -/
def executeWithin (c : Coordinator) (d : Definition) (h : Handle)
    (work : Work σ ε α) (s : State) (m : σ) : Run σ ε α :=
  match d.propagation with
  | .never => .failed (.illegal .transactionForbidden) s m
  | .notSupported =>
      match c.suspend h s with
      | (suspended, _, s) =>
          (c.runWithout work s m).afterFinish (c.conclude suspended)
  | .requiresNew =>
      match c.suspend h s with
      | (suspended, _, s) => c.runNew d suspended (c.discover s) work s m
  | .required | .supports | .mandatory => c.runJoining d h work s m

/-- Executes work where no transaction is running. -/
def executeAlone (c : Coordinator) (d : Definition) (h : Handle)
    (work : Work σ ε α) (s : State) (m : σ) : Run σ ε α :=
  match d.propagation with
  | .mandatory => .failed (.illegal .transactionMissing) s m
  | .required | .requiresNew => c.runNew d none h work s m
  | .supports | .notSupported | .never => c.runWithout work s m

/-- Executes a unit of work in the transaction that a definition asks for. -/
def execute (c : Coordinator) (d : Definition) (work : Work σ ε α) (s : State)
    (m : σ) : Run σ ε α :=
  let h := c.discover s
  if h.isActive s then c.executeWithin d h work s m
  else c.executeAlone d h work s m

end Coordinator

end UnitOfWork
