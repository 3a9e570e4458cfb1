import UnitOfWork.Recording.Connection
import UnitOfWork.Text.Quoted
import UnitOfWork.Transaction.Error

/-!
# The journal

What the operations on transactions write down while they work: the calls that
they make on drivers, each with the fault by which it failed if it did, and
lines for a reader.  A line is a value; `Line.text` says how it is written.
-/

namespace UnitOfWork

/-- The steps that put things back after a transaction, or after a failed
attempt to begin one.  None of them can make an operation fail. -/
inductive RestoringStep where
  | rollBackFailedBegin
  | releaseAfterFailedBegin
  | restoreAutoCommit
  | restoreIsolation
  | release
  deriving DecidableEq

def RestoringStep.text : RestoringStep → String
  | rollBackFailedBegin => "rolling back after failed begin"
  | releaseAfterFailedBegin => "releasing connection after failed begin"
  | restoreAutoCommit => "restoring auto-commit"
  | restoreIsolation => "restoring isolation level"
  | release => "releasing connection"

/-- How serious a line is. -/
inductive Severity where
  | trace
  | debug
  | warn
  | error
  deriving DecidableEq

def Severity.name : Severity → String
  | trace => "TRACE"
  | debug => "DEBUG"
  | warn => "WARN"
  | error => "ERROR"

/-- A line of the journal. -/
inductive Line where
  | bound (key : Key)
  | unbound (key : Key)
  | acquired (connection : Connection)
  | changingIsolation (connection : Connection) (level : Level)
  | disablingAutoCommit (connection : Connection)
  | markingReadOnly (connection : Connection)
  | releasingAfterFailedBegin (connection : Connection)
  | releasing (connection : Connection)
  | fetched (connection : Connection)
  | committing (connection : Connection)
  | rollingBack (connection : Connection)
  | markingRollbackOnly (connection : Option Connection)
  | stepFailed (step : RestoringStep) (fault : Fault)
  | creating (name : Option String)
  | participating (name : Option String)
  | participantFailed
  | rollbackRequested
  | rollbackImposed
  | rollbackAfterFailureFailed (error : TransactionError)
  | rollbackAfterTimeoutFailed (error : TransactionError)
  | resumeFailed (error : TransactionError)
  deriving DecidableEq

namespace Line

def severity : Line → Severity
  | bound _ | unbound _ => .trace
  | stepFailed _ _ => .warn
  | rollbackAfterFailureFailed _ | rollbackAfterTimeoutFailed _
  | resumeFailed _ => .error
  | _ => .debug

def message : Line → String
  | bound _ => "bound resource to context"
  | unbound _ => "removed resource from context"
  | acquired _ => "acquired connection for transaction"
  | changingIsolation _ _ => "changing isolation level of connection"
  | disablingAutoCommit _ => "switching connection to manual commit"
  | markingReadOnly _ => "marking transaction read-only"
  | releasingAfterFailedBegin _ => "releasing connection after failed begin"
  | releasing _ => "releasing connection after transaction"
  | fetched _ => "fetching connection outside of a transaction"
  | committing _ => "committing transaction"
  | rollingBack _ => "rolling back transaction"
  | markingRollbackOnly _ => "setting transaction rollback-only"
  | stepFailed _ _ => "error ignored during transaction cleanup"
  | creating _ => "creating new transaction"
  | participating _ => "participating in existing transaction"
  | participantFailed =>
      "participating transaction failed, marking existing transaction rollback-only"
  | rollbackRequested => "transactional code has requested rollback"
  | rollbackImposed =>
      "global transaction is marked as rollback-only but commit was requested"
  | rollbackAfterFailureFailed _ => "rollback after failed unit of work failed"
  | rollbackAfterTimeoutFailed _ => "rollback after timeout failed"
  | resumeFailed _ =>
      "failed to resume suspended transaction after begin failure"

def optional (text : Option String) : String :=
  match text with
  | some t => "Some(" ++ t ++ ")"
  | none => "None"

def fields : Line → List (String × String)
  | bound key | unbound key => [("key", key.name)]
  | acquired c | disablingAutoCommit c | markingReadOnly c
  | releasingAfterFailedBegin c | releasing c | fetched c | committing c
  | rollingBack c => [("connection", c.text)]
  | changingIsolation c level =>
      [("connection", c.text), ("isolation", level.sql)]
  | markingRollbackOnly c => [("connection", optional (c.map Connection.text))]
  | stepFailed step fault => [("step", step.text), ("error", fault.message)]
  | creating name | participating name =>
      [("name", optional (name.map Text.quote))]
  | rollbackAfterFailureFailed e | rollbackAfterTimeoutFailed e
  | resumeFailed e => [("error", e.message)]
  | participantFailed | rollbackRequested | rollbackImposed => []

/-- A line as it is written: its severity, its message and its fields, one space
apart. -/
def text (line : Line) : String :=
  String.intercalate " "
    (line.severity.name :: line.message
      :: line.fields.map fun f => f.1 ++ "=" ++ f.2)

end Line

/-- A call that an operation makes on a driver. -/
inductive DriverCall where
  /-- Asks for a connection, which has the given number if it is created. -/
  | create (connection : Connection)
  /-- Hands a connection back to a source. -/
  | release (source : SourceId) (connection : Connection)
  | call (connection : Connection) (call : Call)
  deriving DecidableEq

/-- An entry of the journal. -/
inductive Note where
  | line (line : Line)
  /-- A call on a driver, with the fault by which it failed. -/
  | driver (call : DriverCall) (fault : Option Fault)
  deriving DecidableEq

def Note.line? : Note → Option Line
  | line l => some l
  | driver _ _ => none

end UnitOfWork
