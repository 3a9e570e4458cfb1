import UnitOfWork.Isolation.Level

/-!
# Calls on connections

The calls that a connection answers, the settings of a session that some of them
change, and the faults by which any of them can be made to fail.  An event is
the trace that a call leaves when it does not fail.
-/

namespace UnitOfWork

/-- The number by which a source tells its connections apart. -/
abbrev ConnectionId := Nat

/-- The settings of the session behind a connection. -/
structure Settings where
  autoCommit : Bool := true
  isolation : Level := .standard .readCommitted
  deriving DecidableEq

/-- The ways in which a call can be made to fail. -/
inductive Fault where
  | create
  | release
  | setIsolation
  | disableAutoCommit
  | enableAutoCommit
  | begin
  | commit
  | rollback
  | execute
  deriving DecidableEq

namespace Fault

def name : Fault → String
  | create => "Create"
  | release => "Release"
  | setIsolation => "SetIsolation"
  | disableAutoCommit => "DisableAutoCommit"
  | enableAutoCommit => "EnableAutoCommit"
  | begin => "Begin"
  | commit => "Commit"
  | rollback => "Rollback"
  | execute => "Execute"

def all : List Fault :=
  [create, release, setIsolation, disableAutoCommit, enableAutoCommit, begin,
    commit, rollback, execute]

def message (fault : Fault) : String :=
  "simulated " ++ fault.name ++ " failure"

end Fault

/-- A call on a connection that can fail. -/
inductive Call where
  | begin
  | commit
  | rollback
  | setAutoCommit (on : Bool)
  | setIsolation (level : Level)
  | execute (statement : String)
  deriving DecidableEq

namespace Call

/-- The fault by which a call fails.  Switching auto-commit on and switching it
off fail separately. -/
def fault : Call → Fault
  | begin => .begin
  | commit => .commit
  | rollback => .rollback
  | setAutoCommit true => .enableAutoCommit
  | setAutoCommit false => .disableAutoCommit
  | setIsolation _ => .setIsolation
  | execute _ => .execute

/-- What a call makes of the settings of its session. -/
def effect : Call → Settings → Settings
  | setAutoCommit on, settings => { settings with autoCommit := on }
  | setIsolation level, settings => { settings with isolation := level }
  | _, settings => settings

end Call

/-- What a recording driver writes down: a connection was created or released,
or a call on it succeeded. -/
inductive Event where
  | created (id : ConnectionId)
  | released (id : ConnectionId)
  | called (id : ConnectionId) (call : Call)
  deriving DecidableEq

def Event.connection : Event → ConnectionId
  | created id => id
  | released id => id
  | called id _ => id

end UnitOfWork
