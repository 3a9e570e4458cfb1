import UnitOfWork.Policy.Definition
import UnitOfWork.Recording.Connection
import UnitOfWork.Transaction.Holder

/-!
# Scripts

A script is a sequence of steps that use coordinators, handles, holders and
connections by hand, and execute units of work that are scripts themselves.
What a step gets or makes is kept in named slots, which all steps share.  The
values that a unit of work returns are of any type.
-/

namespace UnitOfWork.Script

/-- What a step says whatever it does. -/
structure Header where
  /-- The name of the step, which is repeated in its entry. -/
  name : String
  /-- The source that the step is about, by its place. -/
  source : SourceId := 0
  /-- The context that the step runs on, by its place. -/
  context : Nat := 0
  /-- The key that the step uses instead of its source's own. -/
  key : Option Key := none
  /-- The slot of a handle.  A step that names it is followed by a view of the
  handle. -/
  handleSlot : Option String := none
  suspendedSlot : String := "s"
  holderSlot : String := "o"
  connectionSlot : String := "c"
  /-- A unit of work fails when this step does. -/
  must : Bool := false

def Header.handle (hd : Header) : String :=
  hd.handleSlot.getD "h"

inductive Inquiry where
  | call (call : Call)
  | autoCommit
  | isolation
  | text

inductive HandleAction where
  | existing
  | begin (definition : Definition)
  | commit
  | rollback
  | markRollbackOnly
  | info
  | connectionOf
  | holderOf
  | cleanup
  | suspend

/-- The steps that are allowed everywhere, apart from executing a unit of
work. -/
inductive Action where
  | discover
  | onHandle (action : HandleAction)
  | resume
  | suspendedHolder
  | boundHolder
  | newHolder
  | bind
  | unbind
  /-- A command on a holder, which is missing when there is no such command. -/
  | holder (command : Option (Holder.Command Connection))
  /-- Gives a holder the connection of the step's slot, or takes its own
  away. -/
  | setConnection (given : Bool)
  | getConnection
  | releaseConnection
  | isTransactional
  /-- An inquiry on a connection, which is missing when there is no such
  inquiry. -/
  | inquire (inquiry : Option Inquiry)
  | setFault (fault : Fault) (on : Bool)
  | clearEvents
  | saw (event : Event)
  | sessions
  | timeout (definition : Definition)
  /-- A step that there is not. -/
  | unknown

/-- The steps of a unit of work that use its scope. -/
inductive ScopeAction where
  | probe
  | markRollbackOnly
  | connection
  | release

/-- Everything that a step can do, apart from executing a unit of work. -/
inductive Instruction (V : Type) where
  | act (action : Action)
  /-- Switches the read-only statement of the coordinator on or off. -/
  | enforce (on : Bool)
  | scoped (action : ScopeAction)
  | sleep (seconds : Nat)
  /-- Ends the unit of work with an error of its own. -/
  | throw (message : String)
  /-- Ends the unit of work with a value. -/
  | give (value : Option V)

end UnitOfWork.Script

namespace UnitOfWork

inductive Script (V : Type) where
  | empty
  | step (header : Script.Header) (instruction : Script.Instruction V)
      (rest : Script V)
  /-- Executes a unit of work, and goes on with the rest. -/
  | execute (header : Script.Header) (definition : Definition) (body : Script V)
      (rest : Script V)
  deriving Inhabited

end UnitOfWork
