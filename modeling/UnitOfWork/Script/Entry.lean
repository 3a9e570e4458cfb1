import UnitOfWork.Script.Step
import UnitOfWork.Work.Execution

/-!
# The record of a script

Every step that is carried out leaves an entry: its answer or its error, and
what happened since the entry before it, seen from the drivers, from the context
and from the journal.
-/

namespace UnitOfWork.Script

/-- The errors that steps have beside those of transactions. -/
inductive StepError where
  /-- A unit of work threw. -/
  | thrown (message : String)
  | noHandle
  | noSuspended
  | noHolder
  | noConnection
  /-- The coordinator is executing the unit of work that wants to change it. -/
  | coordinatorInUse
  | badStep
  /-- A call on a connection failed. -/
  | fault (fault : Fault)
  | occupied (key : OccupiedKey)
  deriving DecidableEq

def StepError.message : StepError → String
  | thrown text => text
  | noHandle => "no handle"
  | noSuspended => "no suspended"
  | noHolder => "no holder"
  | noConnection => "no connection"
  | coordinatorInUse => "coordinator in use"
  | badStep => "bad step"
  | fault f => f.message
  | occupied key => key.message

/-- What a step answers. -/
inductive Reply (V : Type) where
  | nothing
  | flag (value : Bool)
  | number (value : Nat)
  | text (value : String)
  | level (value : Level)
  | holder (holder : Holder Connection)
  | commanded (answer : Except TransactionError (Holder.Answer Connection))
      (holder : Holder Connection)
  | sessions (list : List (ConnectionId × Settings))
  /-- What a scope says: whether it has a transaction, whether that is new, and
  whether it is to be rolled back. -/
  | scope (hasTransaction isNew isRollbackOnly : Bool)
  | value (value : V)

abbrev StepFailure : Type :=
  Failure StepError

abbrev Outcome (V : Type) : Type :=
  Except StepFailure (Reply V)

/-- A handle as its user sees it. -/
structure HandleView where
  handle : Handle
  /-- Its holder is the one that is bound in the context. -/
  isBound : Bool
  connection : Option ConnectionId
  isHolderRollbackOnly : Bool
  isRollbackOnly : Bool

def HandleView.of (c : Coordinator) (h : Handle) (s : State) : HandleView where
  handle := h
  isBound := h.holder.isSome && decide (s.boundHolder c.key = h.holder)
  connection := (h.connection s).toOption.map Connection.id
  isHolderRollbackOnly := h.isHolderRollbackOnly s
  isRollbackOnly := h.isRollbackOnly s

/-- The holders that are bound in a context, by their keys. -/
def bindingsView (w : World) (context : Bindings HolderId) :
    List (Key × Holder Connection) :=
  context.entries.map fun e => (e.1, w.holders e.2)

structure Entry (V : Type) where
  /-- The place of the step, and before it the places of the steps that it is
  in, outermost first. -/
  path : List Nat
  name : String
  outcome : Outcome V
  handle : Option HandleView
  events : List (SourceId × Event)
  bindings : List (Key × Holder Connection)
  lines : List Line

/-- The slots in which steps keep what they get or make. -/
structure Slots where
  handles : String → Option Handle := fun _ => none
  suspended : String → Option HolderId := fun _ => none
  holders : String → Option HolderId := fun _ => none
  connections : String → Option Connection := fun _ => none

def setSlot (slots : String → Option α) (slot : String) (content : Option α) :
    String → Option α :=
  fun name => if name = slot then content else slots name

/-- What a script remembers from step to step. -/
structure Memory (V : Type) where
  /-- The coordinators of the sources, in order. -/
  coordinators : List Coordinator
  slots : Slots := {}
  entries : List (Entry V) := []
  /-- The seconds that were slept since the last step outside of all units of
  work began. -/
  elapsed : Nat := 0
  /-- The number of events of each source that entries have shown. -/
  shownEvents : SourceId → Nat := fun _ => 0
  /-- The length of the journal when the last entry was written. -/
  shownNotes : Nat := 0

namespace Memory

variable {V : Type}

def coordinator? (m : Memory V) (hd : Header) : Option Coordinator :=
  m.coordinators[hd.source]?

/-- The events that no entry has shown yet, source by source. -/
def newEvents (m : Memory V) (w : World) : List (SourceId × Event) :=
  (List.range m.coordinators.length).flatMap fun source =>
    ((w.drivers source).events.drop (m.shownEvents source)).map (source, ·)

/-- The lines of the journal that no entry has shown yet. -/
def newLines (m : Memory V) (w : World) : List Line :=
  (w.journal.drop m.shownNotes).filterMap Note.line?

/-- The handle that the entry of a step shows. -/
def shownHandle (m : Memory V) (hd : Header) (s : State) : Option HandleView :=
  match hd.handleSlot, m.coordinator? hd with
  | some slot, some c => (m.slots.handles slot).map (HandleView.of c · s)
  | _, _ => none

def report (m : Memory V) (path : List Nat) (name : String)
    (outcome : Outcome V) (handle : Option HandleView) (s : State) : Memory V :=
  { m with
    entries := m.entries ++
      [{ path, name, outcome, handle
         events := m.newEvents s.toWorld
         bindings := bindingsView s.toWorld s.context
         lines := m.newLines s.toWorld }]
    shownEvents := fun source => (s.drivers source).events.length
    shownNotes := s.journal.length }

end Memory

end UnitOfWork.Script
