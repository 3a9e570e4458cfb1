import UnitOfWork.Recording.Call

/-!
# A driver that records

A driver in memory that hands out connections, keeps the settings of each open
session, and writes every call that succeeds to its list of events.  A call
whose fault is switched on fails, and a call that fails changes nothing.  Calls
on a connection that was released still succeed and are still recorded, but
there is no session left that they could change.
-/

namespace UnitOfWork

/-- The state of a recording driver. -/
structure Driver where
  /-- The settings that the session of a new connection starts with. -/
  initial : Settings := {}
  nextId : ConnectionId := 1
  /-- The faults that are switched on. -/
  faults : Fault → Bool := fun _ => false
  /-- The sessions of the connections that were created and not released. -/
  sessions : ConnectionId → Option Settings := fun _ => none
  events : List Event := []

namespace Driver

def check (d : Driver) (fault : Fault) : Except Fault Unit :=
  if d.faults fault then .error fault else .ok ()

def setFault (d : Driver) (fault : Fault) (on : Bool) : Driver :=
  { d with faults := fun f => if f = fault then on else d.faults f }

def record (d : Driver) (event : Event) : Driver :=
  { d with events := d.events ++ [event] }

def setSession (d : Driver) (id : ConnectionId) (session : Option Settings) :
    Driver :=
  { d with sessions := fun i => if i = id then session else d.sessions i }

/-- Opens a connection with a session of its own. -/
def create (d : Driver) : Except Fault (ConnectionId × Driver) :=
  match d.check .create with
  | .error fault => .error fault
  | .ok () =>
      .ok (d.nextId,
        { (d.setSession d.nextId (some d.initial)).record (.created d.nextId)
          with nextId := d.nextId + 1 })

def release (d : Driver) (id : ConnectionId) : Except Fault Driver :=
  match d.check .release with
  | .error fault => .error fault
  | .ok () => .ok ((d.setSession id none).record (.released id))

def call (d : Driver) (id : ConnectionId) (c : Call) : Except Fault Driver :=
  match d.check c.fault with
  | .error fault => .error fault
  | .ok () =>
      .ok ((d.setSession id ((d.sessions id).map c.effect)).record
        (.called id c))

/-- Whether a connection commits every statement by itself.  One that is not
open does not. -/
def autoCommit (d : Driver) (id : ConnectionId) : Bool :=
  match d.sessions id with
  | some session => session.autoCommit
  | none => false

/-- The isolation level of a connection.  One that is not open reports the
level READ COMMITTED. -/
def isolation (d : Driver) (id : ConnectionId) : Level :=
  match d.sessions id with
  | some session => session.isolation
  | none => .standard .readCommitted

def openSessions (d : Driver) : List (ConnectionId × Settings) :=
  (List.range d.nextId).filterMap fun id => (d.sessions id).map (id, ·)

def clearEvents (d : Driver) : Driver :=
  { d with events := [] }

def saw (d : Driver) (event : Event) : Bool :=
  decide (event ∈ d.events)

@[simp]
theorem sessions_setSession (d : Driver) (id i : ConnectionId)
    (session : Option Settings) :
    (d.setSession id session).sessions i =
      if i = id then session else d.sessions i := rfl

@[simp]
theorem faults_setFault (d : Driver) (fault f : Fault) (on : Bool) :
    (d.setFault fault on).faults f = if f = fault then on else d.faults f := rfl

/-- A connection is created unless the fault says otherwise. -/
theorem create_eq_error_iff {d : Driver} {fault : Fault} :
    d.create = .error fault ↔ fault = .create ∧ d.faults .create = true := by
  unfold create check
  by_cases h : d.faults .create <;> simp [h, eq_comm]

end Driver

end UnitOfWork
