import UnitOfWork.Recording.Driver
import UnitOfWork.Transaction.Holder
import UnitOfWork.Transaction.Journal

/-!
# The state that transactions work on

The drivers of all sources, the holders that were ever made, the journal, and
the context at hand, which binds holders to keys.  A holder is known by its
number, so that a context, a handle and a suspended transaction can share one.
Each operation below says what it leaves of the state, and every call on a
driver that an operation makes is written to the journal.
-/

namespace UnitOfWork

/-- The number by which holders are told apart. -/
abbrev HolderId := Nat

/-- What all contexts have in common. -/
structure World where
  drivers : SourceId → Driver := fun _ => {}
  holders : HolderId → Holder Connection := fun _ => .finished
  /-- The number of the next holder. -/
  nextHolder : HolderId := 0
  journal : List Note := []
  now : Instant := 1

/-- The world together with the context that is worked on. -/
structure State extends World where
  context : Bindings HolderId := .empty

namespace State

def note (s : State) (n : Note) : State :=
  { s with journal := s.journal ++ [n] }

def say (s : State) (line : Line) : State :=
  s.note (.line line)

def setDriver (s : State) (source : SourceId) (driver : Driver) : State :=
  { s with drivers := fun i => if i = source then driver else s.drivers i }

def setHolder (s : State) (id : HolderId) (holder : Holder Connection) :
    State :=
  { s with holders := fun i => if i = id then holder else s.holders i }

/-- Puts a holder under a number that was not used before. -/
def addHolder (s : State) (holder : Holder Connection) : HolderId × State :=
  (s.nextHolder,
    { s.setHolder s.nextHolder holder with nextHolder := s.nextHolder + 1 })

/-- The holder bound to a key of the context. -/
def boundHolder (s : State) (key : Key) : Option HolderId :=
  s.context.get? key

/-! ## Calls on drivers -/

def create (s : State) (source : SourceId) : Except Fault Connection × State :=
  let call := DriverCall.create ⟨source, (s.drivers source).nextId⟩
  match (s.drivers source).create with
  | .ok (id, driver) =>
      (.ok ⟨source, id⟩, (s.setDriver source driver).note (.driver call none))
  | .error fault => (.error fault, s.note (.driver call (some fault)))

def release (s : State) (source : SourceId) (c : Connection) :
    Except Fault Unit × State :=
  let call := DriverCall.release source c
  match (s.drivers source).release c.id with
  | .ok driver => (.ok (), (s.setDriver source driver).note (.driver call none))
  | .error fault => (.error fault, s.note (.driver call (some fault)))

/-- Makes a call on a connection without a trace in the journal, as a unit of
work does by itself. -/
def callDirectly (s : State) (c : Connection) (call : Call) :
    Except Fault Unit × State :=
  match (s.drivers c.source).call c.id call with
  | .ok driver => (.ok (), s.setDriver c.source driver)
  | .error fault => (.error fault, s)

/-- Makes a call on a connection. -/
def call (s : State) (c : Connection) (call : Call) :
    Except Fault Unit × State :=
  match s.callDirectly c call with
  | (.ok (), s') => (.ok (), s'.note (.driver (.call c call) none))
  | (.error fault, s') =>
      (.error fault, s'.note (.driver (.call c call) (some fault)))

def autoCommit (s : State) (c : Connection) : Bool :=
  (s.drivers c.source).autoCommit c.id

def isolation (s : State) (c : Connection) : Level :=
  (s.drivers c.source).isolation c.id

/-- The state after a restoring step, whose failure is written to the journal
and otherwise ignored. -/
def restoring (step : RestoringStep) : Except Fault Unit × State → State
  | (.ok (), s) => s
  | (.error fault, s) => s.say (.stepFailed step fault)

/-! ## Bindings of the context -/

def bind (s : State) (key : Key) (holder : HolderId) :
    Except OccupiedKey State :=
  match s.context.bind key holder with
  | .ok context => .ok ({ s with context }.say (.bound key))
  | .error occupied => .error occupied

def unbind (s : State) (key : Key) : Option HolderId × State :=
  match s.context.unbind key with
  | (some holder, context) =>
      (some holder, { s with context }.say (.unbound key))
  | (none, _) => (none, s)

/-! ## What the operations leave alone -/

@[simp]
theorem drivers_note (s : State) (n : Note) : (s.note n).drivers = s.drivers :=
  rfl

@[simp]
theorem holders_note (s : State) (n : Note) : (s.note n).holders = s.holders :=
  rfl

@[simp]
theorem context_note (s : State) (n : Note) : (s.note n).context = s.context :=
  rfl

@[simp]
theorem holders_setDriver (s : State) (source : SourceId) (driver : Driver) :
    (s.setDriver source driver).holders = s.holders := rfl

@[simp]
theorem context_setDriver (s : State) (source : SourceId) (driver : Driver) :
    (s.setDriver source driver).context = s.context := rfl

@[simp]
theorem drivers_setHolder (s : State) (id : HolderId)
    (holder : Holder Connection) :
    (s.setHolder id holder).drivers = s.drivers := rfl

@[simp]
theorem context_setHolder (s : State) (id : HolderId)
    (holder : Holder Connection) :
    (s.setHolder id holder).context = s.context := rfl

/-- The driver that was replaced is the new one, and any other is as it was. -/
@[simp]
theorem drivers_setDriver (s : State) (source i : SourceId) (driver : Driver) :
    (s.setDriver source driver).drivers i =
      if i = source then driver else s.drivers i := rfl

/-- The holder that was replaced is the new one, and any other is as it was. -/
@[simp]
theorem holders_setHolder (s : State) (id i : HolderId)
    (holder : Holder Connection) :
    (s.setHolder id holder).holders i =
      if i = id then holder else s.holders i := rfl

end State

end UnitOfWork
