import UnitOfWork.Script.Action
import UnitOfWork.Script.Waiting

/-!
# Turns

What one step of a script does, apart from executing a unit of work.  Inside of
a unit of work a step may use its scope, sleep, and end the work.  Outside of
all units of work there are no such steps.
-/

namespace UnitOfWork.Script

variable {V : Type}

/-- A step that is done, with what it leaves behind. -/
structure Done (V : Type) where
  outcome : Outcome V
  state : State
  memory : Memory V

namespace Done

def refuse (e : StepError) (s : State) (m : Memory V) : Done V :=
  ⟨.error (.own e), s, m⟩

def ofEffect (m : Memory V) (e : Effect V) : Done V :=
  ⟨e.outcome, e.state, { m with slots := e.slots }⟩

end Done

/-- Switches the read-only statement of a coordinator on or off, unless it
executes a unit of work. -/
def setEnforced (frames : List Frame) (hd : Header) (c : Coordinator)
    (on : Bool) (s : State) (m : Memory V) : Done V :=
  if frames.any fun f => f.source = hd.source then
    .refuse .coordinatorInUse s m
  else
    let c' := c.setEnforceReadOnly on
    ⟨.ok (.flag c'.config.enforceReadOnly), s,
      { m with coordinators := m.coordinators.set hd.source c' }⟩

/-- Carries out a step that needs no scope.  There is no other step outside of
all units of work. -/
def Instruction.perform (frames : List Frame) (hd : Header) (s : State)
    (m : Memory V) : Instruction V → Done V
  | .act action =>
      match m.coordinator? hd with
      | some c => .ofEffect m (action.perform c hd s m.slots)
      | none => .refuse .badStep s m
  | .enforce on =>
      match m.coordinator? hd with
      | some c => setEnforced frames hd c on s m
      | none => .refuse .badStep s m
  | .scoped _ | .sleep _ | .throw _ | .give _ => .refuse .badStep s m

def scopeReply (scope : Scope) (s : State) : Reply V :=
  .scope scope.hasTransaction scope.isNew (scope.isRollbackOnly s)

/-- Carries out a step that uses the scope of its unit of work. -/
def ScopeAction.perform (hd : Header) (scope : Scope) (s : State)
    (m : Memory V) :
    ScopeAction → Scope × Done V
  | .probe => (scope, ⟨.ok (scopeReply scope s), s, m⟩)
  | .markRollbackOnly =>
      match scope.markRollbackOnly s with
      | (result, scope', s') =>
          (scope', .ofEffect m
            (.ofResult (fun _ => .nothing) result s' m.slots))
  | .connection =>
      (scope, .ofEffect m (keepConnection hd m.slots (scope.connection s)))
  | .release =>
      (scope,
        .ofEffect m
          (.withSlot (m.slots.connections hd.connectionSlot)
            .noConnection s m.slots
            fun connection =>
              match scope.release connection s with
              | (result, s') =>
                  .ofResult (fun _ => .nothing) result s' m.slots))

/-- How a unit of work goes on after a step. -/
inductive Signal (V : Type) where
  /-- The step is done and leaves an entry. -/
  | next (done : Done V)
  /-- The step ends the unit of work. -/
  | ends (result : Except StepFailure (Option V))
  /-- The unit of work is cut off by a deadline. -/
  | overdue (outer : Nat) (time : Nat)

/-- Carries out a step of a unit of work, inside the executions of the given
frames. -/
def Instruction.performInside (frames : List Frame) (hd : Header)
    (scope : Scope) (s : State) (m : Memory V) (instruction : Instruction V) :
    Scope × Signal V :=
  match instruction with
  | .act _ | .enforce _ => (scope, .next (instruction.perform frames hd s m))
  | .scoped action =>
      match action.perform hd scope s m with
      | (scope', done) => (scope', .next done)
  | .sleep seconds =>
      match wait (limits frames) m.elapsed seconds with
      | .rested time =>
          (scope, .next ⟨.ok .nothing, s, { m with elapsed := time }⟩)
      | .overdue outer time => (scope, .overdue outer time)
  | .throw message => (scope, .ends (.error (.own (.thrown message))))
  | .give value => (scope, .ends (.ok value))

end UnitOfWork.Script
