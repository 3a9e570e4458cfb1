import UnitOfWork.Script.Turn

/-!
# The run of a script

The steps of a script are carried out one after the other, each with its entry.
Outside of all units of work an error of a step changes nothing for the steps
that follow.  A unit of work is executed by the coordinator of its source; its
body is run in the scope that the coordinator makes for it, and ends early when
it throws or gives a value, when a step fails that must not, or when a deadline
passes while it sleeps.
-/

namespace UnitOfWork.Script

variable {V : Type}

def executionOutcome (result : Except StepFailure (Option V)) : Outcome V :=
  result.map fun value =>
    match value with
    | some v => .value v
    | none => .nothing

/-- The frame of an execution whose work is about to start. -/
def Frame.of (hd : Header) (scope : Scope) (s : State) : Frame where
  source := hd.source
  limit := (scope.deadline s).map fun deadline => deadline - s.now

def Memory.reportStep (m : Memory V) (path : List Nat) (hd : Header)
    (outcome : Outcome V) (s : State) : Memory V :=
  m.report path hd.name outcome (m.shownHandle hd s) s

/-- The memory with the entry of a unit of work that starts. -/
def Memory.reportEntry (m : Memory V) (path : List Nat) (scope : Scope)
    (s : State) : Memory V :=
  m.report path "enter" (.ok (scopeReply scope s)) none s

abbrev Finished (V : Type) : Type :=
  Run (Memory V) StepError (Option V)

/-- Executes a unit of work on the coordinator of its source. -/
def executeOn (path : List Nat) (frames : List Frame) (hd : Header)
    (d : Definition)
    (body : List Frame → Work (Memory V) StepError (Option V)) (s : State)
    (m : Memory V) : Finished V :=
  match m.coordinator? hd with
  | none => ⟨.finished (.error (.own .badStep)), s, m⟩
  | some c =>
      c.execute d
        (fun scope s m =>
          body (Frame.of hd scope s :: frames) scope s
            (m.reportEntry path scope s))
        s m

/-- Runs the body of a unit of work, from the step with a given number on. -/
def runBody :
    Script V → (path : List Nat) → (index : Nat) → (frames : List Frame) →
      Work (Memory V) StepError (Option V)
  | .empty, _, _, _, scope, s, m => (scope, ⟨.finished (.ok none), s, m⟩)
  | .step hd instruction rest, path, index, frames, scope, s, m =>
      match instruction.performInside frames hd scope s m with
      | (scope', .overdue outer time) =>
          (scope', ⟨.overdue outer, s, { m with elapsed := time }⟩)
      | (scope', .ends result) => (scope', ⟨.finished result, s, m⟩)
      | (scope', .next done) =>
          let m' := done.memory.reportStep (path ++ [index])
            hd done.outcome done.state
          match done.outcome, hd.must with
          | .error failure, true =>
              (scope', ⟨.finished (.error failure), done.state, m'⟩)
          | _, _ => rest.runBody path (index + 1) frames scope' done.state m'
  | .execute hd d body rest, path, index, frames, scope, s, m =>
      let path' := path ++ [index]
      let run := executeOn path' frames hd d (body.runBody path' 0) s m
      match run.ending with
      | .overdue outer => (scope, ⟨.overdue outer, run.state, run.memory⟩)
      | .finished result =>
          let outcome := executionOutcome result
          let m' := run.memory.reportStep path' hd outcome run.state
          match outcome, hd.must with
          | .error failure, true =>
              (scope, ⟨.finished (.error failure), run.state, m'⟩)
          | _, _ => rest.runBody path (index + 1) frames scope run.state m'

/-- What a script works on from its first step to its last. -/
structure Bench (V : Type) where
  world : World
  contexts : List (Bindings HolderId)
  memory : Memory V

namespace Bench

/-- The state in which a step starts: the world with the context of the step. -/
def stateFor (b : Bench V) (hd : Header) : State :=
  { b.world with context := b.contexts.getD hd.context .empty }

/-- What a script works on after a step that was done outside of all units of
work. -/
def afterStep (b : Bench V) (index : Nat) (hd : Header) (done : Done V) :
    Bench V where
  world := done.state.toWorld
  contexts := b.contexts.set hd.context done.state.context
  memory := done.memory.reportStep [index] hd done.outcome done.state

/-- The memory with which a step outside of all units of work starts: no time
has passed. -/
def freshMemory (b : Bench V) : Memory V :=
  { b.memory with elapsed := 0 }

/-- Executes a unit of work outside of all others.  Nothing is there to cut it
off from outside. -/
def execute (b : Bench V) (index : Nat) (hd : Header) (d : Definition)
    (body : List Frame → Work (Memory V) StepError (Option V)) : Bench V :=
  let run := executeOn [index] [] hd d body (b.stateFor hd) b.freshMemory
  match run.ending with
  | .finished result =>
      b.afterStep index hd ⟨executionOutcome result, run.state, run.memory⟩
  | .overdue _ => b

end Bench

/-- Runs a script outside of all units of work, from the step with a given
number on. -/
def runFrom : Script V → (index : Nat) → Bench V → Bench V
  | .empty, _, b => b
  | .step hd instruction rest, index, b =>
      rest.runFrom (index + 1)
        (b.afterStep index hd
          (instruction.perform [] hd (b.stateFor hd) b.freshMemory))
  | .execute hd d body rest, index, b =>
      rest.runFrom (index + 1) (b.execute index hd d (body.runBody [index] 0))

/-- A source that a script starts with. -/
structure SourceSetup where
  name : String := "mock"
  settings : Settings := {}
  faults : List Fault := []
  config : Config := {}

def SourceSetup.driver (setup : SourceSetup) : Driver where
  initial := setup.settings
  faults := fun fault => decide (fault ∈ setup.faults)

/-- What a script starts with: its sources, each with a coordinator, and a
number of contexts in which nothing is bound. -/
def Bench.start (setups : List SourceSetup) (contexts : Nat) :
    Bench V where
  world :=
    { drivers := fun source =>
      (setups[source]?.map SourceSetup.driver).getD {} }
  contexts := List.replicate contexts .empty
  memory :=
    { coordinators := setups.mapIdx fun source setup =>
        { source := ⟨source, ⟨setup.name⟩⟩, config := setup.config } }

def run (script : Script V) (setups : List SourceSetup) (contexts : Nat) :
    Bench V :=
  script.runFrom 0 (.start setups contexts)

end UnitOfWork.Script
