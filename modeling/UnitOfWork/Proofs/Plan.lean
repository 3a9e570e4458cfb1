import UnitOfWork.Proofs.Course

/-!
# Units of work as trees

A plan is a unit of work that is built from what work may do: ask its scope,
make calls on connections, switch faults, let time pass, and execute further
plans on the context of its scope.  After each step it goes on as the answer of
that step demands, so that it may depend on everything that it was told; it may
also look at the whole state, and it shares a memory with the plans around it.

A plan that still waits when the deadline of a transaction around it passes is
dropped at that point.  `Plan.pend` is such a point, wherever it comes from.

What the run of a plan does to others is kept in a diary beside that memory:
each mark for rollback, each connection that a scope has fetched, each execution
that came back, and each one that was dropped in the middle.
-/

namespace UnitOfWork

/-- What a unit of work did that may matter to others. -/
inductive Deed where
  /-- A scope was marked for rollback.  Its transaction has this holder, and was
  begun for the scope's own work or joined by it. -/
  | marked (holder : HolderId) (isNew : Bool)
  /-- A scope has fetched a connection of its own.  Its transaction has this
  holder, if it runs in one. -/
  | fetched (connection : Connection) (holder : Option HolderId)
  /-- An execution came to its end, and failed or not. -/
  | returned (course : Course) (failed : Bool)
  /-- An execution on the context's key was dropped before its end. -/
  | abandoned (key : Key) (course : Course)
  deriving DecidableEq

/-- The memory that plans share, and what was done so far. -/
structure Diary (σ : Type) where
  memory : σ
  deeds : List Deed := []

def Diary.enter {σ : Type} (m : Diary σ) (deed : Deed) : Diary σ :=
  { m with deeds := m.deeds ++ [deed] }

/-- Everything that was done between two diaries has a property. -/
def Diary.AllNew {σ : Type} (P : Deed → Prop) (m m' : Diary σ) : Prop :=
  ∃ new, m'.deeds = m.deeds ++ new ∧ ∀ deed ∈ new, P deed

namespace Diary.AllNew

variable {σ : Type} {P Q : Deed → Prop} {m m₁ m' : Diary σ}

theorem mono (hPQ : ∀ deed, P deed → Q deed) (h : AllNew P m m') :
    AllNew Q m m' := by
  obtain ⟨new, hnew, hP⟩ := h
  exact ⟨new, hnew, fun deed hdeed => hPQ deed (hP deed hdeed)⟩

/-- The deeds between two diaries are the ones that the second has in
addition. -/
theorem of_deeds (h : AllNew P m m') {new : List Deed}
    (hnew : m'.deeds = m.deeds ++ new) : ∀ deed ∈ new, P deed := by
  obtain ⟨new', hnew', hP⟩ := h
  rw [hnew] at hnew'
  rwa [List.append_cancel_left hnew']

theorem trans (h : AllNew P m m₁) (h' : AllNew P m₁ m') : AllNew P m m' := by
  obtain ⟨new, hnew, hP⟩ := h
  obtain ⟨new', hnew', hP'⟩ := h'
  refine ⟨new ++ new',
    by rw [hnew', hnew, List.append_assoc], fun deed hdeed => ?_⟩
  exact (List.mem_append.mp hdeed).elim (hP deed) (hP' deed)

end Diary.AllNew

theorem Diary.enter_prefix {σ : Type} (m : Diary σ) (deed : Deed) :
    m.deeds <+: (m.enter deed).deeds :=
  List.prefix_append _ _

namespace Plan

inductive Step (σ : Type) where
  /-- Asks the scope for a connection. -/
  | connection
  /-- Hands a connection back to the scope. -/
  | handBack (connection : Connection)
  /-- Asks the scope for a rollback. -/
  | markRollbackOnly
  | call (connection : Connection) (call : Call)
  | setFault (source : SourceId) (fault : Fault) (on : Bool)
  /-- Lets some seconds pass. -/
  | rest (seconds : Nat)
  | remember (memory : σ)
  /-- Looks at everything that there is to see. -/
  | look

variable {σ : Type}

def Step.Answer : Step σ → Type
  | connection => Except TransactionError Connection
  | handBack _ => Except TransactionError Unit
  | markRollbackOnly => Except TransactionError Unit
  | call _ _ => Except Fault Unit
  | setFault _ _ _ => Unit
  | rest _ => Unit
  | remember _ => Unit
  | look => Scope × State × σ

structure Taken (step : Step σ) where
  answer : step.Answer
  scope : Scope
  state : State
  diary : Diary σ

def markOf (scope : Scope) : List Deed :=
  match scope.handle.bind Handle.holder with
  | some id => [.marked id scope.isNew]
  | none => []

/-- The deed of a scope that is asked for a connection and fetches one. -/
def fetchOf (scope : Scope) (s : State)
    (answer : Except TransactionError Connection) :
    List Deed :=
  match scope.coordinator.source.boundConnection s, answer with
  | none, .ok conn => [.fetched conn (scope.handle.bind Handle.holder)]
  | _, _ => []

/-- What a step enters in the diary. -/
def Step.deeds (scope : Scope) (s : State) : Step σ → List Deed
  | connection => fetchOf scope s (scope.connection s).1
  | markRollbackOnly => markOf scope
  | _ => []

/-- Takes a step. -/
def Step.take (scope : Scope) (s : State) (m : Diary σ) :
    (step : Step σ) → Taken step
  | connection =>
      match scope.connection s with
      | (answer, s') =>
          ⟨answer, scope, s',
            { m with deeds := m.deeds ++ fetchOf scope s answer }⟩
  | handBack c =>
      match scope.release c s with
      | (answer, s') => ⟨answer, scope, s', m⟩
  | markRollbackOnly =>
      match scope.markRollbackOnly s with
      | (answer, scope', s') =>
          ⟨answer, scope', s', { m with deeds := m.deeds ++ markOf scope }⟩
  | call c request =>
      match s.callDirectly c request with
      | (answer, s') => ⟨answer, scope, s', m⟩
  | setFault source fault on =>
      ⟨(), scope, s.setDriver source ((s.drivers source).setFault fault on), m⟩
  | rest seconds => ⟨(), scope, { s with now := s.now + seconds }, m⟩
  | remember memory => ⟨(), scope, s, { m with memory }⟩
  | look => ⟨(scope, s, m.memory), scope, s, m⟩

end Plan

/-- A unit of work, as the tree of what it does next. -/
inductive Plan (σ ε α : Type) where
  | finish (result : Except (Failure ε) α)
  /-- Waits until the deadline of a transaction passes: of the executions around
  the plan that watch over one, the one with this number, counted from the
  inside. -/
  | pend (outer : Nat)
  | step (step : Plan.Step σ) (next : step.Answer → Plan σ ε α)
  /-- Executes a plan and goes on with its result. -/
  | execute (c : Coordinator) (d : Definition) (body : Plan σ ε α)
      (next : Except (Failure ε) α → Plan σ ε α)

namespace Plan

variable {σ ε α : Type}

def failed (result : Except (Failure ε) α) : Bool :=
  match result with
  | .ok _ => false
  | .error _ => true

def run : Plan σ ε α → Work (Diary σ) ε α
  | .finish result, scope, s, m => (scope, ⟨.finished result, s, m⟩)
  | .pend outer, scope, s, m => (scope, ⟨.overdue outer, s, m⟩)
  | .step first next, scope, s, m =>
      let taken := first.take scope s m
      (next taken.answer).run taken.scope taken.state taken.diary
  | .execute c d body next, scope, s, m =>
      let course := c.course d s
      let inner := c.execute d body.run s m
      match inner.ending with
      | .finished result =>
          (next result).run scope inner.state
            (inner.memory.enter (.returned course (failed result)))
      | .overdue outer =>
          (scope, ⟨.overdue outer, inner.state,
            inner.memory.enter (.abandoned c.key course)⟩)

/-- The deed that an execution is once it has come to an ending. -/
def deedOf (c : Coordinator) (d : Definition) (s : State) : Ending ε α → Deed
  | .finished result => .returned (c.course d s) (failed result)
  | .overdue _ => .abandoned c.key (c.course d s)

theorem run_execute_of_finished {c : Coordinator} {d : Definition}
    {body : Plan σ ε α} {s : State} {m : Diary σ}
    {result : Except (Failure ε) α}
    (h : (c.execute d body.run s m).ending = .finished result)
    (next : Except (Failure ε) α → Plan σ ε α) (scope : Scope) :
    (execute c d body next).run scope s m =
      (next result).run scope (c.execute d body.run s m).state
        ((c.execute d body.run s m).memory.enter
          (.returned (c.course d s) (failed result))) := by
  rw [run]
  simp only [h]

theorem run_execute_of_overdue {c : Coordinator} {d : Definition}
    {body : Plan σ ε α} {s : State} {m : Diary σ} {outer : Nat}
    (h : (c.execute d body.run s m).ending = .overdue outer)
    (next : Except (Failure ε) α → Plan σ ε α) (scope : Scope) :
    (execute c d body next).run scope s m =
      (scope, ⟨.overdue outer, (c.execute d body.run s m).state,
        (c.execute d body.run s m).memory.enter
          (.abandoned c.key (c.course d s))⟩) := by
  rw [run]
  simp only [h]

/-- No deadline passes while the plan runs. -/
def Prompt : Plan σ ε α → Prop
  | .finish _ => True
  | .pend _ => False
  | .step _ next => ∀ answer, (next answer).Prompt
  | .execute _ _ body next => body.Prompt ∧ ∀ result, (next result).Prompt

end Plan

end UnitOfWork
