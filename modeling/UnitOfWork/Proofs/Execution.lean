import UnitOfWork.Proofs.Begin
import UnitOfWork.Proofs.Plan

/-!
# How an execution goes

`Coordinator.Execution` lists the ways in which the execution of a plan can go,
with the run of the plan's work and the states around it, and
`Coordinator.execution` says that there is no other.  Proofs about executions go
through these cases and never open the definition itself.
-/

namespace UnitOfWork

/-- The scope after marks for rollback through it, if there were any. -/
def Scope.marked (scope : Scope) (mark : Bool) : Scope :=
  { scope with
    handle := scope.handle.map fun h =>
      { h with rollbackOnly := h.rollbackOnly || mark } }

@[simp]
theorem Scope.marked_false (scope : Scope) : scope.marked false = scope := by
  cases scope with
  | mk coordinator handle isNew => cases handle <;> simp [Scope.marked]

@[simp]
theorem Scope.marked_marked (scope : Scope) (a b : Bool) :
    (scope.marked a).marked b = scope.marked (a || b) := by
  cases scope with
  | mk coordinator handle isNew =>
      cases handle <;> simp [Scope.marked, Bool.or_assoc]

def State.markedHolder (s : State) (id : HolderId) : State :=
  (s.say (.markingRollbackOnly (s.holders id).connection)).setHolder id
    (s.holders id).markRollbackOnly

def State.participantFailed (s : State) (id : HolderId) : State :=
  (s.say .participantFailed).markedHolder id

/-- A scope is marked through its handle, together with the handle's holder. -/
theorem Scope.markRollbackOnly_cases (scope : Scope) (s : State) :
    (∃ e, scope.handle.bind Handle.holder = none ∧
      scope.markRollbackOnly s = (.error e, scope, s)) ∨
    ∃ id, scope.handle.bind Handle.holder = some id ∧
      scope.markRollbackOnly s = (.ok (), scope.marked true,
        s.markedHolder id) := by
  unfold Scope.markRollbackOnly Coordinator.markRollbackOnly
  cases hhandle : scope.handle with
  | none => exact Or.inl ⟨_, rfl, rfl⟩
  | some h =>
      cases hholder : h.holder with
      | none =>
          refine Or.inl ⟨.illegal .noHolder, by simp [hholder], ?_⟩
          simp only [hholder, ← hhandle]
      | some id =>
          refine Or.inr ⟨id, by simp [hholder], ?_⟩
          simp only [hholder, Scope.marked, hhandle, Bool.or_true,
            Option.map_some]
          rfl

namespace Source

theorem sameHolders_getConnection (source : Source) (s : State) :
    State.SameHolders s (source.getConnection s).2 := by
  rw [getConnection]
  cases source.boundConnection s with
  | some conn => exact .refl s
  | none =>
      have hcreated := State.sameHolders_create s source.id
      cases hresult : s.create source.id with
      | mk outcome s' =>
          rw [hresult] at hcreated
          cases outcome <;>
            exact ⟨hcreated.holders, hcreated.nextHolder, hcreated.bound⟩

theorem sameHolders_releaseConnection (source : Source) (conn : Connection)
    (s : State) :
    State.SameHolders s (source.releaseConnection conn s).2 := by
  rw [releaseConnection]
  split
  · exact .refl s
  · have hreleased := State.sameHolders_release s source.id conn
    cases hresult : s.release source.id conn with
    | mk outcome s' =>
        rw [hresult] at hreleased
        cases outcome <;>
          exact ⟨hreleased.holders, hreleased.nextHolder, hreleased.bound⟩

end Source

namespace Plan

variable {σ ε α : Type}

theorem mem_fetchOf {scope : Scope} {s : State}
    {answer : Except TransactionError Connection} {deed : Deed}
    (h : deed ∈ fetchOf scope s answer) :
    ∃ conn, answer = .ok conn ∧
      scope.coordinator.source.boundConnection s = none ∧
      deed = .fetched conn (scope.handle.bind Handle.holder) := by
  unfold fetchOf at h
  split at h
  · next conn hbound => exact ⟨conn, rfl, hbound, List.mem_singleton.mp h⟩
  · cases h

/-- A step marks its scope for rollback, or it changes no scope, no holder and
no binding and enters only a connection that was fetched. -/
theorem Step.take_cases (step : Step σ) (scope : Scope) (s : State)
    (m : Diary σ) :
    step = .markRollbackOnly ∨
    (step.take scope s m).scope = scope ∧
      State.SameHolders s (step.take scope s m).state ∧
      ∀ deed ∈ step.deeds scope s, ∃ conn holder,
        deed = .fetched conn holder := by
  cases step with
  | connection =>
      refine Or.inr ⟨rfl, ?_, fun deed hdeed => ?_⟩
      · exact scope.coordinator.source.sameHolders_getConnection s
      · obtain ⟨conn, -, -, hfetched⟩ := mem_fetchOf hdeed
        exact ⟨conn, _, hfetched⟩
  | handBack conn =>
      exact Or.inr ⟨rfl,
        scope.coordinator.source.sameHolders_releaseConnection conn s,
        fun _ h => by cases h⟩
  | markRollbackOnly => exact Or.inl rfl
  | call conn request =>
      exact Or.inr ⟨rfl, State.sameHolders_callDirectly s conn request,
        fun _ h => by cases h⟩
  | setFault | rest =>
      exact Or.inr ⟨rfl, ⟨rfl, rfl, fun _ => rfl⟩, fun _ h => by cases h⟩
  | remember | look => exact Or.inr ⟨rfl, .refl s, fun _ h => by cases h⟩

theorem Step.take_diary (step : Step σ) (scope : Scope) (s : State)
    (m : Diary σ) :
    (step.take scope s m).diary.deeds = m.deeds ++ step.deeds scope s := by
  cases step with
  | connection | markRollbackOnly => rfl
  | _ => exact (List.append_nil _).symm

theorem Step.take_scope (step : Step σ) (scope : Scope) (s : State)
    (m : Diary σ) :
    ∃ mark, (step.take scope s m).scope = scope.marked mark := by
  rcases step.take_cases scope s m with rfl | ⟨hscope, -, -⟩
  · simp only [Step.take]
    rcases scope.markRollbackOnly_cases s with ⟨e, -, h⟩ | ⟨id, -, h⟩
    · exact ⟨false, by simp [h]⟩
    · exact ⟨true, by simp [h]⟩
  · exact ⟨false, by simp [hscope]⟩

theorem Step.take_coordinator (step : Step σ) (scope : Scope) (s : State)
    (m : Diary σ) :
    (step.take scope s m).scope.coordinator = scope.coordinator := by
  obtain ⟨mark, hscope⟩ := step.take_scope scope s m
  rw [hscope]
  rfl

/-- A plan gives its scope back, marked for rollback or as it was. -/
theorem run_scope (plan : Plan σ ε α) (scope : Scope) (s : State)
    (m : Diary σ) :
    ∃ mark, (plan.run scope s m).1 = scope.marked mark := by
  induction plan generalizing scope s m with
  | finish result => exact ⟨false, by simp [run]⟩
  | pend outer => exact ⟨false, by simp [run]⟩
  | step first next ih =>
      obtain ⟨mark, hfirst⟩ := first.take_scope scope s m
      obtain ⟨mark', hnext⟩ := ih (first.take scope s m).answer
        (first.take scope s m).scope (first.take scope s m).state
        (first.take scope s m).diary
      refine ⟨mark || mark', ?_⟩
      rw [run, hnext, hfirst, Scope.marked_marked]
  | execute c d body next _ ih =>
      rw [run]
      split
      · exact ih _ _ _ _
      · exact ⟨false, by simp⟩

end Plan

namespace Coordinator

variable {σ ε α : Type}

/-- The state after a suspended holder was bound again, if that could be
done. -/
def resumed (c : Coordinator) (suspended : Option HolderId) (s : State) :
    State :=
  match suspended with
  | none => s
  | some id => (c.resume id s).2

/-- Nothing is suspended, or the key is free for what is. -/
def Resumable (c : Coordinator) (suspended : Option HolderId) (s : State) :
    Prop :=
  suspended = none ∨ s.boundHolder c.key = none

theorem resume_of_free {c : Coordinator} {s : State}
    (hfree : s.boundHolder c.key = none) (id : HolderId) :
    (c.resume id s).1 = .ok () := by
  simp [resume, State.bind_of_free s hfree]

/-- A suspended holder is bound again if its key is free, and nothing else
changes. -/
theorem resumed_cases (c : Coordinator) (suspended : Option HolderId)
    (s : State) :
    c.resumed suspended s = s ∨
    ∃ id, suspended = some id ∧ s.boundHolder c.key = none ∧
      c.resumed suspended s =
        { s with context := s.context.insert c.key id }.say (.bound c.key) := by
  cases suspended with
  | none => exact Or.inl rfl
  | some id =>
      cases hbound : s.boundHolder c.key with
      | none => exact Or.inr ⟨id, rfl, rfl,
          by simp [resumed, resume, State.bind_of_free s hbound]⟩
      | some other =>
          exact Or.inl (by simp [resumed, resume, State.bind_of_taken s hbound])

@[simp]
theorem holders_resumed (c : Coordinator) (suspended : Option HolderId)
    (s : State) :
    (c.resumed suspended s).holders = s.holders := by
  rcases c.resumed_cases suspended s with h | ⟨id, -, -, h⟩ <;> rw [h]
  rfl

theorem conclude_of_resumable {c : Coordinator} {suspended : Option HolderId}
    {s : State} (h : c.Resumable suspended s) (result : Except (Failure ε) α)
    (m : σ) :
    c.conclude suspended result s m =
      ⟨.finished result, c.resumed suspended s, m⟩ := by
  cases suspended with
  | none => rfl
  | some id =>
      have hok := resume_of_free (h.resolve_left (by simp)) id
      simp only [conclude, resumed]
      cases hresume : c.resume id s with
      | mk outcome s' =>
          rw [hresume] at hok
          subst hok
          rfl

@[simp]
theorem conclude_state (c : Coordinator) (suspended : Option HolderId)
    (result : Except (Failure ε) α) (s : State) (m : σ) :
    (c.conclude suspended result s m).state = c.resumed suspended s := by
  cases suspended with
  | none => rfl
  | some id =>
      simp only [conclude, resumed]
      cases hresume : c.resume id s with
      | mk outcome s' => cases outcome <;> rfl

@[simp]
theorem conclude_memory (c : Coordinator) (suspended : Option HolderId)
    (result : Except (Failure ε) α) (s : State) (m : σ) :
    (c.conclude suspended result s m).memory = m := by
  cases suspended with
  | none => rfl
  | some id =>
      simp only [conclude]
      cases hresume : c.resume id s with
      | mk outcome s' => cases outcome <;> rfl

theorem conclude_ending (c : Coordinator) (suspended : Option HolderId)
    (result : Except (Failure ε) α) (s : State) (m : σ) :
    ∃ result', (c.conclude suspended result s m).ending =
      .finished result' := by
  cases suspended with
  | none => exact ⟨_, rfl⟩
  | some id =>
      simp only [conclude]
      cases hresume : c.resume id s with
      | mk outcome s' => cases outcome <;> exact ⟨_, rfl⟩

@[simp]
theorem close_state (c : Coordinator) (suspended : Option HolderId) (h : Handle)
    (completed : Except (Failure ε) α × State) (m : σ) :
    (c.close suspended h completed m).state = c.resumed suspended
    (c.cleanup h completed.2) :=
  c.conclude_state suspended completed.1 _ m

@[simp]
theorem close_memory (c : Coordinator) (suspended : Option HolderId)
    (h : Handle) (completed : Except (Failure ε) α × State) (m : σ) :
    (c.close suspended h completed m).memory = m :=
  c.conclude_memory suspended completed.1 _ m

theorem close_ending (c : Coordinator) (suspended : Option HolderId)
    (h : Handle) (completed : Except (Failure ε) α × State) (m : σ) :
    ∃ result, (c.close suspended h completed m).ending = .finished result :=
  c.conclude_ending suspended completed.1 _ m

/-- The state in which a beginning starts. -/
def entrance (c : Coordinator) (d : Definition) (suspended : Option HolderId)
    (s : State) : State :=
  (c.setAside suspended s).say (.creating d.name)

/-- The handle with which a beginning starts. -/
def blank (c : Coordinator) (suspended : Option HolderId) (s : State) :
    Handle :=
  c.discover (c.setAside suspended s)

/-- The handle with marks for rollback, if there were any. -/
def markedHandle (h : Handle) (mark : Bool) : Handle :=
  { h with rollbackOnly := h.rollbackOnly || mark }

/-- The ways in which the execution of a plan can go. -/
inductive Execution (c : Coordinator) (d : Definition) (body : Plan σ ε α)
    (s : State) (m : Diary σ) : Run (Diary σ) ε α → Prop
  | refused {reason : IllegalState} (hcourse : c.course d s = .refuses reason) :
      Execution c d body s m (.failed (.illegal reason) s m)
  | joined {id : HolderId} {mark : Bool} {result : Except (Failure ε) α}
      {s' : State} {m' : Diary σ} (hcourse : c.course d s = .joins id)
      (hwork : body.run (.joining c { holder := some id })
          (s.say (.participating d.name)) m =
        ((Scope.joining c { holder := some id }).marked mark,
          ⟨.finished result, s', m'⟩)) :
      Execution c d body s m
        ⟨.finished result, if Plan.failed result then
          s'.participantFailed id else s', m'⟩
  /-- The work was dropped in a transaction that it had joined. -/
  | joinedCut {id : HolderId} {scope : Scope} {outer : Nat} {s' : State}
      {m' : Diary σ} (hcourse : c.course d s = .joins id)
      (hwork : body.run (.joining c { holder := some id })
          (s.say (.participating d.name)) m =
            (scope, ⟨.overdue outer, s', m'⟩)) :
      Execution c d body s m ⟨.overdue outer, s', m'⟩
  | alone {suspended : Option HolderId} {scope : Scope}
      {result : Except (Failure ε) α}
      {s' : State} {m' : Diary σ}
      (hcourse : c.course d s = .runsAlone suspended)
      (hwork : body.run (.without c) (c.setAside suspended s) m =
        (scope, ⟨.finished result, s', m'⟩)) :
      Execution c d body s m (c.conclude suspended result s' m')
  /-- The work was dropped while it ran without a transaction. -/
  | aloneCut {suspended : Option HolderId} {scope : Scope} {outer : Nat}
      {s' : State}
      {m' : Diary σ} (hcourse : c.course d s = .runsAlone suspended)
      (hwork : body.run (.without c) (c.setAside suspended s) m =
        (scope, ⟨.overdue outer, s', m'⟩)) :
      Execution c d body s m ⟨.overdue outer, s', m'⟩
  /-- No transaction could be begun. -/
  | notBegun {suspended : Option HolderId} {e : TransactionError} {h' : Handle}
      {s' : State} (hcourse : c.course d s = .begins suspended)
      (hbegin : c.begin d (c.blank suspended s) (c.entrance d suspended s) =
        (.error e, h', s')) :
      Execution c d body s m (.failed e (c.resumed suspended s') m)
  | begun {suspended : Option HolderId} {h : Handle} {s₁ : State} {mark : Bool}
      {result : Except (Failure ε) α} {s' : State} {m' : Diary σ}
      (hcourse : c.course d s = .begins suspended)
      (hbegin : c.begin d (c.blank suspended s) (c.entrance d suspended s) =
        (.ok (), h, s₁))
      (hwork : body.run (.beginning c h) s₁ m =
        ((Scope.beginning c h).marked mark, ⟨.finished result, s', m'⟩)) :
      Execution c d body s m
        (c.close suspended (markedHandle h mark)
          (complete (markedHandle h mark) result s') m')
  /-- The deadline of the transaction that was begun passed, and its work was
  dropped. -/
  | timedOut {suspended : Option HolderId} {h : Handle} {s₁ : State}
      {mark : Bool} {deadline : Instant} {s' : State} {m' : Diary σ}
      (hcourse : c.course d s = .begins suspended)
      (hbegin : c.begin d (c.blank suspended s) (c.entrance d suspended s) =
        (.ok (), h, s₁))
      (hwork : body.run (.beginning c h) s₁ m =
        ((Scope.beginning c h).marked mark, ⟨.overdue 0, s', m'⟩))
      (hdeadline : h.deadline s₁ = some deadline) :
      Execution c d body s m
        (c.close suspended (markedHandle h mark)
          (completeOverdue deadline (markedHandle h mark) s') m')
  /-- A deadline further outside passed, and the work was dropped in the
  transaction that was begun for it. -/
  | begunCut {suspended : Option HolderId} {h : Handle} {s₁ : State}
      {scope : Scope} {inner outer : Nat} {s' : State} {m' : Diary σ}
      (hcourse : c.course d s = .begins suspended)
      (hbegin : c.begin d (c.blank suspended s) (c.entrance d suspended s) =
        (.ok (), h, s₁))
      (hwork : body.run (.beginning c h) s₁ m =
        (scope, ⟨.overdue inner, s', m'⟩)) :
      Execution c d body s m ⟨.overdue outer, s', m'⟩

/-- The scopes and the states in which an execution may run its work. -/
inductive Entered (c : Coordinator) (d : Definition) (s : State) :
    Scope → State → Prop
  | joining {id : HolderId} (hcourse : c.course d s = .joins id) :
      Entered c d s (.joining c { holder := some id })
        (s.say (.participating d.name))
  | alone {suspended : Option HolderId}
      (hcourse : c.course d s = .runsAlone suspended) :
      Entered c d s (.without c) (c.setAside suspended s)
  | begun {suspended : Option HolderId} {h : Handle} {s₁ : State}
      (hcourse : c.course d s = .begins suspended)
      (hbegin : c.begin d (c.blank suspended s) (c.entrance d suspended s) =
        (.ok (), h, s₁)) :
      Entered c d s (.beginning c h) s₁

/-- The diary after an execution is the one that it began with, or what its work
has left of that. -/
theorem Execution.memory {c : Coordinator} {d : Definition} {body : Plan σ ε α}
    {s : State} {m : Diary σ} {run : Run (Diary σ) ε α}
    (hrun : c.Execution d body s m run) :
    run.memory = m ∨ ∃ scope s', c.Entered d s scope s' ∧
      run.memory = (body.run scope s' m).2.memory := by
  cases hrun with
  | refused | notBegun => exact Or.inl rfl
  | joined hcourse hwork | joinedCut hcourse hwork =>
      exact Or.inr ⟨_, _, .joining hcourse, by rw [hwork]⟩
  | alone hcourse hwork =>
      exact Or.inr ⟨_, _, .alone hcourse, by rw [hwork, conclude_memory]⟩
  | aloneCut hcourse hwork => exact Or.inr ⟨_, _, .alone hcourse, by rw [hwork]⟩
  | begun hcourse hbegin hwork | timedOut hcourse hbegin hwork =>
      exact Or.inr ⟨_, _, .begun hcourse hbegin, by rw [hwork, close_memory]⟩
  | begunCut hcourse hbegin hwork =>
      exact Or.inr ⟨_, _, .begun hcourse hbegin, by rw [hwork]⟩

theorem boundHolder_setAside (c : Coordinator) (suspended : Option HolderId)
    (s : State) (key : Key) :
    (c.setAside suspended s).boundHolder key =
      if suspended.isSome ∧ key = c.key then none else s.boundHolder key := by
  cases suspended with
  | none => simp [setAside]
  | some id => simp [setAside]

theorem boundHolder_of_aside {c : Coordinator} {suspended : Option HolderId}
    {s : State} {key : Key} {id : HolderId}
    (h : (c.setAside suspended s).boundHolder key = some id) :
    s.boundHolder key = some id := by
  rw [boundHolder_setAside] at h
  split at h
  · cases h
  · exact h

/-- After a beginning that failed, what was suspended for it can be resumed. -/
theorem resumable_of_error {c : Coordinator} {d : Definition}
    {suspended : Option HolderId} {s : State} {e : TransactionError}
    {h' : Handle} {s' : State}
    (hbegin : c.begin d (c.blank suspended s) (c.entrance d suspended s) =
      (.error e, h', s')) : c.Resumable suspended s' := by
  cases suspended with
  | none => exact Or.inl rfl
  | some id =>
      have hbound := (notBegun_of_error hbegin).bound c.key
      apply Or.inr
      rw [hbound, entrance, State.boundHolder_say, boundHolder_setAside]
      simp

/-- An execution that has joined a transaction marks it if its work has
failed. -/
theorem runJoining_of_finished {c : Coordinator} {d : Definition}
    {id : HolderId} {s s' : State} {work : Work σ ε α} {m m' : σ} {mark : Bool}
    {result : Except (Failure ε) α}
    (hwork : work (.joining c { holder := some id })
      (s.say (.participating d.name)) m =
      ((Scope.joining c { holder := some id }).marked mark,
        ⟨.finished result, s', m'⟩)) :
    c.runJoining d { holder := some id } work s m =
      ⟨.finished result, if Plan.failed result then
        s'.participantFailed id else s', m'⟩ := by
  rw [runJoining, hwork]
  cases result <;> rfl

/-- An execution that cannot begin a transaction resumes what it has
suspended. -/
theorem execute_of_error {c : Coordinator} {d : Definition}
    {suspended : Option HolderId} {e : TransactionError} {h : Handle}
    {s s₁ : State} (hcourse : c.course d s = .begins suspended)
    (hbegin : c.begin d (c.blank suspended s) (c.entrance d suspended s) =
      (.error e, h, s₁))
    (work : Work σ ε α) (m : σ) :
    c.execute d work s m = .failed e (c.resumed suspended s₁) m := by
  have hfree := resumable_of_error hbegin
  have hbegin' : c.begin d (c.discover (c.setAside suspended s))
      ((c.setAside suspended s).say (.creating d.name)) = (.error e, h, s₁) :=
        hbegin
  rw [execute_of_begins hcourse, runNew]
  simp only [hbegin']
  cases suspended with
  | none => rfl
  | some id =>
      have hok := resume_of_free (hfree.resolve_left (by simp)) id
      simp only [resumed]
      cases hresume : c.resume id s₁ with
      | mk outcome s₂ =>
          rw [hresume] at hok
          subst hok
          rfl

/-- An execution that has begun a transaction, as a function of the run of its
work. -/
theorem execute_of_ok {c : Coordinator} {d : Definition}
    {suspended : Option HolderId} {h : Handle} {s s₁ : State}
    (hcourse : c.course d s = .begins suspended)
    (hbegin : c.begin d (c.blank suspended s) (c.entrance d suspended s) =
      (.ok (), h, s₁))
    (work : Work σ ε α) (m : σ) :
    c.execute d work s m = c.runBegun suspended h work s₁ m := by
  have hbegin' : c.begin d (c.discover (c.setAside suspended s))
      ((c.setAside suspended s).say (.creating d.name)) = (.ok (), h, s₁) :=
        hbegin
  rw [execute_of_begins hcourse, runNew]
  simp only [hbegin']

theorem runBegun_of_finished {c : Coordinator} {suspended : Option HolderId}
    {h : Handle} {s₁ s' : State} {work : Work σ ε α} {m m' : σ} {mark : Bool}
    {result : Except (Failure ε) α} (hwork : work (.beginning c h) s₁ m =
      ((Scope.beginning c h).marked mark, ⟨.finished result, s', m'⟩)) :
    c.runBegun suspended h work s₁ m =
      c.close suspended (markedHandle h mark)
        (complete (markedHandle h mark) result s') m' := by
  simp only [runBegun, hwork]
  rfl

theorem runBegun_of_overdue {c : Coordinator} {suspended : Option HolderId}
    {h : Handle} {s₁ s' : State} {work : Work σ ε α} {m m' : σ} {mark : Bool}
    {deadline : Instant} (hwork : work (.beginning c h) s₁ m =
      ((Scope.beginning c h).marked mark, ⟨.overdue 0, s', m'⟩))
    (hdeadline : h.deadline s₁ = some deadline) :
    c.runBegun suspended h work s₁ m =
      c.close suspended (markedHandle h mark)
        (completeOverdue deadline (markedHandle h mark) s') m' := by
  have hlimit : (Scope.beginning c h).deadline s₁ = some deadline := hdeadline
  simp only [runBegun, hwork, hlimit]
  rfl

/-- The execution of a plan goes in one of these ways. -/
theorem execution (c : Coordinator) (d : Definition) (body : Plan σ ε α)
    (s : State) (m : Diary σ) :
    c.Execution d body s m (c.execute d body.run s m) := by
  cases hcourse : c.course d s with
  | refuses reason =>
      rw [execute_of_refuses hcourse]
      exact .refused hcourse
  | joins id =>
      rw [execute_of_joins hcourse]
      obtain ⟨mark, hscope⟩ := body.run_scope (.joining c { holder := some id })
        (s.say (.participating d.name)) m
      cases hwork : body.run (.joining c { holder := some id })
        (s.say (.participating d.name)) m with
      | mk scope run =>
      rw [hwork] at hscope
      subst hscope
      obtain ⟨ending, s', m'⟩ := run
      cases ending with
      | overdue outer =>
          rw [runJoining, hwork]
          exact .joinedCut hcourse hwork
      | finished result =>
          rw [runJoining_of_finished hwork]
          exact .joined hcourse hwork
  | runsAlone suspended =>
      rw [execute_of_runsAlone hcourse, runWithout]
      cases hwork : body.run (.without c) (c.setAside suspended s) m with
      | mk scope run =>
      obtain ⟨ending, s', m'⟩ := run
      cases ending with
      | overdue outer => exact .aloneCut hcourse hwork
      | finished result => exact .alone hcourse hwork
  | begins suspended =>
      cases hbegin : c.begin d (c.blank suspended s)
          (c.entrance d suspended s) with
      | mk outcome rest =>
      obtain ⟨h, s₁⟩ := rest
      cases outcome with
      | error e =>
          rw [execute_of_error hcourse hbegin]
          exact .notBegun hcourse hbegin
      | ok _ =>
          rw [execute_of_ok hcourse hbegin]
          obtain ⟨mark, hscope⟩ := body.run_scope (.beginning c h) s₁ m
          cases hwork : body.run (.beginning c h) s₁ m with
          | mk scope run =>
          rw [hwork] at hscope
          subst hscope
          obtain ⟨ending, s', m'⟩ := run
          cases ending with
          | finished result =>
              rw [runBegun_of_finished hwork]
              exact .begun hcourse hbegin hwork
          | overdue inner =>
              have hdeadline : (Scope.beginning c h).deadline s₁ =
                  h.deadline s₁ := rfl
              cases hlimit : h.deadline s₁ with
              | none =>
                  simp only [runBegun, hwork, hdeadline, hlimit]
                  cases inner <;> exact .begunCut hcourse hbegin hwork
              | some deadline =>
                  cases inner with
                  | zero =>
                      rw [runBegun_of_overdue hwork hlimit]
                      exact .timedOut hcourse hbegin hwork hlimit
                  | succ outer =>
                      simp only [runBegun, hwork, hdeadline, hlimit]
                      exact .begunCut hcourse hbegin hwork

end Coordinator

namespace Plan

variable {σ ε α : Type}

theorem Step.take_deeds (step : Step σ) (scope : Scope) (s : State)
    (m : Diary σ) :
    m.deeds <+: (step.take scope s m).diary.deeds := by
  rw [step.take_diary]
  exact List.prefix_append _ _

/-- Running a plan only adds to what was done. -/
theorem run_deeds (plan : Plan σ ε α) (scope : Scope) (s : State)
    (m : Diary σ) :
    m.deeds <+: (plan.run scope s m).2.memory.deeds := by
  induction plan generalizing scope s m with
  | finish result => exact List.prefix_rfl
  | pend outer => exact List.prefix_rfl
  | step first next ih =>
      rw [run]
      exact (first.take_deeds scope s m).trans (ih _ _ _ _)
  | execute c d body next ihbody ihnext =>
      have hinner : m.deeds <+: (c.execute d body.run s m).memory.deeds := by
        rcases (c.execution d body s m).memory with
            hsame | ⟨scope', s', -, hwork⟩
        · simp [hsame]
        · rw [hwork]
          exact ihbody scope' s' m
      rw [run]
      split
      · exact (hinner.trans (Diary.enter_prefix _ _)).trans (ihnext _ _ _ _)
      · exact hinner.trans (Diary.enter_prefix _ _)

end Plan

namespace Coordinator

variable {σ ε α : Type}

theorem Execution.deeds {c : Coordinator} {d : Definition} {body : Plan σ ε α}
    {s : State} {m : Diary σ} {run : Run (Diary σ) ε α}
    (hrun : c.Execution d body s m run) : m.deeds <+: run.memory.deeds := by
  rcases hrun.memory with hsame | ⟨scope, s', -, hwork⟩
  · simp [hsame]
  · rw [hwork]
    exact body.run_deeds scope s' m

end Coordinator

end UnitOfWork
