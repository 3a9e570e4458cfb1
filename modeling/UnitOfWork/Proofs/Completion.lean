import UnitOfWork.Proofs.Execution

/-!
# How a transaction ends

A transaction whose work has ended is committed or rolled back by one call on
its connection.  Which of the two it is depends on the result of the work and on
the marks for rollback, and what becomes of the result depends on how the call
went.
-/

namespace UnitOfWork

namespace Coordinator

variable {ε α : Type} {h : Handle} {s : State} {conn : Connection}

def commits (h : Handle) (result : Except (Failure ε) α) (s : State) : Bool :=
  !Plan.failed result && !h.rollbackOnly && !h.isHolderRollbackOnly s

def lastCall (commits : Bool) : Call :=
  if commits then .commit else .rollback

theorem lastCall_cases (commits : Bool) :
    lastCall commits = .commit ∨ lastCall commits = .rollback := by
  cases commits
  · exact Or.inr rfl
  · exact Or.inl rfl

/-- What is said of the call by which a transaction ends. -/
def lastTask (commits : Bool) : String :=
  if commits then "commit" else "rollback"

/-- The result of an execution whose work has ended, where the last call may
have failed. -/
def lastResult (h : Handle) (result : Except (Failure ε) α) (s : State) :
    Option Fault → Except (Failure ε) α
  | none =>
      if !Plan.failed result && !h.rollbackOnly && h.isHolderRollbackOnly s then
        .error (.transaction .unexpectedRollback)
      else result
  | some fault =>
      if Plan.failed result then result
      else .error (.transaction
        (.system (lastTask (commits h result s)) (.fault fault)))

/-! ## The holders -/

theorem sameHolders_finish (task : String) (request : Call)
    (announcement : Connection → Line) (h : Handle) (s : State) :
    State.SameHolders s (finish task request announcement h s).2 := by
  rw [finish]
  cases h.connection s with
  | error reason => exact .refl s
  | ok conn =>
      have hcalled :=
        State.sameHolders_call (s.say (announcement conn)) conn request
      simp only
      cases hresult : (s.say (announcement conn)).call conn request with
      | mk outcome s' =>
          rw [hresult] at hcalled
          cases outcome <;>
            exact ⟨hcalled.holders, hcalled.nextHolder, hcalled.bound⟩

theorem sameHolders_rollbackAnyway (line : TransactionError → Line) (h : Handle)
    (s : State) : State.SameHolders s (rollbackAnyway line h s) := by
  have hfinished := sameHolders_finish "rollback" .rollback .rollingBack h s
  rw [rollbackAnyway, rollback]
  cases hresult : finish "rollback" .rollback .rollingBack h s with
  | mk outcome s' =>
      rw [hresult] at hfinished
      cases outcome <;>
        exact ⟨hfinished.holders, hfinished.nextHolder, hfinished.bound⟩

theorem rollbackWith_snd (h : Handle) (result : Except (Failure ε) α)
    (s : State) :
    (rollbackWith h result s).2 = (rollback h s).2 := by
  rw [rollbackWith]
  cases hresult : rollback h s with
  | mk outcome s' => cases outcome <;> rfl

/-- The end of a transaction changes no holder. -/
theorem sameHolders_complete (h : Handle) (result : Except (Failure ε) α)
    (s : State) :
    State.SameHolders s (complete h result s).2 := by
  unfold complete
  cases result with
  | error failure => exact sameHolders_rollbackAnyway _ h s
  | ok value =>
      have hrollback := fun line =>
        sameHolders_finish "rollback" .rollback .rollingBack h (s.say line)
      simp only
      split
      · rw [rollbackWith_snd]
        exact ⟨(hrollback _).holders, (hrollback _).nextHolder,
          (hrollback _).bound⟩
      · split
        · rw [rollbackWith_snd]
          exact ⟨(hrollback _).holders, (hrollback _).nextHolder,
            (hrollback _).bound⟩
        · have hcommit := sameHolders_finish "commit" .commit .committing h s
          rw [commit]
          cases hresult : finish "commit" .commit .committing h s with
          | mk outcome s' =>
              rw [hresult] at hcommit
              cases outcome <;> exact hcommit

theorem sameHolders_completeOverdue (deadline : Instant) (h : Handle)
    (s : State) :
    State.SameHolders s (completeOverdue (ε := ε) (α := α) deadline h s).2 :=
  sameHolders_rollbackAnyway _ h s

/-! ## The last call -/

theorem finish_ended (hconn : h.connection s = .ok conn) (task : String)
    (request : Call) (hcontrol : request.isControl = true)
    (announcement : Connection → Line)
    (hline : (announcement conn).made? = none) :
    ∃ fault, Talk conn [(request, fault)] s
      (finish task request announcement h s).2 ∧
      (finish task request announcement h s).1 =
        match fault with
        | none => .ok ()
        | some f => .error (.system task (.fault f)) := by
  have hended := ((Talk.refl (c := conn) s).say hline).control request hcontrol
  simp only [finish, hconn]
  cases hresult : (s.say (announcement conn)).call conn request with
  | mk outcome s' =>
      rw [hresult] at hended
      cases outcome with
      | ok _ => exact ⟨none, hended, rfl⟩
      | error fault => exact ⟨some fault, hended, rfl⟩

/-- The last call fails by the fault that its driver has for it. -/
theorem finish_outcome (hconn : h.connection s = .ok conn) (task : String)
    (request : Call) (announcement : Connection → Line) :
    (finish task request announcement h s).1 =
      if (s.drivers conn.source).faults request.fault then
        .error (.system task (.fault request.fault))
      else .ok () := by
  have hsaid : (s.say (announcement conn)).drivers = s.drivers := rfl
  simp only [finish, hconn, State.call, State.callDirectly, Driver.call,
    Driver.check, hsaid]
  by_cases hfault : (s.drivers conn.source).faults request.fault = true <;>
    simp [hfault]

theorem rollbackAnyway_ended (hconn : h.connection s = .ok conn)
    (line : TransactionError → Line) (hline : ∀ e, (line e).made? = none) :
    ∃ fault, Talk conn [(.rollback, fault)] s (rollbackAnyway line h s) := by
  obtain ⟨fault, hended, -⟩ :=
    finish_ended hconn "rollback" .rollback rfl .rollingBack rfl
  refine ⟨fault, ?_⟩
  rw [rollbackAnyway, rollback]
  cases hresult : finish "rollback" .rollback .rollingBack h s with
  | mk outcome s' =>
      rw [hresult] at hended
      cases outcome with
      | ok _ => exact hended
      | error e => exact hended.say (hline e)

theorem rollbackWith_ended (hconn : h.connection s = .ok conn)
    (result : Except (Failure ε) α) :
    ∃ fault, Talk conn [(.rollback, fault)] s (rollbackWith h result s).2 ∧
      (rollbackWith h result s).1 =
        match fault with
        | none => result
        | some f => .error (.transaction (.system "rollback" (.fault f))) := by
  obtain ⟨fault, hended, houtcome⟩ :=
    finish_ended hconn "rollback" .rollback rfl .rollingBack rfl
  refine ⟨fault, ?_⟩
  rw [rollbackWith, rollback]
  cases hresult : finish "rollback" .rollback .rollingBack h s with
  | mk outcome s' =>
      rw [hresult] at hended houtcome
      cases fault <;> subst houtcome <;> exact ⟨hended, rfl⟩

/-- A transaction ends by one call, a commit or a rollback as the result and the
marks demand. -/
theorem complete_ended (hconn : h.connection s = .ok conn)
    (result : Except (Failure ε) α) :
    ∃ fault,
      Talk conn [(lastCall (commits h result s), fault)] s
        (complete h result s).2 ∧
      (complete h result s).1 = lastResult h result s fault := by
  unfold complete
  cases result with
  | error failure =>
      obtain ⟨fault, hended⟩ := rollbackAnyway_ended hconn
        .rollbackAfterFailureFailed fun _ => rfl
      refine ⟨fault, by simpa [commits, Plan.failed, lastCall] using hended, ?_⟩
      cases fault <;> simp [lastResult, Plan.failed]
  | ok value =>
      cases hlocal : h.rollbackOnly with
      | true =>
          have hsaid : h.connection (s.say .rollbackRequested) = .ok conn :=
            hconn
          obtain ⟨fault, hended, houtcome⟩ := rollbackWith_ended hsaid
            (.ok value : Except (Failure ε) α)
          refine ⟨fault, ?_, ?_⟩
          · simpa [commits, Plan.failed, hlocal, lastCall] using
              ((Talk.refl s).say rfl).trans hended
          · cases fault <;>
              simpa [lastResult, Plan.failed, hlocal, commits, lastTask]
                using houtcome
      | false =>
          cases hshared : h.isHolderRollbackOnly s with
          | true =>
              have hsaid : h.connection (s.say .rollbackImposed) = .ok conn :=
                hconn
              obtain ⟨fault, hended, houtcome⟩ := rollbackWith_ended hsaid
                (.error (.transaction .unexpectedRollback) :
                  Except (Failure ε) α)
              refine ⟨fault, ?_, ?_⟩
              · simpa [commits, Plan.failed, hlocal, hshared, lastCall] using
                  ((Talk.refl s).say rfl).trans hended
              · cases fault <;>
                  simpa [lastResult, Plan.failed, hlocal, hshared,
                    commits, lastTask] using houtcome
          | false =>
              obtain ⟨fault, hended, houtcome⟩ :=
                finish_ended hconn "commit" .commit rfl .committing rfl
              refine ⟨fault, ?_⟩
              simp only [commits, Plan.failed, hlocal, hshared, lastCall,
                lastResult, lastTask, commit, Bool.not_false, Bool.and_self,
                Bool.false_eq_true, if_true, if_false]
              cases hresult : finish "commit" .commit .committing h s with
              | mk outcome s' =>
                  rw [hresult] at hended houtcome
                  cases fault <;> subst houtcome <;> exact ⟨hended, rfl⟩

/-- Work that succeeds and has not asked for a rollback is told of one that it
did not expect if the holder is marked and the driver does not refuse to roll
back. -/
theorem complete_unexpected_iff (value : α) (hconn : h.connection s = .ok conn)
    (hlocal : h.rollbackOnly = false) :
    (complete h (.ok value : Except (Failure ε) α) s).1 =
        .error (.transaction .unexpectedRollback) ↔
      h.isHolderRollbackOnly s = true ∧
      (s.drivers conn.source).faults .rollback = false := by
  rw [complete, hlocal]
  cases hshared : h.isHolderRollbackOnly s with
  | true =>
      have hsaid : h.connection (s.say .rollbackImposed) = .ok conn := hconn
      have hended : (rollback h (s.say .rollbackImposed)).1 =
          if (s.drivers conn.source).faults .rollback then
            .error (.system "rollback" (.fault .rollback))
          else .ok () := finish_outcome hsaid "rollback" .rollback .rollingBack
      simp only [Bool.false_eq_true, if_false, if_true, true_and, rollbackWith]
      rcases hrollback : rollback h (s.say .rollbackImposed) with ⟨outcome, s'⟩
      rw [hrollback] at hended
      obtain rfl : outcome = _ := hended
      cases (s.drivers conn.source).faults .rollback <;> simp
  | false =>
      have hended : (commit h s).1 =
          if (s.drivers conn.source).faults .commit then
            .error (.system "commit" (.fault .commit))
          else .ok () := finish_outcome hconn "commit" .commit .committing
      simp only [Bool.false_eq_true, if_false, false_and, iff_false]
      rcases hcommit : commit h s with ⟨outcome, s'⟩
      rw [hcommit] at hended
      obtain rfl : outcome = _ := hended
      cases (s.drivers conn.source).faults .commit <;> simp

/-- A transaction whose deadline has passed ends by a rollback. -/
theorem completeOverdue_ended (hconn : h.connection s = .ok conn)
    (deadline : Instant) :
    (∃ fault, Talk conn [(.rollback, fault)] s
      (completeOverdue (ε := ε) (α := α) deadline h s).2) ∧
    ∃ overdue, (completeOverdue (ε := ε) (α := α) deadline h s).1 =
      .error (.transaction (.timedOut overdue)) :=
  ⟨rollbackAnyway_ended hconn .rollbackAfterTimeoutFailed fun _ => rfl, _, rfl⟩

end Coordinator

end UnitOfWork
