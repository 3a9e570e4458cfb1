import UnitOfWork.Proofs.Frame

/-!
# The course of an execution

Before it does anything else, an execution looks for a running transaction and
decides what to do: refuse the work, let it join, run it without a transaction,
or begin one for it.  What it decides depends on the propagation of the
definition and on the holder that is bound, and on nothing else.  For each
course there is one equation that says what the execution does.
-/

namespace UnitOfWork

inductive Course where
  /-- The work is not run. -/
  | refuses (reason : IllegalState)
  /-- The work joins the running transaction, which has this holder. -/
  | joins (holder : HolderId)
  /-- The work runs without a transaction, and a running one is suspended. -/
  | runsAlone (suspended : Option HolderId)
  /-- A transaction is begun for the work, and a running one is suspended. -/
  | begins (suspended : Option HolderId)
  deriving DecidableEq

namespace Coordinator

variable {σ ε α : Type}

/-- The bound holder, if a transaction runs on it. -/
def running (c : Coordinator) (s : State) : Option HolderId :=
  (s.boundHolder c.key).filter fun id => (s.holders id).isActive

def course (c : Coordinator) (d : Definition) (s : State) : Course :=
  match c.running s, d.propagation with
  | some _, .never => .refuses .transactionForbidden
  | some id, .notSupported => .runsAlone (some id)
  | some id, .requiresNew => .begins (some id)
  | some id, _ => .joins id
  | none, .mandatory => .refuses .transactionMissing
  | none, .required | none, .requiresNew => .begins none
  | none, _ => .runsAlone none

/-- The state in which the bound holder has been suspended, if it is to be. -/
def setAside (c : Coordinator) (suspended : Option HolderId) (s : State) :
    State :=
  match suspended with
  | none => s
  | some _ => (s.unbind c.key).2

theorem running_eq_some_iff {c : Coordinator} {s : State} {id : HolderId} :
    c.running s = some id ↔
      s.boundHolder c.key = some id ∧ (s.holders id).stage = .active := by
  simp [running, Option.filter_eq_some_iff, Holder.isActive]

theorem discover_isActive (c : Coordinator) (s : State) :
    (c.discover s).isActive s = (c.running s).isSome := by
  rw [Handle.isActive, discover, running]
  cases s.boundHolder c.key with
  | none => rfl
  | some id =>
      cases hactive : (s.holders id).isActive <;> simp [Option.filter, hactive]

/-- Whoever suspends a transaction or joins one has found it running. -/
theorem running_of_course {c : Coordinator} {d : Definition} {s : State}
    {id : HolderId}
    (h : c.course d s = .joins id ∨ c.course d s = .runsAlone (some id) ∨
      c.course d s = .begins (some id)) :
    c.running s = some id := by
  rw [course] at h
  cases hrunning : c.running s with
  | none => cases hp : d.propagation <;> simp [hrunning, hp] at h
  | some other => cases hp : d.propagation <;> simp_all

/-- Whoever suspends nothing and does not join has found no running
transaction. -/
theorem running_eq_none_of_course {c : Coordinator} {d : Definition} {s : State}
    (h : c.course d s = .runsAlone none ∨ c.course d s = .begins none) :
    c.running s = none := by
  rw [course] at h
  cases hrunning : c.running s with
  | none => rfl
  | some other => cases hp : d.propagation <;> simp [hrunning, hp] at h

/-! ## One equation for each course -/

variable {c : Coordinator} {d : Definition} {s : State}

theorem execute_eq (c : Coordinator) (d : Definition) (work : Work σ ε α)
    (s : State) (m : σ) :
    c.execute d work s m =
      if (c.running s).isSome then c.executeWithin d (c.discover s) work s m
      else c.executeAlone d (c.discover s) work s m := by
  rw [← discover_isActive]
  rfl

theorem execute_of_refuses {reason : IllegalState}
    (h : c.course d s = .refuses reason) (work : Work σ ε α) (m : σ) :
    c.execute d work s m = .failed (.illegal reason) s m := by
  rw [execute_eq]
  rw [course] at h
  cases hrunning : c.running s with
  | none => cases hp : d.propagation <;> simp_all [executeAlone]
  | some id => cases hp : d.propagation <;> simp_all [executeWithin]

theorem execute_of_joins {id : HolderId} (h : c.course d s = .joins id)
    (work : Work σ ε α) (m : σ) :
    c.execute d work s m = c.runJoining d { holder := some id } work s m := by
  have hrunning := running_of_course (Or.inl h)
  have hdiscover : c.discover s = { holder := some id } := by
    rw [discover, (running_eq_some_iff.mp hrunning).1]
  rw [execute_eq, hrunning, hdiscover]
  rw [course] at h
  cases hp : d.propagation <;> simp_all [executeWithin]

/-- What runs alone resumes afterwards what it suspended. -/
theorem execute_of_runsAlone {suspended : Option HolderId}
    (h : c.course d s = .runsAlone suspended) (work : Work σ ε α) (m : σ) :
    c.execute d work s m =
      (c.runWithout work (c.setAside suspended s) m).afterFinish
        (c.conclude suspended) := by
  rw [execute_eq]
  cases suspended with
  | none =>
      have hrunning := running_eq_none_of_course (Or.inl h)
      have hnothing : ∀ run : Run σ ε α,
          run.afterFinish (c.conclude none) = run := by
        rintro ⟨ending, state, memory⟩
        cases ending <;> rfl
      rw [hnothing, hrunning]
      rw [course] at h
      cases hp : d.propagation <;> simp_all [executeAlone, setAside]
  | some id =>
      have hrunning := running_of_course (Or.inr (Or.inl h))
      have hbound :=
        (s.unbind_fst c.key).trans (running_eq_some_iff.mp hrunning).1
      rw [hrunning]
      rw [course] at h
      cases hp : d.propagation <;> simp_all [executeWithin, setAside, suspend]

theorem execute_of_begins {suspended : Option HolderId}
    (h : c.course d s = .begins suspended) (work : Work σ ε α) (m : σ) :
    c.execute d work s m =
      c.runNew d suspended (c.discover (c.setAside suspended s)) work
        (c.setAside suspended s) m := by
  rw [execute_eq]
  cases suspended with
  | none =>
      have hrunning := running_eq_none_of_course (Or.inr h)
      rw [hrunning]
      rw [course] at h
      cases hp : d.propagation <;> simp_all [executeAlone, setAside]
  | some id =>
      have hrunning := running_of_course (Or.inr (Or.inr h))
      have hbound :=
        (s.unbind_fst c.key).trans (running_eq_some_iff.mp hrunning).1
      rw [hrunning]
      rw [course] at h
      cases hp : d.propagation <;> simp_all [executeWithin, setAside, suspend]

end Coordinator

end UnitOfWork
