import UnitOfWork.Proofs.Frame

/-!
# Talking to one connection

Most of what a transaction does to its connection is a sequence of calls on it,
with lines in the journal between them.  `Talk` relates the states before and
after such a sequence, and lists the calls in it by which a transaction begins
or ends, each with the fault by which it failed.  The holders are the same
afterwards, and no connection was opened or closed.
-/

namespace UnitOfWork

/-- The connection that a line reports as new. -/
def Line.made? : Line → Option Connection
  | .acquired c | .fetched c => some c
  | _ => none

/-- Whether a call begins a transaction of the driver or ends it. -/
def Call.isControl : Call → Bool
  | .begin | .commit | .rollback => true
  | .setAutoCommit _ | .setIsolation _ | .execute _ => false

def faultOf {α : Type} : Except Fault α → Option Fault
  | .ok _ => none
  | .error fault => some fault

/-- The state before and after some calls on a connection and lines that report
no new connection.  Of the calls, those that begin or end a transaction are
listed. -/
inductive Talk (c : Connection) :
    List (Call × Option Fault) → State → State → Prop
  | refl (s : State) : Talk c [] s s
  | say {calls : List (Call × Option Fault)} {s s' : State}
      (h : Talk c calls s s')
      {line : Line} (hline : line.made? = none) : Talk c calls s (s'.say line)
  | adjust {calls : List (Call × Option Fault)} {s s' : State}
      (h : Talk c calls s s')
      {request : Call} (hcall : request.isControl = false) :
      Talk c calls s (s'.call c request).2
  | control {calls : List (Call × Option Fault)} {s s' : State}
      (h : Talk c calls s s')
      (request : Call) (hcall : request.isControl = true) :
      Talk c (calls ++ [(request, faultOf (s'.call c request).1)]) s
        (s'.call c request).2

namespace Driver

/-- What a call that succeeds makes of the driver. -/
theorem call_eq_ok {d d' : Driver} {id : ConnectionId} {request : Call}
    (h : d.call id request = .ok d') :
    d' = (d.setSession id ((d.sessions id).map request.effect)).record
      (.called id request) := by
  rw [call, check] at h
  split at h
  · simp at h
  · simpa using h.symm

end Driver

namespace Talk

variable {c : Connection} {calls calls' : List (Call × Option Fault)}
variable {s s' s'' : State}

theorem trans (h : Talk c calls s s') (h' : Talk c calls' s' s'') :
    Talk c (calls ++ calls') s s'' := by
  induction h' with
  | refl => simpa using h
  | say _ hline ih => exact (ih h).say hline
  | adjust _ hcall ih => exact (ih h).adjust hcall
  | control _ request hcall ih =>
      rw [← List.append_assoc]
      exact (ih h).control request hcall

/-- A restoring step that neither begins nor ends a transaction. -/
theorem restoring (h : Talk c calls s s') (step : RestoringStep)
    {request : Call} (hcall : request.isControl = false) :
    Talk c calls s (State.restoring step (s'.call c request)) := by
  have hcalled := h.adjust hcall
  cases hresult : s'.call c request with
  | mk outcome s₁ =>
      rw [hresult] at hcalled
      cases outcome with
      | ok _ => exact hcalled
      | error fault => exact hcalled.say rfl

/-- A restoring step that begins or ends a transaction. -/
theorem restoringControl (h : Talk c calls s s') (step : RestoringStep)
    (request : Call) (hcall : request.isControl = true) :
    ∃ fault, Talk c (calls ++ [(request, fault)]) s
      (State.restoring step (s'.call c request)) := by
  refine ⟨faultOf (s'.call c request).1, ?_⟩
  have hcalled := h.control request hcall
  cases hresult : s'.call c request with
  | mk outcome s₁ =>
      rw [hresult] at hcalled
      cases outcome with
      | ok _ => exact hcalled
      | error fault => exact hcalled.say rfl

theorem sameHolders (h : Talk c calls s s') : State.SameHolders s s' := by
  induction h with
  | refl => exact .refl _
  | say _ _ ih => exact ih.trans ⟨rfl, rfl, fun _ => rfl⟩
  | adjust _ _ ih | control _ _ _ ih =>
      exact ih.trans (State.sameHolders_call _ _ _)

theorem now (h : Talk c calls s s') : s'.now = s.now := by
  induction h with
  | refl => rfl
  | say _ _ ih => exact ih
  | adjust _ _ ih | control _ _ _ ih => exact (State.now_call _ _ _).trans ih

end Talk

end UnitOfWork
