import UnitOfWork.Proofs.Completion

/-!
# What does not take time

Time passes where somebody waits.  No operation of a coordinator waits: whatever
it does on drivers, holders and bindings, and however it ends, the clock shows
the same before and after it.
-/

namespace UnitOfWork

/-! ## Operations on the state -/

namespace State

variable (s : State)

@[simp]
theorem now_say (line : Line) : (s.say line).now = s.now := rfl

@[simp]
theorem now_setHolder (id : HolderId) (holder : Holder Connection) :
    (s.setHolder id holder).now = s.now := rfl

theorem now_create (source : SourceId) : (s.create source).2.now = s.now := by
  rw [create]
  cases (s.drivers source).create <;> rfl

theorem now_release (source : SourceId) (conn : Connection) :
    (s.release source conn).2.now = s.now := by
  rw [release]
  cases (s.drivers source).release conn.id <;> rfl

theorem now_callDirectly (conn : Connection) (request : Call) :
    (s.callDirectly conn request).2.now = s.now := by
  rw [callDirectly]
  cases (s.drivers conn.source).call conn.id request <;> rfl

theorem now_restoring (step : RestoringStep)
    (result : Except Fault Unit × State) :
    (restoring step result).now = result.2.now := by
  obtain ⟨outcome, s'⟩ := result
  cases outcome <;> rfl

theorem now_handedBack (line : Line) (step : RestoringStep) (source : SourceId)
    (conn : Connection) : (handedBack line step source conn s).now = s.now := by
  rw [handedBack, now_restoring, now_release, now_say]

theorem now_unbind (key : Key) : (s.unbind key).2.now = s.now := by
  rw [unbind]
  split <;> rfl

theorem now_bind {s s' : State} {key : Key} {id : HolderId}
    (h : s.bind key id = .ok s') :
    s'.now = s.now := by
  rw [bind] at h
  split at h
  · cases h
    rfl
  · cases h

theorem holders_bind {s s' : State} {key : Key} {id : HolderId}
    (h : s.bind key id = .ok s') :
    s'.holders = s.holders := by
  rw [bind] at h
  split at h
  · cases h
    rfl
  · cases h

end State

theorem Source.now_getConnection (source : Source) (s : State) :
    (source.getConnection s).2.now = s.now := by
  rw [getConnection]
  cases source.boundConnection s with
  | some conn => rfl
  | none =>
      have hcreate := s.now_create source.id
      rcases hresult : s.create source.id with ⟨outcome, s'⟩
      rw [hresult] at hcreate
      cases outcome <;> exact hcreate

theorem Source.now_releaseConnection (source : Source) (conn : Connection)
    (s : State) :
    (source.releaseConnection conn s).2.now = s.now := by
  rw [releaseConnection]
  split
  · rfl
  · have hrelease := s.now_release source.id conn
    rcases hresult : s.release source.id conn with ⟨outcome, s'⟩
    rw [hresult] at hrelease
    cases outcome <;> exact hrelease

/-! ## Operations of coordinators -/

namespace Coordinator

variable {c : Coordinator} {d : Definition} {h : Handle} {s : State}
variable {id : HolderId}

theorem now_givenUp (c : Coordinator) (driverBegan : Bool) (conn : Connection)
    (h : Handle) (s : State) :
    (c.givenUp driverBegan conn h s).now = s.now := by
  obtain ⟨calls, htalk, -⟩ := talk_rolledBack driverBegan conn s
  have hrestored :=
    (h.talk_restoreSession conn (rolledBack driverBegan conn s)).now
  rw [htalk.now] at hrestored
  simp only [givenUp]
  split
  · rw [State.now_handedBack, hrestored]
  · exact hrestored

theorem now_obtained {conn : Connection} {h₁ : Handle} {s₁ : State}
    (hobtained : c.Obtained h s conn id h₁ s₁) : s₁.now = s.now := by
  cases hobtained with
  | reused => rfl
  | created hcreate =>
      have hnow := s.now_create c.source.id
      rw [hcreate] at hnow
      exact hnow

theorem now_failBegin {conn : Connection} {h₁ h₂ : Handle} {s₁ s₂ s₃ : State}
    {calls : List (Call × Option Fault)} (driverBegan : Bool) (cause : Cause)
    (hobtained : c.Obtained h s conn id h₁ s₁) (hsame : h₁.SameAttempt h₂)
    (htalk : Talk conn calls s₁ s₂) (hactive : s₃.now = s₂.now) :
    (c.failBegin driverBegan conn cause h₂ s₃).2.2.now = s.now := by
  rw [failBegin, abandon_snd (hsame.holder.trans hobtained.claimed.1),
    State.now_setHolder, now_givenUp, hactive, htalk.now,
    now_obtained hobtained]

/-- A beginning takes no time, whether it succeeds or fails. -/
theorem now_begin (c : Coordinator) (d : Definition) (h : Handle) (s : State) :
    (c.begin d h s).2.2.now = s.now := by
  have hbeginning := c.beginning d h s
  generalize c.begin d h s = result at hbeginning ⊢
  cases hbeginning with
  | refused hstate =>
      rcases hstate with rfl | ⟨fault, hcreate⟩
      · rfl
      · have hnow := s.now_create c.source.id
        rw [hcreate] at hnow
        exact hnow
  | early hobtained hsame hcalls htalk =>
      exact now_failBegin false _ hobtained hsame htalk rfl
  | late hobtained hsame htalk hactive =>
      refine now_failBegin true _ hobtained hsame htalk ?_
      rcases hactive with rfl | ⟨-, rfl⟩ <;> rfl
  | begun hobtained hsame htalk hactive =>
      have hnow := htalk.now.trans (now_obtained hobtained)
      split at hactive
      · exact (State.now_bind hactive).trans hnow
      · rw [hactive]
        exact hnow

theorem now_finish (task : String) (request : Call)
    (announcement : Connection → Line) (h : Handle) (s : State) :
    (finish task request announcement h s).2.now = s.now := by
  rw [finish]
  cases h.connection s with
  | error reason => rfl
  | ok conn =>
      have hcall := (s.say (announcement conn)).now_call conn request
      simp only
      rcases hresult : (s.say (announcement conn)).call conn request with
          ⟨outcome, s'⟩
      rw [hresult] at hcall
      cases outcome <;> exact hcall

theorem now_rollbackAnyway (line : TransactionError → Line) (h : Handle)
    (s : State) :
    (rollbackAnyway line h s).now = s.now := by
  have hfinish := now_finish "rollback" .rollback .rollingBack h s
  rw [rollbackAnyway, rollback]
  rcases hresult : finish "rollback" .rollback .rollingBack h s with
      ⟨outcome, s'⟩
  rw [hresult] at hfinish
  cases outcome <;> exact hfinish

variable {ε α : Type}

theorem now_complete (h : Handle) (result : Except (Failure ε) α) (s : State) :
    (complete h result s).2.now = s.now := by
  unfold complete
  cases result with
  | error failure => exact now_rollbackAnyway _ h s
  | ok value =>
      simp only
      split
      · rw [rollbackWith_snd]
        exact now_finish _ _ _ h _
      · split
        · rw [rollbackWith_snd]
          exact now_finish _ _ _ h _
        · have hfinish := now_finish "commit" .commit .committing h s
          rw [commit]
          rcases hresult : finish "commit" .commit .committing h s with
              ⟨outcome, s'⟩
          rw [hresult] at hfinish
          cases outcome <;> exact hfinish

theorem now_completeOverdue (deadline : Instant) (h : Handle) (s : State) :
    (completeOverdue (ε := ε) (α := α) deadline h s).2.now = s.now :=
  now_rollbackAnyway _ h s

theorem now_cleanup (c : Coordinator) (h : Handle) (s : State) :
    (c.cleanup h s).now = s.now := by
  cases hholder : h.holder with
  | none => rw [cleanup, hholder]
  | some id =>
      have hreleased : (c.released h id s).now = s.now := by
        rw [released, unbindHolder]
        split
        · split
          · exact s.now_unbind c.key
          · rfl
        · rfl
      have hrestored : ∀ s, (c.restored h id s).now = s.now := by
        intro s
        rw [restored]
        split
        · next conn _ =>
            have hsession := (h.talk_restoreSession conn s).now
            simp only [restoreConnection]
            split
            · exact (State.now_handedBack _ _ _ _ _).trans hsession
            · exact hsession
        · rfl
      rw [cleanup_eq hholder, State.now_setHolder, hrestored, hreleased]

end Coordinator

end UnitOfWork
