import UnitOfWork.Proofs.ConnectionCalls
import UnitOfWork.Transaction.Cleanup

/-!
# How a transaction is put back

A failed beginning and a clean-up put things back in the same order: the session
of the connection first, then the connection itself if the attempt owns its
holder, and the holder at last.  Every step is tried whatever became of the one
before it.  What they do to the holders does not depend on the steps that
fail.
-/

namespace UnitOfWork

/-- Two handles of one attempt, which may differ in what there is to restore. -/
structure Handle.SameAttempt (h h' : Handle) : Prop where
  holder : h'.holder = h.holder
  ownsHolder : h'.ownsHolder = h.ownsHolder
  began : h'.began = h.began
  rollbackOnly : h'.rollbackOnly = h.rollbackOnly

namespace Handle.SameAttempt

theorem refl (h : Handle) : h.SameAttempt h := ⟨rfl, rfl, rfl, rfl⟩

theorem trans {h h' h'' : Handle} (hfirst : h.SameAttempt h')
    (hsecond : h'.SameAttempt h'') : h.SameAttempt h'' where
  holder := hsecond.holder.trans hfirst.holder
  ownsHolder := hsecond.ownsHolder.trans hfirst.ownsHolder
  began := hsecond.began.trans hfirst.began
  rollbackOnly := hsecond.rollbackOnly.trans hfirst.rollbackOnly

end Handle.SameAttempt

/-! ## Restoring the session -/

/-- Restoring a session begins no transaction and ends none. -/
theorem Handle.talk_restoreSession (h : Handle) (conn : Connection)
    (s : State) :
    Talk conn [] s (h.restoreSession conn s).2 := by
  have hauto : Talk conn [] s
      (if h.restoresAutoCommit then
        State.restoring .restoreAutoCommit (s.call conn (.setAutoCommit true))
      else s) := by
    split
    · exact (Talk.refl s).restoring _ rfl
    · exact .refl s
  rw [Handle.restoreSession]
  cases h.previousIsolation with
  | none => exact hauto
  | some level => exact hauto.restoring _ rfl

namespace State

/-! ## Handing a connection back to its source -/

/-- The connection was handed back to a source, between two lines in the journal
of which the second reports a failure. -/
def handedBack (line : Line) (step : RestoringStep) (source : SourceId)
    (conn : Connection) (s : State) : State :=
  State.restoring step ((s.say line).release source conn)

theorem sameHolders_handedBack (line : Line) (step : RestoringStep)
    (source : SourceId) (conn : Connection) (s : State) :
    SameHolders s (handedBack line step source conn s) := by
  have h := sameHolders_release (s.say line) source conn
  rw [handedBack]
  cases hresult : (s.say line).release source conn with
  | mk outcome s' =>
      rw [hresult] at h
      cases outcome <;> exact ⟨h.holders, h.nextHolder, h.bound⟩

end State

namespace Coordinator

variable {c : Coordinator} {conn : Connection} {h : Handle} {s : State}
variable {id : HolderId}

/-! ## Abandoning a beginning -/

/-- The state after the driver was rolled back, if it had begun. -/
def rolledBack (driverBegan : Bool) (conn : Connection) (s : State) : State :=
  if driverBegan then
    State.restoring .rollBackFailedBegin (s.call conn .rollback)
  else s

/-- What is left of a holder when the beginning on it is abandoned. -/
def leftover (owns : Bool) (holder : Holder Connection) : Holder Connection :=
  if owns then .finished else holder.release

/-- The state after the session was restored and the connection was released, if
that was to be done. -/
def givenUp (c : Coordinator) (driverBegan : Bool) (conn : Connection)
    (h : Handle) (s : State) : State :=
  let restored := (h.restoreSession conn (rolledBack driverBegan conn s)).2
  if h.ownsHolder then
    State.handedBack (.releasingAfterFailedBegin conn) .releaseAfterFailedBegin
      c.source.id conn restored
  else restored

/-- The driver is rolled back by one call, and not at all if it had not
begun. -/
theorem talk_rolledBack (driverBegan : Bool) (conn : Connection) (s : State) :
    ∃ calls, Talk conn calls s (rolledBack driverBegan conn s) ∧
      if driverBegan then ∃ fault, calls = [(.rollback, fault)]
      else calls = [] := by
  rw [rolledBack]
  cases driverBegan with
  | true =>
      obtain ⟨fault, htalk⟩ := (Talk.refl s).restoringControl (c := conn)
        .rollBackFailedBegin .rollback rfl
      exact ⟨_, htalk, fault, rfl⟩
  | false => exact ⟨[], .refl s, rfl⟩

theorem sameHolders_givenUp (c : Coordinator) (driverBegan : Bool)
    (conn : Connection) (h : Handle) (s : State) :
    State.SameHolders s (c.givenUp driverBegan conn h s) := by
  obtain ⟨calls, htalk, -⟩ := talk_rolledBack driverBegan conn s
  have hback := htalk.sameHolders
  have hrestored :=
    (h.talk_restoreSession conn (rolledBack driverBegan conn s)).sameHolders
  unfold givenUp
  simp only
  split
  · exact (hback.trans hrestored).trans (State.sameHolders_handedBack _ _ _ _ _)
  · exact hback.trans hrestored

/-- Abandoning a beginning gives the connection up, and then the holder. -/
theorem abandon_snd (hholder : h.holder = some id) (driverBegan : Bool) :
    (c.abandon driverBegan conn h s).2 =
      (c.givenUp driverBegan conn h s).setHolder id
        (leftover h.ownsHolder (s.holders id)) := by
  have hsame := (sameHolders_givenUp c driverBegan conn h s).holders
  rw [givenUp] at hsame ⊢
  cases howns : h.ownsHolder with
  | true =>
      simp only [howns, if_true] at hsame
      simp only [abandon, discard, Handle.restoreSession, howns,
        if_true, hholder]
      rfl
  | false =>
      simp only [howns, Bool.false_eq_true, if_false] at hsame
      simp only [abandon, Handle.restoreSession, howns, Bool.false_eq_true,
        if_false, hholder, leftover, ← hsame]
      rfl

/-- A handle whose beginning is abandoned has no holder any more if it had made
it, and otherwise it is as it was, but for what there was to restore. -/
theorem abandon_fst (c : Coordinator) (driverBegan : Bool) (conn : Connection)
    (h : Handle) (s : State) :
    (h.ownsHolder = true → (c.abandon driverBegan conn h s).1.holder = none) ∧
      (h.ownsHolder = false →
        h.SameAttempt (c.abandon driverBegan conn h s).1) := by
  cases howns : h.ownsHolder with
  | true =>
      refine ⟨fun _ => ?_, fun hno => absurd hno.symm Bool.false_ne_true⟩
      simp [abandon, Handle.restoreSession, howns, discard]
  | false =>
      refine ⟨fun hyes => absurd hyes Bool.false_ne_true, fun _ => ?_⟩
      simp only [abandon, Handle.restoreSession, howns,
        Bool.false_eq_true, if_false]
      cases hholder : h.holder <;> exact ⟨hholder.symm, howns.symm, rfl, rfl⟩

/-! ## Cleaning up -/

def released (c : Coordinator) (h : Handle) (id : HolderId) (s : State) :
    State :=
  if h.ownsHolder then c.unbindHolder id s else s

def restored (c : Coordinator) (h : Handle) (id : HolderId) (s : State) :
    State :=
  match (s.holders id).connection with
  | some conn => c.restoreConnection conn h s
  | none => s

theorem cleanup_eq (hholder : h.holder = some id) :
    c.cleanup h s =
      (c.restored h id (c.released h id s)).setHolder id
        (settle h ((c.restored h id (c.released h id s)).holders id)) := by
  simp only [cleanup, hholder]
  rfl

@[simp]
theorem holders_released (c : Coordinator) (h : Handle) (id : HolderId)
    (s : State) :
    (c.released h id s).holders = s.holders := by
  rw [released, unbindHolder]
  split <;> try split
  all_goals simp

@[simp]
theorem nextHolder_released (c : Coordinator) (h : Handle) (id : HolderId)
    (s : State) :
    (c.released h id s).nextHolder = s.nextHolder := by
  rw [released, unbindHolder]
  split <;> try split
  all_goals simp

theorem boundHolder_released (c : Coordinator) (h : Handle) (id : HolderId)
    (s : State) (key : Key) :
    (c.released h id s).boundHolder key =
      if h.ownsHolder = true ∧ key = c.key ∧ s.boundHolder c.key = some id then
        none
      else s.boundHolder key := by
  rw [released, unbindHolder]
  split
  · next howns =>
      split
      · next hbound =>
          by_cases hkey : key = c.key <;> simp [hkey, howns, hbound]
      · next hbound => simp [hbound]
  · next howns => simp [howns]

theorem sameHolders_restored (c : Coordinator) (h : Handle) (id : HolderId)
    (s : State) :
    State.SameHolders s (c.restored h id s) := by
  rw [restored]
  split
  · next conn hconn =>
      have hsession := (h.talk_restoreSession conn s).sameHolders
      unfold restoreConnection
      simp only
      split
      · exact hsession.trans
          (State.sameHolders_handedBack (.releasing conn) .release _ _ _)
      · exact hsession
  · exact .refl s

/-- The holders and the bindings after a clean-up: the handle's holder is
settled, and it is unbound if the handle owns it. -/
theorem cleanup_holders (hholder : h.holder = some id) (other : HolderId) :
    (c.cleanup h s).holders other =
      if other = id then settle h (s.holders id) else s.holders other := by
  rw [cleanup_eq hholder, State.holders_setHolder,
    (sameHolders_restored c h id (c.released h id s)).holders, holders_released]

theorem cleanup_nextHolder (hholder : h.holder = some id) :
    (c.cleanup h s).nextHolder = s.nextHolder := by
  rw [cleanup_eq hholder, State.nextHolder_setHolder,
    (sameHolders_restored c h id (c.released h id s)).nextHolder,
    nextHolder_released]

theorem cleanup_boundHolder (hholder : h.holder = some id) (key : Key) :
    (c.cleanup h s).boundHolder key =
      if h.ownsHolder = true ∧ key = c.key ∧ s.boundHolder c.key = some id then
        none
      else s.boundHolder key := by
  rw [cleanup_eq hholder, State.boundHolder_setHolder,
    (sameHolders_restored c h id (c.released h id s)).bound,
    boundHolder_released]

end Coordinator

end UnitOfWork
