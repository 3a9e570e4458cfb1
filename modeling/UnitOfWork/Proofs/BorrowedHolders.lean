import UnitOfWork.Proofs.HandleService

/-!
# Handles that have borrowed their holders

A handle that has begun on a holder that was there has borrowed it: it has to
give it back, but not to finish it.  As long as it has the holder, its
transaction runs.  No operation that serves the handle changes that: a beginning
that succeeds makes the holder active, and one that fails leaves an active
holder alone, for it is not begun on again.
-/

namespace UnitOfWork

/-- On what a handle has borrowed a transaction runs. -/
def Handle.Running (h : Handle) (w : World) : Prop :=
  ∀ id, h.Borrows id → (w.holders id).stage = .active

namespace Coordinator

variable {c : Coordinator} {d : Definition} {conn : Connection} {h h' : Handle}
variable {s s' : State} {id : HolderId}

structure Attends (c : Coordinator) (h h' : Handle) (s s' : State) : Prop
    extends c.Serves h h' s s' where
  running : h.Running s.toWorld → h'.Running s'.toWorld

/-- A handle that has borrowed nothing. -/
theorem Serves.attends (hserves : c.Serves h h' s s')
    (hnone : ∀ id, ¬h'.Borrows id) :
    c.Attends h h' s s' where
  toServes := hserves
  running _ id hborrows := absurd hborrows (hnone id)

theorem Serves.attends_of_stages (hserves : c.Serves h h' s s')
    (hstage : ∀ id, (s'.holders id).stage = (s.holders id).stage)
    (hborrows : ∀ id, h'.Borrows id → h.Borrows id) : c.Attends h h' s s' where
  toServes := hserves
  running hrunning id hborrowed :=
    (hstage id).trans (hrunning id (hborrows id hborrowed))

/-- An abandoned beginning takes its holder from the handle if that owns it, and
otherwise leaves the handle as it was before the beginning, but for what there
was to restore. -/
theorem sameAttempt_of_abandoned {h₁ h₂ : Handle} {s₁ s₃ : State}
    (driverBegan : Bool) (hobtained : c.Obtained h s conn id h₁ s₁)
    (hsame : h₁.SameAttempt h₂) :
    (c.abandon driverBegan conn h₂ s₃).1.holder = none ∨
      h.SameAttempt (c.abandon driverBegan conn h₂ s₃).1 := by
  obtain ⟨hgone, hkept⟩ := c.abandon_fst driverBegan conn h₂ s₃
  cases howns : h₂.ownsHolder with
  | true => exact Or.inl (hgone howns)
  | false =>
      cases hobtained with
      | reused hholder hstage hconn => exact Or.inr (hsame.trans (hkept howns))
      | created hcreate =>
          have hmade : h₂.ownsHolder = true := hsame.ownsHolder
          rw [howns] at hmade
          cases hmade

/-- A beginning that fails borrows nothing. -/
theorem borrows_of_error {e : TransactionError}
    (herror : c.begin d h s = (.error e, h', s')) (hborrows : h'.Borrows id) :
    h.Borrows id := by
  have habandoned : ∀ {a : Handle}, a.holder = none ∨ h.SameAttempt a →
      a.Borrows id →
      h.Borrows id := by
    rintro a (hnone | hsame) hborrows
    · exact absurd hborrows (Handle.not_borrows_of_free hnone id)
    · exact ⟨hsame.holder.symm.trans hborrows.1,
        hsame.ownsHolder.symm.trans hborrows.2.1,
        hsame.began.symm.trans hborrows.2.2⟩
  have hbeginning := c.beginning d h s
  rw [herror] at hbeginning
  generalize hresult : (Except.error e, h', s') = result at hbeginning
  have hhandle : h' = result.2.1 := congrArg (fun r => r.2.1) hresult
  rw [hhandle] at hborrows
  cases hbeginning with
  | refused hstate => exact hborrows
  | early hobtained hsame hcalls htalk =>
      exact habandoned (sameAttempt_of_abandoned false hobtained hsame) hborrows
  | late hobtained hsame htalk hactive =>
      exact habandoned (sameAttempt_of_abandoned true hobtained hsame) hborrows
  | begun => cases hresult

/-- No beginning changes a holder on which a transaction runs. -/
theorem begin_holders_active (c : Coordinator) (d : Definition) (h : Handle)
    (hid : id < s.nextHolder) (hactive : (s.holders id).stage = .active) :
    (c.begin d h s).2.2.holders id = s.holders id := by
  cases hbegin : c.begin d h s with
  | mk outcome rest =>
  obtain ⟨h', s'⟩ := rest
  cases outcome with
  | ok _ =>
      obtain ⟨conn, other, hbegun⟩ := begun_of_ok hbegin
      exact hbegun.others id (hbegun.origin.ne_of_active hid hactive)
  | error e =>
      rcases (notBegun_of_error hbegin).holders with
        ⟨hsame, -⟩ | ⟨conn, other, owns, horigin, hothers, -⟩
      · exact congrFun hsame id
      · exact hothers id (horigin.ne_of_active hid hactive)

theorem running_begin (hexist : ∀ id, h.holder = some id → id < s.nextHolder)
    (hrunning : h.Running s.toWorld) :
    (c.begin d h s).2.1.Running (c.begin d h s).2.2.toWorld := by
  intro id hborrows
  cases hbegin : c.begin d h s with
  | mk outcome rest =>
  obtain ⟨h', s'⟩ := rest
  rw [hbegin] at hborrows
  cases outcome with
  | ok _ =>
      obtain ⟨conn, other, hbegun⟩ := begun_of_ok hbegin
      obtain rfl : other = id :=
        Option.some.inj (hbegun.holder.symm.trans hborrows.1)
      exact hbegun.stage
  | error e =>
      have hwas := borrows_of_error hbegin hborrows
      have hactive := hrunning id hwas
      have hspared := c.begin_holders_active d h (hexist id hwas.1) hactive
      rw [hbegin] at hspared
      exact (congrArg Holder.stage hspared).trans hactive

theorem attends_begin (hs : s.Orderly) (hsound : h.Sound c s.toWorld) :
    c.Attends h (c.begin d h s).2.1 s (c.begin d h s).2.2 where
  toServes := serves_begin hs hsound
  running := running_begin hsound.exist

theorem attends_markRollbackOnly (hsound : h.Sound c s.toWorld) :
    c.Attends h (markRollbackOnly h s).2.1 s (markRollbackOnly h s).2.2 := by
  have hserves := serves_markRollbackOnly hsound
  cases hholder : h.holder with
  | none =>
      simp only [markRollbackOnly, hholder] at hserves ⊢
      exact hserves.attends_of_stages (fun _ => rfl) fun _ h => h
  | some id =>
      simp only [markRollbackOnly, hholder] at hserves ⊢
      apply hserves.attends_of_stages (still_markedHolder s id).stage
      exact fun _ hborrows => ⟨hholder.trans hborrows.1, hborrows.2⟩

end Coordinator

end UnitOfWork
