import UnitOfWork.Proofs.MirroredSteps

/-!
# Coordinators do the same on both sides

A coordinator that is given what stands for the same, in two states that mirror
each other, answers the same and leaves two states that do so again.  It reads
no number of a holder or a connection, and it reads the clock for one thing
only: whether the deadline of a transaction that begins is within its reach.
-/

namespace UnitOfWork

variable {source : SourceId} {period : Period} {ρ : Renaming} {s s' : State}
variable {h h' : Handle} {conn conn' : Connection}

/-! ## What is the same -/

theorem State.Mirrors.autoCommit (hs : s.Mirrors source period ρ s')
    (hconn : ρ.connections conn conn') :
    s'.autoCommit conn' = s.autoCommit conn := by
  rw [autoCommit_eq, autoCommit_eq, hs.session conn conn' hconn]

theorem State.Mirrors.isolation (hs : s.Mirrors source period ρ s')
    (hconn : ρ.connections conn conn') :
    s'.isolation conn' = s.isolation conn := by
  rw [isolation_eq, isolation_eq, hs.session conn conn' hconn]

namespace Holder.Mirrors

variable {r : Connection → Connection → Prop} {timely : Prop}
variable {x x' : Holder Connection}

theorem held (hx : x.Mirrors r timely x') :
    (∃ conn conn', x.held = .ok conn ∧ x'.held = .ok conn' ∧ r conn conn') ∨
      x.held = .error .noConnection ∧ x'.held = .error .noConnection := by
  rw [Holder.held, Holder.held]
  rcases rel_cases hx.connection with
      ⟨hnone, hnone'⟩ | ⟨conn, conn', hsome, hsome', hconn⟩
  · rw [hnone, hnone']
    exact Or.inr ⟨rfl, rfl⟩
  · rw [hsome, hsome']
    exact Or.inl ⟨conn, conn', rfl, rfl, hconn⟩

theorem claim (hx : x.Mirrors r timely x') :
    (∃ y y', x.claim = .ok y ∧ x'.claim = .ok y' ∧ y.Mirrors r timely y') ∨
      ∃ reason, x.claim = .error reason ∧ x'.claim = .error reason := by
  rw [Holder.claim, Holder.claim, hx.stage]
  cases x.stage with
  | unbound => exact Or.inl ⟨_, _, rfl, rfl, { hx with stage := rfl }⟩
  | claimed => exact Or.inl ⟨_, _, rfl, rfl, { hx with stage := rfl }⟩
  | active => exact Or.inr ⟨_, rfl, rfl⟩
  | completed => exact Or.inr ⟨_, rfl, rfl⟩

theorem activate (hx : x.Mirrors r timely x')
    {deadline deadline' : Option Instant}
    (hdeadline : timely → deadline'.isSome = deadline.isSome) :
    (∃ y y', x.activate deadline = .ok y ∧ x'.activate deadline' = .ok y' ∧
      y.Mirrors r timely y') ∨
      ∃ reason, x.activate deadline = .error reason ∧
        x'.activate deadline' = .error reason := by
  rw [Holder.activate, Holder.activate, hx.stage]
  cases x.stage with
  | claimed =>
      exact Or.inl ⟨_, _, rfl, rfl,
        { hx with stage := rfl, deadline := hdeadline }⟩
  | unbound => exact Or.inr ⟨_, rfl, rfl⟩
  | active => exact Or.inr ⟨_, rfl, rfl⟩
  | completed => exact Or.inr ⟨_, rfl, rfl⟩

theorem marked (hx : x.Mirrors r timely x') :
    x.markRollbackOnly.Mirrors r timely x'.markRollbackOnly :=
  { hx with rollbackOnly := rfl }

theorem released (hx : x.Mirrors r timely x') :
    x.release.Mirrors r timely x'.release :=
  ⟨hx.connection, rfl, rfl, fun _ => rfl⟩

theorem cleared (x x' : Holder Connection) :
    x.clear.Mirrors r timely x'.clear :=
  ⟨.none, rfl, rfl, fun _ => rfl⟩

theorem isSynchronized (hx : x.Mirrors r timely x') :
    x'.isSynchronized = x.isSynchronized := by
  rw [Holder.isSynchronized, Holder.isSynchronized, hx.stage]

end Holder.Mirrors

namespace State.Mirrors

theorem isActive (hs : s.Mirrors source period ρ s')
    (hh : h.Mirrors ρ.holders h') :
    h'.isActive s' = h.isActive s := by
  rw [Handle.isActive, Handle.isActive]
  rcases rel_cases hh.holder with
      ⟨hnone, hnone'⟩ | ⟨id, id', hid, hid', hholder⟩
  · rw [hnone, hnone']
  · simp only [hid, hid', Holder.isActive, (hs.holders id id' hholder).stage]

theorem isHolderRollbackOnly (hs : s.Mirrors source period ρ s')
    (hh : h.Mirrors ρ.holders h') :
    h'.isHolderRollbackOnly s' = h.isHolderRollbackOnly s := by
  rw [Handle.isHolderRollbackOnly, Handle.isHolderRollbackOnly]
  rcases rel_cases hh.holder with
      ⟨hnone, hnone'⟩ | ⟨id, id', hid, hid', hholder⟩
  · rw [hnone, hnone']
  · simp only [hid, hid', (hs.holders id id' hholder).rollbackOnly]

theorem connectionOf (hs : s.Mirrors source period ρ s')
    (hh : h.Mirrors ρ.holders h') :
    (∃ conn conn', h.connection s = .ok conn ∧ h'.connection s' = .ok conn' ∧
      ρ.connections conn conn') ∨
      ∃ reason, h.connection s = .error reason ∧
        h'.connection s' = .error reason := by
  rw [Handle.connection, Handle.connection]
  rcases rel_cases hh.holder with
      ⟨hnone, hnone'⟩ | ⟨id, id', hid, hid', hholder⟩
  · rw [hnone, hnone']
    exact Or.inr ⟨_, rfl, rfl⟩
  · rw [hid, hid']
    exact (hs.holders id id' hholder).held.imp_right
      fun hheld => ⟨.noConnection, hheld⟩

end State.Mirrors

namespace InStep

/-! ## Sessions -/

theorem restoreSession (hs : s.Mirrors source period ρ s')
    (hconn : ρ.connections conn conn') (hh : h.Mirrors ρ.holders h') :
    (h.restoreSession conn s).1.Mirrors ρ.holders
    (h'.restoreSession conn' s').1 ∧
      InStep source period ρ ρ s s' (h.restoreSession conn s).2
        (h'.restoreSession conn' s').2 := by
  rw [Handle.restoreSession, Handle.restoreSession, hh.restoresAutoCommit,
    hh.previousIsolation]
  refine ⟨{ hh with restoresAutoCommit := rfl, previousIsolation := rfl }, ?_⟩
  have hauto : InStep source period ρ ρ s s'
      (if h.restoresAutoCommit then
        State.restoring .restoreAutoCommit (s.call conn (.setAutoCommit true))
          else s)
      (if h.restoresAutoCommit then
        State.restoring .restoreAutoCommit (s'.call conn' (.setAutoCommit true))
          else s') := by
    split
    · obtain ⟨hanswer, hstep⟩ := call hs hconn (.setAutoCommit true)
      exact restoring hanswer hstep _
    · exact refl hs
  cases h.previousIsolation with
  | none => exact hauto
  | some level =>
      obtain ⟨hanswer, hstep⟩ := call hauto.mirrors hconn (.setIsolation level)
      exact hauto.trans (restoring hanswer hstep _)

end InStep

/-! ## The steps of a beginning -/

structure Progress.InStep (source : SourceId) (period : Period) (ρ : Renaming)
    (s s' : State) (p p' : Progress) : Prop where
  outcome : p'.outcome = p.outcome
  handle : p.handle.Mirrors ρ.holders p'.handle
  state : UnitOfWork.InStep source period ρ ρ s s' p.state p'.state

namespace Progress.InStep

theorem nothing (hs : s.Mirrors source period ρ s')
    (hh : h.Mirrors ρ.holders h') (outcome : Except Cause Unit) :
    Progress.InStep source period ρ s s' ⟨outcome, h, s⟩ ⟨outcome, h', s'⟩ :=
  ⟨rfl, hh, .refl hs⟩

theorem andThen {p p' : Progress} {next next' : Handle → State → Progress}
    (hp : Progress.InStep source period ρ s s' p p')
    (hnext : Progress.InStep source period ρ p.state p'.state
      (next p.handle p.state)
      (next' p'.handle p'.state)) :
    Progress.InStep source period ρ s s' (p.andThen next)
      (p'.andThen next') := by
  rw [Progress.andThen, Progress.andThen, hp.outcome]
  cases p.outcome with
  | ok _ => exact ⟨hnext.outcome, hnext.handle, hp.state.trans hnext.state⟩
  | error cause => exact hp

theorem ofCall (hh : h.Mirrors ρ.holders h')
    {onSuccess onSuccess' : Handle → Handle}
    (hsuccess : (onSuccess h).Mirrors ρ.holders (onSuccess' h'))
    {r r' : Except Fault Unit × State} (hanswer : r'.1 = r.1)
    (hstep : UnitOfWork.InStep source period ρ ρ s s' r.2 r'.2) :
    Progress.InStep source period ρ s s' (.ofCall h onSuccess r)
      (.ofCall h' onSuccess' r') := by
  obtain ⟨answer, s₁⟩ := r
  obtain ⟨answer', s₁'⟩ := r'
  obtain rfl : answer' = answer := hanswer
  cases answer' with
  | ok _ => exact ⟨rfl, hsuccess, hstep⟩
  | error fault => exact ⟨rfl, hh, hstep⟩

/-- A call that is announced in the journal. -/
theorem announced (hs : s.Mirrors source period ρ s')
    (hconn : ρ.connections conn conn') (hh : h.Mirrors ρ.holders h')
    {onSuccess onSuccess' : Handle → Handle}
    (hsuccess : (onSuccess h).Mirrors ρ.holders (onSuccess' h'))
    (line line' : Line) (request : Call) :
    Progress.InStep source period ρ s s'
      (.ofCall h onSuccess ((s.say line).call conn request))
      (.ofCall h' onSuccess' ((s'.say line').call conn' request)) := by
  have hsaid := UnitOfWork.InStep.say hs line line'
  obtain ⟨hanswer, hstep⟩ := UnitOfWork.InStep.call hsaid.mirrors hconn request
  exact ofCall hh hsuccess hanswer (hsaid.trans hstep)

end Progress.InStep

namespace Coordinator

open Progress.InStep in
theorem requestIsolation_inStep (hs : s.Mirrors source period ρ s')
    (hconn : ρ.connections conn conn') (hh : h.Mirrors ρ.holders h')
    (d : Definition) :
    Progress.InStep source period ρ s s' (requestIsolation d conn h s)
      (requestIsolation d conn' h' s') := by
  rw [requestIsolation, requestIsolation]
  cases d.isolation.resolve with
  | none => exact nothing hs hh _
  | some level =>
      simp only [hs.isolation hconn]
      split
      · exact nothing hs hh _
      · exact announced hs hconn hh { hh with previousIsolation := rfl } _ _ _

open Progress.InStep in
theorem disableAutoCommit_inStep (hs : s.Mirrors source period ρ s')
    (hconn : ρ.connections conn conn') (hh : h.Mirrors ρ.holders h') :
    Progress.InStep source period ρ s s' (disableAutoCommit conn h s)
      (disableAutoCommit conn' h' s') := by
  rw [disableAutoCommit, disableAutoCommit, hs.autoCommit hconn]
  split
  · exact announced hs hconn hh { hh with restoresAutoCommit := rfl } _ _ _
  · exact nothing hs hh _

theorem beginOnDriver_inStep (hs : s.Mirrors source period ρ s')
    (hconn : ρ.connections conn conn') (hh : h.Mirrors ρ.holders h') :
    Progress.InStep source period ρ s s' (beginOnDriver conn h s)
      (beginOnDriver conn' h' s') := by
  obtain ⟨hanswer, hstep⟩ := InStep.call hs hconn .begin
  exact .ofCall hh hh hanswer hstep

open Progress.InStep in
theorem enforceReadOnly_inStep (c : Coordinator)
    (hs : s.Mirrors source period ρ s') (hconn : ρ.connections conn conn')
    (hh : h.Mirrors ρ.holders h') (d : Definition) :
    Progress.InStep source period ρ s s' (c.enforceReadOnly d conn h s)
      (c.enforceReadOnly d conn' h' s') := by
  rw [enforceReadOnly, enforceReadOnly]
  split
  · exact announced hs hconn hh hh _ _ _
  · exact nothing hs hh _

/-- Within a period it does not depend on the time whether the deadline of a
transaction is within the reach of the clock. -/
def SteadyIn (c : Coordinator) (period : Period) (d : Definition) : Prop :=
  ∀ now, period.start ≤ now → now < period.stop →
    (c.deadline d now).isSome = (c.deadline d period.start).isSome

/-- A limit that is within the reach of the clock until the end of a period, or
not even at its start. -/
theorem steadyIn_of_limit {c : Coordinator} {d : Definition}
    (hlimit : ∀ seconds, c.config.timeLimit d = some seconds →
      period.stop + seconds ≤ Instant.latest ∨
      Instant.latest < period.start + seconds) :
    c.SteadyIn period d := by
  intro now hstart hstop
  rw [deadline, deadline]
  cases hseconds : c.config.timeLimit d with
  | none => rfl
  | some seconds =>
      simp only [Option.bind_some, Instant.after]
      rcases hlimit seconds hseconds with hwithin | hbeyond
      · rw [if_pos
          (Nat.le_trans (Nat.add_le_add_right (Nat.le_of_lt hstop) _) hwithin),
          if_pos (Nat.le_trans (Nat.add_le_add_right
            (Nat.le_of_lt (Nat.lt_of_le_of_lt hstart hstop)) _) hwithin)]
        rfl
      · rw [if_neg (Nat.not_le.mpr (Nat.lt_of_lt_of_le hbeyond
          (Nat.add_le_add_right hstart _))), if_neg (Nat.not_le.mpr hbeyond)]

theorem SteadyIn.deadline {c : Coordinator} {d : Definition}
    (hsteady : c.SteadyIn period d) (hs : s.Mirrors source period ρ s')
    (hnow : s'.now < period.stop) :
    (c.deadline d s'.now).isSome = (c.deadline d s.now).isSome := by
  rw [hsteady s'.now (Nat.le_trans hs.clock.1 hs.clock.2) hnow,
    hsteady s.now hs.clock.1 (Nat.lt_of_le_of_lt hs.clock.2 hnow)]

open Progress.InStep in
theorem activate_inStep {c : Coordinator} {d : Definition}
    (hsteady : c.SteadyIn period d) (hs : s.Mirrors source period ρ s')
    (hh : h.Mirrors ρ.holders h') :
    Progress.InStep source period ρ s s' (c.activate d h s)
      (c.activate d h' s') := by
  rw [activate, activate]
  rcases rel_cases hh.holder with
      ⟨hnone, hnone'⟩ | ⟨id, id', hid, hid', hholder⟩
  · rw [hnone, hnone']
    exact nothing hs hh _
  · simp only [hid, hid', hh.ownsHolder]
    rcases (hs.holders id id' hholder).activate (hsteady.deadline hs) with
      ⟨x, x', hx, hx', hactive⟩ | ⟨reason, hx, hx'⟩
    · have hset := InStep.setHolder hs hholder hactive
      simp only [hx, hx']
      split
      · rcases InStep.bind hset.mirrors c.key hholder with
          ⟨s₁, s₁', hbind, hbind', hstep⟩ | ⟨hbind, hbind'⟩
        · simp only [hbind, hbind']
          exact ⟨rfl, hh, hset.trans hstep⟩
        · simp only [hbind, hbind']
          exact ⟨rfl, hh, hset⟩
      · exact ⟨rfl, hh, hset⟩
    · simp only [hx, hx']
      exact nothing hs hh _

/-! ## The connection of a beginning -/

theorem reusableHolder_inStep (hs : s.Mirrors source period ρ s')
    (hh : h.Mirrors ρ.holders h') :
    Option.Rel ρ.holders (reusableHolder h s) (reusableHolder h' s') := by
  rw [reusableHolder, reusableHolder]
  rcases rel_cases hh.holder with
      ⟨hnone, hnone'⟩ | ⟨id, id', hid, hid', hholder⟩
  · rw [hnone, hnone']
    exact .none
  · have hx := hs.holders id id' hholder
    simp only [hid, hid', hx.isSynchronized, rel_isSome hx.connection]
    split
    · exact .some hholder
    · exact .none

theorem claimConnection_inStep (hs : s.Mirrors source period ρ s')
    {id id' : HolderId} (hid : ρ.holders id id') :
    InStep source period ρ ρ s s' (claimConnection id s).2
      (claimConnection id' s').2 ∧
      ((∃ conn conn', (claimConnection id s).1 = .ok conn ∧
        (claimConnection id' s').1 = .ok conn' ∧ ρ.connections conn conn') ∨
      ∃ cause, (claimConnection id s).1 = .error cause ∧
        (claimConnection id' s').1 = .error cause) := by
  rw [claimConnection, claimConnection]
  rcases (hs.holders id id' hid).claim with
      ⟨x, x', hx, hx', hclaimed⟩ | ⟨reason, hx, hx'⟩
  · have hset := InStep.setHolder hs hid hclaimed
    simp only [hx, hx']
    rcases hclaimed.held with
        ⟨conn, conn', hheld, hheld', hconn⟩ | ⟨hheld, hheld'⟩
    · simp only [hheld, hheld']
      exact ⟨hset, Or.inl ⟨conn, conn', rfl, rfl, hconn⟩⟩
    · simp only [hheld, hheld']
      exact ⟨hset, Or.inr ⟨_, rfl, rfl⟩⟩
  · simp only [hx, hx']
    exact ⟨.refl hs, Or.inr ⟨_, rfl, rfl⟩⟩

/-- A connection is obtained on both sides, or on neither. -/
theorem obtainConnection_inStep (c : Coordinator)
    (hs : s.Mirrors c.source.id period ρ s') (hh : h.Mirrors ρ.holders h') :
    ∃ ρ₁, InStep c.source.id period ρ ρ₁ s s' (c.obtainConnection h s).2.2
        (c.obtainConnection h' s').2.2 ∧
      (c.obtainConnection h s).2.1.Mirrors ρ₁.holders
        (c.obtainConnection h' s').2.1 ∧
      ((∃ conn conn', (c.obtainConnection h s).1 = .ok conn ∧
        (c.obtainConnection h' s').1 = .ok conn' ∧ ρ₁.connections conn conn') ∨
      ∃ cause, (c.obtainConnection h s).1 = .error cause ∧
        (c.obtainConnection h' s').1 = .error cause) := by
  rw [obtainConnection, obtainConnection]
  rcases rel_cases (reusableHolder_inStep hs hh) with
    ⟨hnone, hnone'⟩ | ⟨id, id', hid, hid', hholder⟩
  · simp only [hnone, hnone']
    rcases InStep.create hs with ⟨fault, s₁, s₁', hcreate, hcreate', hstep⟩ |
      ⟨conn, conn', s₁, s₁', hcreate, hcreate', hstep⟩
    · simp only [hcreate, hcreate']
      exact ⟨ρ, hstep, hh, Or.inr ⟨_, rfl, rfl⟩⟩
    · simp only [hcreate, hcreate']
      have hsaid :=
        hstep.trans (InStep.say hstep.mirrors (.acquired conn)
          (.acquired conn'))
      have hconn : (ρ.withConnection conn conn').connections conn conn' :=
        Or.inr ⟨rfl, rfl⟩
      have hclaimed : Holder.Mirrors (ρ.withConnection conn conn').connections
          ((s₁'.say (.acquired conn')).now < period.stop)
          { Holder.of conn with stage := .claimed }
          { Holder.of conn' with stage := .claimed } :=
        ⟨.some hconn, rfl, rfl, fun _ => rfl⟩
      have hadded := hsaid.trans (InStep.addHolder hsaid.mirrors hclaimed)
      exact ⟨_, hadded,
        { hh with holder := .some (Or.inr ⟨rfl, rfl⟩), ownsHolder := rfl },
        Or.inl ⟨conn, conn', rfl, rfl, hconn⟩⟩
  · simp only [hid, hid']
    obtain ⟨hstep, hanswer⟩ := claimConnection_inStep hs hholder
    exact ⟨ρ, hstep, hh, hanswer⟩

/-! ## A beginning that fails -/

theorem discard_inStep (c : Coordinator)
    (hs : s.Mirrors c.source.id period ρ s') (hconn : ρ.connections conn conn')
    (hh : h.Mirrors ρ.holders h') :
    (c.discard conn h s).1.Mirrors ρ.holders (c.discard conn' h' s').1 ∧
      InStep c.source.id period ρ ρ s s' (c.discard conn h s).2
        (c.discard conn' h' s').2 := by
  rw [discard, discard]
  refine ⟨{ hh with holder := .none, ownsHolder := rfl }, ?_⟩
  have hsaid := InStep.say hs (.releasingAfterFailedBegin conn)
    (.releasingAfterFailedBegin conn')
  obtain ⟨hanswer, hstep⟩ := InStep.release hsaid.mirrors hconn
  have hreleased :=
    hsaid.trans (hstep.restoring hanswer .releaseAfterFailedBegin)
  rcases rel_cases hh.holder with
      ⟨hnone, hnone'⟩ | ⟨id, id', hid, hid', hholder⟩
  · simp only [hnone, hnone']
    exact hreleased
  · simp only [hid, hid']
    exact hreleased.trans (.setHolder hreleased.mirrors hholder (.cleared _ _))

theorem abandon_inStep (c : Coordinator)
    (hs : s.Mirrors c.source.id period ρ s') (hconn : ρ.connections conn conn')
    (hh : h.Mirrors ρ.holders h') (driverBegan : Bool) :
    (c.abandon driverBegan conn h s).1.Mirrors ρ.holders
        (c.abandon driverBegan conn' h' s').1 ∧
      InStep c.source.id period ρ ρ s s' (c.abandon driverBegan conn h s).2
        (c.abandon driverBegan conn' h' s').2 := by
  have hquiet : ∀ {t t' : State}, t.Mirrors c.source.id period ρ t' →
      (c.abandon false conn h t).1.Mirrors ρ.holders
        (c.abandon false conn' h' t').1 ∧
        InStep c.source.id period ρ ρ t t' (c.abandon false conn h t).2
          (c.abandon false conn' h' t').2 := by
    intro t t' ht
    obtain ⟨hrestored, hsession⟩ := InStep.restoreSession ht hconn hh
    simp only [abandon, Bool.false_eq_true, if_false, hrestored.ownsHolder]
    split
    · obtain ⟨hdiscarded, hlast⟩ :=
        c.discard_inStep hsession.mirrors hconn hrestored
      exact ⟨hdiscarded, hsession.trans hlast⟩
    · rcases rel_cases hrestored.holder with
          ⟨hnone, hnone'⟩ | ⟨id, id', hid, hid', hholder⟩
      · simp only [hnone, hnone']
        exact ⟨hrestored, hsession⟩
      · simp only [hid, hid']
        exact ⟨hrestored, hsession.trans (.setHolder hsession.mirrors hholder
          (hsession.mirrors.holders id id' hholder).released)⟩
  cases driverBegan with
  | false => exact hquiet hs
  | true =>
      obtain ⟨hanswer, hstep⟩ := InStep.call hs hconn .rollback
      have hrolledBack := hstep.restoring hanswer .rollBackFailedBegin
      obtain ⟨hhandle, hlast⟩ := hquiet hrolledBack.mirrors
      exact ⟨hhandle, hrolledBack.trans hlast⟩

/-! ## A beginning -/

theorem started_inStep (hs : s.Mirrors source period ρ s')
    (hconn : ρ.connections conn conn') (hh : h.Mirrors ρ.holders h')
    (d : Definition) :
    Progress.InStep source period ρ s s' (started d conn h s)
      (started d conn' h' s') := by
  have hisolation := requestIsolation_inStep hs hconn hh d
  have hauto := hisolation.andThen
    (disableAutoCommit_inStep hisolation.state.mirrors hconn hisolation.handle)
  exact hauto.andThen
    (beginOnDriver_inStep hauto.state.mirrors hconn hauto.handle)

theorem afterStart_inStep {c : Coordinator} {d : Definition}
    (hsteady : c.SteadyIn period d) (hconn : ρ.connections conn conn')
    {p p' : Progress} (hp : Progress.InStep c.source.id period ρ s s' p p') :
    InStep c.source.id period ρ ρ s s' (c.afterStart d conn p).2.2
        (c.afterStart d conn' p').2.2 ∧
      (c.afterStart d conn p).2.1.Mirrors ρ.holders
        (c.afterStart d conn' p').2.1 ∧
      (c.afterStart d conn' p').1 = (c.afterStart d conn p).1 := by
  have hready := (enforceReadOnly_inStep c hp.state.mirrors hconn hp.handle d)
  have hlast :=
    hready.andThen (activate_inStep hsteady hready.state.mirrors hready.handle)
  rw [afterStart, afterStart, hp.outcome]
  cases p.outcome with
  | error cause =>
      obtain ⟨hhandle, hstep⟩ :=
        c.abandon_inStep hp.state.mirrors hconn hp.handle false
      exact ⟨hp.state.trans hstep, hhandle, rfl⟩
  | ok _ =>
      simp only [hlast.outcome]
      split
      · obtain ⟨hhandle, hstep⟩ :=
          c.abandon_inStep hlast.state.mirrors hconn hlast.handle true
        exact ⟨hp.state.trans (hlast.state.trans hstep), hhandle, rfl⟩
      · exact ⟨hp.state.trans hlast.state,
          { hlast.handle with began := rfl }, rfl⟩

/-- A beginning fails on both sides, for the same reason, or on neither. -/
theorem begin_inStep {c : Coordinator} {d : Definition}
    (hsteady : c.SteadyIn period d) (hs : s.Mirrors c.source.id period ρ s')
    (hh : h.Mirrors ρ.holders h') :
    ∃ ρ₁, InStep c.source.id period ρ ρ₁ s s' (c.begin d h s).2.2
      (c.begin d h' s').2.2 ∧
      (c.begin d h s).2.1.Mirrors ρ₁.holders (c.begin d h' s').2.1 ∧
      (c.begin d h' s').1 = (c.begin d h s).1 := by
  obtain ⟨ρ₁, hobtained, hhandle, hanswer⟩ := c.obtainConnection_inStep hs hh
  refine ⟨ρ₁, ?_⟩
  cases hresult : c.obtainConnection h s with
  | mk answer rest =>
  cases hresult' : c.obtainConnection h' s' with
  | mk answer' rest' =>
  obtain ⟨h₁, s₁⟩ := rest
  obtain ⟨h₁', s₁'⟩ := rest'
  rw [hresult, hresult'] at hobtained hhandle hanswer
  rcases hanswer with ⟨conn, conn', hok, hok', hconn⟩ | ⟨cause, herror, herror'⟩
  · obtain rfl : answer = .ok conn := hok
    obtain rfl : answer' = .ok conn' := hok'
    rw [begin_of_obtained hresult, begin_of_obtained hresult']
    obtain ⟨hstep, hbegun, hsame⟩ := afterStart_inStep hsteady hconn
      (started_inStep hobtained.mirrors hconn hhandle d)
    exact ⟨hobtained.trans hstep, hbegun, hsame⟩
  · obtain rfl : answer = .error cause := herror
    obtain rfl : answer' = .error cause := herror'
    rw [begin, begin, hresult, hresult']
    exact ⟨hobtained, hhandle, rfl⟩

/-! ## The end of a transaction -/

/-- A commit or a rollback. -/
theorem finish_inStep (hs : s.Mirrors source period ρ s')
    (hh : h.Mirrors ρ.holders h') (task : String) (last : Call)
    (announcement : Connection → Line) :
    (finish task last announcement h' s').1 =
      (finish task last announcement h s).1 ∧
      InStep source period ρ ρ s s' (finish task last announcement h s).2
        (finish task last announcement h' s').2 := by
  rw [finish, finish]
  rcases hs.connectionOf hh with
      ⟨conn, conn', hheld, hheld', hconn⟩ | ⟨reason, hheld, hheld'⟩
  · simp only [hheld, hheld']
    have hsaid := InStep.say hs (announcement conn) (announcement conn')
    obtain ⟨hanswer, hstep⟩ := InStep.call hsaid.mirrors hconn last
    cases hcall : (s.say (announcement conn)).call conn last with
    | mk answer s₁ =>
    cases hcall' : (s'.say (announcement conn')).call conn' last with
    | mk answer' s₁' =>
    rw [hcall, hcall'] at hanswer hstep
    obtain rfl : answer' = answer := hanswer
    cases answer' <;> exact ⟨rfl, hsaid.trans hstep⟩
  · simp only [hheld, hheld']
    exact ⟨trivial, .refl hs⟩

theorem markRollbackOnly_inStep (hs : s.Mirrors source period ρ s')
    (hh : h.Mirrors ρ.holders h') :
    (markRollbackOnly h' s').1 = (markRollbackOnly h s).1 ∧
      (markRollbackOnly h s).2.1.Mirrors ρ.holders
        (markRollbackOnly h' s').2.1 ∧
      InStep source period ρ ρ s s' (markRollbackOnly h s).2.2
        (markRollbackOnly h' s').2.2 := by
  rw [markRollbackOnly, markRollbackOnly]
  rcases rel_cases hh.holder with
      ⟨hnone, hnone'⟩ | ⟨id, id', hid, hid', hholder⟩
  · simp only [hnone, hnone']
    exact ⟨trivial, hh, .refl hs⟩
  · simp only [hid, hid']
    have hsaid := InStep.say hs (.markingRollbackOnly (s.holders id).connection)
      (.markingRollbackOnly (s'.holders id').connection)
    exact ⟨trivial, { hh with holder := .some hholder, rollbackOnly := rfl },
      hsaid.trans (.setHolder hsaid.mirrors hholder
        (hs.holders id id' hholder).marked)⟩

theorem unbindHolder_inStep (c : Coordinator)
    (hs : s.Mirrors source period ρ s') {id id' : HolderId}
    (hid : ρ.holders id id') :
    InStep source period ρ ρ s s' (c.unbindHolder id s)
      (c.unbindHolder id' s') := by
  rw [unbindHolder, unbindHolder]
  simp only [rel_eq_some hs.oneHolder (hs.bound c.key) hid]
  split
  · exact .unbind hs c.key
  · exact .refl hs

theorem restoreConnection_inStep (c : Coordinator)
    (hs : s.Mirrors c.source.id period ρ s') (hconn : ρ.connections conn conn')
    (hh : h.Mirrors ρ.holders h') :
    InStep c.source.id period ρ ρ s s' (c.restoreConnection conn h s)
      (c.restoreConnection conn' h' s') := by
  have hrestored := (InStep.restoreSession hs hconn hh).2
  rw [restoreConnection, restoreConnection]
  simp only [hh.ownsHolder]
  split
  · have hsaid := hrestored.trans
      (InStep.say hrestored.mirrors (.releasing conn) (.releasing conn'))
    obtain ⟨hanswer, hstep⟩ := InStep.release hsaid.mirrors hconn
    exact hsaid.trans (hstep.restoring hanswer .release)
  · exact hrestored

theorem settle_mirrors (hh : h.Mirrors ρ.holders h') {timely : Prop}
    {x x' : Holder Connection} (hx : x.Mirrors ρ.connections timely x') :
    (settle h x).Mirrors ρ.connections timely (settle h' x') := by
  rw [settle, settle, hh.ownsHolder, hh.began]
  split
  · exact .cleared x x'
  · split
    · exact hx.released
    · exact hx

theorem released_inStep (c : Coordinator) (hs : s.Mirrors source period ρ s')
    (hh : h.Mirrors ρ.holders h') {id id' : HolderId} (hid : ρ.holders id id') :
    InStep source period ρ ρ s s' (c.released h id s)
      (c.released h' id' s') := by
  rw [released, released, hh.ownsHolder]
  split
  · exact c.unbindHolder_inStep hs hid
  · exact .refl hs

theorem restored_inStep (c : Coordinator)
    (hs : s.Mirrors c.source.id period ρ s') (hh : h.Mirrors ρ.holders h')
    {id id' : HolderId} (hid : ρ.holders id id') :
    InStep c.source.id period ρ ρ s s' (c.restored h id s)
      (c.restored h' id' s') := by
  rw [restored, restored]
  rcases rel_cases (hs.holders id id' hid).connection with
    ⟨hnone, hnone'⟩ | ⟨conn, conn', hsome, hsome', hconn⟩
  · simp only [hnone, hnone']
    exact .refl hs
  · simp only [hsome, hsome']
    exact c.restoreConnection_inStep hs hconn hh

theorem cleanup_inStep (c : Coordinator)
    (hs : s.Mirrors c.source.id period ρ s') (hh : h.Mirrors ρ.holders h') :
    InStep c.source.id period ρ ρ s s' (c.cleanup h s) (c.cleanup h' s') := by
  rcases rel_cases hh.holder with
      ⟨hnone, hnone'⟩ | ⟨id, id', hid, hid', hholder⟩
  · rw [cleanup, cleanup, hnone, hnone']
    exact .refl hs
  · rw [cleanup_eq hid, cleanup_eq hid']
    have hreleased := c.released_inStep hs hh hholder
    have hrestored :=
      hreleased.trans (c.restored_inStep hreleased.mirrors hh hholder)
    exact hrestored.trans (.setHolder hrestored.mirrors hholder
      (settle_mirrors hh (hrestored.mirrors.holders id id' hholder)))

/-! ## Looking, suspending and resuming -/

theorem discover_mirrors (c : Coordinator) (hs : s.Mirrors source period ρ s') :
    (c.discover s).Mirrors ρ.holders (c.discover s') :=
  ⟨hs.bound c.key, rfl, rfl, rfl, rfl, rfl⟩

theorem suspend_inStep (c : Coordinator) (hs : s.Mirrors source period ρ s')
    (hh : h.Mirrors ρ.holders h') :
    Option.Rel ρ.holders (c.suspend h s).1 (c.suspend h' s').1 ∧
      (c.suspend h s).2.1.Mirrors ρ.holders (c.suspend h' s').2.1 ∧
      InStep source period ρ ρ s s' (c.suspend h s).2.2
        (c.suspend h' s').2.2 := by
  refine ⟨?_, { hh with holder := .none }, InStep.unbind hs c.key⟩
  show Option.Rel ρ.holders (s.unbind c.key).1 (s'.unbind c.key).1
  rw [State.unbind_fst, State.unbind_fst]
  exact hs.bound c.key

theorem resume_inStep (c : Coordinator) (hs : s.Mirrors source period ρ s')
    {id id' : HolderId} (hid : ρ.holders id id') :
    (c.resume id' s').1 = (c.resume id s).1 ∧
      InStep source period ρ ρ s s' (c.resume id s).2 (c.resume id' s').2 := by
  rw [resume, resume]
  rcases InStep.bind hs c.key hid with
      ⟨s₁, s₁', hbind, hbind', hstep⟩ | ⟨hbind, hbind'⟩
  · rw [hbind, hbind']
    exact ⟨rfl, hstep⟩
  · rw [hbind, hbind']
    exact ⟨rfl, .refl hs⟩

end Coordinator

/-! ## Connections for data access -/

/-- The bound connection is the same on both sides, and so is whether it is a
given one. -/
theorem State.Mirrors.isTransactional (hs : s.Mirrors source period ρ s')
    (hconn : ρ.connections conn conn') (key : Key) :
    s'.isTransactional key conn' = s.isTransactional key conn := by
  rw [State.isTransactional, State.isTransactional]
  rcases rel_cases (hs.bound key) with
      ⟨hnone, hnone'⟩ | ⟨id, id', hid, hid', hholder⟩
  · rw [hnone, hnone']
  · simp only [hid, hid']
    simp only [rel_eq_some hs.oneConnection
      (hs.holders id id' hholder).connection hconn]

namespace Source

theorem boundConnection_mirrors (place : Source)
    (hs : s.Mirrors source period ρ s') :
    Option.Rel ρ.connections (place.boundConnection s)
      (place.boundConnection s') := by
  rw [boundConnection, boundConnection]
  rcases rel_cases (hs.bound place.key) with
      ⟨hnone, hnone'⟩ | ⟨id, id', hid, hid', hholder⟩
  · rw [hnone, hnone']
    exact .none
  · rw [hid, hid']
    exact (hs.holders id id' hholder).connection

/-- The bound connection on both sides, or a fresh one on both, or the same
error. -/
theorem getConnection_inStep (place : Source)
    (hs : s.Mirrors place.id period ρ s') :
    ∃ ρ₁, InStep place.id period ρ ρ₁ s s' (place.getConnection s).2
        (place.getConnection s').2 ∧
      ((∃ conn conn', (place.getConnection s).1 = .ok conn ∧
        (place.getConnection s').1 = .ok conn' ∧ ρ₁.connections conn conn') ∨
      ∃ e, (place.getConnection s).1 = .error e ∧
        (place.getConnection s').1 = .error e) := by
  rw [getConnection, getConnection]
  rcases rel_cases (place.boundConnection_mirrors hs) with
    ⟨hnone, hnone'⟩ | ⟨conn, conn', hsome, hsome', hconn⟩
  · rw [hnone, hnone']
    rcases InStep.create hs with ⟨fault, s₁, s₁', hcreate, hcreate', hstep⟩ |
      ⟨conn, conn', s₁, s₁', hcreate, hcreate', hstep⟩
    · simp only [hcreate, hcreate']
      exact ⟨ρ, hstep, Or.inr ⟨_, rfl, rfl⟩⟩
    · simp only [hcreate, hcreate']
      exact ⟨_, hstep.trans
        (InStep.say hstep.mirrors (.fetched conn) (.fetched conn')),
        Or.inl ⟨conn, conn', rfl, rfl, Or.inr ⟨rfl, rfl⟩⟩⟩
  · rw [hsome, hsome']
    exact ⟨ρ, .refl hs, Or.inl ⟨conn, conn', rfl, rfl, hconn⟩⟩

theorem releaseConnection_inStep (place : Source)
    (hs : s.Mirrors place.id period ρ s') (hconn : ρ.connections conn conn') :
    (place.releaseConnection conn' s').1 = (place.releaseConnection conn s).1 ∧
      InStep place.id period ρ ρ s s' (place.releaseConnection conn s).2
        (place.releaseConnection conn' s').2 := by
  rw [releaseConnection, releaseConnection, hs.isTransactional hconn]
  split
  · exact ⟨rfl, .refl hs⟩
  · obtain ⟨hanswer, hstep⟩ := InStep.release hs hconn
    cases hrelease : s.release place.id conn with
    | mk answer s₁ =>
    cases hrelease' : s'.release place.id conn' with
    | mk answer' s₁' =>
    rw [hrelease, hrelease'] at hanswer hstep
    obtain rfl : answer' = answer := hanswer
    cases answer' <;> exact ⟨rfl, hstep⟩

end Source

end UnitOfWork
