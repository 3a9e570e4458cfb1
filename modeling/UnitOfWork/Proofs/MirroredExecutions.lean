import UnitOfWork.Proofs.UserWork

/-!
# Executions on two sides

Work is discreet if on two states that mirror each other it comes to the same
end, and leaves two states that do so again.  An execution of discreet work is
discreet itself, whichever course it takes, and so are errands.
-/

namespace UnitOfWork

variable {ε α : Type} {period : Period} {ρ ρ₁ : Renaming} {s s' : State}
variable {p p' : Pocket} {h h' : Handle} {c : Coordinator}

structure Scope.Mirrors (c : Coordinator) (ρ : Renaming)
    (scope scope' : Scope) : Prop where
  coordinator : scope.coordinator = c ∧ scope'.coordinator = c
  handle : Option.Rel (Handle.Mirrors ρ.holders) scope.handle scope'.handle
  isNew : scope'.isNew = scope.isNew

structure Run.InStep (source : SourceId) (period : Period) (ρ ρ₁ : Renaming)
    (s s' : State) (run run' : Run Pocket ε α) : Prop where
  finished : ∃ result, run.ending = .finished result ∧
    run'.ending = .finished result
  state : UnitOfWork.InStep source period ρ ρ₁ s s' run.state run'.state
  memory : run.memory.Mirrors ρ₁ run'.memory

/-- Work that cannot tell two states apart that mirror each other. -/
def Work.Discreet (c : Coordinator) (period : Period) (work : Work Pocket ε α) :
    Prop :=
  ∀ (ρ : Renaming) (s s' : State) (p p' : Pocket) (scope scope' : Scope),
    s.Mirrors c.source.id period ρ s' → p.Mirrors ρ p' →
    scope.Mirrors c ρ scope' →
    ∃ ρ₁, Run.InStep c.source.id period ρ ρ₁ s s' (work scope s p).2
      (work scope' s' p').2 ∧
      (work scope s p).1.Mirrors c ρ₁ (work scope' s' p').1

namespace Scope.Mirrors

variable {scope scope' : Scope}

theorem later {source : SourceId} {s₁ s₁' : State}
    (hscope : scope.Mirrors c ρ scope')
    (h : InStep source period ρ ρ₁ s s' s₁ s₁') : scope.Mirrors c ρ₁ scope' :=
  { hscope with handle := rel_imp (fun _ _ hh =>
    hh.mono h.holders) hscope.handle }

theorem markRollbackOnly {source : SourceId} (hscope : scope.Mirrors c ρ scope')
    (hs : s.Mirrors source period ρ s') :
    (scope'.markRollbackOnly s').1 = (scope.markRollbackOnly s).1 ∧
      (scope.markRollbackOnly s).2.1.Mirrors c ρ
        (scope'.markRollbackOnly s').2.1 ∧
      InStep source period ρ ρ s s' (scope.markRollbackOnly s).2.2
        (scope'.markRollbackOnly s').2.2 := by
  rw [Scope.markRollbackOnly, Scope.markRollbackOnly]
  rcases rel_cases hscope.handle with
      ⟨hnone, hnone'⟩ | ⟨h, h', hsome, hsome', hh⟩
  · simp only [hnone, hnone']
    exact ⟨trivial, hscope, .refl hs⟩
  · simp only [hsome, hsome']
    obtain ⟨hresult, hhandle, hstep⟩ :=
      Coordinator.markRollbackOnly_inStep hs hh
    exact ⟨hresult, { hscope with handle := .some hhandle }, hstep⟩

theorem isRollbackOnly {source : SourceId} (hscope : scope.Mirrors c ρ scope')
    (hs : s.Mirrors source period ρ s') :
    scope'.isRollbackOnly s' = scope.isRollbackOnly s := by
  rw [Scope.isRollbackOnly, Scope.isRollbackOnly]
  rcases rel_cases hscope.handle with
      ⟨hnone, hnone'⟩ | ⟨h, h', hsome, hsome', hh⟩
  · rw [hnone, hnone']
  · simp only [hsome, hsome', Handle.isRollbackOnly, hh.rollbackOnly,
      hs.isHolderRollbackOnly hh]

/-- The handle that a scope gives back, or the one that it was given. -/
theorem getD (hscope : scope.Mirrors c ρ scope') (hh : h.Mirrors ρ.holders h') :
    (scope.handle.getD h).Mirrors ρ.holders (scope'.handle.getD h') := by
  rcases rel_cases hscope.handle with
      ⟨hnone, hnone'⟩ | ⟨_, _, hsome, hsome', hgiven⟩
  · rw [hnone, hnone']
    exact hh
  · rw [hsome, hsome']
    exact hgiven

end Scope.Mirrors

namespace Run.InStep

variable {source : SourceId} {run run' : Run Pocket ε α} {s₁ s₁' : State}

/-- A run that starts where another pair of steps has led to. -/
theorem after {ρ₂ : Renaming}
    (h : UnitOfWork.InStep source period ρ ρ₁ s s' s₁ s₁')
    (hrun : Run.InStep source period ρ₁ ρ₂ s₁ s₁' run run') :
    Run.InStep source period ρ ρ₂ s s' run run' :=
  { hrun with state := h.trans hrun.state }

theorem failed (hstep : UnitOfWork.InStep source period ρ ρ₁ s s' s₁ s₁')
    (hp : p.Mirrors ρ₁ p') (e : TransactionError) :
    Run.InStep (ε := ε) (α := α) source period ρ ρ₁ s s' (.failed e s₁ p)
      (.failed e s₁' p') :=
  ⟨⟨_, rfl, rfl⟩, hstep, hp⟩

end Run.InStep

namespace Coordinator

/-! ## The end of an execution -/

theorem conclude_inStep (hs : s.Mirrors c.source.id period ρ s')
    (hp : p.Mirrors ρ p') {suspended suspended' : Option HolderId}
    (hsuspended : Option.Rel ρ.holders suspended suspended')
    (result : Except (Failure ε) α) :
    Run.InStep c.source.id period ρ ρ s s' (c.conclude suspended result s p)
      (c.conclude suspended' result s' p') := by
  rcases rel_cases hsuspended with ⟨rfl, rfl⟩ | ⟨id, id', rfl, rfl, hid⟩
  · exact ⟨⟨_, rfl, rfl⟩, .refl hs, hp⟩
  · rw [conclude, conclude]
    obtain ⟨hanswer, hstep⟩ := c.resume_inStep hs hid
    cases hresume : c.resume id s with
    | mk answer s₁ =>
    cases hresume' : c.resume id' s' with
    | mk answer' s₁' =>
    rw [hresume, hresume'] at hanswer hstep
    obtain rfl : answer' = answer := hanswer
    cases answer' with
    | ok _ => exact ⟨⟨_, rfl, rfl⟩, hstep, hp⟩
    | error e => exact .failed hstep hp e

theorem rollbackAnyway_inStep {source : SourceId}
    (hs : s.Mirrors source period ρ s') (hh : h.Mirrors ρ.holders h')
    (line : TransactionError → Line) :
    InStep source period ρ ρ s s' (rollbackAnyway line h s)
      (rollbackAnyway line h' s') := by
  obtain ⟨hanswer, hstep⟩ :=
    finish_inStep hs hh "rollback" .rollback .rollingBack
  rw [rollbackAnyway, rollbackAnyway, rollback, rollback]
  cases hfinish : finish "rollback" .rollback .rollingBack h s with
  | mk answer s₁ =>
  cases hfinish' : finish "rollback" .rollback .rollingBack h' s' with
  | mk answer' s₁' =>
  rw [hfinish, hfinish'] at hanswer hstep
  obtain rfl : answer' = answer := hanswer
  cases answer' with
  | ok _ => exact hstep
  | error e => exact hstep.trans (.say hstep.mirrors _ _)

theorem rollbackWith_inStep {source : SourceId}
    (hs : s.Mirrors source period ρ s') (hh : h.Mirrors ρ.holders h')
    (result : Except (Failure ε) α) :
    (rollbackWith h' result s').1 = (rollbackWith h result s).1 ∧
      InStep source period ρ ρ s s' (rollbackWith h result s).2
        (rollbackWith h' result s').2 := by
  obtain ⟨hanswer, hstep⟩ :=
    finish_inStep hs hh "rollback" .rollback .rollingBack
  rw [rollbackWith, rollbackWith, rollback, rollback]
  cases hfinish : finish "rollback" .rollback .rollingBack h s with
  | mk answer s₁ =>
  cases hfinish' : finish "rollback" .rollback .rollingBack h' s' with
  | mk answer' s₁' =>
  rw [hfinish, hfinish'] at hanswer hstep
  obtain rfl : answer' = answer := hanswer
  cases answer' <;> exact ⟨rfl, hstep⟩

theorem complete_inStep {source : SourceId} (hs : s.Mirrors source period ρ s')
    (hh : h.Mirrors ρ.holders h') (result : Except (Failure ε) α) :
    (complete h' result s').1 = (complete h result s).1 ∧
      InStep source period ρ ρ s s' (complete h result s).2
        (complete h' result s').2 := by
  cases result with
  | error failure => exact ⟨rfl, rollbackAnyway_inStep hs hh _⟩
  | ok value =>
      simp only [complete, hh.rollbackOnly, hs.isHolderRollbackOnly hh]
      split
      · have hsaid := InStep.say hs .rollbackRequested .rollbackRequested
        obtain ⟨hanswer, hstep⟩ :=
          rollbackWith_inStep hsaid.mirrors hh (.ok value)
        exact ⟨hanswer, hsaid.trans hstep⟩
      · split
        · have hsaid := InStep.say hs .rollbackImposed .rollbackImposed
          obtain ⟨hanswer, hstep⟩ := rollbackWith_inStep (α := α) hsaid.mirrors
            hh (.error (.transaction .unexpectedRollback))
          exact ⟨hanswer, hsaid.trans hstep⟩
        · obtain ⟨hanswer, hstep⟩ :=
            finish_inStep hs hh "commit" .commit .committing
          rw [commit, commit]
          cases hfinish : finish "commit" .commit .committing h s with
          | mk answer s₁ =>
          cases hfinish' : finish "commit" .commit .committing h' s' with
          | mk answer' s₁' =>
          rw [hfinish, hfinish'] at hanswer hstep
          obtain rfl : answer' = answer := hanswer
          cases answer' <;> exact ⟨rfl, hstep⟩

theorem close_inStep (hs : s.Mirrors c.source.id period ρ s')
    (hp : p.Mirrors ρ p') {suspended suspended' : Option HolderId}
    (hsuspended : Option.Rel ρ.holders suspended suspended')
    (hh : h.Mirrors ρ.holders h') (result : Except (Failure ε) α) :
    Run.InStep c.source.id period ρ ρ s s'
      (c.close suspended h (complete h result s) p)
      (c.close suspended' h' (complete h' result s') p') := by
  obtain ⟨hresult, hcompleted⟩ := complete_inStep hs hh result
  have hcleaned := hcompleted.trans (c.cleanup_inStep hcompleted.mirrors hh)
  rw [close, close, hresult]
  exact .after hcleaned (conclude_inStep hcleaned.mirrors hp hsuspended _)

/-! ## The courses of an execution -/

variable {work : Work Pocket ε α}

theorem runWithout_inStep (hwork : work.Discreet c period)
    (hs : s.Mirrors c.source.id period ρ s') (hp : p.Mirrors ρ p') :
    ∃ ρ₁, Run.InStep c.source.id period ρ ρ₁ s s' (c.runWithout work s p)
      (c.runWithout work s' p') := by
  obtain ⟨ρ₁, hrun, -⟩ := hwork ρ s s' p p' (.without c) (.without c) hs hp
    ⟨⟨rfl, rfl⟩, .none, rfl⟩
  exact ⟨ρ₁, hrun⟩

theorem runJoining_inStep (hwork : work.Discreet c period) (d : Definition)
    (hs : s.Mirrors c.source.id period ρ s') (hp : p.Mirrors ρ p')
    (hh : h.Mirrors ρ.holders h') :
    ∃ ρ₁, Run.InStep c.source.id period ρ ρ₁ s s' (c.runJoining d h work s p)
      (c.runJoining d h' work s' p') := by
  have hsaid := InStep.say hs (.participating d.name) (.participating d.name)
  obtain ⟨ρ₁, hrun, hscope⟩ := hwork ρ _ _ p p' (.joining c h) (.joining c h')
    hsaid.mirrors hp ⟨⟨rfl, rfl⟩, .some hh, rfl⟩
  obtain ⟨result, hending, hending'⟩ := hrun.finished
  have hworked := hsaid.trans hrun.state
  refine ⟨ρ₁, ?_⟩
  simp only [runJoining, Run.afterFinish, hending, hending']
  cases result with
  | ok value => exact ⟨⟨_, rfl, rfl⟩, hworked, hrun.memory⟩
  | error failure =>
      have hfailed := hworked.trans
        (InStep.say hworked.mirrors .participantFailed .participantFailed)
      obtain ⟨hanswer, -, hmarked⟩ := hscope.markRollbackOnly hfailed.mirrors
      have hall := hfailed.trans hmarked
      dsimp only
      generalize (work (.joining c h) (s.say (.participating d.name))
        p).1.markRollbackOnly _ = marked at hanswer hall ⊢
      generalize (work (.joining c h') (s'.say (.participating d.name))
        p').1.markRollbackOnly _ = marked' at hanswer hall ⊢
      obtain ⟨answer, scope, s₂⟩ := marked
      obtain ⟨answer', scope', s₂'⟩ := marked'
      obtain rfl : answer' = answer := hanswer
      cases answer' with
      | ok _ => exact ⟨⟨_, rfl, rfl⟩, hall, hrun.memory⟩
      | error e => exact .failed hall hrun.memory e

theorem runBegun_inStep (hwork : work.Discreet c period)
    (hs : s.Mirrors c.source.id period ρ s') (hp : p.Mirrors ρ p')
    {suspended suspended' : Option HolderId}
    (hsuspended : Option.Rel ρ.holders suspended suspended')
    (hh : h.Mirrors ρ.holders h') :
    ∃ ρ₁, Run.InStep c.source.id period ρ ρ₁ s s'
      (c.runBegun suspended h work s p)
      (c.runBegun suspended' h' work s' p') := by
  obtain ⟨ρ₁, hrun, hscope⟩ := hwork ρ s s' p p' (.beginning c h)
    (.beginning c h') hs hp ⟨⟨rfl, rfl⟩, .some hh, rfl⟩
  obtain ⟨result, hending, hending'⟩ := hrun.finished
  refine ⟨ρ₁, ?_⟩
  simp only [runBegun, hending, hending']
  exact .after hrun.state (close_inStep hrun.state.mirrors hrun.memory
    (rel_imp hrun.state.holders hsuspended)
    (hscope.getD (hh.mono hrun.state.holders)) result)

theorem runNew_inStep (hwork : work.Discreet c period) {d : Definition}
    (hsteady : c.SteadyIn period d) (hs : s.Mirrors c.source.id period ρ s')
    (hp : p.Mirrors ρ p') {suspended suspended' : Option HolderId}
    (hsuspended : Option.Rel ρ.holders suspended suspended')
    (hh : h.Mirrors ρ.holders h') :
    ∃ ρ₁, Run.InStep c.source.id period ρ ρ₁ s s'
      (c.runNew d suspended h work s p)
      (c.runNew d suspended' h' work s' p') := by
  have hsaid := InStep.say hs (.creating d.name) (.creating d.name)
  obtain ⟨ρ₁, hstep, hhandle, hanswer⟩ := begin_inStep hsteady hsaid.mirrors hh
  have hbegun := hsaid.trans hstep
  have haside := rel_imp hbegun.holders hsuspended
  have hpocket := hp.later hbegun
  rw [runNew, runNew]
  cases hbegin : c.begin d h (s.say (.creating d.name)) with
  | mk answer rest =>
  cases hbegin' : c.begin d h' (s'.say (.creating d.name)) with
  | mk answer' rest' =>
  rw [hbegin, hbegin'] at hhandle hanswer hbegun
  obtain ⟨h₁, s₁⟩ := rest
  obtain ⟨h₁', s₁'⟩ := rest'
  obtain rfl : answer' = answer := hanswer
  cases answer' with
  | ok _ =>
      obtain ⟨ρ₂, hrun⟩ :=
        runBegun_inStep hwork hbegun.mirrors hpocket haside hhandle
      exact ⟨ρ₂, .after hbegun hrun⟩
  | error e =>
      refine ⟨ρ₁, ?_⟩
      rcases rel_cases haside with ⟨rfl, rfl⟩ | ⟨id, id', rfl, rfl, hid⟩
      · exact .failed hbegun hpocket e
      · obtain ⟨hresumed, hlast⟩ := c.resume_inStep hbegun.mirrors hid
        have hall := hbegun.trans hlast
        dsimp only
        generalize c.resume id s₁ = resumed at hresumed hall ⊢
        generalize c.resume id' s₁' = resumed' at hresumed hall ⊢
        obtain ⟨answer, s₂⟩ := resumed
        obtain ⟨answer', s₂'⟩ := resumed'
        obtain rfl : answer' = answer := hresumed
        cases answer' with
        | ok _ => exact .failed hall hpocket e
        | error resumeError =>
            exact .failed (hall.trans (.say hall.mirrors _ _)) hpocket e

theorem executeWithin_inStep (hwork : work.Discreet c period) {d : Definition}
    (hsteady : c.SteadyIn period d) (hs : s.Mirrors c.source.id period ρ s')
    (hp : p.Mirrors ρ p') (hh : h.Mirrors ρ.holders h') :
    ∃ ρ₁, Run.InStep c.source.id period ρ ρ₁ s s' (c.executeWithin d h work s p)
      (c.executeWithin d h' work s' p') := by
  obtain ⟨hsuspended, -, haside⟩ := c.suspend_inStep hs hh
  rw [executeWithin, executeWithin]
  cases d.propagation with
  | never => exact ⟨ρ, .failed (.refl hs) hp _⟩
  | notSupported =>
      obtain ⟨ρ₁, hrun⟩ := runWithout_inStep hwork haside.mirrors hp
      obtain ⟨result, hending, hending'⟩ := hrun.finished
      refine ⟨ρ₁, ?_⟩
      simp only [Run.afterFinish, hending, hending']
      exact .after (haside.trans hrun.state)
        (conclude_inStep hrun.state.mirrors hrun.memory
        (rel_imp hrun.state.holders hsuspended) result)
  | requiresNew =>
      obtain ⟨ρ₁, hrun⟩ := runNew_inStep hwork hsteady haside.mirrors hp
        hsuspended (c.discover_mirrors haside.mirrors)
      exact ⟨ρ₁, .after haside hrun⟩
  | required => exact runJoining_inStep hwork d hs hp hh
  | supports => exact runJoining_inStep hwork d hs hp hh
  | mandatory => exact runJoining_inStep hwork d hs hp hh

theorem executeAlone_inStep (hwork : work.Discreet c period) {d : Definition}
    (hsteady : c.SteadyIn period d) (hs : s.Mirrors c.source.id period ρ s')
    (hp : p.Mirrors ρ p') (hh : h.Mirrors ρ.holders h') :
    ∃ ρ₁, Run.InStep c.source.id period ρ ρ₁ s s' (c.executeAlone d h work s p)
      (c.executeAlone d h' work s' p') := by
  rw [executeAlone, executeAlone]
  cases d.propagation with
  | mandatory => exact ⟨ρ, .failed (.refl hs) hp _⟩
  | required => exact runNew_inStep hwork hsteady hs hp .none hh
  | requiresNew => exact runNew_inStep hwork hsteady hs hp .none hh
  | supports => exact runWithout_inStep hwork hs hp
  | notSupported => exact runWithout_inStep hwork hs hp
  | never => exact runWithout_inStep hwork hs hp

/-- An execution of discreet work comes to the same end on both sides. -/
theorem execute_inStep (hwork : work.Discreet c period) {d : Definition}
    (hsteady : c.SteadyIn period d) (hs : s.Mirrors c.source.id period ρ s')
    (hp : p.Mirrors ρ p') :
    ∃ ρ₁, Run.InStep c.source.id period ρ ρ₁ s s' (c.execute d work s p)
      (c.execute d work s' p') := by
  have hh := c.discover_mirrors hs
  rw [execute, execute, hs.isActive hh]
  split
  · exact executeWithin_inStep hwork hsteady hs hp hh
  · exact executeAlone_inStep hwork hsteady hs hp hh

end Coordinator

theorem Errand.Step.take_inStep {scope scope' : Scope} (step : Errand.Step)
    (hsteady : ∀ d, step.definition? = some d → c.SteadyIn period d)
    (hs : s.Mirrors c.source.id period ρ s') (hp : p.Mirrors ρ p')
    (hscope : scope.Mirrors c ρ scope') :
    ∃ ρ₁, Done.InStep c.source.id period ρ ρ₁ s s' (step.take c scope s p).2
        (step.take c scope' s' p').2 ∧
      (step.take c scope s p).1.Mirrors c ρ₁ (step.take c scope' s' p').1 := by
  cases step with
  | act a =>
      obtain ⟨ρ₁, hdone⟩ := Act.perform_inStep hsteady hs hp
      exact ⟨ρ₁, hdone, hscope.later hdone.state⟩
  | markRollbackOnly =>
      obtain ⟨hresult, hmarked, hstep⟩ := hscope.markRollbackOnly hs
      exact ⟨ρ, ⟨congrArg Reply.ofResult hresult, hstep, hp⟩, hmarked⟩
  | look =>
      refine ⟨ρ, ⟨?_, .refl hs, hp⟩, hscope⟩
      simp only [take, Scope.hasTransaction, rel_isSome hscope.handle,
        hscope.isNew, hscope.isRollbackOnly hs]

/-- Errands are discreet. -/
theorem Errand.discreet {errand : Errand ε α}
    (hsteady : errand.Asks (c.SteadyIn period)) :
    (errand.run c).Discreet c period := by
  induction errand with
  | finish result =>
      intro ρ s s' p p' scope scope' hs hp hscope
      exact ⟨ρ, ⟨⟨result, rfl, rfl⟩, .refl hs, hp⟩, hscope⟩
  | step first next ih =>
      intro ρ s s' p p' scope scope' hs hp hscope
      obtain ⟨ρ₁, hdone, hscope₁⟩ := first.take_inStep hsteady.1 hs hp hscope
      obtain ⟨ρ₂, hrest, hlast⟩ := ih _ (hsteady.2 _) ρ₁
        _ _ _ _ _ _ hdone.state.mirrors hdone.pocket hscope₁
      refine ⟨ρ₂, ?_⟩
      rw [Errand.run, Errand.run]
      dsimp only
      rw [hdone.reply]
      exact ⟨.after hdone.state hrest, hlast⟩
  | execute d body next ihBody ihNext =>
      intro ρ s s' p p' scope scope' hs hp hscope
      obtain ⟨ρ₁, hrun⟩ :=
        Coordinator.execute_inStep (ihBody hsteady.2.1) hsteady.1 hs hp
      obtain ⟨result, hending, hending'⟩ := hrun.finished
      obtain ⟨ρ₂, hrest, hlast⟩ := ihNext result (hsteady.2.2 result) ρ₁
        _ _ _ _ scope scope' hrun.state.mirrors hrun.memory
        (hscope.later hrun.state)
      refine ⟨ρ₂, ?_⟩
      rw [Errand.run, Errand.run]
      simp only [hending, hending']
      exact ⟨.after hrun.state hrest, hlast⟩

end UnitOfWork
