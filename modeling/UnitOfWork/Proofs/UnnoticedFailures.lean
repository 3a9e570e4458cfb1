import Mathlib.Data.List.Forall2
import UnitOfWork.Proofs.Compensation
import UnitOfWork.Proofs.PropagationStack

/-!
# Failures that nobody notices

No outcome hangs on a call that only puts things back.  `Plan.sights` is all
that the works of a tree of executions are shown: where each of them is started,
what its scope and the holders look like after every step, and how each
execution in it comes back.  Two trees that differ only in when the faults of
such calls are switched on and off, started in states that are alike, show the
same sights and come to the same end.

For the result of work that fails there is more to say: it is the result of the
execution, whatever else fails.
-/

namespace UnitOfWork

/-! ## Where every bound holder is in use -/

/-- A transaction runs on every bound holder, so that no beginning finds one to
begin on. -/
def State.Busy (s : State) : Prop :=
  ∀ key id, s.boundHolder key = some id →
    id < s.nextHolder ∧ (s.holders id).stage = .active

namespace State.Busy

variable {s s' : State} {c : Coordinator} {d : Definition}
variable {suspended : Option HolderId}

theorem of_empty (hempty : ∀ key, s.boundHolder key = none) : s.Busy := by
  intro key id hbound
  simp [hempty] at hbound

theorem boundExist (hs : s.Busy) : s.BoundExist :=
  fun key id hbound => (hs key id hbound).1

theorem later (hs : s.Busy) (hkeeps : Keeps (fun _ => False) s s') :
    s'.Busy := by
  intro key id hbound
  obtain ⟨hid, hactive⟩ := hs key id (hkeeps.bound key id hbound)
  exact ⟨Nat.lt_of_lt_of_le hid hkeeps.nextHolder,
    (hkeeps.stage id hid).trans hactive⟩

theorem setAside (hs : s.Busy) (c : Coordinator) (suspended : Option HolderId) :
    (c.setAside suspended s).Busy := by
  intro key id hbound
  rw [Coordinator.boundHolder_setAside] at hbound
  split at hbound
  · cases hbound
  · simpa using hs key id hbound

/-- A beginning finds no holder: the bound one has been set aside, if there was
one. -/
theorem blank_holder (hs : s.Busy)
    (hcourse : c.course d s = .begins suspended) :
    (c.blank suspended s).holder = none := by
  show (c.setAside suspended s).boundHolder c.key = none
  rw [Coordinator.boundHolder_setAside]
  cases suspended with
  | some id => simp
  | none =>
      have hnone := Coordinator.running_eq_none_of_course (Or.inr hcourse)
      cases hbound : s.boundHolder c.key with
      | none => simp
      | some id =>
          have hrunning : c.running s = some id :=
            Coordinator.running_eq_some_iff.mpr ⟨hbound, (hs c.key id hbound).2⟩
          simp [hnone] at hrunning

theorem begun (hs : s.Busy) {h : Handle} {s₁ : State}
    (hbegin : c.begin d (c.blank suspended s) (c.entrance d suspended s) =
      (.ok (), h, s₁)) :
    s₁.Busy := by
  obtain ⟨conn, id, hbegun⟩ := Coordinator.begun_of_ok hbegin
  have haside : (c.entrance d suspended s).Busy := hs.setAside c suspended
  have hexist := hbegun.boundExist hs.boundExist
  intro key other hbound
  refine ⟨hexist key other hbound, ?_⟩
  rw [hbegun.bound] at hbound
  by_cases hother : other = id
  · rw [hother]
    exact hbegun.stage
  · rw [hbegun.others other hother]
    split at hbound
    · exact absurd (Option.some.inj hbound).symm hother
    · exact (haside key other hbound).2

end State.Busy

namespace Coordinator

variable {c : Coordinator} {d : Definition} {s : State}

theorem entered_of_mem {entry : Scope × State} (h : entry ∈ c.entries d s) :
    c.Entered d s entry.1 entry.2 := by
  rw [entries] at h
  split at h
  · cases h
  · next hcourse =>
      obtain rfl := List.mem_singleton.mp h
      exact .joining hcourse
  · next hcourse =>
      obtain rfl := List.mem_singleton.mp h
      exact .alone hcourse
  · next hcourse =>
      split at h
      · next hbegin =>
          obtain rfl := List.mem_singleton.mp h
          exact .begun hcourse hbegin
      · cases h

theorem Entered.busy {scope : Scope} {s' : State} (h : c.Entered d s scope s')
    (hs : s.Busy) : s'.Busy := by
  cases h with
  | joining hcourse => exact hs
  | alone hcourse => exact hs.setAside c _
  | begun hcourse hbegin => exact hs.begun hbegin

theorem blank_alike {s' : State} (hs : s.Alike s') (c : Coordinator)
    (suspended : Option HolderId) :
    c.blank suspended s' = c.blank suspended s := by
  rw [blank, blank, discover, discover,
    (setAside_alike hs c suspended).boundHolder]

/-- An execution starts its work in both of two states that are alike, or in
neither. -/
theorem entries_alike {s' : State} (hs : s.Alike s') (hbusy : s.Busy) :
    List.Forall₂ (fun entry entry' => entry'.1 = entry.1 ∧
      State.Alike entry.2 entry'.2) (c.entries d s) (c.entries d s') := by
  simp only [entries, course_alike hs]
  cases hcourse : c.course d s with
  | refuses reason => exact .nil
  | joins id => exact .cons ⟨rfl, hs.across (.say s _) (.say s' _)⟩ .nil
  | runsAlone suspended => exact .cons ⟨rfl, setAside_alike hs c suspended⟩ .nil
  | begins suspended =>
      have haside := setAside_alike hs c suspended
      have hend := begin_alike (haside.across (.say _ (.creating d.name))
        (.say _ (.creating d.name))) (hbusy.blank_holder hcourse) c d
      simp only [blank_alike hs, entrance]
      generalize c.begin d (c.blank suspended s)
        ((c.setAside suspended s).say (.creating d.name)) = r at hend ⊢
      generalize c.begin d (c.blank suspended s)
        ((c.setAside suspended s').say (.creating d.name)) = r' at hend ⊢
      obtain ⟨outcome, h, s₁⟩ := r
      obtain ⟨outcome', h', s₁'⟩ := r'
      obtain rfl : outcome' = outcome := hend.outcome
      obtain rfl : h' = h := hend.handle
      cases outcome' with
      | ok _ => exact .cons ⟨rfl, hend.state⟩ .nil
      | error e => exact .nil

end Coordinator

/-! ## Works that do the same -/

inductive AlikeRun {σ ε α : Type} : Run σ ε α → Run σ ε α → Prop
  | intro (ending : Ending ε α) {s s' : State} (hs : s.Alike s') (m : σ) :
      AlikeRun ⟨ending, s, m⟩ ⟨ending, s', m⟩

theorem AlikeRun.ending {σ ε α : Type} {run run' : Run σ ε α}
    (h : AlikeRun run run') :
    run'.ending = run.ending := by
  cases h
  rfl

inductive AlikeWork {σ ε α : Type} :
    Scope × Run σ ε α → Scope × Run σ ε α → Prop
  | intro (scope : Scope) {run run' : Run σ ε α} (hrun : AlikeRun run run') :
      AlikeWork (scope, run) (scope, run')

namespace Coordinator

variable {σ ε α : Type} {c : Coordinator} {d : Definition} {s s' : State}
variable {m : σ}

theorem conclude_alike (hs : s.Alike s') (c : Coordinator)
    (suspended : Option HolderId) (result : Except (Failure ε) α) (m : σ) :
    AlikeRun (c.conclude suspended result s m)
      (c.conclude suspended result s' m) := by
  cases suspended with
  | none => exact .intro _ hs m
  | some id =>
      obtain ⟨answer, s₁, s₁', hresume, hresume', hstate⟩ :=
        resume_alike hs c id
      simp only [conclude, hresume, hresume']
      cases answer <;> exact .intro _ hstate m

theorem close_alike {completed completed' : Except (Failure ε) α × State}
    (hresult : completed'.1 = completed.1) (hs : completed.2.Alike completed'.2)
    (c : Coordinator) (suspended : Option HolderId) (h : Handle) (m : σ) :
    AlikeRun (c.close suspended h completed m)
      (c.close suspended h completed' m) := by
  rw [close, close, hresult]
  exact conclude_alike (cleanup_alike hs c h) c suspended completed.1 m

theorem markRollbackOnly_alike (hs : s.Alike s') (scope : Scope) :
    ∃ answer scope' s₁ s₁', scope.markRollbackOnly s = (answer, scope', s₁) ∧
      scope.markRollbackOnly s' = (answer, scope', s₁') ∧ s₁.Alike s₁' := by
  unfold Scope.markRollbackOnly Coordinator.markRollbackOnly
  cases scope.handle with
  | none => exact ⟨_, _, s, s', rfl, rfl, hs⟩
  | some h =>
      cases hholder : h.holder with
      | none =>
          simp only [hholder]
          exact ⟨_, _, s, s', rfl, rfl, hs⟩
      | some id =>
          simp only [hholder, hs.holders]
          exact ⟨_, _, _, _, rfl, rfl,
            (hs.across (.say s _) (.say s' _)).setHolder id _⟩

theorem runBegun_alike {work work' : Work σ ε α} {h : Handle}
    (hwork : AlikeWork (work (.beginning c h) s m)
      (work' (.beginning c h) s' m))
    (hs : s.Alike s') (suspended : Option HolderId) :
    AlikeRun (c.runBegun suspended h work s m)
      (c.runBegun suspended h work' s' m) := by
  have hdeadline : (Scope.beginning c h).deadline s' =
      (Scope.beginning c h).deadline s := by
    simp only [Scope.deadline, Handle.deadline, hs.holders]
  simp only [runBegun, hdeadline]
  generalize work (.beginning c h) s m = worked at hwork ⊢
  generalize work' (.beginning c h) s' m = worked' at hwork ⊢
  obtain ⟨scope, hrun⟩ := hwork
  obtain ⟨ending, hstate, m'⟩ := hrun
  cases ending with
  | finished result =>
      obtain ⟨hresult, hcompleted⟩ :=
        complete_alike hstate (scope.handle.getD h) result
      cases (Scope.beginning c h).deadline s <;>
        exact close_alike hresult hcompleted c suspended _ m'
  | overdue outer =>
      cases (Scope.beginning c h).deadline s with
      | none => cases outer <;> exact .intro _ hstate m'
      | some deadline =>
          cases outer with
          | zero =>
              have hback := rollbackAnyway_alike hstate
                .rollbackAfterTimeoutFailed (scope.handle.getD h)
              apply close_alike _ hback
              rw [completeOverdue, completeOverdue, hback.now]
          | succ outer => exact .intro _ hstate m'

theorem runJoining_alike {work work' : Work σ ε α} {h : Handle}
    (hwork : AlikeWork (work (.joining c h) (s.say (.participating d.name)) m)
      (work' (.joining c h) (s'.say (.participating d.name)) m)) :
    AlikeRun (c.runJoining d h work s m) (c.runJoining d h work' s' m) := by
  simp only [runJoining]
  generalize work (.joining c h) (s.say (.participating d.name)) m =
    worked at hwork ⊢
  generalize work' (.joining c h) (s'.say (.participating d.name)) m =
    worked' at hwork ⊢
  obtain ⟨scope, hrun⟩ := hwork
  obtain ⟨ending, hstate, m'⟩ := hrun
  cases ending with
  | overdue outer => exact .intro _ hstate m'
  | finished result =>
      cases result with
      | ok value => exact .intro _ hstate m'
      | error failure =>
          obtain ⟨answer, scope', s₁, s₁', hmark, hmark', hmarked⟩ :=
            markRollbackOnly_alike
              (hstate.across (.say _ .participantFailed)
                (.say _ .participantFailed)) scope
          simp only [Run.afterFinish, hmark, hmark']
          cases answer <;> exact .intro _ hmarked m'

theorem runNew_alike {work work' : Work σ ε α} {h : Handle} (hs : s.Alike s')
    (hholder : h.holder = none) (suspended : Option HolderId)
    (hwork : ∀ h₁ s₁ s₁', c.begin d h (s.say (.creating d.name)) =
      (.ok (), h₁, s₁) →
      s₁.Alike s₁' →
      AlikeWork (work (.beginning c h₁) s₁ m) (work' (.beginning c h₁) s₁' m)) :
    AlikeRun (c.runNew d suspended h work s m) (c.runNew d suspended
      h work' s' m) := by
  have hend := begin_alike (hs.across (.say s (.creating d.name))
    (.say s' (.creating d.name))) hholder c d
  rw [runNew, runNew]
  generalize hbegin : c.begin d h (s.say (.creating d.name)) = r at hend ⊢
  generalize c.begin d h (s'.say (.creating d.name)) = r' at hend ⊢
  obtain ⟨outcome, h₁, s₁⟩ := r
  obtain ⟨outcome', h₁', s₁'⟩ := r'
  obtain rfl : outcome' = outcome := hend.outcome
  obtain rfl : h₁' = h₁ := hend.handle
  have hstate : s₁.Alike s₁' := hend.state
  cases outcome' with
  | ok _ => exact runBegun_alike (hwork h₁' s₁ s₁' hbegin
      hstate) hstate suspended
  | error e =>
      cases suspended with
      | none => exact .intro _ hstate m
      | some id =>
          obtain ⟨answer, s₂, s₂', hresume, hresume', hresumed⟩ :=
            resume_alike hstate c id
          simp only [hresume, hresume']
          cases answer with
          | ok _ => exact .intro _ hresumed m
          | error e' => exact .intro _ (hresumed.across (.say _ _) (.say _ _)) m

/-- An execution of works that do the same comes to the same end. -/
theorem execute_alike {work work' : Work σ ε α}
    (hwork : ∀ scope t t', t.Busy → t.Alike t' →
      AlikeWork (work scope t m) (work' scope t' m))
    (hbusy : s.Busy) (hs : s.Alike s') :
    AlikeRun (c.execute d work s m) (c.execute d work' s' m) := by
  have hcourse' := course_alike hs c d
  cases hcourse : c.course d s with
  | refuses reason =>
      rw [execute_of_refuses hcourse,
        execute_of_refuses (hcourse'.trans hcourse)]
      exact .intro _ hs m
  | joins id =>
      rw [execute_of_joins hcourse, execute_of_joins (hcourse'.trans hcourse)]
      exact runJoining_alike (hwork _ (s.say (.participating d.name))
        (s'.say (.participating d.name)) hbusy
        (hs.across (.say s _) (.say s' _)))
  | runsAlone suspended =>
      rw [execute_of_runsAlone hcourse,
        execute_of_runsAlone (hcourse'.trans hcourse), runWithout, runWithout]
      have hrun := hwork (.without c) _ _ (hbusy.setAside c suspended)
        (setAside_alike hs c suspended)
      generalize work (.without c) (c.setAside suspended s) m = worked at hrun ⊢
      generalize work' (.without c) (c.setAside suspended s') m =
        worked' at hrun ⊢
      obtain ⟨scope, hrun⟩ := hrun
      obtain ⟨ending, hstate, m'⟩ := hrun
      cases ending with
      | overdue outer => exact .intro _ hstate m'
      | finished result => exact conclude_alike hstate c suspended result m'
  | begins suspended =>
      have hblank : c.discover (c.setAside suspended s') =
          c.discover (c.setAside suspended s) :=
        blank_alike hs c suspended
      rw [execute_of_begins hcourse,
        execute_of_begins (hcourse'.trans hcourse), hblank]
      apply runNew_alike (setAside_alike hs c suspended)
        (hbusy.blank_holder hcourse) suspended
      intro h₁ s₁ s₁' hbegin hstate
      exact hwork (.beginning c h₁) s₁ s₁' (hbusy.begun hbegin) hstate

end Coordinator

/-! ## What the works are shown -/

inductive Moment (ε α : Type) where
  /-- The work was started. -/
  | entered
  | stepped
  /-- An execution has come back. -/
  | returned (ending : Ending ε α)

/-- What there is to be seen at a point of a run: what has happened, the scope
and the connection that it gives, and all bindings and holders. -/
structure Sight (ε α : Type) where
  moment : Moment ε α
  scope : Scope
  connection : Except TransactionError Connection
  bindings : Bindings HolderId
  holders : HolderId → Holder Connection

def Scope.sight {ε α : Type} (scope : Scope) (s : State) (moment : Moment ε α) :
    Sight ε α where
  moment := moment
  scope := scope
  connection := (scope.connection s).1
  bindings := s.context
  holders := s.holders

namespace Plan

variable {σ ε α : Type}

/-- Whether a step only switches a fault of calls that put things back. -/
def Step.isSwitch : Step σ → Bool
  | setFault _ fault _ => fault.compensates
  | _ => false

/-- What the works of a run are shown, one after the other: when they are
started, after each step, and when an execution comes back.  The switches of
faults of compensation are passed over. -/
def sights : Plan σ ε α → Scope → State → Diary σ → List (Sight ε α)
  | .finish _, _, _, _ => []
  | .pend _, _, _, _ => []
  | .step first next, scope, s, m =>
      let taken := first.take scope s m
      (if first.isSwitch then
        [] else [taken.scope.sight taken.state .stepped]) ++
        (next taken.answer).sights taken.scope taken.state taken.diary
  | .execute c d body next, scope, s, m =>
      let inner := c.execute d body.run s m
      ((c.starts d body.run s m).flatMap fun entry =>
        entry.1.sight entry.2 .entered :: body.sights entry.1 entry.2 m) ++
      scope.sight inner.state (.returned inner.ending) ::
      match inner.ending with
      | .finished result =>
          (next result).sights scope inner.state
            (inner.memory.enter (.returned (c.course d s) (failed result)))
      | .overdue _ => []

end Plan

/-- What the works of an execution are shown. -/
def Coordinator.sights {σ ε α : Type} (c : Coordinator) (d : Definition)
    (plan : Plan σ ε α) (s : State) (m : Diary σ) : List (Sight ε α) :=
  (c.starts d plan.run s m).flatMap fun entry =>
    entry.1.sight entry.2 .entered :: plan.sights entry.1 entry.2 m

theorem Source.boundConnection_alike {s s' : State} (hs : s.Alike s')
    (source : Source) :
    source.boundConnection s' = source.boundConnection s := by
  rw [boundConnection, boundConnection, hs.boundHolder, hs.holders]

namespace Scope

variable {s s' : State}

theorem connection_alike (hs : s.Alike s') (scope : Scope) :
    ∃ answer s₁ s₁', scope.connection s = (answer, s₁) ∧
      scope.connection s' = (answer, s₁') ∧ s₁.Alike s₁' := by
  rw [connection, connection, Source.getConnection, Source.getConnection,
    Source.boundConnection_alike hs]
  cases scope.coordinator.source.boundConnection s with
  | some conn => exact ⟨_, s, s', rfl, rfl, hs⟩
  | none =>
      rcases hs.create scope.coordinator.source.id with
        ⟨conn, s₁, s₁', hcreate, hcreate', hcreated, -⟩ |
          ⟨fault, s₁, s₁', hcreate, hcreate', hcreated⟩
      · simp only [hcreate, hcreate']
        exact ⟨_, _, _, rfl, rfl, hcreated.across (.say s₁ _) (.say s₁' _)⟩
      · simp only [hcreate, hcreate']
        exact ⟨_, _, _, rfl, rfl, hcreated⟩

theorem sight_alike {ε α : Type} (hs : s.Alike s') (scope : Scope)
    (moment : Moment ε α) :
    scope.sight s' moment = scope.sight s moment := by
  obtain ⟨answer, s₁, s₁', hgiven, hgiven', -⟩ := scope.connection_alike hs
  rw [sight, sight, hgiven, hgiven', hs.context, hs.holders]

end Scope

/-! ## Plans that differ in their switches only -/

namespace Plan

variable {σ ε α : Type}

/-- The steps whose answer does not hang on a call that puts things back. -/
def Step.Modest : Step σ → Prop
  | handBack _ | look => False
  | call _ request => request.fault.compensates = false
  | connection | markRollbackOnly | setFault _ _ _ | rest _ | remember _ => True

/-- Two plans that take the same modest steps and execute plans that are alike
in the same way.  Either may switch faults of compensation in between.  Whoever
looks at everything goes on in the same way with all that is alike. -/
inductive Alike : Plan σ ε α → Plan σ ε α → Prop
  | finish (result : Except (Failure ε) α) : Alike (.finish result)
      (.finish result)
  | step {first : Step σ} {next next' : first.Answer → Plan σ ε α}
      (hmodest : first.Modest)
      (hnext : ∀ answer, Alike (next answer) (next' answer)) :
      Alike (.step first next) (.step first next')
  | look {next next' : Step.look.Answer → Plan σ ε α}
      (hnext : ∀ scope s s' memory, State.Alike s s' →
        Alike (next (scope, s, memory)) (next' (scope, s', memory))) :
      Alike (.step .look next) (.step .look next')
  | execute {c : Coordinator} {d : Definition} {body body' : Plan σ ε α}
      {next next' : Except (Failure ε) α → Plan σ ε α}
      (hbody : Alike body body')
      (hnext : ∀ result, Alike (next result) (next' result)) :
      Alike (.execute c d body next) (.execute c d body' next')
  /-- The first plan switches a fault. -/
  | switchFirst {source : SourceId} {fault : Fault} {on : Bool}
      {next : Unit → Plan σ ε α} {plan' : Plan σ ε α}
      (hfault : fault.compensates = true)
      (hnext : Alike (next ()) plan') :
      Alike (.step (.setFault source fault on) next) plan'
  /-- The second plan switches a fault. -/
  | switchSecond {source : SourceId} {fault : Fault} {on : Bool}
      {plan : Plan σ ε α}
      {next' : Unit → Plan σ ε α} (hfault : fault.compensates = true)
      (hnext : Alike plan (next' ())) :
      Alike plan (.step (.setFault source fault on) next')

theorem Alike.prompt {plan plan' : Plan σ ε α} (h : plan.Alike plan') :
    plan.Prompt ∧ plan'.Prompt := by
  induction h with
  | finish result => exact ⟨trivial, trivial⟩
  | step _ _ ih =>
      exact ⟨fun answer => (ih answer).1, fun answer => (ih answer).2⟩
  | look _ ih =>
      exact ⟨fun ⟨scope, s, memory⟩ => (ih scope s s memory (.refl s)).1,
        fun ⟨scope, s, memory⟩ => (ih scope s s memory (.refl s)).2⟩
  | execute _ _ ihBody ihNext =>
      exact ⟨⟨ihBody.1, fun result => (ihNext result).1⟩,
        ihBody.2, fun result => (ihNext result).2⟩
  | switchFirst _ _ ih => exact ⟨fun _ => ih.1, ih.2⟩
  | switchSecond _ _ ih => exact ⟨ih.1, fun _ => ih.2⟩

structure AlikeTaken {step : Step σ} (taken taken' : Taken step) : Prop where
  answer : taken'.answer = taken.answer
  scope : taken'.scope = taken.scope
  diary : taken'.diary = taken.diary
  state : taken.state.Alike taken'.state

theorem Step.Modest.take_alike {first : Step σ} (hmodest : first.Modest)
    {s s' : State} (hs : s.Alike s') (scope : Scope) (m : Diary σ) :
    AlikeTaken (first.take scope s m) (first.take scope s' m) := by
  cases first with
  | connection =>
      obtain ⟨answer, s₁, s₁', hgiven, hgiven', hstate⟩ :=
        scope.connection_alike hs
      have hfetched : fetchOf scope s' answer = fetchOf scope s answer := by
        simp only [fetchOf, Source.boundConnection_alike hs]
      simp only [take, hgiven, hgiven', hfetched]
      exact ⟨rfl, rfl, rfl, hstate⟩
  | markRollbackOnly =>
      obtain ⟨answer, scope', s₁, s₁', hmark, hmark', hstate⟩ :=
        Coordinator.markRollbackOnly_alike hs scope
      simp only [take, hmark, hmark']
      exact ⟨rfl, rfl, rfl, hstate⟩
  | call conn request =>
      exact ⟨hs.callDirectly_answer conn hmodest, rfl, rfl,
        hs.across (.callDirectly s conn request)
          (.callDirectly s' conn request)⟩
  | setFault source fault on =>
      refine ⟨rfl, rfl, rfl, { hs with drivers := fun i => ?_ }⟩
      have hdriver := hs.drivers i
      simp only [take, State.drivers_setDriver]
      split
      · next heq =>
          subst heq
          refine ⟨hdriver.initial, hdriver.nextId, fun other hother => ?_⟩
          rw [Driver.faults_setFault, Driver.faults_setFault,
            hdriver.faults other hother]
      · exact hdriver
  | rest seconds =>
      exact ⟨rfl, rfl, rfl, { hs with now := congrArg (· + seconds) hs.now }⟩
  | remember memory => exact ⟨rfl, rfl, rfl, hs⟩
  | handBack conn => exact hmodest.elim
  | look => exact hmodest.elim

theorem sights_switch {source : SourceId} {fault : Fault} {on : Bool}
    (hfault : fault.compensates = true) (next : Unit → Plan σ ε α)
    (scope : Scope) (s : State) (m : Diary σ) :
    (step (.setFault source fault on) next).sights scope s m =
      (next ()).sights scope
        (s.setDriver source ((s.drivers source).setFault fault on)) m := by
  show (if fault.compensates then [] else _) ++ _ = _
  rw [if_pos hfault]
  rfl

/-- What the works of an execution are shown does not differ if what its work is
shown does not. -/
theorem entered_alike {c : Coordinator} {d : Definition}
    {body body' : Plan σ ε α} {s s' : State} {m : Diary σ} (hbusy : s.Busy)
    (hs : s.Alike s') (hbody : ∀ scope t t', t.Busy → t.Alike t' →
      body'.sights scope t' m = body.sights scope t m) :
    c.sights d body' s' m = c.sights d body s m := by
  rw [Coordinator.sights, Coordinator.sights, Coordinator.starts_eq,
    Coordinator.starts_eq]
  have hentries := Coordinator.entries_alike (c := c) (d := d) hs hbusy
  have hbusies : ∀ entry ∈ c.entries d s, entry.2.Busy := fun entry hentry =>
    (Coordinator.entered_of_mem hentry).busy hbusy
  generalize c.entries d s = entries at hentries hbusies ⊢
  generalize c.entries d s' = entries' at hentries ⊢
  induction hentries with
  | nil => rfl
  | @cons entry entry' rest rest' hentry hrest ih =>
      obtain ⟨hscope, hstate⟩ := hentry
      rw [List.flatMap_cons, List.flatMap_cons, hscope,
        Scope.sight_alike hstate,
        hbody _ _ _ (hbusies entry List.mem_cons_self) hstate,
        ih fun other hother => hbusies other (List.mem_cons_of_mem _ hother)]

/-- Plans that differ in their switches only come to the same end from states
that are alike, and show the same on the way. -/
theorem Alike.run_alike {plan plan' : Plan σ ε α} (h : plan.Alike plan')
    (scope : Scope) {s s' : State} (m : Diary σ) (hbusy : s.Busy)
    (hs : s.Alike s') :
    AlikeWork (plan.run scope s m) (plan'.run scope s' m) ∧
      plan'.sights scope s' m = plan.sights scope s m := by
  induction h generalizing scope s s' m with
  | finish result => exact ⟨.intro _ (.intro _ hs m), rfl⟩
  | @step first next next' hmodest hnext ih =>
      have htaken := hmodest.take_alike hs scope m
      obtain ⟨hrun, hsights⟩ := ih (first.take scope s m).answer
        (first.take scope s m).scope (first.take scope s m).diary
        (hbusy.later (first.take_keeps scope s m)) htaken.state
      rw [run, run, sights, sights]
      simp only [htaken.answer, htaken.scope, htaken.diary, hsights,
        Scope.sight_alike htaken.state]
      exact ⟨hrun, trivial⟩
  | @look next next' hnext ih =>
      obtain ⟨hrun, hsights⟩ := ih scope s s' m.memory hs scope m hbusy hs
      refine ⟨hrun, ?_⟩
      rw [sights, sights]
      simp only [Step.take, hsights, Scope.sight_alike hs]
  | @execute c d body body' next next' hbody hnext ihBody ihNext =>
      have hrun := Coordinator.execute_alike (c := c) (d := d) (m := m)
        (fun scope t t' ht htt' => (ihBody scope m ht htt').1) hbusy hs
      have hentered := entered_alike (c := c) (d := d) (m := m) hbusy hs
        fun scope t t' ht htt' => (ihBody scope m ht htt').2
      have hkeeps := Coordinator.execute_keeps (c := c) (d := d) (m := m)
        hbody.prompt.1 hbusy.boundExist
      rw [Coordinator.sights, Coordinator.sights] at hentered
      rw [run, run, sights, sights, hentered, Coordinator.course_alike hs]
      generalize c.execute d body.run s m = inner at hrun hkeeps ⊢
      generalize c.execute d body'.run s' m = inner' at hrun ⊢
      obtain ⟨ending, hstate, m'⟩ := hrun
      rw [Scope.sight_alike hstate]
      cases ending with
      | overdue outer => exact ⟨.intro _ (.intro _ hstate _), rfl⟩
      | finished result =>
          obtain ⟨hlast, hsights⟩ := ihNext result scope
            (m'.enter (.returned (c.course d s) (failed result)))
            (hbusy.later hkeeps) hstate
          simp only [hsights]
          exact ⟨hlast, trivial⟩
  | @switchFirst source fault on next plan' hfault hnext ih =>
      have hswitched : s.Alike
          (s.setDriver source ((s.drivers source).setFault fault on)) :=
        .setDriver (.setFault _ hfault on)
      obtain ⟨hrun, hsights⟩ := ih scope m (s := s.setDriver source
        ((s.drivers source).setFault fault on)) hbusy (hswitched.symm.trans hs)
      exact ⟨hrun, hsights.trans (sights_switch hfault next scope s m).symm⟩
  | @switchSecond source fault on plan next' hfault hnext ih =>
      have hswitched : s'.Alike
          (s'.setDriver source ((s'.drivers source).setFault fault on)) :=
        .setDriver (.setFault _ hfault on)
      obtain ⟨hrun, hsights⟩ := ih scope m hbusy (hs.trans hswitched)
      exact ⟨hrun, (sights_switch hfault next' scope s' m).trans hsights⟩

end Plan

/-! ## Failures of works -/

def Coordinator.ReturnsFailure {σ ε α : Type} (c : Coordinator) (d : Definition)
    (work : Work σ ε α) (s : State) (m : σ) : Prop :=
  ∀ entry ∈ c.starts d work s m, ∀ failure,
    (work entry.1 entry.2 m).2.ending = .finished (.error failure) →
      (c.execute d work s m).ending = .finished (.error failure)

/-- Every execution in the run of a plan, however deep, returns the failure of
its work. -/
def Plan.ReturnsFailures {σ ε α : Type} :
    Plan σ ε α → Scope → State → Diary σ → Prop
  | .finish _, _, _, _ => True
  | .pend _, _, _, _ => True
  | .step first next, scope, s, m =>
      let taken := first.take scope s m
      (next taken.answer).ReturnsFailures taken.scope taken.state taken.diary
  | .execute c d body next, scope, s, m =>
      c.ReturnsFailure d body.run s m ∧
      (∀ entry ∈ c.starts d body.run s m,
        body.ReturnsFailures entry.1 entry.2 m) ∧
      ∀ result, (c.execute d body.run s m).ending = .finished result →
        (next result).ReturnsFailures scope (c.execute d body.run s m).state
          ((c.execute d body.run s m).memory.enter
            (.returned (c.course d s) (Plan.failed result)))

namespace Coordinator

variable {σ ε α : Type} {c : Coordinator} {d : Definition} {s : State}
variable {m : Diary σ}

/-- An execution whose work has failed has nothing to put in the place of the
failure: a running transaction can be marked, the last call cannot change the
result, and what was suspended can be resumed. -/
theorem returnsFailure {plan : Plan σ ε α} (hprompt : plan.Prompt)
    (hs : s.BoundExist) :
    c.ReturnsFailure d plan.run s m := by
  intro entry hentry failure hfailed
  rw [starts_eq, entries] at hentry
  have hrun := c.execution d plan s m
  generalize c.execute d plan.run s m = run at hrun ⊢
  cases hrun with
  | refused hcourse =>
      rw [hcourse] at hentry
      cases hentry
  | joined hcourse hwork =>
      rw [hcourse] at hentry
      obtain rfl := List.mem_singleton.mp hentry
      rw [hwork] at hfailed
      exact hfailed
  | @alone suspended scope result s' m' hcourse hwork =>
      rw [hcourse] at hentry
      obtain rfl := List.mem_singleton.mp hentry
      have haside : (c.setAside suspended s).BoundExist :=
        boundExist_setAside hs
      have hkeeps := hprompt.run_keeps (.without c) m haside
      rw [hwork] at hfailed hkeeps
      rw [conclude_of_resumable (resumable_of_keeps hkeeps)]
      exact hfailed
  | notBegun hcourse hbegin =>
      simp only [hcourse, hbegin] at hentry
      cases hentry
  | @begun suspended h s₁ mark result s' m' hcourse hbegin hwork =>
      simp only [hcourse, hbegin] at hentry
      obtain rfl := List.mem_singleton.mp hentry
      obtain ⟨conn, id, hbegun⟩ := begun_of_ok hbegin
      have hkeeps := hprompt.run_keeps (.beginning c h) m (hbegun.boundExist hs)
      rw [hwork] at hfailed hkeeps
      obtain rfl : result = .error failure := by simpa using hfailed
      have hclosed := keeps_close hs hbegun hkeeps (sameHolders_complete
        (markedHandle h mark) (.error failure : Except (Failure ε) α) s') mark
      rw [close, conclude_of_resumable (resumable_of_keeps hclosed)]
      rfl
  | joinedCut hcourse hwork => exact (hprompt.run_ne_overdue hwork).elim
  | aloneCut hcourse hwork => exact (hprompt.run_ne_overdue hwork).elim
  | timedOut hcourse hbegin hwork => exact (hprompt.run_ne_overdue hwork).elim
  | begunCut hcourse hbegin hwork => exact (hprompt.run_ne_overdue hwork).elim

end Coordinator

/-- In the run of a plan during which no deadline passes every execution returns
the failure of its work. -/
theorem Plan.Prompt.returnsFailures {σ ε α : Type} {plan : Plan σ ε α}
    (hprompt : plan.Prompt) (scope : Scope) {s : State} (m : Diary σ)
    (hs : s.BoundExist) :
    plan.ReturnsFailures scope s m := by
  induction plan generalizing scope s m with
  | finish result => trivial
  | pend outer => trivial
  | step first next ih =>
      exact ih _ (hprompt _) _ _ (first.take_boundExist scope m hs)
  | execute c d body next ihBody ihNext =>
      refine ⟨Coordinator.returnsFailure hprompt.1 hs, fun entry hentry => ?_,
        fun result _ => ?_⟩
      · rw [Coordinator.starts_eq] at hentry
        exact ihBody hprompt.1
          _ _ ((Coordinator.entered_of_mem hentry).steady.boundExist hs)
      · exact ihNext result (hprompt.2 result) _ _
          ((Coordinator.execute_keeps hprompt.1 hs).boundExist hs)

namespace Coordinator

variable {σ ε α : Type}

def ReturnsFailures (c : Coordinator) (d : Definition) (plan : Plan σ ε α)
    (s : State) (m : Diary σ) : Prop :=
  c.ReturnsFailure d plan.run s m ∧
    ∀ entry ∈ c.starts d plan.run s m, plan.ReturnsFailures entry.1 entry.2 m

theorem returnsFailures {c : Coordinator} {d : Definition} {plan : Plan σ ε α}
    {s : State} (m : Diary σ) (hprompt : plan.Prompt) (hs : s.BoundExist) :
    c.ReturnsFailures d plan s m := by
  refine ⟨returnsFailure hprompt hs, fun entry hentry => ?_⟩
  rw [starts_eq] at hentry
  exact hprompt.returnsFailures _ m
    ((entered_of_mem hentry).steady.boundExist hs)

/-- Failures to put things back change nothing that anybody is told.  Of two
trees of executions that start where nothing is bound and that differ only in
which releases of connections and which attempts to switch auto-commit on again
fail, both come to the same end, with the same holders and bindings; the same
works are started in both, and they are shown the same, the result of every
execution in the tree included.  In both of them an execution whose work fails
returns the failure of the work, whatever else fails. -/
theorem execute_ignores_compensation (c : Coordinator) (d : Definition)
    {plan plan' : Plan σ ε α} (hplans : plan.Alike plan') {s s' : State}
    (m : Diary σ) (hempty : ∀ key, s.boundHolder key = none) (hs : s.Alike s') :
    AlikeRun (c.execute d plan.run s m) (c.execute d plan'.run s' m) ∧
      c.sights d plan' s' m = c.sights d plan s m ∧
      c.ReturnsFailures d plan s m ∧ c.ReturnsFailures d plan' s' m := by
  have hbusy := State.Busy.of_empty hempty
  have hexist' : s'.BoundExist := by
    intro key id hbound
    rw [hs.boundHolder, hempty] at hbound
    cases hbound
  refine ⟨?_, ?_, ?_, ?_⟩
  · exact execute_alike (fun scope t t' ht htt' =>
      (hplans.run_alike scope m ht htt').1) hbusy hs
  · exact Plan.entered_alike hbusy hs fun scope t t' ht htt' =>
      (hplans.run_alike scope m ht htt').2
  · exact returnsFailures m hplans.prompt.1 hbusy.boundExist
  · exact returnsFailures m hplans.prompt.2 hexist'

/-- Work in a transaction executes work that fails in a transaction of its own.
In the second run both connections stay open, without auto-commit, and nobody is
told. -/
theorem execute_ignores_compensation_of_two :
    let c : Coordinator := { source := ⟨0, ⟨"db"⟩⟩ }
    let inner : Plan Unit Unit Unit :=
      .execute c { propagation := .requiresNew }
        (.finish (.error (.own ()))) .finish
    let plan : Plan Unit Unit Unit := .step .connection fun _ => inner
    let plan' : Plan Unit Unit Unit :=
      .step .connection fun _ => .step (.setFault 0 .enableAutoCommit true)
        fun _ => inner
    let s : State := {}
    let s' : State :=
      { drivers := fun _ =>
        { faults := fun fault => decide (fault = .release) } }
    let run := c.execute {} plan.run s ⟨(), []⟩
    let run' := c.execute {} plan'.run s' ⟨(), []⟩
    (plan.Alike plan' ∧ (∀ key, s.boundHolder key = none) ∧ s.Alike s') ∧
      (run'.ending = run.ending ∧
        c.sights {} plan' s' ⟨(), []⟩ = c.sights {} plan s ⟨(), []⟩) ∧
      (run.state.session ⟨0, 1⟩ = none ∧ run.state.session ⟨0, 2⟩ = none) ∧
      run'.state.session ⟨0, 1⟩ = some { autoCommit := false } ∧
      run'.state.session ⟨0, 2⟩ = some { autoCommit := false } := by
  intro c inner plan plan' s s' run run'
  have hplans : plan.Alike plan' :=
    .step trivial fun _ => .switchSecond rfl (.execute (.finish _) .finish)
  have hempty : ∀ key, s.boundHolder key = none := fun key => rfl
  have hs : s.Alike s' := by
    refine ⟨fun source => ⟨rfl, rfl, fun fault hfault => ?_⟩, rfl,
      rfl, rfl, rfl⟩
    cases fault <;> first | rfl | cases hfault
  obtain ⟨hrun, hsights, -⟩ :=
    execute_ignores_compensation c {} hplans ⟨(), []⟩ hempty hs
  exact ⟨⟨hplans, hempty, hs⟩, ⟨hrun.ending, hsights⟩,
    by decide +kernel, by decide +kernel,
    by decide +kernel⟩

end Coordinator

end UnitOfWork
