import UnitOfWork.Proofs.MirroredCoordinators

/-!
# Users who go by what they are told

A user of a coordinator keeps handles, suspended holders and connections in
slots of a pocket, and hands them back to the coordinator as they are.  An
errand is a unit of work of such a user: it goes on as the answers demand, and
these name neither a holder nor a connection.

On two states that mirror each other an errand is told the same, and so it does
the same.
-/

namespace UnitOfWork

/-- What a user keeps, by its slots. -/
structure Pocket where
  handles : Nat → Option Handle := fun _ => none
  suspended : Nat → Option HolderId := fun _ => none
  connections : Nat → Option Connection := fun _ => none

namespace Pocket

def setHandle (p : Pocket) (slot : Nat) (h : Option Handle) : Pocket :=
  { p with handles := fun i => if i = slot then h else p.handles i }

def setSuspended (p : Pocket) (slot : Nat) (id : Option HolderId) : Pocket :=
  { p with suspended := fun i => if i = slot then id else p.suspended i }

def setConnection (p : Pocket) (slot : Nat) (conn : Connection) : Pocket :=
  { p with connections := fun i => if i = slot
    then some conn else p.connections i }

end Pocket

inductive Reply where
  /-- There is nothing in the slot. -/
  | missing
  | done
  | flag (on : Bool)
  | failed (error : TransactionError)
  | refused (fault : Fault)
  | settings (settings : Settings)
  /-- Whether a handle has a holder and owns it, what it has to restore, and
  whether it and its holder are marked for rollback. -/
  | handle (hasHolder owns : Bool) (previous : Option Level) (restores : Bool)
      (marked holderMarked : Bool)
  /-- Whether a scope has a transaction, whether that is its own, and whether it
  is marked for rollback. -/
  | scope (hasTransaction isNew marked : Bool)
  deriving DecidableEq

def Reply.ofResult : Except TransactionError Unit → Reply
  | .ok () => done
  | .error e => failed e

/-- What a user can do at any time.  Handles, suspended holders and connections
are given by their slots. -/
inductive Act where
  | discover (slot : Nat)
  | isExisting (slot : Nat)
  | begin (d : Definition) (slot : Nat)
  | commit (slot : Nat)
  | rollback (slot : Nat)
  | markRollbackOnly (slot : Nat)
  | cleanup (slot : Nat)
  | suspend (slot place : Nat)
  | resume (place : Nat)
  | inspect (slot : Nat)
  /-- Takes the connection of a handle. -/
  | connectionOf (slot place : Nat)
  | getConnection (place : Nat)
  | releaseConnection (place : Nat)
  | isTransactional (place : Nat)
  | call (place : Nat) (call : Call)
  /-- Asks a connection for its settings. -/
  | settings (place : Nat)
  /-- Lets some seconds pass. -/
  | rest (seconds : Nat)

structure Done where
  reply : Reply
  state : State
  pocket : Pocket

namespace Act

/-- Puts a connection into a slot, if there is one. -/
def keepConnection (place : Nat) (p : Pocket) :
    Except TransactionError Connection × State → Done
  | (.ok conn, s) => ⟨.done, s, p.setConnection place conn⟩
  | (.error e, s) => ⟨.failed e, s, p⟩

/-- Carries out an act on the handle of a slot. -/
def onHandle (slot : Nat) (s : State) (p : Pocket) (use : Handle → Done) :
    Done :=
  match p.handles slot with
  | some h => use h
  | none => ⟨.missing, s, p⟩

def onConnection (place : Nat) (s : State) (p : Pocket)
    (use : Connection → Done) : Done :=
  match p.connections place with
  | some conn => use conn
  | none => ⟨.missing, s, p⟩

/-- Carries out an act. -/
def perform (c : Coordinator) (s : State) (p : Pocket) : Act → Done
  | discover slot => ⟨.done, s, p.setHandle slot (some (c.discover s))⟩
  | isExisting slot => onHandle slot s p fun h => ⟨.flag (h.isActive s), s, p⟩
  | begin d slot => onHandle slot s p fun h =>
      match c.begin d h s with
      | (result, h', s') => ⟨.ofResult result, s', p.setHandle slot (some h')⟩
  | commit slot => onHandle slot s p fun h =>
      match Coordinator.commit h s with
      | (result, s') => ⟨.ofResult result, s', p⟩
  | rollback slot => onHandle slot s p fun h =>
      match Coordinator.rollback h s with
      | (result, s') => ⟨.ofResult result, s', p⟩
  | markRollbackOnly slot => onHandle slot s p fun h =>
      match Coordinator.markRollbackOnly h s with
      | (result, h', s') => ⟨.ofResult result, s', p.setHandle slot (some h')⟩
  | cleanup slot => onHandle slot s p fun h =>
      ⟨.done, c.cleanup h s, p.setHandle slot none⟩
  | suspend slot place => onHandle slot s p fun h =>
      match c.suspend h s with
      | (suspended, h', s') =>
          ⟨.flag suspended.isSome, s',
            (p.setHandle slot (some h')).setSuspended place suspended⟩
  | resume place =>
      match p.suspended place with
      | none => ⟨.missing, s, p⟩
      | some id =>
          match c.resume id s with
          | (result, s') => ⟨.ofResult result, s', p.setSuspended place none⟩
  | inspect slot => onHandle slot s p fun h =>
      ⟨.handle h.holder.isSome h.ownsHolder h.previousIsolation
        h.restoresAutoCommit h.rollbackOnly (h.isHolderRollbackOnly s), s, p⟩
  | connectionOf slot place => onHandle slot s p fun h =>
      match h.connection s with
      | .ok conn => ⟨.done, s, p.setConnection place conn⟩
      | .error reason => ⟨.failed (.illegal reason), s, p⟩
  | getConnection place => keepConnection place p (c.source.getConnection s)
  | releaseConnection place => onConnection place s p fun conn =>
      match c.source.releaseConnection conn s with
      | (result, s') => ⟨.ofResult result, s', p⟩
  | isTransactional place => onConnection place s p fun conn =>
      ⟨.flag (s.isTransactional c.key conn), s, p⟩
  | call place request => onConnection place s p fun conn =>
      match s.callDirectly conn request with
      | (.ok (), s') => ⟨.done, s', p⟩
      | (.error fault, s') => ⟨.refused fault, s', p⟩
  | settings place => onConnection place s p fun conn =>
      ⟨.settings ⟨s.autoCommit conn, s.isolation conn⟩, s, p⟩
  | rest seconds => ⟨.done, { s with now := s.now + seconds }, p⟩

def definition? : Act → Option Definition
  | begin d _ => some d
  | _ => none

end Act

/-! ## Acts on two sides -/

structure Pocket.Mirrors (ρ : Renaming) (p p' : Pocket) : Prop where
  handles : ∀ slot, Option.Rel (Handle.Mirrors ρ.holders) (p.handles slot)
    (p'.handles slot)
  suspended : ∀ slot,
    Option.Rel ρ.holders (p.suspended slot) (p'.suspended slot)
  connections : ∀ slot,
    Option.Rel ρ.connections (p.connections slot) (p'.connections slot)

namespace Pocket.Mirrors

variable {source : SourceId} {period : Period} {ρ ρ₁ : Renaming}
variable {s s' s₁ s₁' : State} {p p' : Pocket}

theorem later (hp : p.Mirrors ρ p')
    (h : InStep source period ρ ρ₁ s s' s₁ s₁') :
    p.Mirrors ρ₁ p' where
  handles slot := rel_imp (fun _ _ hh => hh.mono h.holders) (hp.handles slot)
  suspended slot := rel_imp h.holders (hp.suspended slot)
  connections slot := rel_imp h.connections (hp.connections slot)

theorem setHandle (hp : p.Mirrors ρ p') (slot : Nat) {h h' : Option Handle}
    (hh : Option.Rel (Handle.Mirrors ρ.holders) h h') :
    (p.setHandle slot h).Mirrors ρ (p'.setHandle slot h') where
  handles i := by
    rw [Pocket.setHandle, Pocket.setHandle]
    dsimp only
    split
    · exact hh
    · exact hp.handles i
  suspended := hp.suspended
  connections := hp.connections

theorem setSuspended (hp : p.Mirrors ρ p') (slot : Nat)
    {id id' : Option HolderId} (hid : Option.Rel ρ.holders id id') :
    (p.setSuspended slot id).Mirrors ρ (p'.setSuspended slot id') where
  handles := hp.handles
  suspended i := by
    rw [Pocket.setSuspended, Pocket.setSuspended]
    dsimp only
    split
    · exact hid
    · exact hp.suspended i
  connections := hp.connections

theorem setConnection (hp : p.Mirrors ρ p') (slot : Nat)
    {conn conn' : Connection} (hconn : ρ.connections conn conn') :
    (p.setConnection slot conn).Mirrors ρ (p'.setConnection slot conn') where
  handles := hp.handles
  suspended := hp.suspended
  connections i := by
    rw [Pocket.setConnection, Pocket.setConnection]
    dsimp only
    split
    · exact .some hconn
    · exact hp.connections i

end Pocket.Mirrors

structure Done.InStep (source : SourceId) (period : Period) (ρ ρ₁ : Renaming)
    (s s' : State) (done done' : Done) : Prop where
  reply : done'.reply = done.reply
  state : UnitOfWork.InStep source period ρ ρ₁ s s' done.state done'.state
  pocket : done.pocket.Mirrors ρ₁ done'.pocket

namespace Act

variable {source : SourceId} {period : Period} {ρ : Renaming} {s s' : State}
variable {p p' : Pocket}

theorem onHandle_inStep (hs : s.Mirrors source period ρ s')
    (hp : p.Mirrors ρ p') (slot : Nat) {use use' : Handle → Done}
    (huse : ∀ h h', h.Mirrors ρ.holders h' →
      ∃ ρ₁, Done.InStep source period ρ ρ₁ s s' (use h) (use' h')) :
    ∃ ρ₁, Done.InStep source period ρ ρ₁ s s' (onHandle slot s p use)
      (onHandle slot s' p' use') := by
  rw [onHandle, onHandle]
  rcases rel_cases (hp.handles slot) with
      ⟨hnone, hnone'⟩ | ⟨h, h', hsome, hsome', hh⟩
  · rw [hnone, hnone']
    exact ⟨ρ, rfl, .refl hs, hp⟩
  · rw [hsome, hsome']
    exact huse h h' hh

theorem onConnection_inStep (hs : s.Mirrors source period ρ s')
    (hp : p.Mirrors ρ p') (place : Nat) {use use' : Connection → Done}
    (huse : ∀ conn conn', ρ.connections conn conn' →
      ∃ ρ₁, Done.InStep source period ρ ρ₁ s s' (use conn) (use' conn')) :
    ∃ ρ₁, Done.InStep source period ρ ρ₁ s s' (onConnection place s p use)
      (onConnection place s' p' use') := by
  rw [onConnection, onConnection]
  rcases rel_cases (hp.connections place) with
    ⟨hnone, hnone'⟩ | ⟨conn, conn', hsome, hsome', hconn⟩
  · rw [hnone, hnone']
    exact ⟨ρ, rfl, .refl hs, hp⟩
  · rw [hsome, hsome']
    exact huse conn conn' hconn

theorem resume_inStep (c : Coordinator) (hs : s.Mirrors c.source.id period ρ s')
    (hp : p.Mirrors ρ p') (place : Nat) :
    ∃ ρ₁, Done.InStep c.source.id period ρ ρ₁ s s'
      ((resume place).perform c s p) ((resume place).perform c s' p') := by
  rw [perform, perform]
  rcases rel_cases (hp.suspended place) with
    ⟨hnone, hnone'⟩ | ⟨id, id', hsome, hsome', hid⟩
  · rw [hnone, hnone']
    exact ⟨ρ, rfl, .refl hs, hp⟩
  · rw [hsome, hsome']
    obtain ⟨hresult, hstep⟩ := c.resume_inStep hs hid
    exact ⟨ρ, congrArg Reply.ofResult hresult, hstep,
      hp.setSuspended place .none⟩

theorem connectionOf_inStep (c : Coordinator)
    (hs : s.Mirrors source period ρ s') (hp : p.Mirrors ρ p')
    (slot place : Nat) :
    ∃ ρ₁, Done.InStep source period ρ ρ₁ s s'
      ((connectionOf slot place).perform c s p)
      ((connectionOf slot place).perform c s' p') := by
  refine onHandle_inStep hs hp slot fun h h' hh => ?_
  rcases hs.connectionOf hh with
    ⟨conn, conn', hheld, hheld', hconn⟩ | ⟨reason, hheld, hheld'⟩
  · simp only [hheld, hheld']
    exact ⟨ρ, rfl, .refl hs, hp.setConnection place hconn⟩
  · simp only [hheld, hheld']
    exact ⟨ρ, rfl, .refl hs, hp⟩

theorem getConnection_inStep (c : Coordinator)
    (hs : s.Mirrors c.source.id period ρ s') (hp : p.Mirrors ρ p')
    (place : Nat) :
    ∃ ρ₁, Done.InStep c.source.id period ρ ρ₁ s s'
      ((getConnection place).perform c s p)
      ((getConnection place).perform c s' p') := by
  obtain ⟨ρ₁, hstep, hanswer⟩ := c.source.getConnection_inStep hs
  refine ⟨ρ₁, ?_⟩
  rw [perform, perform]
  cases hget : c.source.getConnection s with
  | mk answer s₁ =>
  cases hget' : c.source.getConnection s' with
  | mk answer' s₁' =>
  rw [hget, hget'] at hstep hanswer
  rcases hanswer with ⟨conn, conn', hok, hok', hconn⟩ | ⟨e, herror, herror'⟩
  · obtain rfl : answer = .ok conn := hok
    obtain rfl : answer' = .ok conn' := hok'
    exact ⟨rfl, hstep, (hp.later hstep).setConnection place hconn⟩
  · obtain rfl : answer = .error e := herror
    obtain rfl : answer' = .error e := herror'
    exact ⟨rfl, hstep, hp.later hstep⟩

theorem call_inStep (c : Coordinator) (hs : s.Mirrors source period ρ s')
    (hp : p.Mirrors ρ p') (place : Nat) (request : Call) :
    ∃ ρ₁, Done.InStep source period ρ ρ₁ s s'
      ((call place request).perform c s p)
      ((call place request).perform c s' p') := by
  refine onConnection_inStep hs hp place fun conn conn' hconn => ?_
  obtain ⟨hanswer, hstep⟩ := InStep.callDirectly hs hconn request
  refine ⟨ρ, ?_⟩
  cases hcall : s.callDirectly conn request with
  | mk answer s₁ =>
  cases hcall' : s'.callDirectly conn' request with
  | mk answer' s₁' =>
  rw [hcall, hcall'] at hanswer hstep
  obtain rfl : answer' = answer := hanswer
  cases answer' <;> exact ⟨rfl, hstep, hp⟩

/-- An act is told the same on both sides. -/
theorem perform_inStep {c : Coordinator} {act : Act}
    (hsteady : ∀ d, act.definition? = some d → c.SteadyIn period d)
    (hs : s.Mirrors c.source.id period ρ s') (hp : p.Mirrors ρ p') :
    ∃ ρ₁, Done.InStep c.source.id period ρ ρ₁ s s' (act.perform c s p)
      (act.perform c s' p') := by
  cases act with
  | discover slot =>
      exact ⟨ρ, rfl, .refl hs,
        hp.setHandle slot (.some (c.discover_mirrors hs))⟩
  | isExisting slot =>
      refine onHandle_inStep hs hp slot fun h h' hh => ?_
      exact ⟨ρ, congrArg Reply.flag (hs.isActive hh), .refl hs, hp⟩
  | begin d slot =>
      refine onHandle_inStep hs hp slot fun h h' hh => ?_
      obtain ⟨ρ₁, hstep, hhandle, hresult⟩ :=
        Coordinator.begin_inStep (hsteady d rfl) hs hh
      exact ⟨ρ₁, congrArg Reply.ofResult hresult, hstep,
        (hp.later hstep).setHandle slot (.some hhandle)⟩
  | commit slot =>
      refine onHandle_inStep hs hp slot fun h h' hh => ?_
      obtain ⟨hresult, hstep⟩ :=
        Coordinator.finish_inStep hs hh "commit" .commit .committing
      exact ⟨ρ, congrArg Reply.ofResult hresult, hstep, hp⟩
  | rollback slot =>
      refine onHandle_inStep hs hp slot fun h h' hh => ?_
      obtain ⟨hresult, hstep⟩ :=
        Coordinator.finish_inStep hs hh "rollback" .rollback .rollingBack
      exact ⟨ρ, congrArg Reply.ofResult hresult, hstep, hp⟩
  | markRollbackOnly slot =>
      refine onHandle_inStep hs hp slot fun h h' hh => ?_
      obtain ⟨hresult, hhandle, hstep⟩ :=
        Coordinator.markRollbackOnly_inStep hs hh
      exact ⟨ρ, congrArg Reply.ofResult hresult, hstep,
        hp.setHandle slot (.some hhandle)⟩
  | cleanup slot =>
      refine onHandle_inStep hs hp slot fun h h' hh => ?_
      exact ⟨ρ, rfl, c.cleanup_inStep hs hh, hp.setHandle slot .none⟩
  | suspend slot place =>
      refine onHandle_inStep hs hp slot fun h h' hh => ?_
      obtain ⟨hsuspended, hhandle, hstep⟩ := c.suspend_inStep hs hh
      exact ⟨ρ, congrArg Reply.flag (rel_isSome hsuspended), hstep,
        (hp.setHandle slot (.some hhandle)).setSuspended place hsuspended⟩
  | resume place => exact resume_inStep c hs hp place
  | inspect slot =>
      refine onHandle_inStep hs hp slot fun h h' hh => ?_
      refine ⟨ρ, ?_, .refl hs, hp⟩
      rw [rel_isSome hh.holder, hh.ownsHolder, hh.previousIsolation,
        hh.restoresAutoCommit, hh.rollbackOnly, hs.isHolderRollbackOnly hh]
  | connectionOf slot place => exact connectionOf_inStep c hs hp slot place
  | getConnection place => exact getConnection_inStep c hs hp place
  | releaseConnection place =>
      refine onConnection_inStep hs hp place fun conn conn' hconn => ?_
      obtain ⟨hresult, hstep⟩ := c.source.releaseConnection_inStep hs hconn
      exact ⟨ρ, congrArg Reply.ofResult hresult, hstep, hp⟩
  | isTransactional place =>
      refine onConnection_inStep hs hp place fun conn conn' hconn => ?_
      exact ⟨ρ, congrArg Reply.flag (hs.isTransactional hconn c.key),
        .refl hs, hp⟩
  | call place request => exact call_inStep c hs hp place request
  | settings place =>
      refine onConnection_inStep hs hp place fun conn conn' hconn => ?_
      refine ⟨ρ, ?_, .refl hs, hp⟩
      rw [hs.autoCommit hconn, hs.isolation hconn]
  | rest seconds => exact ⟨ρ, rfl, .rest hs seconds, hp⟩

end Act

/-! ## Errands -/

inductive Errand.Step where
  | act (act : Act)
  /-- Asks the scope for a rollback. -/
  | markRollbackOnly
  /-- Looks at the scope. -/
  | look

/-- A unit of work of a user who goes by what it is told, as the tree of what it
does next. -/
inductive Errand (ε α : Type) where
  | finish (result : Except (Failure ε) α)
  | step (step : Errand.Step) (next : Reply → Errand ε α)
  /-- Executes an errand and goes on with its result. -/
  | execute (d : Definition) (body : Errand ε α)
      (next : Except (Failure ε) α → Errand ε α)

namespace Errand

def Step.take (c : Coordinator) (scope : Scope) (s : State) (p : Pocket) :
    Step → Scope × Done
  | .act a => (scope, a.perform c s p)
  | .markRollbackOnly =>
      match scope.markRollbackOnly s with
      | (result, scope', s') => (scope', ⟨.ofResult result, s', p⟩)
  | .look =>
      (scope, ⟨.scope scope.hasTransaction scope.isNew
        (scope.isRollbackOnly s), s, p⟩)

def Step.definition? : Step → Option Definition
  | .act a => a.definition?
  | _ => none

variable {ε α : Type}

def run (c : Coordinator) : Errand ε α → Work Pocket ε α
  | .finish result, scope, s, p => (scope, ⟨.finished result, s, p⟩)
  | .step first next, scope, s, p =>
      match first.take c scope s p with
      | (scope', done) => (next done.reply).run c scope' done.state done.pocket
  | .execute d body next, scope, s, p =>
      let inner := c.execute d (body.run c) s p
      match inner.ending with
      | .finished result => (next result).run c scope inner.state inner.memory
      | .overdue outer => (scope, ⟨.overdue outer, inner.state, inner.memory⟩)

/-- Every transaction that an errand asks for has a definition with a
property. -/
def Asks (P : Definition → Prop) : Errand ε α → Prop
  | .finish _ => True
  | .step first next =>
      (∀ d, first.definition? = some d → P d) ∧ ∀ reply, (next reply).Asks P
  | .execute d body next => P d ∧ body.Asks P ∧ ∀ result, (next result).Asks P

theorem asks_of_forall {P : Definition → Prop} (h : ∀ d, P d)
    (errand : Errand ε α) :
    errand.Asks P := by
  induction errand with
  | finish result => trivial
  | step first next ih => exact ⟨fun d _ => h d, ih⟩
  | execute d body next ihBody ihNext => exact ⟨h d, ihBody, ihNext⟩

end Errand

end UnitOfWork
