import UnitOfWork.Proofs.HonestWork

/-!
# Disciplined work

What a unit of work may do can depend on what its scope has given it so far, and
on what the scopes around it have.  A discipline says which steps and which
executions are allowed at a point, and `Plan.Heeds` that a run, with all the
runs inside it, does nothing else.

The same predicate tells what is the case throughout a run: a discipline may ask
something of the states that the run goes through.
-/

namespace UnitOfWork

/-- Whether a step makes no call on a connection. -/
def Plan.Step.Spares {σ : Type} (conn : Connection) : Plan.Step σ → Prop
  | call other _ => other ≠ conn
  | _ => True

/-- What is asked of a unit of work.  The connections are those that scopes
around its own have given, and those that its own scope has. -/
structure Discipline (σ : Type) where
  step : List Connection → List Connection → Scope → State → Plan.Step σ → Prop
  execution : Scope → State → Coordinator → Definition → Prop

namespace Discipline

variable {σ : Type}

/-- At each point of a run the state has a property, and no call is made on a
certain connection. -/
def sparing (conn : Connection) (Q : State → Prop) : Discipline σ where
  step _ _ _ s step := Q s ∧ step.Spares conn
  execution _ s _ _ := Q s

/-- A unit of work makes calls only on connections that its own scope or one
around it has given, it hands back only what its own scope has given, and it
executes other work only by coordinators with certain keys. -/
def handling (keys : Key → Prop) : Discipline σ where
  step around given _ _ step :=
    match step with
    | .call conn _ => conn ∈ around ++ given
    | .handBack conn => conn ∈ given
    | _ => True
  execution _ _ c _ := keys c.key

/-- A unit of work makes nothing but statements, on connections that its own
scope or one around it has given, and it hands back only what its own scope has
given.  It makes no commit and no rollback fail, and it executes other work only
as it was asked to. -/
def speaking (asked : Coordinator → Definition → Prop) : Discipline σ where
  step around given _ _ step :=
    match step with
    | .call conn request =>
        conn ∈ around ++ given ∧ ∃ text, request = .execute text
    | .handBack conn => conn ∈ given
    | .setFault _ fault on => on = true → fault ≠ .commit ∧ fault ≠ .rollback
    | _ => True
  execution _ _ c d := asked c d

end Discipline

namespace Plan

variable {σ ε α : Type}

def Step.lent (given : List Connection) :
    (step : Step σ) → step.Answer → List Connection
  | connection => handedOut given
  | _ => fun _ => given

/-- Whether a run of a plan keeps to a discipline, and every run inside it
does. -/
def Heeds (rule : Discipline σ) :
    Plan σ ε α → List Connection → List Connection → Scope → State →
    Diary σ → Prop
  | .finish _, _, _, _, _, _ => True
  | .pend _, _, _, _, _, _ => True
  | .step first next, around, given, scope, s, m =>
      let taken := first.take scope s m
      rule.step around given scope s first ∧
        (next taken.answer).Heeds rule around
          (first.lent given taken.answer) taken.scope taken.state taken.diary
  | .execute c d body next, around, given, scope, s, m =>
      rule.execution scope s c d ∧
      (∀ scope' s', c.Entered d s scope' s' →
        body.Heeds rule (around ++ given) [] scope' s' m) ∧
      ∀ result, (c.execute d body.run s m).ending = .finished result →
        (next result).Heeds rule around given scope
          (c.execute d body.run s m).state
          ((c.execute d body.run s m).memory.enter
            (.returned (c.course d s) (failed result)))

variable {rule rule' : Discipline σ}

theorem Heeds.mono
    (hstep : ∀ around given scope s step, rule.step around given scope s step →
      rule'.step around given scope s step)
    (hexecution : ∀ scope s c d, rule.execution scope s c d →
      rule'.execution scope s c d)
    {plan : Plan σ ε α} {around given : List Connection} {scope : Scope}
    {s : State} {m : Diary σ} (h : plan.Heeds rule around given scope s m) :
    plan.Heeds rule' around given scope s m := by
  induction plan generalizing around given scope s m with
  | finish result => trivial
  | pend outer => trivial
  | step first next ih => exact ⟨hstep _ _ _ _ _ h.1, ih _ h.2⟩
  | execute c d body next ihbody ihnext =>
      exact ⟨hexecution _ _ _ _ h.1,
        fun scope' s' hentered => ihbody (h.2.1 scope' s' hentered),
        fun result hresult => ihnext result (h.2.2 result hresult)⟩

/-- What is the case throughout a run may be weakened. -/
theorem Heeds.sparing_mono {conn : Connection} {Q Q' : State → Prop}
    (hQ : ∀ s, Q s → Q' s) {plan : Plan σ ε α} {around given : List Connection}
    {scope : Scope} {s : State} {m : Diary σ}
    (h : plan.Heeds (.sparing conn Q) around given scope s m) :
    plan.Heeds (.sparing conn Q') around given scope s m := by
  apply Heeds.mono ?_ ?_ h
  · exact fun _ _ _ s _ hstep => ⟨hQ s hstep.1, hstep.2⟩
  · exact fun _ s _ _ => hQ s

/-- Work that keeps to some coordinators keeps to more. -/
theorem Heeds.handling_mono {keys keys' : Key → Prop}
    (hkeys : ∀ key, keys key → keys' key) {plan : Plan σ ε α}
    {around given : List Connection} {scope : Scope} {s : State} {m : Diary σ}
    (h : plan.Heeds (.handling keys) around given scope s m) :
    plan.Heeds (.handling keys') around given scope s m := by
  apply Heeds.mono ?_ ?_ h
  · exact fun _ _ _ _ _ hstep => hstep
  · exact fun _ _ c _ hkey => hkeys c.key hkey

/-- Work that speaks uses only what scopes have given. -/
theorem Heeds.handling_of_speaking {asked : Coordinator → Definition → Prop}
    {plan : Plan σ ε α} {around given : List Connection} {scope : Scope}
    {s : State} {m : Diary σ}
    (h : plan.Heeds (.speaking asked) around given scope s m) :
    plan.Heeds (.handling fun _ => True) around given scope s m := by
  apply Heeds.mono ?_ ?_ h
  · intro around given scope s step hstep
    cases step with
    | call conn request => exact hstep.1
    | handBack conn => exact hstep
    | connection | markRollbackOnly | setFault | rest | remember | look =>
        trivial
  · exact fun _ _ _ _ _ => trivial

end Plan

end UnitOfWork
