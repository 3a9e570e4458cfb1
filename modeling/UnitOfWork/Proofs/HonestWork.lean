import UnitOfWork.Proofs.ConnectionLedger

/-!
# Honest work

Work is honest if it hands back only connections that its own scope has given
it, and each of them once for each time that it was given.  The ledger of a run
of honest work is in balance.

A scope either gives the bound connection every time, or a fresh one every time,
since its work leaves the bindings as they are.  The bound one is not handed
back to the source; a fresh one is pending until it is.
-/

namespace UnitOfWork

namespace Plan

variable {σ ε α : Type}

def Step.Allowed (given : List Connection) : Step σ → Prop
  | handBack c => c ∈ given
  | _ => True

/-- What a scope has given after it was asked for a connection. -/
def handedOut (given : List Connection) :
    Except TransactionError Connection → List Connection
  | .ok c => c :: given
  | .error _ => given

/-- What a scope has given after a step and was not handed back. -/
def Step.given (given : List Connection) :
    (step : Step σ) → step.Answer → List Connection
  | connection => handedOut given
  | handBack c => fun _ => given.erase c
  | _ => fun _ => given

/-- Whether a plan hands back only what its scope has given, or has given
before, in the run from a state.  The plans that it executes hand back only what
their scopes give. -/
def HonestFrom : Plan σ ε α → List Connection → Scope → State → Diary σ → Prop
  | .finish _, _, _, _, _ => True
  | .pend _, _, _, _, _ => True
  | .step first next, given, scope, s, m =>
      let taken := first.take scope s m
      first.Allowed given ∧
        (next taken.answer).HonestFrom
          (first.given given taken.answer) taken.scope taken.state taken.diary
  | .execute c d body next, given, scope, s, m =>
      (∀ scope' s' m', body.HonestFrom [] scope' s' m') ∧
        ∀ result, (c.execute d body.run s m).ending = .finished result →
          (next result).HonestFrom given scope (c.execute d body.run s m).state
            ((c.execute d body.run s m).memory.enter
              (.returned (c.course d s) (failed result)))

def Honest (plan : Plan σ ε α) : Prop :=
  ∀ scope s m, plan.HonestFrom [] scope s m

end Plan

/-- No connection is lost from a holder that stays bound. -/
theorem State.Keeps.boundConnection {s s' : State}
    (h : Keeps (fun _ => False) s s') (hs : s.BoundExist) (source : Source) :
    source.boundConnection s' = source.boundConnection s := by
  unfold Source.boundConnection
  cases hbound : s.boundHolder source.key with
  | none =>
      rw [h.free hbound]
      rfl
  | some id =>
      have hkept := (h.kept source.key id hbound).resolve_right not_false
      rw [hkept]
      exact h.connection id (hs source.key id hbound)

namespace Source

/-- What a scope may have given in a state: the bound connection, or fresh
ones. -/
structure Gave (source : Source) (given : List Connection) (s : State) :
    Prop where
  bound : ∀ c ∈ given, ∀ b, source.boundConnection s = some b → c = b
  fresh : ∀ c ∈ given, source.boundConnection s = none →
    c.source = source.id ∧ c.id < s.nextId c.source

/-- What was given and is pending: the bound connection is not. -/
def pending (source : Source) (given : List Connection) (s : State) :
    List Connection :=
  match source.boundConnection s with
  | some _ => []
  | none => given

variable {source : Source} {given : List Connection} {s s' : State}

theorem Gave.nil (source : Source) (s : State) : source.Gave [] s where
  bound _ hc := by cases hc
  fresh _ hc := by cases hc

theorem Gave.known (h : source.Gave given s) :
    ∀ c ∈ source.pending given s, c.id < s.nextId c.source := by
  rw [pending]
  cases hbound : source.boundConnection s with
  | some b => simp
  | none => exact fun c hc => (h.fresh c hc hbound).2

theorem Gave.later {deals : List Note} (h : source.Gave given s)
    (hsame : source.boundConnection s' = source.boundConnection s)
    (hdeals : State.Deals deals s s') : source.Gave given s' where
  bound c hc b hb := h.bound c hc b (hsame ▸ hb)
  fresh c hc hnone := by
    obtain ⟨hsource, hknown⟩ := h.fresh c hc (hsame ▸ hnone)
    exact ⟨hsource, Nat.lt_of_lt_of_le hknown (hdeals.nextId c.source)⟩

@[simp]
theorem pending_nil (source : Source) (s : State) :
    source.pending [] s = [] := by
  rw [pending]
  cases source.boundConnection s <;> rfl

theorem pending_of_same
    (hsame : source.boundConnection s' = source.boundConnection s) :
    source.pending given s' = source.pending given s := by
  unfold pending
  rw [hsame]

theorem pending_of_some {b : Connection}
    (h : source.boundConnection s = some b) :
    source.pending given s = [] := by
  rw [pending]
  rw [h]

theorem pending_of_none (h : source.boundConnection s = none) :
    source.pending given s = given := by
  rw [pending]
  rw [h]

theorem isTransactional_iff {c : Connection} :
    s.isTransactional source.key c = true ↔
      source.boundConnection s = some c := by
  rw [State.isTransactional, Source.boundConnection]
  cases s.boundHolder source.key with
  | none => simp
  | some id => simp

/-- The ledger of what scopes on a source do is in balance with what they have
given. -/
def Balanced (source : Source) (given given' : List Connection) (s s' : State) :
    Prop :=
  source.Gave given' s' ∧
    ∃ deals, State.Ledger (source.pending given s)
      (source.pending given' s') deals s s'

variable {conn : Connection}

theorem balanced_of_nothing (hgave : source.Gave given s)
    (hsame : source.boundConnection s' = source.boundConnection s)
    (hdeals : State.Deals [] s s') : source.Balanced given given s s' := by
  refine ⟨hgave.later hsame hdeals, [], ?_⟩
  rw [pending_of_same hsame]
  exact .nothing hgave.known hdeals

/-- The bound connection is given. -/
theorem balanced_of_bound (hgave : source.Gave given s)
    (hbound : source.boundConnection s = some conn) :
    source.Balanced given (conn :: given) s s := by
  refine ⟨⟨fun c hc b hb => ?_, fun c hc hnone => ?_⟩, [], ?_⟩
  · rcases List.mem_cons.mp hc with rfl | hc
    · exact Option.some.inj (hbound.symm.trans hb)
    · exact hgave.bound c hc b hb
  · rw [hbound] at hnone
    cases hnone
  · rw [pending_of_some hbound, pending_of_some hbound]
    exact .nothing (by simp) (.refl s)

/-- A fresh connection is given. -/
theorem balanced_of_fetched (hgave : source.Gave given s)
    (hsame : source.boundConnection s' = source.boundConnection s)
    (hbound : source.boundConnection s = none)
    (hsource : conn.source = source.id)
    (hdeals : State.Deals [.line (.fetched conn)] s s') :
    source.Balanced given (conn :: given) s s' := by
  have hbound' := hsame.trans hbound
  have hlater := hgave.later hsame hdeals
  have hnew := (hdeals.new_of_fetched (List.mem_singleton_self _)).2
  refine ⟨⟨fun c _ b hb => ?_, fun c hc hnone => ?_⟩, _, hdeals, hgave.known,
    fun c => ?_,
    fun c => ?_, fun n hn => ?_, fun c => List.pairwise_singleton _ _⟩
  · rw [hbound'] at hb
    cases hb
  · rcases List.mem_cons.mp hc with rfl | hc
    · exact ⟨hsource, hnew⟩
    · exact hlater.fresh c hc hnone
  · rw [pending_of_none hbound, pending_of_none hbound', List.count_cons]
    by_cases heq : conn = c <;>
      simp [heq, Note.returns, Note.makes, Note.made?, Line.made?]
  · simp [Note.acquires]
  · rw [List.mem_singleton.mp hn]
    exact Note.proper_of_not_returns fun _ => rfl

/-- A fresh connection is handed back. -/
theorem balanced_of_returned {fault : Option Fault}
    (hgave : source.Gave given s)
    (hsame : source.boundConnection s' = source.boundConnection s)
    (hbound : source.boundConnection s = none) (hgiven : conn ∈ given)
    (hfault : ReleaseOutcome fault)
    (hdeals : State.Deals [.driver (.release source.id conn) fault] s s') :
    source.Balanced given (given.erase conn) s s' := by
  have hbound' := hsame.trans hbound
  have hlater := hgave.later hsame hdeals
  have hsource := (hgave.fresh conn hgiven hbound).1
  refine ⟨⟨fun c hc => hlater.bound c (List.mem_of_mem_erase hc),
      fun c hc => hlater.fresh c (List.mem_of_mem_erase hc)⟩,
    _, hdeals, hgave.known, fun c => ?_, fun c => ?_, fun n hn => ?_,
    fun c => List.pairwise_singleton _ _⟩
  · have hcount : 0 < given.count conn := List.count_pos_iff.mpr hgiven
    rw [pending_of_none hbound, pending_of_none hbound']
    by_cases heq : conn = c
    · subst heq
      simp only [List.count_erase_self, List.countP_singleton, Note.returns,
        decide_true, if_true]
      omega
    · rw [List.count_erase_of_ne (Ne.symm heq)]
      simp [heq, Note.returns]
  · simp [Note.acquires]
  · intro place c fault' hn'
    rw [List.mem_singleton.mp hn] at hn'
    injection hn' with hrelease hfault'
    injection hrelease with hplace hconn
    rw [← hplace, ← hconn, ← hfault']
    exact ⟨hsource.symm, hfault⟩

end Source

namespace Scope

variable {scope : Scope} {given : List Connection} {s : State}
variable {conn : Connection}

theorem balanced_connection (hgave : scope.coordinator.source.Gave given s)
    (hsame : scope.coordinator.source.boundConnection (scope.connection s).2 =
      scope.coordinator.source.boundConnection s) :
    scope.coordinator.source.Balanced given
      (Plan.handedOut given (scope.connection s).1) s
      (scope.connection s).2 := by
  rcases scope.connection_cases s with ⟨conn, hbound, h⟩ |
    ⟨hbound, conn, s', h, hsource, hdeals⟩ | ⟨e, s', h, hdeals⟩ <;>
      rw [h] at hsame ⊢
  · exact Source.balanced_of_bound hgave hbound
  · exact Source.balanced_of_fetched hgave hsame hbound hsource hdeals
  · exact Source.balanced_of_nothing hgave hsame hdeals

theorem balanced_release (hgave : scope.coordinator.source.Gave given s)
    (hsame : scope.coordinator.source.boundConnection (scope.release conn s).2 =
      scope.coordinator.source.boundConnection s) (hgiven : conn ∈ given) :
    scope.coordinator.source.Balanced given (given.erase conn) s
      (scope.release conn s).2 := by
  rcases scope.release_cases conn s with ⟨htransactional, h⟩ |
    ⟨htransactional, fault, hfault, hdeals⟩
  · -- The bound connection stays where it is.
    have hbound := Source.isTransactional_iff.mp htransactional
    rw [h]
    refine ⟨⟨fun c hc => hgave.bound c (List.mem_of_mem_erase hc),
      fun c hc => hgave.fresh c (List.mem_of_mem_erase hc)⟩, [], ?_⟩
    rw [Source.pending_of_some hbound, Source.pending_of_some hbound]
    exact .nothing (by simp) (.refl s)
  · have hbound : scope.coordinator.source.boundConnection s = none := by
      cases hb : scope.coordinator.source.boundConnection s with
      | none => rfl
      | some b =>
          obtain rfl := hgave.bound conn hgiven b hb
          have hheld : s.isTransactional scope.coordinator.key conn = true :=
            Source.isTransactional_iff.mpr hb
          rw [hheld] at htransactional
          cases htransactional
    exact Source.balanced_of_returned hgave hsame hbound hgiven hfault hdeals

end Scope

namespace Plan

variable {σ ε α : Type}

/-- A step of honest work is in balance. -/
theorem Step.balanced {step : Step σ} {given : List Connection} {scope : Scope}
    {s : State} (m : Diary σ) (hallowed : step.Allowed given)
    (hs : s.BoundExist) (hgave : scope.coordinator.source.Gave given s) :
    scope.coordinator.source.Balanced given
      (step.given given (step.take scope s m).answer) s
      (step.take scope s m).state := by
  have hkeeps : State.Keeps (fun _ => False) s (step.take scope s m).state :=
    step.take_keeps scope s m
  have hsame := hkeeps.boundConnection hs scope.coordinator.source
  cases hstep : step.isDeal with
  | false =>
      have hgiven : step.given given (step.take scope s m).answer = given := by
        cases step with
        | connection | handBack => cases hstep
        | _ => rfl
      rw [hgiven]
      exact Source.balanced_of_nothing hgave hsame
        (Step.take_deals_nothing hstep scope s m)
  | true =>
      cases step with
      | connection => exact Scope.balanced_connection hgave hsame
      | handBack conn => exact Scope.balanced_release hgave hsame hallowed
      | _ => cases hstep

/-- The run of honest work is in balance, if no deadline passes. -/
theorem Prompt.run_ledger {plan : Plan σ ε α} (hprompt : plan.Prompt)
    {given : List Connection} {scope : Scope} {s : State} {m : Diary σ}
    (hhonest : plan.HonestFrom given scope s m) (hs : s.BoundExist)
    (hgave : scope.coordinator.source.Gave given s) :
    ∃ deals pending',
      State.Ledger (scope.coordinator.source.pending given s) pending' deals s
      (plan.run scope s m).2.state := by
  induction plan generalizing given scope s m with
  | finish result => exact ⟨[], _, .nothing hgave.known (.refl s)⟩
  | pend outer => exact hprompt.elim
  | step first next ih =>
      obtain ⟨hgave', deals, hfirst⟩ := Step.balanced m hhonest.1 hs hgave
      obtain ⟨mark, hscope⟩ := first.take_scope scope s m
      have hcoordinator := first.take_coordinator scope s m
      rw [← hcoordinator] at hfirst hgave'
      obtain ⟨rest, pending', hrest⟩ := ih _ (hprompt _) hhonest.2
        (first.take_boundExist scope m hs) hgave'
      rw [hcoordinator] at hfirst hrest
      exact ⟨_, pending', hfirst.trans hrest⟩
  | execute c d body next ihbody ihnext =>
      obtain ⟨hkeeps, result, hresult⟩ := c.execute_returns d m hprompt.1 hs
      have hsame := hkeeps.boundConnection hs scope.coordinator.source
      obtain ⟨deals, hinner⟩ := (c.execution d body s m).ledger hs
        ⟨result, hresult⟩
        fun scope' s' hs' => by
          have hbody := ihbody hprompt.1 (hhonest.1 scope' s' m) hs' (.nil _ s')
          rwa [Source.pending_nil] at hbody
      obtain ⟨rest, pending', hrest⟩ := ihnext result (hprompt.2 result)
        (hhonest.2 result hresult) (hkeeps.boundExist hs)
        (hgave.later hsame hinner.dealt)
      rw [Source.pending_of_same hsame] at hrest
      rw [run_execute_of_finished hresult]
      exact ⟨_, pending', (hinner.frame hgave.known).trans hrest⟩

theorem Prompt.run_ledger_of_honest {plan : Plan σ ε α} (hprompt : plan.Prompt)
    (hhonest : plan.Honest) (scope : Scope) {s : State} (m : Diary σ)
    (hs : s.BoundExist) :
    ∃ deals pending',
      State.Ledger [] pending' deals s (plan.run scope s m).2.state := by
  have hrun := hprompt.run_ledger (hhonest scope s m) hs (.nil _ s)
  rwa [Source.pending_nil] at hrun

end Plan

namespace Coordinator

variable {σ ε α : Type} {plan : Plan σ ε α} {s : State}

/-- The execution of honest work is in balance, if no deadline passes. -/
theorem execute_ledger (c : Coordinator) (d : Definition)
    (hprompt : plan.Prompt) (hhonest : plan.Honest) (m : Diary σ)
    (hs : s.BoundExist) :
    ∃ deals, State.Ledger [] [] deals s (c.execute d plan.run s m).state :=
  (c.execution d plan s m).ledger hs (execute_completes hprompt).1
    fun scope _ hs' => hprompt.run_ledger_of_honest hhonest scope m hs'

end Coordinator

end UnitOfWork
