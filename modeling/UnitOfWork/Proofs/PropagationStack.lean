import UnitOfWork.Proofs.ConnectionEvents
import UnitOfWork.Proofs.FetchedConnections

/-!
# Propagation as a stack of transactions

What a propagation means can be told without holders, handles and bindings.
Executions are nested, and at each of them there is a current transaction or
none.  The propagation decides whether the work is rejected, joins the current
transaction, gets one of its own or runs without one; when the execution is
over, the current transaction is the one from before it.  `Standing` is what
this reference says about a scope, and `Plan.Agrees` that a run of a plan on one
coordinator agrees with it everywhere.
-/

namespace UnitOfWork

/-- Where a unit of work stands: in which transaction it runs, which is known by
its connection, and whether that was begun for it. -/
structure Standing where
  transaction : Option Connection := none
  isNew : Bool := false

inductive Verdict where
  | rejects
  | joins
  | opens
  | runsWithout

namespace Standing

/-- What a propagation asks for where a unit of work stands. -/
def verdict (standing : Standing) : Propagation → Verdict
  | .required => if standing.transaction.isSome then .joins else .opens
  | .supports => if standing.transaction.isSome then .joins else .runsWithout
  | .mandatory => if standing.transaction.isSome then .joins else .rejects
  | .requiresNew => .opens
  | .notSupported => .runsWithout
  | .never => if standing.transaction.isSome then .rejects else .runsWithout

/-- There is a transaction if one is joined. -/
theorem isSome_of_joins {standing : Standing} {p : Propagation}
    (h : standing.verdict p = .joins) : standing.transaction.isSome = true := by
  unfold verdict at h
  cases p <;> simp only at h
  all_goals
    first
    | cases h
    | split at h
      · assumption
      · cases h

/-- What a scope gives that is asked for a connection: the one of its
transaction.  Without a transaction it is a connection that was never handed out
and is held by no one, unless none can be created. -/
def Gives (standing : Standing) (scope : Scope) (s : State) : Prop :=
  match standing.transaction with
  | some conn => scope.connection s = (.ok conn, s)
  | none =>
      (s.drivers scope.coordinator.source.id).faults .create = false →
        ∃ conn s', scope.connection s = (.ok conn, s') ∧
          State.Created conn s s' ∧
          ∀ id, (s.holders id).connection ≠ some conn

structure Shows (standing : Standing) (scope : Scope) (s : State) : Prop where
  hasTransaction : scope.hasTransaction = standing.transaction.isSome
  isNew : scope.isNew = standing.isNew
  gives : standing.Gives scope s

end Standing

/-- Work that also lists the scopes and the states in which it was started. -/
def Work.listed {σ ε α : Type} (work : Work σ ε α) :
    Work (σ × List (Scope × State)) ε α :=
  fun scope s m =>
    match work scope s m.1 with
    | (scope', run) =>
        (scope', ⟨run.ending, run.state, (run.memory, m.2 ++ [(scope, s)])⟩)

/-- Between two states nothing was asked of any driver, and the journal has more
lines. -/
def State.OnlySays (s s' : State) : Prop :=
  s'.drivers = s.drivers ∧ ∃ lines : List Line,
  s'.journal = s.journal ++ lines.map .line

namespace Coordinator

variable {σ ε α : Type}

/-- The scopes and the states in which an execution starts its work. -/
def starts (c : Coordinator) (d : Definition) (work : Work σ ε α) (s : State)
    (m : σ) :
    List (Scope × State) :=
  (c.execute d work.listed s (m, [])).memory.2

/-- The beginning of a transaction for which a running one is suspended. -/
def opening (c : Coordinator) (d : Definition) (s : State) :
    Except TransactionError Unit × Handle × State :=
  c.begin d (c.blank (c.running s) s) (c.entrance d (c.running s) s)

/-- An execution does to its work what the reference says: it is not started if
it is rejected or if its transaction cannot be begun, and otherwise it is
started once, where the reference says that it stands.  A transaction that is
begun for it has a connection that was never handed out before.  An execution
that joins asks nothing of a driver itself, and one that is rejected leaves
everything as it is. -/
def Obeys (c : Coordinator) (d : Definition) (standing : Standing)
    (work : Work σ ε α) (inside : Standing → Scope → State → Prop) (s : State)
    (m : σ) :
    Prop :=
  match standing.verdict d.propagation with
  | .rejects => c.starts d work s m = [] ∧ (c.execute d work s m).state = s
  | .joins =>
      ∃ scope s₀, c.starts d work s m = [(scope, s₀)] ∧
        inside { transaction := standing.transaction } scope s₀ ∧
        State.OnlySays s s₀ ∧
        State.OnlySays (work scope s₀ m).2.state (c.execute d work s m).state
  | .runsWithout =>
      ∃ scope s₀, c.starts d work s m = [(scope, s₀)] ∧ inside {} scope s₀
  | .opens =>
      (∃ e h' s', c.opening d s = (.error e, h', s') ∧
        c.starts d work s m = []) ∨
      ∃ h s₀ conn, c.opening d s = (.ok (), h, s₀) ∧
        c.starts d work s m = [(.beginning c h, s₀)] ∧
        conn.source = c.source.id ∧
        State.Created conn s s₀ ∧
        inside { transaction := some conn, isNew := true } (.beginning c h) s₀

end Coordinator

namespace Plan

variable {σ ε α : Type}

def On (c : Coordinator) : Plan σ ε α → Prop
  | .finish _ => True
  | .pend _ => True
  | .step _ next => ∀ answer, (next answer).On c
  | .execute c' _ body next => c' = c ∧ body.On c ∧ ∀ result, (next result).On c

/-- Whether a run of a plan agrees with the reference: at each point of it the
scope shows where the work stands, and each execution in it does to its work
what the reference says.  After an execution the work stands where it stood
before. -/
def Agrees : Plan σ ε α → Standing → Scope → State → Diary σ → Prop
  | .finish _, standing, scope, s, _ => standing.Shows scope s
  | .pend _, standing, scope, s, _ => standing.Shows scope s
  | .step first next, standing, scope, s, m =>
      let taken := first.take scope s m
      standing.Shows scope s ∧
        (next taken.answer).Agrees standing taken.scope taken.state taken.diary
  | .execute c d body next, standing, scope, s, m =>
      standing.Shows scope s ∧
      c.Obeys d standing body.run
        (fun standing' scope' s' => body.Agrees standing' scope' s' m) s m ∧
      ∃ result, (c.execute d body.run s m).ending = .finished result ∧
        (next result).Agrees standing scope (c.execute d body.run s m).state
          ((c.execute d body.run s m).memory.enter
            (.returned (c.course d s) (failed result)))

end Plan

/-! ## The starts of work -/

def Run.withMemory {σ τ ε α : Type} (run : Run σ ε α) (m : τ) : Run τ ε α :=
  ⟨run.ending, run.state, m⟩

namespace Coordinator

variable {σ τ ε α : Type}

theorem conclude_withMemory (c : Coordinator) (suspended : Option HolderId)
    (result : Except (Failure ε) α) (s : State) (m : σ) (m' : τ) :
    c.conclude suspended result s m' =
      (c.conclude suspended result s m).withMemory m' := by
  cases suspended with
  | none => rfl
  | some id =>
      simp only [conclude]
      cases c.resume id s with
      | mk outcome s' => cases outcome <;> rfl

def entries (c : Coordinator) (d : Definition) (s : State) :
    List (Scope × State) :=
  match c.course d s with
  | .refuses _ => []
  | .joins id =>
      [(.joining c { holder := some id }, s.say (.participating d.name))]
  | .runsAlone suspended => [(.without c, c.setAside suspended s)]
  | .begins suspended =>
      match c.begin d (c.blank suspended s) (c.entrance d suspended s) with
      | (.ok (), h, s₁) => [(.beginning c h, s₁)]
      | (.error _, _, _) => []

theorem runJoining_listed (c : Coordinator) (d : Definition) (h : Handle)
    (work : Work σ ε α) (s : State) (m : σ) (l : List (Scope × State)) :
    c.runJoining d h work.listed s (m, l) =
      (c.runJoining d h work s m).withMemory
        ((c.runJoining d h work s m).memory,
          l ++ [(.joining c h, s.say (.participating d.name))]) := by
  simp only [runJoining, Work.listed]
  rcases work (.joining c h) (s.say (.participating d.name)) m with
      ⟨scope, ending, s', m'⟩
  cases ending with
  | overdue outer => rfl
  | finished result =>
      cases result with
      | ok value => rfl
      | error failure =>
          simp only [Run.afterFinish]
          rcases scope.markRollbackOnly (s'.say .participantFailed) with
              ⟨outcome, scope', s''⟩
          cases outcome <;> rfl

theorem runBegun_listed (c : Coordinator) (suspended : Option HolderId)
    (h : Handle) (work : Work σ ε α) (s : State) (m : σ)
    (l : List (Scope × State)) :
    c.runBegun suspended h work.listed s (m, l) =
      (c.runBegun suspended h work s m).withMemory
        ((c.runBegun suspended h work s m).memory,
          l ++ [(.beginning c h, s)]) := by
  simp only [runBegun, Work.listed]
  rcases work (.beginning c h) s m with ⟨scope, ending, s', m'⟩
  have hclosed : ∀ h' (completed : Except (Failure ε) α × State),
      c.close suspended h' completed (m', l ++ [(Scope.beginning c h, s)]) =
        (c.close suspended h' completed m').withMemory
          ((c.close suspended h' completed m').memory,
            l ++ [(.beginning c h, s)]) := by
    intro h' completed
    rw [close_memory, close, close,
      conclude_withMemory c suspended completed.1 _ m']
  cases ending with
  | finished result =>
      cases (Scope.beginning c h).deadline s <;> exact hclosed _ _
  | overdue outer =>
      cases (Scope.beginning c h).deadline s with
      | none => cases outer <;> rfl
      | some deadline =>
          cases outer with
          | zero => exact hclosed _ _
          | succ outer => rfl

theorem runNew_listed (c : Coordinator) (d : Definition)
    (suspended : Option HolderId) (h : Handle) (work : Work σ ε α) (s : State)
    (m : σ) (l : List (Scope × State)) :
    c.runNew d suspended h work.listed s (m, l) =
      (c.runNew d suspended h work s m).withMemory
        ((c.runNew d suspended h work s m).memory,
          l ++ match c.begin d h (s.say (.creating d.name)) with
            | (.ok (), h, s₁) => [(.beginning c h, s₁)]
            | (.error _, _, _) => []) := by
  unfold runNew
  rcases c.begin d h (s.say (.creating d.name)) with ⟨outcome, h, s₁⟩
  cases outcome with
  | ok _ => exact c.runBegun_listed suspended h work s₁ m l
  | error e =>
      rw [List.append_nil]
      cases suspended with
      | none => rfl
      | some id =>
          simp only
          rcases c.resume id s₁ with ⟨resumed, s₂⟩
          cases resumed <;> rfl

/-- Work that lists its starts is executed like the work itself, and it is
started once or not at all. -/
theorem execute_listed (c : Coordinator) (d : Definition) (work : Work σ ε α)
    (s : State) (m : σ) (l : List (Scope × State)) :
    c.execute d work.listed s (m, l) =
      (c.execute d work s m).withMemory ((c.execute d work s m).memory,
        l ++ c.entries d s) := by
  cases hcourse : c.course d s with
  | refuses reason =>
      rw [execute_of_refuses hcourse, execute_of_refuses hcourse, entries,
        hcourse, List.append_nil]
      rfl
  | joins id =>
      rw [execute_of_joins hcourse, execute_of_joins hcourse, runJoining_listed,
        entries, hcourse]
  | runsAlone suspended =>
      rw [execute_of_runsAlone hcourse, execute_of_runsAlone hcourse,
        entries, hcourse]
      simp only [runWithout, Work.listed]
      rcases work (.without c) (c.setAside suspended s) m with
          ⟨scope, ending, s', m'⟩
      cases ending with
      | overdue outer => rfl
      | finished result =>
          simp only [Run.afterFinish]
          rw [conclude_memory, conclude_withMemory c suspended result s' m']
  | begins suspended =>
      rw [execute_of_begins hcourse, execute_of_begins hcourse, runNew_listed,
        entries, hcourse]
      rfl

theorem starts_eq (c : Coordinator) (d : Definition) (work : Work σ ε α)
    (s : State) (m : σ) :
    c.starts d work s m = c.entries d s := by
  rw [starts, execute_listed]
  rfl

/-- An execution that joins writes lines about it, and asks nothing of a
driver. -/
theorem runJoining_onlySays (c : Coordinator) (d : Definition) (h : Handle)
    (work : Work σ ε α) (s : State) (m : σ) :
    State.OnlySays
      (work (.joining c h) (s.say (.participating d.name)) m).2.state
      (c.runJoining d h work s m).state := by
  have hnothing : ∀ s : State, State.OnlySays s s := fun s =>
    ⟨rfl, [], (List.append_nil _).symm⟩
  simp only [runJoining]
  rcases work (.joining c h) (s.say (.participating d.name)) m with
      ⟨scope, ending, s', m'⟩
  cases ending with
  | overdue outer => exact hnothing s'
  | finished result =>
      cases result with
      | ok value => exact hnothing s'
      | error failure =>
          simp only [Run.afterFinish]
          rcases scope.markRollbackOnly_cases (s'.say .participantFailed) with
            ⟨e, -, hmark⟩ | ⟨id, -, hmark⟩ <;> rw [hmark]
          · exact ⟨rfl, [.participantFailed], rfl⟩
          · refine ⟨rfl, [.participantFailed,
              .markingRollbackOnly (s'.holders id).connection], ?_⟩
            simp [State.markedHolder, State.note, State.say]

end Coordinator

/-! ## What stands behind a standing -/

structure Standing.Fits (standing : Standing) (c : Coordinator)
    (scope : Scope) : Prop where
  coordinator : scope.coordinator = c
  hasTransaction : scope.handle.isSome = standing.transaction.isSome
  isNew : scope.isNew = standing.isNew

theorem Standing.Fits.marked {standing : Standing} {c : Coordinator}
    {scope : Scope} (h : standing.Fits c scope) (mark : Bool) :
    standing.Fits c (scope.marked mark) :=
  ⟨h.coordinator, by simpa [Scope.marked] using h.hasTransaction, h.isNew⟩

/-- The current transaction runs on the bound holder, and without one nothing is
bound. -/
def Coordinator.Current (c : Coordinator) (s : State) : Option Connection → Prop
  | none => s.boundHolder c.key = none
  | some conn =>
      ∃ id, s.boundHolder c.key = some id ∧ (s.holders id).stage = .active ∧
      (s.holders id).connection = some conn

/-- A state in which a coordinator finds a transaction, or none. -/
structure State.Ready (c : Coordinator) (transaction : Option Connection)
    (s : State) :
    Prop where
  exist : s.BoundExist
  known : s.HeldKnown
  current : c.Current s transaction

namespace State.Ready

variable {c : Coordinator} {d : Definition} {transaction : Option Connection}
variable {s s' : State}

theorem later (h : Ready c transaction s) (hkeeps : Keeps (fun _ => False) s s')
    (hnext : ∀ source, s.nextId source ≤ s'.nextId source) :
    Ready c transaction s' where
  exist := hkeeps.boundExist h.exist
  known := h.known.later hkeeps.held hnext
  current := by
    have hcurrent := h.current
    cases transaction with
    | none => exact hkeeps.free hcurrent
    | some conn =>
        obtain ⟨id, hbound, hactive, hconn⟩ := hcurrent
        have hid := h.exist _ id hbound
        exact ⟨id, (hkeeps.kept _ id hbound).resolve_right not_false,
          (hkeeps.stage id hid).trans hactive,
          (hkeeps.connection id hid).trans hconn⟩

theorem running_none (h : Ready c none s) : c.running s = none := by
  have hfree : s.boundHolder c.key = none := h.current
  simp [Coordinator.running, hfree]

theorem running_some {conn : Connection} (h : Ready c (some conn) s) :
    ∃ id, c.running s = some id ∧ (s.holders id).connection = some conn := by
  obtain ⟨id, hbound, hactive, hconn⟩ := h.current
  exact ⟨id, Coordinator.running_eq_some_iff.mpr ⟨hbound, hactive⟩, hconn⟩

/-- When the running transaction is set aside there is no current one. -/
theorem aside (h : Ready c transaction s) :
    Ready c none (c.setAside (c.running s) s) where
  exist := Coordinator.boundExist_setAside h.exist
  known := h.known.later (fun _ _ hconn => by simpa using hconn)
    (c.deals_setAside (c.running s) s).nextId
  current := by
    cases transaction with
    | none =>
        rw [h.running_none]
        exact h.current
    | some conn =>
        obtain ⟨id, hid, -⟩ := h.running_some
        show (c.setAside (c.running s) s).boundHolder c.key = none
        simp [Coordinator.boundHolder_setAside, hid]

/-- A transaction that is begun where there is none is the current one from then
on, and its connection is new. -/
theorem begun {h : Handle} {s₁ : State} (hready : Ready c transaction s)
    (hok : c.opening d s = (.ok (), h, s₁)) :
    ∃ conn, conn.source = c.source.id ∧ Created conn s s₁ ∧
      Ready c (some conn) s₁ := by
  have haside := hready.aside
  obtain ⟨conn, id, hbegun, hconfined, hcreated⟩ :=
    Coordinator.confined_of_ok rfl hok
  have hnothing : (c.blank (c.running s) s).holder = none := haside.current
  have hentrance := (c.deals_entrance d (c.running s) s).nextId
  cases hbegun.origin with
  | reused hholder =>
      rw [hnothing] at hholder
      cases hholder
  | created hid howns hnext =>
      obtain ⟨hsource, hnew⟩ := hcreated howns
      refine ⟨conn, hsource, hnew.mono hentrance fun _ => Nat.le_refl _,
        hbegun.boundExist hready.exist, ?_, ?_⟩
      · exact hbegun.heldKnown (Coordinator.heldKnown_entrance hready.known _)
          hconfined.nextId
          fun _ => hnew.2
      · exact ⟨id,
          by simp [hbegun.bound, howns], hbegun.stage, hbegun.connection⟩

/-- The scope of a transaction finds its connection. -/
theorem connection_found {conn : Connection} {scope : Scope}
    (h : Ready c (some conn) s) (hscope : scope.coordinator = c) :
    scope.connection s = (.ok conn, s) := by
  obtain ⟨id, hbound, -, hconn⟩ := h.current
  have hfound : scope.coordinator.source.boundConnection s = some conn := by
    rw [hscope]
    exact Option.bind_eq_some_iff.mpr ⟨id, hbound, hconn⟩
  simp only [Scope.connection, Source.getConnection, hfound]

/-- The scope of work without a transaction fetches a connection that no one
holds. -/
theorem connection_fetched {scope : Scope} (h : Ready c none s)
    (hscope : scope.coordinator = c)
    (hfault : (s.drivers c.source.id).faults .create = false) :
    ∃ conn s', scope.connection s = (.ok conn, s') ∧ Created conn s s' ∧
      ∀ id, (s.holders id).connection ≠ some conn := by
  have hfree : s.boundHolder c.source.key = none := h.current
  have hfound : c.source.boundConnection s = none := by
    simp [Source.boundConnection, hfree]
  rcases scope.connection_cases s with ⟨conn, hbound, -⟩ |
    ⟨-, conn, s', hgot, -, hdeals⟩ | ⟨e, s', hfailed, -⟩
  · rw [hscope, hfound] at hbound
    cases hbound
  · have hnew := hdeals.new_of_fetched (List.mem_singleton_self _)
    exact ⟨conn, s', hgot, hnew,
      fun id hheld => Nat.not_lt.mpr hnew.1 (h.known id conn hheld)⟩
  · simp [Scope.connection, Source.getConnection, State.create, Driver.create,
      Driver.check, hscope, hfound, hfault] at hfailed

/-- What a scope shows is where its work stands. -/
theorem shows {standing : Standing} {scope : Scope}
    (h : Ready c standing.transaction s) (hfits : standing.Fits c scope) :
    standing.Shows scope s := by
  refine ⟨hfits.hasTransaction, hfits.isNew, ?_⟩
  rw [Standing.Gives]
  cases htransaction : standing.transaction with
  | some conn =>
      rw [htransaction] at h
      exact h.connection_found hfits.coordinator
  | none =>
      rw [htransaction] at h
      intro hfault
      exact h.connection_fetched
        hfits.coordinator (by rwa [hfits.coordinator] at hfault)

end State.Ready

namespace Coordinator

variable {σ ε α : Type} {c : Coordinator} {d : Definition} {standing : Standing}
variable {s : State} {m : σ}

/-- The course of an execution is the verdict of the reference. -/
theorem course_eq_verdict (h : State.Ready c standing.transaction s) :
    match standing.verdict d.propagation with
    | .rejects => ∃ reason, c.course d s = .refuses reason
    | .joins => ∃ id, c.course d s = .joins id
    | .runsWithout => c.course d s = .runsAlone (c.running s)
    | .opens => c.course d s = .begins (c.running s) := by
  cases htransaction : standing.transaction with
  | none =>
      rw [htransaction] at h
      have hnone := h.running_none
      cases hp : d.propagation <;>
        simp [Standing.verdict, htransaction, course, hnone, hp]
  | some conn =>
      rw [htransaction] at h
      obtain ⟨id, hid, -⟩ := h.running_some
      cases hp : d.propagation <;>
        simp [Standing.verdict, htransaction, course, hid, hp]

/-- An execution does to its work what the reference says, if the work does so
wherever the reference lets it stand. -/
theorem obeys (h : State.Ready c standing.transaction s) (work : Work σ ε α)
    {inside : Standing → Scope → State → Prop}
    (hinside : ∀ standing' scope s', standing'.Fits c scope →
      State.Ready c standing'.transaction s' → inside standing' scope s') :
    c.Obeys d standing work inside s m := by
  have hcourse := course_eq_verdict (d := d) h
  rw [Obeys, starts_eq, entries]
  cases hverdict : standing.verdict d.propagation with
  | rejects =>
      rw [hverdict] at hcourse
      obtain ⟨reason, hreason⟩ := hcourse
      have hunchanged : (c.execute d work s m).state = s := by
        rw [execute_of_refuses hreason]
        rfl
      simp only [hreason]
      exact ⟨trivial, hunchanged⟩
  | joins =>
      rw [hverdict] at hcourse
      obtain ⟨id, hid⟩ := hcourse
      have htransaction := Standing.isSome_of_joins hverdict
      simp only [hid]
      refine ⟨_, _, rfl, hinside _ _ _ ⟨rfl, htransaction.symm, rfl⟩
        (h.later (.say s _) fun _ => Nat.le_refl _),
        ⟨rfl, [.participating d.name], rfl⟩, ?_⟩
      rw [execute_of_joins hid]
      exact runJoining_onlySays c d _ work s m
  | runsWithout =>
      rw [hverdict] at hcourse
      simp only [show c.course d s = .runsAlone (c.running s) from hcourse]
      exact ⟨_, _, rfl, hinside _ _ _ ⟨rfl, rfl, rfl⟩ h.aside⟩
  | opens =>
      rw [hverdict] at hcourse
      simp only [show c.course d s = .begins (c.running s) from hcourse]
      cases hopening : c.opening d s with
      | mk outcome rest =>
          obtain ⟨handle, s₁⟩ := rest
          have hbegin : c.begin d (c.blank (c.running s) s)
              (c.entrance d (c.running s) s) = (outcome, handle, s₁) := hopening
          rw [hbegin]
          cases outcome with
          | error e => exact Or.inl ⟨e, handle, s₁, rfl, rfl⟩
          | ok _ =>
              obtain ⟨conn, hsource, hcreated, hready⟩ := h.begun hopening
              exact Or.inr ⟨handle, s₁, conn, rfl, rfl, hsource, hcreated,
                hinside _ _ _ ⟨rfl, rfl, rfl⟩ hready⟩

end Coordinator

namespace Plan

variable {σ ε α : Type} {c : Coordinator}

/-- A run during which no deadline passes agrees with the reference, from where
its work stands. -/
theorem Prompt.run_agrees {plan : Plan σ ε α} (hprompt : plan.Prompt)
    (hon : plan.On c) {standing : Standing} {scope : Scope} {s : State}
    (m : Diary σ) (hfits : standing.Fits c scope)
    (h : State.Ready c standing.transaction s) :
    plan.Agrees standing scope s m := by
  induction plan generalizing standing scope s m with
  | finish result => exact h.shows hfits
  | pend outer => exact hprompt.elim
  | step first next ih =>
      obtain ⟨mark, hscope⟩ := first.take_scope scope s m
      refine ⟨h.shows hfits, ih _ (hprompt _) (hon _) _ ?_
        (h.later (first.take_keeps scope s m) (first.take_nextId scope s m))⟩
      rw [hscope]
      exact hfits.marked mark
  | execute c' d body next ihbody ihnext =>
      obtain ⟨rfl, hbody, hrest⟩ := hon
      obtain ⟨deals, hdeals⟩ := c'.execute_dealt d body m h.exist
      obtain ⟨hkeeps, result, hfinished⟩ :=
        c'.execute_returns d m hprompt.1 h.exist
      exact ⟨h.shows hfits,
          Coordinator.obeys h body.run fun standing' scope' s' hfits' h' =>
          ihbody hprompt.1 hbody m hfits' h',
        result, hfinished,
        ihnext result (hprompt.2 result) (hrest result) _ hfits
          (h.later hkeeps hdeals.nextId)⟩

end Plan

namespace Coordinator

variable {σ ε α : Type}

/-- Propagation refines the reference.  In every tree of executions on one
coordinator that starts where nothing is bound to its key, whatever the
definitions ask for, whatever fails and whatever the work does: each work is
started once if the reference admits it and its transaction, if it is to have
one, can be begun, and is not started otherwise; it sees where it stands, before
and after the executions in it; and its scope gives a connection accordingly. -/
theorem execute_refines_stack (c : Coordinator) (d : Definition)
    (plan : Plan σ ε α) (s : State) (m : Diary σ) (hprompt : plan.Prompt)
    (hon : plan.On c) (hs : s.BoundExist) (hknown : s.HeldKnown)
    (hfree : s.boundHolder c.key = none) :
    c.Obeys d {} plan.run (fun standing scope s' =>
      plan.Agrees standing scope s' m) s m :=
  have hready : State.Ready c ({} : Standing).transaction s :=
    ⟨hs, hknown, hfree⟩
  obeys hready plan.run fun _ _ _ hfits hready' =>
    hprompt.run_agrees hon m hfits hready'

/-- Work gets a transaction and executes two works in it, one that joins the
transaction and one that gets a transaction of its own; all of it agrees with
the reference. -/
theorem execute_stacks_joining_and_opening :
    let c : Coordinator := { source := ⟨0, ⟨"db"⟩⟩ }
    let body : Plan Unit Unit Unit :=
      .step .connection fun _ => .finish (.ok ())
    let plan : Plan Unit Unit Unit :=
      .execute c {} body fun _ =>
        .execute c { propagation := .requiresNew } body
          fun _ => .finish (.ok ())
    let s : State := {}
    (plan.Prompt ∧ plan.On c ∧ s.BoundExist ∧ s.HeldKnown ∧
      s.boundHolder c.key = none) ∧
    ∃ h s₀ conn, c.starts {} plan.run s ⟨(), []⟩ = [(.beginning c h, s₀)] ∧
      State.Created conn s s₀ ∧
      plan.Agrees { transaction := some conn, isNew := true }
        (.beginning c h) s₀ ⟨(), []⟩ := by
  intro c body plan s
  have hprompt : plan.Prompt :=
    ⟨fun _ => trivial, fun _ => ⟨fun _ => trivial, fun _ => trivial⟩⟩
  have hon : plan.On c :=
    ⟨rfl, fun _ => trivial, fun _ => ⟨rfl, fun _ => trivial, fun _ => trivial⟩⟩
  have hs : s.BoundExist :=
    fun key id hbound => by simp [State.boundHolder, s] at hbound
  have hknown : s.HeldKnown :=
    fun id conn hheld => by simp [s, Holder.finished] at hheld
  have hfree : s.boundHolder c.key = none := by simp [State.boundHolder, s]
  refine ⟨⟨hprompt, hon, hs, hknown, hfree⟩, ?_⟩
  rcases execute_refines_stack c {} plan s ⟨(),
      []⟩ hprompt hon hs hknown hfree with
    ⟨e, h', s', hfailed, -⟩ | ⟨h, s₀, conn, -, hstarts, -, hcreated, hagrees⟩
  · cases hfailed
  · exact ⟨h, s₀, conn, hstarts, hcreated, hagrees⟩

end Coordinator

end UnitOfWork
