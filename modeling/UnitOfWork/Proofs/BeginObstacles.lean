import UnitOfWork.Proofs.AttemptCalls

/-!
# Why a beginning fails

The steps of a beginning come in a fixed order, and the first one that fails
decides.  What stands in the way of each step can be told before the first of
them is taken: from the handle and its holder, from the session of the
connection, from the faults that are switched on, and from the key of the
coordinator.  `Coordinator.obstacles` lists all of it in the order of the steps,
and a beginning fails by the first obstacle of the list.
-/

namespace UnitOfWork

/-- The outcome of steps that have these obstacles in their way, in this
order. -/
def firstOf : List Cause → Except Cause Unit
  | [] => .ok ()
  | cause :: _ => .error cause

@[simp]
theorem firstOf_nil : firstOf [] = .ok () := rfl

@[simp]
theorem firstOf_cons (cause : Cause) (rest : List Cause) :
    firstOf (cause :: rest) = .error cause := rfl

theorem firstOf_eq_ok_iff {causes : List Cause} :
    firstOf causes = .ok () ↔ causes = [] := by
  cases causes <;> simp

theorem firstOf_eq_error_iff {causes : List Cause} {cause : Cause} :
    firstOf causes = .error cause ↔ causes.head? = some cause := by
  cases causes <;> simp

theorem cannotCreate_firstOf_eq_iff {causes : List Cause} {cause : Cause} :
    (firstOf causes).mapError TransactionError.cannotCreate = .error
    (.cannotCreate cause) ↔
      causes.head? = some cause := by
  cases causes with
  | nil => exact ⟨fun h => (by cases h), fun h => (by cases h)⟩
  | cons first rest =>
      show Except.error (TransactionError.cannotCreate first) = _ ↔
          some first = some cause
      simp

/-- The calls among some that fail on a driver of a source, by their faults. -/
def World.refusals (w : World) (source : SourceId) (requests : List Call) :
    List Cause :=
  (requests.filter fun request => (w.drivers source).faults request.fault).map
    fun request => .fault request.fault

theorem World.refusals_append (w : World) (source : SourceId)
    (requests requests' : List Call) :
    w.refusals source (requests ++ requests') =
      w.refusals source requests ++ w.refusals source requests' := by
  rw [refusals, List.filter_append, List.map_append]
  rfl

theorem World.refusals_of_faults {w w' : World} {source : SourceId}
    (h : (w'.drivers source).faults = (w.drivers source).faults)
    (requests : List Call) :
    w'.refusals source requests = w.refusals source requests := by
  rw [refusals, refusals, h]

namespace Progress

/-- Two steps one after the other have the obstacles of both in their way. -/
theorem outcome_andThen {p : Progress} {next : Handle → State → Progress}
    {causes causes' : List Cause} (hp : p.outcome = firstOf causes)
    (hnext : (next p.handle p.state).outcome = firstOf causes') :
    (p.andThen next).outcome = firstOf (causes ++ causes') := by
  rw [andThen]
  cases causes with
  | nil =>
      rw [firstOf_nil] at hp
      simp only [hp]
      exact hnext
  | cons cause rest =>
      rw [firstOf_cons] at hp
      simp only [hp]
      rfl

theorem outcome_ofCall (h : Handle) (onSuccess : Handle → Handle) (s : State)
    (conn : Connection) (request : Call) :
    (ofCall h onSuccess (s.call conn request)).outcome =
      firstOf (s.refusals conn.source [request]) := by
  rw [State.call, State.callDirectly, Driver.call, Driver.check, World.refusals]
  by_cases hfault : (s.drivers conn.source).faults request.fault = true
  · simp [hfault, ofCall]
  · simp [hfault, ofCall]

end Progress

theorem Progress.Follows.refusals {conn : Connection}
    {calls : List (Call × Option Fault)} {h : Handle} {s : State} {p : Progress}
    (hp : p.Follows conn calls h s) (requests : List Call) :
    p.state.refusals conn.source requests = s.refusals conn.source requests :=
  World.refusals_of_faults (hp.talk.confined.faults conn.source) requests

namespace Coordinator

variable {c : Coordinator} {d : Definition} {conn : Connection} {h h₁ : Handle}
variable {s s₁ : State}

/-! ## Steps -/

theorem requestIsolation_outcome (d : Definition) (h : Handle)
    {settings : Settings}
    (hsettings : Settings.reported (s.session conn) = settings) :
    (requestIsolation d conn h s).outcome =
      firstOf (s.refusals conn.source
        ((d.levelToSet settings).toList.map .setIsolation)) := by
  have hcurrent : s.isolation conn = settings.isolation := by
    rw [State.isolation_eq, hsettings]
  rw [requestIsolation, Definition.levelToSet]
  cases d.isolation.resolve with
  | none => rfl
  | some level =>
      simp only [hcurrent, Option.filter]
      by_cases hsame : settings.isolation.equivalent level = true
      · simp only [hsame, if_true, Bool.not_true, Bool.false_eq_true, if_false]
        rfl
      · simp only [hsame, Bool.not_false, if_true, Bool.false_eq_true, if_false]
        exact Progress.outcome_ofCall h _ _ conn (.setIsolation level)

theorem disableAutoCommit_outcome (h : Handle) {settings : Settings}
    (hauto : (Settings.reported (s.session conn)).autoCommit =
      settings.autoCommit) :
    (disableAutoCommit conn h s).outcome =
      firstOf (s.refusals conn.source
        (if settings.autoCommit then [.setAutoCommit false] else [])) := by
  rw [disableAutoCommit, State.autoCommit_eq, hauto]
  cases settings.autoCommit with
  | false => rfl
  | true => exact Progress.outcome_ofCall h _ _ conn (.setAutoCommit false)

/-- The steps up to the driver's own fail by the first of their calls that is to
fail. -/
theorem started_outcome (d : Definition) (h : Handle) {settings : Settings}
    (hsettings : Settings.reported (s.session conn) = settings) :
    (started d conn h s).outcome =
      firstOf (s.refusals conn.source (d.openingCalls settings)) := by
  have hlevel := requestIsolation_outcome d h hsettings
  have hfollows := requestIsolation_follows d conn h s
  obtain ⟨made, htries⟩ := requestIsolation_tries d h hsettings
  -- Until then only the isolation level was set.
  have honly : ∀ request ∈ succeeded made, request.isIsolation = true := by
    intro request hrequest
    obtain ⟨level, -, rfl⟩ :=
      List.mem_map.mp (htries.tried.mem_of_succeeded request hrequest)
    rfl
  have hauto : (Settings.reported
      ((requestIsolation d conn h s).state.session conn)).autoCommit =
        settings.autoCommit := by
    rw [htries.said.session, Settings.autoCommit_after _ honly, hsettings]
  have hdisabled :=
    disableAutoCommit_outcome (requestIsolation d conn h s).handle hauto
  rw [hfollows.refusals] at hdisabled
  have hready := Progress.outcome_andThen hlevel hdisabled
  have hfollowed := hfollows.andThen (disableAutoCommit_follows conn)
  have hbegan : (beginOnDriver conn
      ((requestIsolation d conn h s).andThen (disableAutoCommit conn)).handle
      ((requestIsolation d conn h s).andThen
        (disableAutoCommit conn)).state).outcome =
        firstOf (s.refusals conn.source [.begin]) := by
    rw [beginOnDriver, Progress.outcome_ofCall, hfollowed.refusals]
  have hstarted := Progress.outcome_andThen hready hbegan
  rw [Definition.openingCalls, World.refusals_append, World.refusals_append,
    ← List.append_assoc]
  exact hstarted

theorem enforceReadOnly_outcome (c : Coordinator) (d : Definition)
    (conn : Connection) (h : Handle) (s : State) :
    (c.enforceReadOnly d conn h s).outcome =
      firstOf (s.refusals conn.source (c.readOnlyCalls d)) := by
  rw [enforceReadOnly, readOnlyCalls]
  cases c.config.enforceReadOnly && d.readOnly with
  | false => rfl
  | true => exact Progress.outcome_ofCall h _ _ conn (.execute
      c.config.readOnlyStatement)

/-- The obstacle to binding a new holder: the key of the coordinator is
taken. -/
def occupancy (c : Coordinator) (s : State) : List Cause :=
  if (s.boundHolder c.key).isSome then [.illegal (.occupied ⟨c.key⟩)] else []

/-- A claimed holder becomes active, unless it is new and its key is taken. -/
theorem activate_outcome {id : HolderId} (hholder : h.holder = some id)
    (hstage : (s.holders id).stage = .claimed) :
    (c.activate d h s).outcome = firstOf
    (if h.ownsHolder then c.occupancy s else []) := by
  have hactivate : (s.holders id).activate (c.deadline d s.now) =
      .ok (c.activeHolder d s id) := by
    simp [Holder.activate, hstage, activeHolder]
  simp only [activate, hholder, hactivate]
  cases howns : h.ownsHolder with
  | false => rfl
  | true =>
      simp only [if_true, occupancy]
      cases hbound : s.boundHolder c.key with
      | none =>
          have hfree : (s.setHolder id (c.activeHolder d s id)).boundHolder
              c.key = none := hbound
          rw [State.bind_of_free _ hfree]
          rfl
      | some other =>
          have htaken :
              (s.setHolder id (c.activeHolder d s id)).boundHolder c.key =
            some other := hbound
          rw [State.bind_of_taken _ htaken]
          rfl

/-! ## Whole beginnings -/

/-- The obstacle to getting a connection: the holder that would be reused is
completed, or the source is to refuse a new connection. -/
def acquisitionObstacles (c : Coordinator) (h : Handle) (s : State) :
    List Cause :=
  match reusableHolder h s with
  | some id =>
      if (s.holders id).stage = .completed then
        [.illegal (.cannotClaim .completed)] else []
  | none => if (s.drivers c.source.id).faults .create then
    [.fault .create] else []

/-- The connection on which a beginning would begin without asking for a new
one. -/
def reusedConnection (h : Handle) (s : State) : Option Connection :=
  (reusableHolder h s).bind fun id => (s.holders id).connection

def groundSource (c : Coordinator) (h : Handle) (s : State) : SourceId :=
  match reusedConnection h s with
  | some conn => conn.source
  | none => c.source.id

def groundSettings (c : Coordinator) (h : Handle) (s : State) : Settings :=
  match reusedConnection h s with
  | some conn => .reported (s.session conn)
  | none => (s.drivers c.source.id).initial

/-- What stands in the way of a beginning, in the order of its steps: no
connection can be had, a call on the connection is to fail, or the key for a new
holder is taken. -/
def obstacles (c : Coordinator) (d : Definition) (h : Handle) (s : State) :
    List Cause :=
  c.acquisitionObstacles h s ++
    s.refusals (c.groundSource h s)
      (d.openingCalls (c.groundSettings h s) ++ c.readOnlyCalls d) ++
    if (reusableHolder h s).isNone then c.occupancy s else []

theorem reusableHolder_of_unbound {id : HolderId} (hholder : h.holder = some id)
    (hstage : (s.holders id).stage = .unbound)
    (hconn : (s.holders id).connection = some conn) :
    reusableHolder h s = some id := by
  simp [reusableHolder, hholder, Holder.isSynchronized, hstage, hconn]

/-- A connection is got if there is no obstacle to that, and otherwise the
obstacle is the cause. -/
theorem obtainConnection_outcome (c : Coordinator) (h : Handle) (s : State) :
    (∃ conn h₁ s₁, c.obtainConnection h s = (.ok conn, h₁, s₁) ∧
      c.acquisitionObstacles h s = []) ∨
    ∃ cause s₁, c.obtainConnection h s = (.error cause, h, s₁) ∧
      c.acquisitionObstacles h s = [cause] := by
  rw [obtainConnection, acquisitionObstacles]
  cases hreuse : reusableHolder h s with
  | some id =>
      obtain ⟨-, hsome, hstage⟩ := reusableHolder_eq_some hreuse
      obtain ⟨conn, hconn⟩ := Option.isSome_iff_exists.mp hsome
      rcases hstage with hstage | hstage
      · refine Or.inl ⟨conn, h,
          s.setHolder id { s.holders id with stage := .claimed }, ?_⟩
        simp [claimConnection, Holder.claim, hstage, Holder.held, hconn]
      · refine Or.inr ⟨.illegal (.cannotClaim .completed), s, ?_⟩
        simp [claimConnection, Holder.claim, hstage]
  | none =>
      rw [State.create]
      cases hcreate : (s.drivers c.source.id).create with
      | error fault =>
          obtain ⟨rfl, hfault⟩ := Driver.create_eq_error_iff.mp hcreate
          exact Or.inr ⟨_, _, rfl, by simp [hfault]⟩
      | ok made =>
          refine Or.inl ⟨_, _, _, rfl, ?_⟩
          cases hfault : (s.drivers c.source.id).faults .create with
          | false => rfl
          | true =>
              rw [Driver.create_eq_error_iff.mpr ⟨rfl, hfault⟩] at hcreate
              cases hcreate

/-- The connection that was got is the one that could be told, in the session
that could be told; and the handle owns its holder now if that is new. -/
theorem ground_of_obtained
    (hknown : h.ownsHolder = false ∨ reusableHolder h s = none)
    (hobtain : c.obtainConnection h s = (.ok conn, h₁, s₁)) :
    h₁.ownsHolder = (reusableHolder h s).isNone ∧
    conn.source = c.groundSource h s ∧
      Settings.reported (s₁.session conn) = c.groundSettings h s := by
  obtain ⟨id, hobtained⟩ := obtained_of_ok hobtain
  cases hobtained with
  | reused hholder hstage hconn =>
      have hreuse := reusableHolder_of_unbound hholder hstage hconn
      have hreused : reusedConnection h s = some conn := by
        rw [reusedConnection, hreuse, Option.bind_some, hconn]
      rw [groundSource, groundSettings, hreused, hreuse]
      rw [hreuse] at hknown
      exact ⟨hknown.resolve_right (Option.some_ne_none id), rfl, rfl⟩
  | @created s' hcreate =>
      have hreuse : reusableHolder h s = none := by
        cases hreuse : reusableHolder h s with
        | none => rfl
        | some other =>
            rw [hreuse] at hknown
            rw [obtainConnection] at hobtain
            simp only [hreuse, Prod.mk.injEq] at hobtain
            have hhandle := congrArg Handle.ownsHolder hobtain.2.1
            rw [hknown.resolve_right (Option.some_ne_none other)] at hhandle
            cases hhandle
      have hnone : reusedConnection h s = none := by
        rw [reusedConnection, hreuse, Option.bind_none]
      have hsource := (State.Deals.create hcreate (.acquired conn) rfl).2
      have hsession : Settings.reported (s'.session conn) =
          (s.drivers c.source.id).initial := by
        rw [← hsource] at hcreate ⊢
        rw [(State.Heard.created hcreate).2.session]
        rfl
      rw [groundSource, groundSettings, hnone, hreuse]
      exact ⟨rfl, hsource, hsession⟩

/-- A beginning fails by the first of its obstacles, and succeeds if there is
none. -/
theorem outcome_of_obstacles (c : Coordinator) (d : Definition)
    (hknown : h.ownsHolder = false ∨ reusableHolder h s = none) :
    (c.begin d h s).1 =
      (firstOf (c.obstacles d h s)).mapError .cannotCreate := by
  rcases c.obtainConnection_outcome h s with
    ⟨conn, h₁, s₁, hobtain, hnone⟩ | ⟨cause, s₁, hobtain, hobstacle⟩
  · obtain ⟨id, hobtained⟩ := obtained_of_ok hobtain
    obtain ⟨hholder, hstage, -⟩ := hobtained.claimed
    obtain ⟨howner, hsource, hsettings⟩ := ground_of_obtained hknown hobtain
    have hrefusals : ∀ requests,
        s₁.refusals conn.source requests =
          s.refusals (c.groundSource h s) requests := by
      intro requests
      rw [← hsource]
      exact World.refusals_of_faults
        (hobtained.confined.faults conn.source) requests
    have hbound : s₁.boundHolder c.key = s.boundHolder c.key :=
      hobtained.holders.2.2.1 c.key
    have hstarted := started_outcome d h₁ hsettings
    have hcases := started_cases d conn h₁ s₁
    rw [hrefusals] at hstarted
    rw [begin_of_obtained hobtain, obstacles, hnone, List.nil_append,
      World.refusals_append, List.append_assoc]
    generalize started d conn h₁ s₁ = p at hstarted hcases ⊢
    rw [afterStart]
    rcases hcases with ⟨hp, hfollows⟩ | ⟨cause, calls, hp, -, -⟩
    · have hmarked := c.enforceReadOnly_outcome d conn p.handle p.state
      have hready := (hfollows.andThen (enforceReadOnly_follows c d conn))
      rw [hp, eq_comm, firstOf_eq_ok_iff] at hstarted
      rw [hfollows.refusals, hrefusals] at hmarked
      rw [Progress.andThen] at hready
      simp only [hp] at hready ⊢
      rw [hstarted, List.nil_append]
      generalize c.enforceReadOnly d conn p.handle p.state =
        q at hmarked hready ⊢
      have hactive : (c.activate d q.handle q.state).outcome =
          firstOf (if (reusableHolder h s).isNone then
            c.occupancy s else []) := by
        have hclaimed : (q.state.holders id).stage = .claimed := by
          rw [hready.talk.sameHolders.holders, hstage]
        have hsame : q.state.boundHolder c.key = s.boundHolder c.key := by
          rw [hready.talk.sameHolders.bound, hbound]
        rw [activate_outcome (hready.attempt.holder.trans hholder) hclaimed,
          hready.attempt.ownsHolder, howner, occupancy, occupancy, hsame]
      have hlast := Progress.outcome_andThen hmarked hactive
      cases hout : (q.andThen (c.activate d)).outcome with
      | ok _ =>
          rw [← hlast, hout]
          rfl
      | error cause =>
          rw [← hlast, hout]
          rfl
    · rw [hp, eq_comm, firstOf_eq_error_iff, List.head?_eq_some_iff] at hstarted
      obtain ⟨rest, hrest⟩ := hstarted
      simp only [hp]
      rw [hrest]
      rfl
  · rw [begin, hobtain, obstacles, hobstacle]
    rfl

theorem begin_outcome (c : Coordinator) (d : Definition)
    (howns : h.ownsHolder = false) :
    (c.begin d h s).1 = (firstOf (c.obstacles d h s)).mapError .cannotCreate :=
  c.outcome_of_obstacles d (Or.inl howns)

end Coordinator

end UnitOfWork
