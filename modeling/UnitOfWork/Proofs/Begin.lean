import UnitOfWork.Proofs.Restore

/-!
# How a transaction begins

A beginning that gets a connection talks to it, and to no other, until it
succeeds or is abandoned.  `Coordinator.Beginning` lists the four ways in which
this can go, with the states on the way, and `Coordinator.beginning` says that
there is no other.  What the proofs about executions need to know of the holders
and of the bindings is then read off it once for a successful and once for a
failed beginning.
-/

namespace UnitOfWork

namespace Progress

/-- Some steps talked to a connection and went on with the same attempt. -/
structure Follows (conn : Connection) (calls : List (Call × Option Fault))
    (h : Handle) (s : State) (p : Progress) : Prop where
  talk : Talk conn calls s p.state
  attempt : h.SameAttempt p.handle

variable {conn : Connection} {calls : List (Call × Option Fault)}
variable {h : Handle} {s : State}

theorem Follows.refl (h : Handle) (s : State) (outcome : Except Cause Unit) :
    Follows conn [] h s ⟨outcome, h, s⟩ :=
  ⟨.refl s, .refl h⟩

/-- Another step may follow that neither begins nor ends a transaction. -/
theorem Follows.andThen {p : Progress} {next : Handle → State → Progress}
    (hp : p.Follows conn calls h s)
    (hnext : ∀ h' s', (next h' s').Follows conn [] h' s') :
    (p.andThen next).Follows conn calls h s := by
  rw [Progress.andThen]
  cases hout : p.outcome with
  | ok _ =>
      have htalk := hp.talk.trans (hnext p.handle p.state).talk
      rw [List.append_nil] at htalk
      exact ⟨htalk, hp.attempt.trans (hnext p.handle p.state).attempt⟩
  | error cause => exact hp

/-- A step that is one call, which is announced by a line. -/
theorem Follows.ofCall {line : Line} {request : Call}
    {onSuccess : Handle → Handle} (hline : line.made? = none)
    (hsame : h.SameAttempt (onSuccess h)) (hcall : request.isControl = false) :
    (Progress.ofCall h onSuccess
      ((s.say line).call conn request)).Follows conn [] h s := by
  have htalk : Talk conn [] s ((s.say line).call conn request).2 :=
    ((Talk.refl s).say hline).adjust hcall
  cases hresult : (s.say line).call conn request with
  | mk outcome s' =>
      rw [hresult] at htalk
      cases outcome with
      | ok _ => exact ⟨htalk, hsame⟩
      | error fault => exact ⟨htalk, .refl h⟩

end Progress

namespace Coordinator

variable {c : Coordinator} {d : Definition} {conn : Connection} {h : Handle}
variable {s : State}

theorem requestIsolation_follows (d : Definition) (conn : Connection)
    (h : Handle) (s : State) :
    (requestIsolation d conn h s).Follows conn [] h s := by
  rw [requestIsolation]
  cases d.isolation.resolve with
  | none => exact .refl h s _
  | some level =>
      show (if _ then _ else _ : Progress).Follows conn [] h s
      split
      · exact .refl h s _
      · exact .ofCall rfl ⟨rfl, rfl, rfl, rfl⟩ rfl

theorem disableAutoCommit_follows (conn : Connection) (h : Handle) (s : State) :
    (disableAutoCommit conn h s).Follows conn [] h s := by
  rw [disableAutoCommit]
  split
  · exact .ofCall rfl ⟨rfl, rfl, rfl, rfl⟩ rfl
  · exact .refl h s _

theorem enforceReadOnly_follows (c : Coordinator) (d : Definition)
    (conn : Connection) (h : Handle) (s : State) :
    (c.enforceReadOnly d conn h s).Follows conn [] h s := by
  rw [enforceReadOnly]
  split
  · exact .ofCall rfl (.refl h) rfl
  · exact .refl h s _

def started (d : Definition) (conn : Connection) (h : Handle) (s : State) :
    Progress :=
  ((requestIsolation d conn h s).andThen (disableAutoCommit conn)).andThen
    (beginOnDriver conn)

/-- Until the driver has begun, no call or one that failed was made to begin. -/
inductive NotStarted : List (Call × Option Fault) → Prop
  | untried : NotStarted []
  | refused (fault : Fault) : NotStarted [(.begin, some fault)]

/-- The steps up to the driver's own succeed when the driver has begun, and only
then. -/
theorem started_cases (d : Definition) (conn : Connection) (h : Handle)
    (s : State) :
    ((started d conn h s).outcome = .ok () ∧
      (started d conn h s).Follows conn [(.begin, none)] h s) ∨
    ∃ cause calls, (started d conn h s).outcome = .error cause ∧
      NotStarted calls ∧ (started d conn h s).Follows conn calls h s := by
  have hready := (requestIsolation_follows d conn h s).andThen
    (disableAutoCommit_follows conn)
  rw [started]
  generalize (requestIsolation d conn h s).andThen
    (disableAutoCommit conn) = ready
    at hready ⊢
  rw [Progress.andThen]
  cases hout : ready.outcome with
  | error cause => exact Or.inr ⟨cause, [], hout, .untried, hready⟩
  | ok _ =>
      have htalk := hready.talk.control .begin rfl
      simp only [beginOnDriver]
      cases hresult : ready.state.call conn .begin with
      | mk outcome s' =>
          rw [hresult] at htalk
          cases outcome with
          | ok _ => exact Or.inl ⟨rfl, htalk, hready.attempt⟩
          | error fault =>
              exact Or.inr ⟨_, _, rfl, .refused fault, htalk, hready.attempt⟩

/-! ## Getting a connection -/

/-- A connection was got for a new transaction, and its holder is claimed. -/
inductive Obtained (c : Coordinator) (h : Handle) (s : State) :
    Connection → HolderId → Handle → State → Prop
  /-- It is the connection of the handle's own holder. -/
  | reused {conn : Connection} {id : HolderId} (hholder : h.holder = some id)
      (hstage : (s.holders id).stage = .unbound)
      (hconn : (s.holders id).connection = some conn) :
      Obtained c h s conn id h
        (s.setHolder id { s.holders id with stage := .claimed })
  /-- It is a new one in a new holder. -/
  | created {conn : Connection} {s₁ : State}
      (hcreate : s.create c.source.id = (.ok conn, s₁)) :
      Obtained c h s conn s.nextHolder
        { h with holder := some s.nextHolder, ownsHolder := true }
        ((s₁.say (.acquired conn)).addHolder
          { Holder.of conn with stage := .claimed }).2

theorem reusableHolder_eq_some {id : HolderId}
    (hid : reusableHolder h s = some id) :
    h.holder = some id ∧ (s.holders id).connection.isSome ∧
      ((s.holders id).stage = .unbound ∨
        (s.holders id).stage = .completed) := by
  rw [reusableHolder] at hid
  cases hholder : h.holder with
  | none => simp [hholder] at hid
  | some other =>
      simp only [hholder] at hid
      split at hid
      · next hfree =>
          obtain rfl : other = id := by simpa using hid
          rw [Bool.and_eq_true, Bool.not_eq_true'] at hfree
          refine ⟨rfl, hfree.2, ?_⟩
          have hstage := hfree.1
          rw [Holder.isSynchronized] at hstage
          cases hs : (s.holders other).stage <;> simp_all
      · simp at hid

theorem obtained_of_ok {h' : Handle} {s' : State}
    (hok : c.obtainConnection h s = (.ok conn, h', s')) :
    ∃ id, c.Obtained h s conn id h' s' := by
  rw [obtainConnection] at hok
  cases hreuse : reusableHolder h s with
  | some id =>
      obtain ⟨hholder, hsome, hstage⟩ := reusableHolder_eq_some hreuse
      obtain ⟨other, hother⟩ := Option.isSome_iff_exists.mp hsome
      rcases hstage with hstage | hstage
      · simp only [hreuse, claimConnection, Holder.claim, hstage, Holder.held,
          hother, Prod.mk.injEq, Except.ok.injEq] at hok
        obtain ⟨rfl, rfl, rfl⟩ := hok
        have hreused := Obtained.reused (c := c) hholder hstage hother
        simp only [hother] at hreused
        exact ⟨id, hreused⟩
      · simp [hreuse, claimConnection, Holder.claim, hstage] at hok
  | none =>
      cases hcreate : s.create c.source.id with
      | mk outcome s₁ =>
          cases outcome with
          | error fault => simp [hreuse, hcreate] at hok
          | ok other =>
              have hnext : (s₁.say (.acquired other)).nextHolder =
                  s.nextHolder := by
                simpa [hcreate]
                  using (s.sameHolders_create c.source.id).nextHolder
              simp only [hreuse, hcreate, Prod.mk.injEq, Except.ok.injEq] at hok
              obtain ⟨rfl, rfl, rfl⟩ := hok
              refine ⟨s.nextHolder, ?_⟩
              have hcreated := Obtained.created (h := h) hcreate
              simp only [State.addHolder, hnext] at hcreated ⊢
              exact hcreated

theorem obtainConnection_of_error {cause : Cause} {h' : Handle} {s' : State}
    (herror : c.obtainConnection h s = (.error cause, h', s')) :
    h' = h ∧ (s' = s ∨ ∃ fault, s.create c.source.id = (.error fault, s')) := by
  rw [obtainConnection] at herror
  cases hreuse : reusableHolder h s with
  | some id =>
      obtain ⟨hholder, hsome, hstage⟩ := reusableHolder_eq_some hreuse
      obtain ⟨other, hother⟩ := Option.isSome_iff_exists.mp hsome
      rcases hstage with hstage | hstage <;>
        simp_all [claimConnection, Holder.claim, Holder.held]
  | none =>
      cases hcreate : s.create c.source.id with
      | mk outcome s₁ => cases outcome <;> simp_all

/-- The holder of a connection that was got is claimed and has that
connection. -/
theorem Obtained.claimed {id : HolderId} {h' : Handle} {s' : State}
    (hobtained : c.Obtained h s conn id h' s') :
    h'.holder = some id ∧ (s'.holders id).stage = .claimed ∧
      (s'.holders id).connection = some conn := by
  cases hobtained with
  | reused hholder hstage hconn => simp [hholder, hconn]
  | @created s₁ hcreate =>
      have hnext : s₁.nextHolder = s.nextHolder := by
        simpa [hcreate] using (s.sameHolders_create c.source.id).nextHolder
      simp [← hnext, Holder.of]

/-! ## The four ways of a beginning -/

def activeHolder (c : Coordinator) (d : Definition) (s : State)
    (id : HolderId) :
    Holder Connection :=
  { s.holders id with stage := .active, deadline := c.deadline d s.now }

/-- The ways in which a beginning can go. -/
inductive Beginning (c : Coordinator) (d : Definition) (h : Handle)
    (s : State) :
    Except TransactionError Unit × Handle × State → Prop
  /-- There was no connection to begin on. -/
  | refused {cause : Cause} {s' : State}
      (hstate : s' = s ∨ ∃ fault, s.create c.source.id = (.error fault, s')) :
      Beginning c d h s (.error (.cannotCreate cause), h, s')
  /-- It failed before the driver had begun. -/
  | early {conn : Connection} {id : HolderId} {h₁ h₂ : Handle} {s₁ s₂ : State}
      {cause : Cause} {calls : List (Call × Option Fault)}
      (hobtained : c.Obtained h s conn id h₁ s₁) (hsame : h₁.SameAttempt h₂)
      (hcalls : NotStarted calls) (htalk : Talk conn calls s₁ s₂) :
      Beginning c d h s (c.failBegin false conn cause h₂ s₂)
  /-- It failed after the driver had begun. -/
  | late {conn : Connection} {id : HolderId} {h₁ h₂ : Handle} {s₁ s₂ s₃ : State}
      {cause : Cause} (hobtained : c.Obtained h s conn id h₁ s₁)
      (hsame : h₁.SameAttempt h₂) (htalk : Talk conn [(.begin, none)] s₁ s₂)
      (hactive : s₃ = s₂ ∨
        h₂.ownsHolder = true ∧ s₃ = s₂.setHolder id (c.activeHolder d s₂ id)) :
      Beginning c d h s (c.failBegin true conn cause h₂ s₃)
  /-- It succeeded. -/
  | begun {conn : Connection} {id : HolderId} {h₁ h₂ : Handle}
      {s₁ s₂ s₃ : State} (hobtained : c.Obtained h s conn id h₁ s₁)
      (hsame : h₁.SameAttempt h₂) (htalk : Talk conn [(.begin, none)] s₁ s₂)
      (hactive : if h₂.ownsHolder then
          (s₂.setHolder id (c.activeHolder d s₂ id)).bind c.key id = .ok s₃
        else s₃ = s₂.setHolder id (c.activeHolder d s₂ id)) :
      Beginning c d h s (.ok (), { h₂ with began := true }, s₃)

theorem activate_cases {id : HolderId} (hholder : h.holder = some id)
    (hstage : (s.holders id).stage = .claimed) :
    (∃ s', c.activate d h s = ⟨.ok (), h, s'⟩ ∧
      if h.ownsHolder then
        (s.setHolder id (c.activeHolder d s id)).bind c.key id = .ok s'
      else s' = s.setHolder id (c.activeHolder d s id)) ∨
    ∃ cause, h.ownsHolder = true ∧
      c.activate d h s = ⟨.error cause, h,
        s.setHolder id (c.activeHolder d s id)⟩ := by
  have hactivate : (s.holders id).activate (c.deadline d s.now) =
      .ok (c.activeHolder d s id) := by
    simp [Holder.activate, hstage, activeHolder]
  simp only [activate, hholder, hactivate]
  by_cases howns : h.ownsHolder
  · simp only [howns, if_true]
    cases (s.setHolder id (c.activeHolder d s id)).bind c.key id with
    | ok s' => exact Or.inl ⟨s', rfl, rfl⟩
    | error occupied => exact Or.inr ⟨_, trivial, rfl⟩
  · simp [howns]

/-- A beginning from the point where the driver has begun or has not. -/
def afterStart (c : Coordinator) (d : Definition) (conn : Connection)
    (p : Progress) :
    Except TransactionError Unit × Handle × State :=
  match p.outcome with
  | .error cause => c.failBegin false conn cause p.handle p.state
  | .ok () =>
      let ready :=
        (c.enforceReadOnly d conn p.handle p.state).andThen (c.activate d)
      match ready.outcome with
      | .error cause => c.failBegin true conn cause ready.handle ready.state
      | .ok () => (.ok (), { ready.handle with began := true }, ready.state)

theorem begin_of_obtained {h₁ : Handle} {s₁ : State}
    (hobtain : c.obtainConnection h s = (.ok conn, h₁, s₁)) :
    c.begin d h s = c.afterStart d conn (started d conn h₁ s₁) := by
  rw [begin]
  rw [hobtain]
  rfl

inductive Continuation (c : Coordinator) (d : Definition) (conn : Connection)
    (id : HolderId) (h₁ : Handle) (s₁ : State) :
    Except TransactionError Unit × Handle × State → Prop
  | early {h₂ : Handle} {s₂ : State} {cause : Cause}
      {calls : List (Call × Option Fault)}
      (hsame : h₁.SameAttempt h₂) (hcalls : NotStarted calls)
      (htalk : Talk conn calls s₁ s₂) :
      Continuation c d conn id h₁ s₁ (c.failBegin false conn cause h₂ s₂)
  | late {h₂ : Handle} {s₂ s₃ : State} {cause : Cause}
      (hsame : h₁.SameAttempt h₂) (htalk : Talk conn [(.begin, none)] s₁ s₂)
      (hactive : s₃ = s₂ ∨
        h₂.ownsHolder = true ∧ s₃ = s₂.setHolder id (c.activeHolder d s₂ id)) :
      Continuation c d conn id h₁ s₁ (c.failBegin true conn cause h₂ s₃)
  | begun {h₂ : Handle} {s₂ s₃ : State} (hsame : h₁.SameAttempt h₂)
      (htalk : Talk conn [(.begin, none)] s₁ s₂)
      (hactive : if h₂.ownsHolder then
          (s₂.setHolder id (c.activeHolder d s₂ id)).bind c.key id = .ok s₃
        else s₃ = s₂.setHolder id (c.activeHolder d s₂ id)) :
      Continuation c d conn id h₁ s₁ (.ok (), { h₂ with began := true }, s₃)

/-- A beginning that has got a connection goes on in one of these ways. -/
theorem continuation (d : Definition) {id : HolderId} {h₁ : Handle} {s₁ : State}
    (hobtained : c.Obtained h s conn id h₁ s₁) :
    c.Continuation d conn id h₁ s₁
      (c.afterStart d conn (started d conn h₁ s₁)) := by
  obtain ⟨hholder, hstage, -⟩ := hobtained.claimed
  have hstarted := started_cases d conn h₁ s₁
  generalize started d conn h₁ s₁ = p at hstarted ⊢
  rw [afterStart]
  rcases hstarted with ⟨hp, hfollows⟩ | ⟨cause, calls, hp, hcalls, hfollows⟩
  · have hready := hfollows.andThen (enforceReadOnly_follows c d conn)
    rw [Progress.andThen] at hready
    simp only [hp] at hready ⊢
    generalize c.enforceReadOnly d conn p.handle p.state = q at hready ⊢
    rw [Progress.andThen]
    cases hq : q.outcome with
    | error cause =>
        simp only [hq]
        exact .late hready.attempt hready.talk (Or.inl rfl)
    | ok _ =>
        have hclaimed : (q.state.holders id).stage = .claimed := by
          rw [hready.talk.sameHolders.holders, hstage]
        rcases activate_cases (c := c) (d := d)
          (hready.attempt.holder.trans hholder)
          hclaimed with ⟨s₃, hact, hactive⟩ | ⟨cause, howns, hact⟩
        · simp only [hact]
          exact .begun hready.attempt hready.talk hactive
        · simp only [hact]
          exact .late hready.attempt hready.talk (Or.inr ⟨howns, rfl⟩)
  · simp only [hp]
    exact .early hfollows.attempt hcalls hfollows.talk

/-- A beginning goes in one of the four ways. -/
theorem beginning (c : Coordinator) (d : Definition) (h : Handle) (s : State) :
    c.Beginning d h s (c.begin d h s) := by
  cases hobtain : c.obtainConnection h s with
  | mk outcome rest =>
  obtain ⟨h₁, s₁⟩ := rest
  cases outcome with
  | error cause =>
      obtain ⟨rfl, hstate⟩ := obtainConnection_of_error hobtain
      have hbegin : c.begin d h₁ s =
          (.error (.cannotCreate cause), h₁, s₁) := by
        rw [begin]
        rw [hobtain]
      rw [hbegin]
      exact .refused hstate
  | ok conn =>
      obtain ⟨id, hobtained⟩ := obtained_of_ok hobtain
      have hcontinuation := continuation d hobtained
      rw [begin_of_obtained hobtain]
      generalize c.afterStart d conn (started d conn h₁ s₁) =
        result at hcontinuation ⊢
      cases hcontinuation with
      | early hsame hcalls htalk => exact .early hobtained hsame hcalls htalk
      | late hsame htalk hactive => exact .late hobtained hsame htalk hactive
      | begun hsame htalk hactive => exact .begun hobtained hsame htalk hactive

/-! ## What a beginning does to the holders -/

/-- Where the holder of a beginning comes from: it was there, unclaimed and with
a connection, or it is new. -/
inductive Origin (h : Handle) (s : State) (conn : Connection) (id : HolderId)
    (owns : Bool) (s' : State) : Prop
  | reused (hholder : h.holder = some id) (howns : owns = h.ownsHolder)
      (hstage : (s.holders id).stage = .unbound)
      (hconn : (s.holders id).connection = some conn)
      (hnext : s'.nextHolder = s.nextHolder)
  | created (hid : id = s.nextHolder) (howns : owns = true)
      (hnext : s'.nextHolder = s.nextHolder + 1)

structure Begun (c : Coordinator) (h : Handle) (s : State) (conn : Connection)
    (id : HolderId) (h' : Handle) (s' : State) : Prop where
  holder : h'.holder = some id
  began : h'.began = true
  rollbackOnly : h'.rollbackOnly = h.rollbackOnly
  stage : (s'.holders id).stage = .active
  connection : (s'.holders id).connection = some conn
  others : ∀ other, other ≠ id → s'.holders other = s.holders other
  flag : (s'.holders id).rollbackOnly = true →
    h.holder = some id ∧ (s.holders id).rollbackOnly = true
  origin : Origin h s conn id h'.ownsHolder s'
  bound : ∀ key, s'.boundHolder key =
    if h'.ownsHolder = true ∧ key = c.key then some id else s.boundHolder key
  free : h'.ownsHolder = true → s.boundHolder c.key = none

structure NotBegun (h : Handle) (s : State) (s' : State) : Prop where
  bound : ∀ key, s'.boundHolder key = s.boundHolder key
  holders : s'.holders = s.holders ∧ s'.nextHolder = s.nextHolder ∨
    ∃ conn id owns, Origin h s conn id owns s' ∧
      (∀ other, other ≠ id → s'.holders other = s.holders other) ∧
      ((owns = true ∧ s'.holders id = .finished) ∨
        (owns = false ∧ s'.holders id = (s.holders id).release))

/-- The holders after a connection was got: only the claimed one has changed. -/
theorem Obtained.holders {h' : Handle} {s' : State} {id : HolderId}
    (hobtained : c.Obtained h s conn id h' s') :
    Origin h s conn id h'.ownsHolder s' ∧
      (∀ other, other ≠ id → s'.holders other = s.holders other) ∧
      (∀ key, s'.boundHolder key = s.boundHolder key) ∧
      (h'.ownsHolder = false →
        s'.holders id = { s.holders id with stage := .claimed }) ∧
      h'.began = h.began ∧ h'.rollbackOnly = h.rollbackOnly := by
  cases hobtained with
  | reused hholder hstage hconn =>
      exact ⟨.reused hholder rfl hstage hconn rfl,
        fun other hne => by simp [hne],
        fun _ => rfl, fun _ => by simp, rfl, rfl⟩
  | @created s₁ hcreate =>
      have hsame : State.SameHolders s s₁ := by
        simpa [hcreate] using s.sameHolders_create c.source.id
      refine ⟨.created rfl rfl (by simp [hsame.nextHolder]),
        fun other hne => ?_,
        fun key => by simp [hsame.bound], by simp, rfl, rfl⟩
      simp [hsame.nextHolder, hne, hsame.holders]

/-- A holder that was got is marked for rollback only if it was before. -/
theorem Obtained.flag {h' : Handle} {s' : State} {id : HolderId}
    (hobtained : c.Obtained h s conn id h' s')
    (hflag : (s'.holders id).rollbackOnly = true) :
    h.holder = some id ∧ (s.holders id).rollbackOnly = true := by
  cases hobtained with
  | reused hholder hstage hconn => exact ⟨hholder, by simpa using hflag⟩
  | @created s₁ hcreate =>
      have hnext : s₁.nextHolder = s.nextHolder := by
        simpa [hcreate] using (s.sameHolders_create c.source.id).nextHolder
      simp [← hnext, Holder.of] at hflag

theorem Origin.of_eq {h : Handle} {s s' s'' : State} {id : HolderId}
    {owns owns' : Bool} (horigin : Origin h s conn id owns s')
    (howns : owns' = owns) (hnext : s''.nextHolder = s'.nextHolder) :
    Origin h s conn id owns' s'' := by
  cases horigin with
  | reused hholder howns' hstage hconn hnext' =>
      exact .reused hholder (howns.trans howns') hstage hconn
        (hnext.trans hnext')
  | created hid howns' hnext' =>
      exact .created hid (howns.trans howns') (hnext.trans hnext')

/-- The holders after the driver has begun or failed to: as they were when the
connection was got. -/
theorem begun_holders {h₁ h₂ : Handle} {s₁ s₂ s₃ : State} {id : HolderId}
    {calls : List (Call × Option Fault)}
    (hobtained : c.Obtained h s conn id h₁ s₁) (hsame : h₁.SameAttempt h₂)
    (htalk : Talk conn calls s₁ s₂)
    (hactive : if h₂.ownsHolder then
        (s₂.setHolder id (c.activeHolder d s₂ id)).bind c.key id = .ok s₃
      else s₃ = s₂.setHolder id (c.activeHolder d s₂ id)) :
    c.Begun h s conn id { h₂ with began := true } s₃ := by
  obtain ⟨hholder, -, hconn⟩ := hobtained.claimed
  obtain ⟨horigin, hothers, hbound, -, -, hrollback⟩ := hobtained.holders
  have hkept := htalk.sameHolders
  -- The binding adds a line and a binding, and the holders are those before it.
  have hafter :
      s₃.holders = (s₂.setHolder id (c.activeHolder d s₂ id)).holders ∧
      s₃.nextHolder = s₂.nextHolder ∧
      (h₂.ownsHolder = true → s.boundHolder c.key = none) ∧
      ∀ key, s₃.boundHolder key =
        if h₂.ownsHolder = true ∧ key = c.key then some id
        else s.boundHolder key := by
    cases howns : h₂.ownsHolder with
    | false =>
        simp only [howns, Bool.false_eq_true, if_false] at hactive
        subst hactive
        exact ⟨rfl, rfl, by simp, fun key => by simp [hkept.bound, hbound]⟩
    | true =>
        simp only [howns, if_true] at hactive
        have hfree : s₂.boundHolder c.key = none := by
          cases htaken : s₂.boundHolder c.key with
          | none => rfl
          | some other =>
              rw [State.bind_of_taken _ (by simpa using htaken)] at hactive
              cases hactive
        rw [State.bind_of_free _ (by simpa using hfree)] at hactive
        obtain rfl := Except.ok.inj hactive
        refine ⟨rfl, rfl,
          fun _ => by rw [← hbound, ← hkept.bound, hfree], fun key => ?_⟩
        rw [← hbound, ← hkept.bound]
        simp [State.boundHolder, State.say, State.note, State.setHolder]
  obtain ⟨hholders, hnext, hfree, hbindings⟩ := hafter
  refine ⟨hsame.holder.trans hholder, rfl,
    hsame.rollbackOnly.trans hrollback, ?_, ?_,
    fun other hne => ?_, fun hflag => hobtained.flag ?_, ?_, hbindings, hfree⟩
  · simp [hholders, activeHolder]
  · simp [hholders, activeHolder, hkept.holders, hconn]
  · simp [hholders, hne, hkept.holders, hothers]
  · simpa [hholders, activeHolder, hkept.holders] using hflag
  · exact horigin.of_eq hsame.ownsHolder (hnext.trans hkept.nextHolder)

theorem abandoned_origin {h₁ h₂ : Handle} {s₁ s₂ s₃ : State} {id : HolderId}
    {calls : List (Call × Option Fault)} (driverBegan : Bool)
    (hobtained : c.Obtained h s conn id h₁ s₁) (hsame : h₁.SameAttempt h₂)
    (htalk : Talk conn calls s₁ s₂)
    (hactive : s₃ = s₂ ∨
      h₂.ownsHolder = true ∧ s₃ = s₂.setHolder id (c.activeHolder d s₂ id)) :
    Origin h s conn id h₂.ownsHolder (c.abandon driverBegan conn h₂ s₃).2 := by
  obtain ⟨hholder, -, -⟩ := hobtained.claimed
  have hnext : s₃.nextHolder = s₁.nextHolder := by
    rcases hactive with rfl | ⟨-, rfl⟩ <;> exact htalk.sameHolders.nextHolder
  rw [abandon_snd (hsame.holder.trans hholder)]
  apply hobtained.holders.1.of_eq hsame.ownsHolder
  rw [State.nextHolder_setHolder,
    (sameHolders_givenUp c driverBegan conn h₂ s₃).nextHolder, hnext]

/-- An abandoned beginning changes one holder: it is finished if it was made for
the beginning, and otherwise released. -/
theorem abandoned_cases {h₁ h₂ : Handle} {s₁ s₂ s₃ : State} {id : HolderId}
    {calls : List (Call × Option Fault)} (driverBegan : Bool)
    (hobtained : c.Obtained h s conn id h₁ s₁) (hsame : h₁.SameAttempt h₂)
    (htalk : Talk conn calls s₁ s₂)
    (hactive : s₃ = s₂ ∨
      h₂.ownsHolder = true ∧ s₃ = s₂.setHolder id (c.activeHolder d s₂ id)) :
    (∀ key, (c.abandon driverBegan conn h₂ s₃).2.boundHolder key =
      s.boundHolder key) ∧
    (∀ other, other ≠ id →
      (c.abandon driverBegan conn h₂ s₃).2.holders other = s.holders other) ∧
    ((h₂.ownsHolder = true ∧
        (c.abandon driverBegan conn h₂ s₃).2.holders id = .finished) ∨
      (h₂.ownsHolder = false ∧
        (c.abandon driverBegan conn h₂ s₃).2.holders id =
          (s.holders id).release)) := by
  obtain ⟨hholder, -, -⟩ := hobtained.claimed
  obtain ⟨-, hothers, hbound, hclaimed, -, -⟩ := hobtained.holders
  have hkept := htalk.sameHolders
  have hgiven := sameHolders_givenUp c driverBegan conn h₂ s₃
  have hafter : (∀ key, s₃.boundHolder key = s₂.boundHolder key) ∧
      (∀ other, other ≠ id → s₃.holders other = s₂.holders other) ∧
      (h₂.ownsHolder = false → s₃ = s₂) := by
    rcases hactive with rfl | ⟨howns, rfl⟩
    · exact ⟨fun _ => rfl, fun _ _ => rfl, fun _ => rfl⟩
    · exact ⟨fun _ => rfl,
        fun other hne => by simp [hne], fun hno => by simp_all⟩
  obtain ⟨hbindings, hrest, heq⟩ := hafter
  rw [abandon_snd (hsame.holder.trans hholder)]
  refine ⟨fun key => ?_, fun other hne => ?_, ?_⟩
  · rw [State.boundHolder_setHolder, hgiven.bound, hbindings,
      hkept.bound, hbound]
  · rw [State.holders_setHolder, if_neg hne, hgiven.holders, hrest other hne,
      hkept.holders, hothers other hne]
  · rw [State.holders_setHolder, if_pos rfl, leftover]
    cases howns : h₂.ownsHolder with
    | true => exact Or.inl ⟨rfl, rfl⟩
    | false =>
        refine Or.inr ⟨rfl, ?_⟩
        rw [heq howns, hkept.holders,
          hclaimed (hsame.ownsHolder.symm.trans howns)]
        rfl

theorem abandoned_holders {h₁ h₂ : Handle} {s₁ s₂ s₃ : State} {id : HolderId}
    {calls : List (Call × Option Fault)} {driverBegan : Bool}
    (hobtained : c.Obtained h s conn id h₁ s₁) (hsame : h₁.SameAttempt h₂)
    (htalk : Talk conn calls s₁ s₂)
    (hactive : s₃ = s₂ ∨
      h₂.ownsHolder = true ∧ s₃ = s₂.setHolder id (c.activeHolder d s₂ id)) :
    NotBegun h s (c.abandon driverBegan conn h₂ s₃).2 := by
  obtain ⟨hbound, hothers, hleft⟩ :=
    abandoned_cases driverBegan hobtained hsame htalk hactive
  exact ⟨hbound, Or.inr ⟨conn, id, h₂.ownsHolder,
    abandoned_origin driverBegan hobtained hsame htalk hactive, hothers, hleft⟩⟩

/-- A transaction that runs is not begun on again. -/
theorem Origin.ne_of_active {h : Handle} {s s' : State} {conn : Connection}
    {id other : HolderId} {owns : Bool}
    (horigin : Origin h s conn other owns s') (hid : id < s.nextHolder)
    (hactive : (s.holders id).stage = .active) : id ≠ other := by
  rintro rfl
  cases horigin with
  | reused hholder howns hstage => simp [hactive] at hstage
  | created hnew => exact Nat.ne_of_lt hid hnew

theorem Begun.nextHolder_le {c : Coordinator} {h h' : Handle} {s s' : State}
    {conn : Connection} {id : HolderId} (hbegun : c.Begun h s conn id h' s') :
    s.nextHolder ≤ s'.nextHolder := by
  cases hbegun.origin with
  | reused _ _ _ _ hnext => exact Nat.le_of_eq hnext.symm
  | created _ _ hnext =>
      exact Nat.le_of_lt (Nat.lt_of_lt_of_eq (Nat.lt_succ_self _) hnext.symm)

theorem begun_of_ok {h' : Handle} {s' : State}
    (hok : c.begin d h s = (.ok (), h', s')) :
    ∃ conn id, c.Begun h s conn id h' s' := by
  have hbeginning := c.beginning d h s
  rw [hok] at hbeginning
  cases hbeginning with
  | begun hobtained hsame htalk hactive =>
      exact ⟨_, _, begun_holders hobtained hsame htalk hactive⟩

theorem notBegun_of_error {e : TransactionError} {h' : Handle} {s' : State}
    (herror : c.begin d h s = (.error e, h', s')) : NotBegun h s s' := by
  have hbeginning := c.beginning d h s
  rw [herror] at hbeginning
  generalize hresult : (Except.error e, h', s') = result at hbeginning
  cases hbeginning with
  | refused hstate =>
      obtain ⟨-, -, rfl⟩ := by simpa using hresult
      rcases hstate with rfl | ⟨fault, hcreate⟩
      · exact ⟨fun _ => rfl, Or.inl ⟨rfl, rfl⟩⟩
      · have hsame : State.SameHolders s s' := by
          simpa [hcreate] using s.sameHolders_create c.source.id
        exact ⟨hsame.bound, Or.inl ⟨hsame.holders, hsame.nextHolder⟩⟩
  | early hobtained hsame hcalls htalk =>
      obtain rfl : s' = _ := (Prod.mk.inj (Prod.mk.inj hresult).2).2
      exact abandoned_holders (d := d) hobtained hsame htalk (Or.inl rfl)
  | late hobtained hsame htalk hactive =>
      obtain rfl : s' = _ := (Prod.mk.inj (Prod.mk.inj hresult).2).2
      exact abandoned_holders hobtained hsame htalk hactive
  | begun => simp at hresult

end Coordinator

end UnitOfWork
