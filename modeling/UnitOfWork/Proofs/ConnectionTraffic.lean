import UnitOfWork.Proofs.AttemptCalls
import UnitOfWork.Proofs.HiddenConnections

/-!
# What passes on a connection

An execution makes calls on the connection of its own transaction, and on no
other.  So what passes on a connection over a run is put together from whole
attempts and from statements of the work, as long as no two attempts are made on
it at a time.  No attempt is made while a transaction runs on the holder of the
connection, if no other bound holder has it.
-/

namespace UnitOfWork

namespace Coordinator

variable {σ ε α : Type} {c : Coordinator} {d : Definition} {body : Plan σ ε α}
variable {s s' : State} {m : Diary σ} {run : Run (Diary σ) ε α}

theorem Entered.lenient {scope : Scope} (hentered : c.Entered d s scope s')
    (hlenient : s.Lenient) : s'.Lenient := by
  cases hentered with
  | joining => exact hlenient
  | @alone suspended =>
      exact (confined_setAside (fun _ => True) c suspended s).lenient hlenient
  | @begun suspended h s₁ hcourse hbegin =>
      obtain ⟨other, id, -, hconfined, -⟩ := confined_of_ok rfl hbegin
      exact hconfined.lenient
        ((confined_entrance (fun _ => True) c d suspended s).lenient hlenient)

/-- The handle with which a beginning starts owns nothing and owes nothing. -/
theorem owed_blank (c : Coordinator) (suspended : Option HolderId) (s : State) :
    (c.blank suspended s).owed = [] := rfl

/-- The ways in which an execution can go during which no deadline passes, with
what its own calls say on connections. -/
inductive Handled (c : Coordinator) (d : Definition) (body : Plan σ ε α)
    (s : State) (m : Diary σ) (run : Run (Diary σ) ε α) : Prop
  /-- No work was run, and no transaction was begun. -/
  | idle (hconfined : State.Confined (fun _ => False) s run.state)
  /-- The work was run in a transaction of someone else, or in none. -/
  | through {scope : Scope} {s₀ : State} (hentered : c.Entered d s scope s₀)
      (hbefore : State.Confined (fun _ => False) s s₀)
      (hafter : State.Confined (fun _ => False)
        (body.run scope s₀ m).2.state run.state)
  /-- The beginning of a transaction for the work was abandoned. -/
  | abandoned {suspended : Option HolderId} {conn : Connection} {id : HolderId}
      {h₁ : Handle}
      {s₁ s₂ : State} {made : List (Call × Option Fault)} {calls : List Call}
      (hobtained : c.Obtained (c.blank suspended s)
        (c.entrance d suspended s) conn id h₁ s₁)
      (hattempt : Attempt c d (.reported (s₁.session conn)) made calls)
      (hsaid : State.Said conn made calls s₁ s₂)
      (hparted : State.Parted h₁.ownsHolder conn s₂ run.state)
      (hconfined : State.Confined (· = conn) s run.state)
  /-- The work was run in a transaction that was begun for it.  If the work
  makes nothing but statements on its connection, the attempt is a whole one. -/
  | within {suspended : Option HolderId} {conn : Connection} {id : HolderId}
      {h h₁ : Handle}
      {s₁ s₂ : State} (hentered : c.Entered d s (.beginning c h) s₂)
      (hobtained : c.Obtained (c.blank suspended s)
        (c.entrance d suspended s) conn id h₁ s₁)
      (hbegun : c.Begun (c.blank suspended s)
        (c.entrance d suspended s) conn id h s₂)
      (hbefore : State.Confined (· = conn) s s₂)
      (hafter : State.Confined (· = conn)
        (body.run (.beginning c h) s₂ m).2.state run.state)
      (hattempt : ∀ work : List Call,
        (∀ request ∈ work, request.isStatement = true) →
        State.Said conn [] work s₂ (body.run (.beginning c h) s₂ m).2.state →
        ∃ made calls s₃, Attempt c d (.reported (s₁.session conn)) made calls ∧
          State.Said conn made calls s₁ s₃ ∧
          State.Parted h₁.ownsHolder conn s₃ run.state)

section

variable {suspended : Option HolderId} {e : TransactionError} {h h' : Handle}
variable {s₁ : State}

/-- How the beginning of an execution goes. -/
theorem outset_entrance (c : Coordinator) (d : Definition)
    (suspended : Option HolderId) (hlenient : s.Lenient) :
    c.Outset d (c.blank suspended s) (c.entrance d suspended s)
      (c.begin d (c.blank suspended s) (c.entrance d suspended s)) :=
  have hentrance := confined_entrance (fun _ => False) c d suspended s
  outset c d (hentrance.lenient hlenient) rfl (owed_blank c suspended s)

/-- No transaction could be begun for the work. -/
theorem handled_notBegun (hlenient : s.Lenient)
    (hbegin : c.begin d (c.blank suspended s) (c.entrance d suspended s) =
      (.error e, h', s')) :
    c.Handled d body s m (.failed e (c.resumed suspended s') m) := by
  have hentrance := fun on => confined_entrance on c d suspended s
  have hresumed := fun on => confined_resumed on c suspended s'
  have houtset := outset_entrance c d suspended hlenient
  rw [hbegin] at houtset
  generalize hresult : (Except.error e, h', s') = result at houtset
  cases houtset with
  | refused hsame hconfined =>
      obtain ⟨-, rfl, rfl⟩ := by simpa using hresult
      exact .idle (((hentrance _).trans hconfined).trans (hresumed _))
  | abandoned hobtained hattempt hsaid hparted hconfined =>
      obtain ⟨-, rfl, rfl⟩ := by simpa using hresult
      exact .abandoned hobtained hattempt hsaid
        (hparted.andThen ((hresumed fun _ => False).heard not_false))
        (((hentrance _).trans hconfined).trans (hresumed _))
  | opened => simp at hresult

/-- The work was run in a transaction that was begun for it. -/
theorem handled_begun {mark : Bool} {result : Except (Failure ε) α}
    {m' : Diary σ} (hs : s.BoundExist) (hlenient : s.Lenient)
    (hcourse : c.course d s = .begins suspended)
    (hbegin : c.begin d (c.blank suspended s) (c.entrance d suspended s) =
      (.ok (), h, s₁))
    (hstate : (body.run (.beginning c h) s₁ m).2.state = s')
    (hlenient' : s'.Lenient) :
    c.Handled d body s m (c.close suspended (markedHandle h mark)
      (complete (markedHandle h mark) result s') m') := by
  have houtset := outset_entrance c d suspended hlenient
  rw [hbegin] at houtset
  generalize hresult : (Except.ok (), h, s₁) = result' at houtset
  cases houtset with
  | refused | abandoned => simp at hresult
  | @opened conn id h₁ h' s₀ s₁' opened marked hobtained howns hbegun hopened
      hmarked hsaid howed hconfined =>
      obtain ⟨rfl, rfl⟩ := by simpa using hresult
      have hsource : h.ownsHolder = true → conn.source = c.source.id :=
        fun howns' =>
          (hobtained.created_of_owns (fun _ _ _ => rfl)
            (howns.symm.trans howns')).1
      have hresumed := fun on state => confined_resumed on c suspended state
      have hsteady := body.run_steady (.beginning c h) m (hbegun.boundExist hs)
      rw [hstate] at hsteady
      have hid := hbegun.holder_lt hs
      obtain ⟨hconn, hheld⟩ := connection_of_steady hbegun hid hsteady mark
      obtain ⟨fault, htalk, -⟩ := complete_ended hheld result
      have hcleaned := confined_cleanup (c := c) (h := markedHandle h mark)
        hbegun.holder (by rw [htalk.sameHolders.holders]; exact hconn) hsource
      refine .within (.begun hcourse hbegin) hobtained hbegun
        ((confined_entrance _ c d suspended s).trans hconfined) ?_
        fun work hstatements hwork => ?_
      · rw [hstate, close_state]
        exact (htalk.confined.trans hcleaned).trans (hresumed _ _)
      · rw [hstate] at hwork
        obtain ⟨made, calls, s₃, hattempt, hwhole, hparted⟩ := said_attempt mark
          result hbegun
          hid hsteady hlenient' hsource hopened hmarked hsaid howed
            hwork hstatements
        rw [howns] at hparted
        refine ⟨made, calls, s₃, hattempt, hwhole, ?_⟩
        rw [close_state]
        exact hparted.andThen ((hresumed (fun _ => False) _).heard not_false)

end

/-- An execution goes in one of these ways, if neither the driver nor the work
makes a commit or a rollback fail. -/
theorem Execution.handled (hrun :
    c.Execution d body s m run) (hprompt : body.Prompt)
    (hs : s.BoundExist) (hlenient : s.Lenient)
    (hbody : ∀ scope s', c.Entered d s scope s' → s'.Lenient →
      (body.run scope s' m).2.state.Lenient) :
    c.Handled d body s m run := by
  cases hrun with
  | refused hcourse => exact .idle (.refl s)
  | joinedCut _ hwork | aloneCut _ hwork | timedOut _ _ hwork
  | begunCut _ _ hwork =>
      exact (hprompt.run_ne_overdue hwork).elim
  | @joined id mark result s' m' hcourse hwork =>
      have hstate : (body.run (.joining c { holder := some id })
          (s.say (.participating d.name)) m).2.state = s' := by rw [hwork]
      refine .through (.joining hcourse) ((State.Confined.refl s).say _) ?_
      rw [hstate]
      show State.Confined _ s' (if Plan.failed result then
        s'.participantFailed id else s')
      split
      · exact ((State.Confined.refl s').say _).trans
          (State.confined_markedHolder _ _ id)
      · exact .refl s'
  | @alone suspended scope result s' m' hcourse hwork =>
      have hstate :
          (body.run (.without c) (c.setAside suspended s) m).2.state = s' := by
        rw [hwork]
      refine .through (.alone hcourse) (confined_setAside _ c suspended s) ?_
      rw [hstate, conclude_state]
      exact confined_resumed _ c suspended s'
  | notBegun hcourse hbegin => exact handled_notBegun hlenient hbegin
  | @begun suspended h s₁ mark result s' m' hcourse hbegin hwork =>
      have hstate : (body.run (.beginning c h) s₁ m).2.state = s' := by
        rw [hwork]
      have hentered : c.Entered d s (.beginning c h) s₁ := .begun hcourse hbegin
      have hlenient' := hbody _ _ hentered (hentered.lenient hlenient)
      rw [hstate] at hlenient'
      exact handled_begun hs hlenient hcourse hbegin hstate hlenient'

theorem Handled.lenient (h : c.Handled d body s m run) (hlenient : s.Lenient)
    (hbody : ∀ scope s', c.Entered d s scope s' → s'.Lenient →
      (body.run scope s' m).2.state.Lenient) : run.state.Lenient := by
  cases h with
  | idle hconfined => exact hconfined.lenient hlenient
  | through hentered hbefore hafter =>
      exact hafter.lenient (hbody _ _ hentered (hbefore.lenient hlenient))
  | abandoned _ _ _ _ hconfined => exact hconfined.lenient hlenient
  | within hentered _ _ hbefore hafter _ =>
      exact hafter.lenient (hbody _ _ hentered (hbefore.lenient hlenient))

end Coordinator

theorem Scope.confined_handBack (scope : Scope) (conn : Connection)
    (s : State) :
    State.Confined (fun _ => True) s (scope.release conn s).2 := by
  rw [Scope.release, Source.releaseConnection]
  split
  · exact .refl s
  · have hreleased : State.Confined (fun _ => True) s
        (s.release scope.coordinator.source.id conn).2 :=
          (State.Confined.refl s).release trivial
    cases hresult : s.release scope.coordinator.source.id conn with
    | mk outcome s' =>
        rw [hresult] at hreleased
        cases outcome <;> exact hreleased

namespace Plan

variable {σ ε α : Type} {asked : Coordinator → Definition → Prop}
variable {around given : List Connection} {scope : Scope} {s : State}
variable {m : Diary σ}

theorem Step.lenient {step : Step σ} (m : Diary σ)
    (hallowed : (Discipline.speaking asked).step around given scope s step)
    (hlenient : s.Lenient) : (step.take scope s m).state.Lenient := by
  cases step with
  | connection => exact (scope.confined_connection s).lenient hlenient
  | handBack conn => exact (scope.confined_handBack conn s).lenient hlenient
  | markRollbackOnly =>
      simp only [Step.take]
      rcases scope.markRollbackOnly_cases s with
          ⟨e, -, h⟩ | ⟨id, -, h⟩ <;> rw [h]
      · exact hlenient
      · exact (State.confined_markedHolder
          (fun _ => False) s id).lenient hlenient
  | call conn request =>
      intro source
      have hfaults :
          ((Step.take scope s m (.call conn request)).state.drivers
            source).faults =
          (s.drivers source).faults :=
            State.faults_callDirectly s conn request source
      rw [hfaults]
      exact hlenient source
  | setFault place fault on =>
      have hkept : on = true → fault ≠ .commit ∧ fault ≠ .rollback := hallowed
      have hset : ∀ f, (on = true → fault ≠ f) →
          (s.drivers place).faults f = false →
          ((s.drivers place).setFault fault on).faults f = false := by
        intro f hother hoff
        rw [Driver.faults_setFault]
        split
        · next heq => exact Bool.eq_false_iff.mpr fun hon => hother hon heq.symm
        · exact hoff
      intro source
      have hdrivers :
          (Step.take scope s m
            (.setFault place fault on)).state.drivers source =
          if source = place then (s.drivers place).setFault fault on
          else s.drivers source := rfl
      rw [hdrivers]
      split
      · obtain ⟨hcommit, hrollback⟩ := hlenient place
        exact ⟨hset .commit (fun hon => (hkept hon).1) hcommit,
          hset .rollback (fun hon => (hkept hon).2) hrollback⟩
      · exact hlenient source
  | rest | remember | look => exact hlenient

/-- Work that speaks makes no commit and no rollback fail. -/
theorem Prompt.run_lenient {plan : Plan σ ε α} (hprompt : plan.Prompt)
    (hheeds : plan.Heeds (.speaking asked) around given scope s m)
    (hs : s.BoundExist) (hlenient : s.Lenient) :
    (plan.run scope s m).2.state.Lenient := by
  induction plan generalizing around given scope s m with
  | finish result => exact hlenient
  | pend outer => exact hprompt.elim
  | step first next ih =>
      exact ih _ (hprompt _) hheeds.2 (first.take_boundExist scope m hs)
        (Step.lenient m hheeds.1 hlenient)
  | execute c d body next ihbody ihnext =>
      obtain ⟨hkeeps, result, hresult⟩ := c.execute_returns d m hprompt.1 hs
      have hbody := fun scope' s' (hentered : c.Entered d s scope' s') =>
        ihbody (m := m) hprompt.1 (hheeds.2.1 scope' s' hentered)
          (hentered.steady.boundExist hs)
      have hinner :=
        ((c.execution d body s m).handled hprompt.1 hs hlenient hbody).lenient
          hlenient hbody
      rw [run_execute_of_finished hresult]
      exact ihnext result (hprompt.2 result) (hheeds.2.2 result hresult)
        (hkeeps.boundExist hs) hinner

/-- An execution of work that speaks goes in one of the ways above. -/
theorem Prompt.execute_handled {c : Coordinator} {d : Definition}
    {body : Plan σ ε α} (hprompt : body.Prompt)
    (hbody : ∀ scope' s', c.Entered d s scope' s' →
      body.Heeds (.speaking asked) around [] scope' s' m)
    (hs : s.BoundExist) (hlenient : s.Lenient) :
    c.Handled d body s m (c.execute d body.run s m) ∧
      (c.execute d body.run s m).state.Lenient := by
  have hwork : ∀ scope' s', c.Entered d s scope' s' → s'.Lenient →
      (body.run scope' s' m).2.state.Lenient := fun scope' s' hentered =>
    hprompt.run_lenient (hbody scope' s' hentered)
      (hentered.steady.boundExist hs)
  have hhandled := (c.execution d body s m).handled hprompt hs hlenient hwork
  exact ⟨hhandled, hhandled.lenient hlenient hwork⟩

end Plan

/-! ## Known connections -/

/-- What passes on a connection between two states is traffic, and consists of
statements if a transaction runs on a certain holder. -/
def State.Carries (asked : Coordinator → Definition → Prop) (holder : HolderId)
    (conn : Connection) (s s' : State) : Prop :=
  ∃ made calls, Traffic asked (s.session conn) made calls ∧
    Said conn made calls s s' ∧
    (s.Runs holder → made = [])

namespace State.Carries

variable {asked : Coordinator → Definition → Prop} {holder : HolderId}
variable {conn : Connection} {s s₁ s' : State}

/-- Nothing passes. -/
theorem silent (h : Heard conn [] [] s s') : Carries asked holder conn s s' :=
  ⟨[], [], .silent _, .silent h, fun _ => rfl⟩

theorem trans (h : Carries asked holder conn s s₁)
    (hruns : s.Runs holder → s₁.Runs holder)
    (h' : Carries asked holder conn s₁ s') :
    Carries asked holder conn s s' := by
  obtain ⟨made, calls, htraffic, hsaid, hbusy⟩ := h
  obtain ⟨made', calls', htraffic', hsaid', hbusy'⟩ := h'
  rw [hsaid.session] at htraffic'
  refine ⟨made ++ made', calls ++ calls', htraffic.trans htraffic',
    hsaid.trans hsaid',
    fun hrunning => ?_⟩
  rw [hbusy hrunning, hbusy' (hruns hrunning), List.append_nil]

/-- Statements of the work. -/
theorem statements {calls : List Call}
    (h : ∀ request ∈ calls, request.isStatement = true)
    (hsaid : Said conn [] calls s s') : Carries asked holder conn s s' :=
  ⟨[], calls, .of_statements h, hsaid, fun _ => rfl⟩

/-- A whole attempt, on a holder on which no transaction is running. -/
theorem attempt {c : Coordinator} {d : Definition}
    {made : List (Call × Option Fault)} {calls : List Call} (hasked : asked c d)
    (hattempt : Attempt c d (.reported (s.session conn)) made calls)
    (hsaid : Said conn made calls s s') (hidle : ¬ s.Runs holder) :
    Carries asked holder conn s s' :=
  ⟨made, calls, .of_attempt hasked hattempt, hsaid,
    fun hrunning => (hidle hrunning).elim⟩

theorem after (h : Heard conn [] [] s s₁)
    (hruns : s.Runs holder → s₁.Runs holder)
    (h' : Carries asked holder conn s₁ s') : Carries asked holder conn s s' :=
  (silent h).trans hruns h'

theorem andThen (h : Carries asked holder conn s s₁)
    (h' : Heard conn [] [] s₁ s') :
    Carries asked holder conn s s' := by
  obtain ⟨made, calls, htraffic, hsaid, hbusy⟩ := h
  exact ⟨made, calls, htraffic, hsaid.andThen h', hbusy⟩

end State.Carries

theorem State.Parted.of_not_owned {conn : Connection} {s s' : State}
    (h : Parted false conn s s') : Heard conn [] [] s s' := by
  obtain ⟨fault, -, hheard⟩ := h
  simpa using hheard

namespace Coordinator

variable {σ ε α : Type} {asked : Coordinator → Definition → Prop}
variable {holder : HolderId} {c : Coordinator} {d : Definition}
variable {body : Plan σ ε α} {conn : Connection} {s s' : State} {m : Diary σ}
variable {run : Run (Diary σ) ε α}

/-- An attempt that gets a known connection begins on the only holder that has
it, on which no transaction is running. -/
theorem Obtained.of_known {suspended : Option HolderId} {id : HolderId}
    {h₁ : Handle} {s₁ : State}
    (hobtained : c.Obtained (c.blank suspended s)
      (c.entrance d suspended s) conn id h₁ s₁)
    (hknown : conn.id < s.nextId conn.source) (hsole : s.Sole holder conn) :
    h₁.ownsHolder = false ∧ id = holder ∧ ¬ s.Runs holder ∧
      State.Heard conn [] [] s s₁ := by
  have hheard := hobtained.heard rfl
  have hnew := hobtained.created_of_owns fun _ _ _ => rfl
  cases hobtained with
  | reused hholder hstage hconn =>
      have hholders : (c.entrance d suspended s).holders = s.holders := by
        simp [entrance]
      rw [hholders] at hstage hconn
      obtain rfl := hsole c.key id (boundHolder_of_aside hholder) hconn
      refine ⟨rfl, rfl, fun hruns => ?_, ?_⟩
      · rw [hruns.active] at hstage
        cases hstage
      · exact ((confined_entrance (fun _ => False) c d suspended s).heard
          not_false).after hheard
  | created hcreate =>
      have hbefore := (c.deals_entrance d suspended s).nextId
      have hcreated := (hnew rfl).2.mono hbefore fun _ => Nat.le_refl _
      exact absurd hcreated (State.not_created_of_known hknown _)

/-- What passes on a known connection over an execution is what its work says on
it, or one attempt with that. -/
theorem Handled.carries (h : c.Handled d body s m run) (hs : s.BoundExist)
    (hasked : asked c d) (hknown : conn.id < s.nextId conn.source)
    (hsole : s.Sole holder conn) (hbody : ∀ scope s', c.Entered d s scope s' →
      State.Carries asked holder conn s' (body.run scope s' m).2.state) :
    State.Carries asked holder conn s run.state := by
  cases h with
  | idle hconfined => exact .silent (hconfined.heard not_false)
  | through hentered hbefore hafter =>
      exact .after (hbefore.heard not_false)
        (fun hruns => hruns.later hentered.steady)
        ((hbody _ _ hentered).andThen (hafter.heard not_false))
  | @abandoned suspended other id h₁ s₁ s₂ made calls hobtained hattempt
      hsaid hparted hconfined =>
      by_cases heq : conn = other
      · subst heq
        obtain ⟨howns, -, hidle, hheard⟩ := hobtained.of_known hknown hsole
        rw [howns] at hparted
        have hsession : s₁.session conn = s.session conn := hheard.session
        rw [hsession] at hattempt
        exact .attempt hasked hattempt
          (((State.Said.silent hheard).trans hsaid).andThen
            hparted.of_not_owned) hidle
      · exact .silent (hconfined.heard heq)
  | @within suspended other id h h₁ s₁ s₂ hentered hobtained hbegun hbefore
      hafter hattempt =>
      have hwork := hbody _ _ hentered
      by_cases heq : conn = other
      · subst heq
        obtain ⟨howns, rfl, hidle, hheard⟩ := hobtained.of_known hknown hsole
        obtain ⟨made, calls, htraffic, hsaid, hbusy⟩ := hwork
        obtain rfl := hbusy ⟨hbegun.holder_lt hs, hbegun.stage⟩
        obtain ⟨made', calls', s₃, hwhole, hsaid', hparted⟩ :=
          hattempt calls htraffic.statements hsaid
        rw [howns] at hparted
        have hsession : s₁.session conn = s.session conn := hheard.session
        rw [hsession] at hwhole
        exact .attempt hasked hwhole
          (((State.Said.silent hheard).trans hsaid').andThen
            hparted.of_not_owned) hidle
      · exact .after (hbefore.heard heq)
          (fun hruns => hruns.later hentered.steady)
          (hwork.andThen (hafter.heard heq))

end Coordinator

namespace Plan

variable {σ ε α : Type} {asked : Coordinator → Definition → Prop}
variable {holder : HolderId} {conn : Connection}
variable {around given : List Connection} {scope : Scope} {s : State}
variable {m : Diary σ}

/-- If a scope has given a known connection, it is the one that is bound. -/
theorem Step.lent_bound (step : Step σ) (m : Diary σ) (hs : s.BoundExist)
    (hknown : conn.id < s.nextId conn.source)
    (hbound : conn ∈ given →
      scope.coordinator.source.boundConnection s = some conn)
    (hlent : conn ∈ step.lent given (step.take scope s m).answer) :
    scope.coordinator.source.boundConnection (step.take scope s m).state =
      some conn := by
  have hkeeps : State.Keeps (fun _ => False) s (step.take scope s m).state :=
    step.take_keeps scope s m
  rw [hkeeps.boundConnection hs]
  cases step with
  | connection =>
      have hout : conn ∈ handedOut given (scope.connection s).1 := hlent
      rcases scope.connection_cases s with
          ⟨other, hother, h⟩ | ⟨-, other, s', h, -, hdeals⟩ |
        ⟨e, s', h, -⟩ <;> rw [h] at hout
      · rcases List.mem_cons.mp hout with rfl | hgiven
        · exact hother
        · exact hbound hgiven
      · rcases List.mem_cons.mp hout with rfl | hgiven
        · have hnew : State.Created conn s s' :=
            hdeals.new_of_fetched (List.mem_singleton_self _)
          exact absurd hnew (State.not_created_of_known hknown s')
        · exact hbound hgiven
      · exact hbound hout
  | handBack | markRollbackOnly | call | setFault | rest | remember | look =>
      exact hbound hlent

/-- A step of work that speaks says at most a statement on a known
connection. -/
theorem Step.carries {step : Step σ} (m : Diary σ)
    (hallowed : (Discipline.speaking asked).step around given scope s step)
    (hgave : scope.coordinator.source.Gave given s)
    (hbound : conn ∈ given →
      scope.coordinator.source.boundConnection s = some conn)
    (hknown : conn.id < s.nextId conn.source) :
    State.Carries asked holder conn s (step.take scope s m).state := by
  cases step with
  | connection =>
      exact .silent ((scope.confined_connection s).heard
        (State.not_created_of_known hknown _))
  | handBack other =>
      have hgiven : other ∈ given := hallowed
      by_cases heq : conn = other
      · -- The bound connection stays where it is.
        have htransactional :=
          Source.isTransactional_iff.mpr (hbound (heq ▸ hgiven))
        have hstate : (Step.take scope s m (.handBack other)).state = s := by
          simp only [Step.take, Scope.release, Source.releaseConnection]
          rw [← heq, if_pos htransactional]
        rw [hstate]
        exact .silent (.refl conn s)
      · exact .silent ((Scope.confined_release hgave hgiven).heard heq)
  | markRollbackOnly =>
      simp only [Step.take]
      rcases scope.markRollbackOnly_cases s with
          ⟨e, -, h⟩ | ⟨id, -, h⟩ <;> rw [h]
      · exact .silent (.refl conn s)
      · exact .silent
          ((State.confined_markedHolder (fun _ => False) s id).heard not_false)
  | call other request =>
      obtain ⟨-, text, rfl⟩ := hallowed
      by_cases heq : other = conn
      · subst heq
        obtain ⟨calls, hstatements, hsaid⟩ := State.Said.statement s other text
        exact .statements hstatements hsaid
      · exact .silent (.callDirectly_other heq s (.execute text))
  | setFault source fault on => exact .silent (.setFault s source fault on)
  | rest | remember | look => exact .silent (.of_drivers rfl rfl)

/-- Over the run of work that speaks and during which no deadline passes, a
known connection that only one bound holder has carries traffic. -/
theorem Prompt.run_carries {plan : Plan σ ε α} (hprompt : plan.Prompt)
    (hheeds : plan.Heeds (.speaking asked) around given scope s m)
    (hs : s.BoundExist) (hlenient : s.Lenient)
    (hgave : scope.coordinator.source.Gave given s)
    (hbound : conn ∈ given →
      scope.coordinator.source.boundConnection s = some conn)
    (hknown : conn.id < s.nextId conn.source) (hsole : s.Sole holder conn) :
    State.Carries asked holder conn s (plan.run scope s m).2.state := by
  induction plan generalizing around given scope s m with
  | finish result => exact .silent (.refl conn s)
  | pend outer => exact hprompt.elim
  | step first next ih =>
      have hkeeps :
          State.Keeps (fun _ => False) s (first.take scope s m).state :=
        first.take_keeps scope s m
      have hcoordinator := first.take_coordinator scope s m
      have hgave' := first.gave m hs hgave
      have hbound' := first.lent_bound m hs hknown hbound
      rw [← hcoordinator] at hgave' hbound'
      have hrest := ih _ (hprompt _) hheeds.2 (hkeeps.boundExist hs)
        (Step.lenient m hheeds.1 hlenient) hgave' hbound'
        (Nat.lt_of_lt_of_le hknown (first.take_nextId scope s m _))
        (hsole.later hkeeps hs)
      exact (Step.carries m hheeds.1 hgave hbound hknown).trans
        (fun hruns => hruns.later (first.take_steady scope s m)) hrest
  | execute c d body next ihbody ihnext =>
      obtain ⟨hkeeps, result, hresult⟩ := c.execute_returns d m hprompt.1 hs
      obtain ⟨deals, hdeals⟩ := c.execute_dealt d body m hs
      obtain ⟨hhandled, hlenient'⟩ :=
        hprompt.1.execute_handled hheeds.2.1 hs hlenient
      have hinner :=
        hhandled.carries hs hheeds.1 hknown hsole fun scope' s' hentered =>
        ihbody hprompt.1 (hheeds.2.1 scope' s' hentered)
          (hentered.steady.boundExist hs)
          (hentered.lenient hlenient) (.nil _ s') (fun hmem => by cases hmem)
          (Nat.lt_of_lt_of_le hknown (hentered.nextId _))
          (hentered.sole hknown hsole)
      rw [run_execute_of_finished hresult]
      have hsame := hkeeps.boundConnection hs scope.coordinator.source
      have hrest := ihnext result (hprompt.2 result) (hheeds.2.2 result hresult)
        (hkeeps.boundExist hs) hlenient'
        (hgave.later hsame hdeals) (fun hmem => hsame.trans (hbound hmem))
        (Nat.lt_of_lt_of_le hknown (hdeals.nextId _)) (hsole.later hkeeps hs)
      exact hinner.trans (fun hruns =>
        hruns.later (c.execute_steady d body m hs)) hrest

end Plan

end UnitOfWork
