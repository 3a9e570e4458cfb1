import UnitOfWork.Proofs.HolderReuse
import UnitOfWork.Proofs.TimeLimit

/-!
# What lasts while a transaction runs

As long as a transaction runs on a holder, its deadline is the one that it was
given, and a mark for rollback stays.  Only the clean-up of the transaction ends
that, and whoever releases or clears the holder by hand or sets another
deadline.  `State.Lasts` says it of two states, and every operation of a
coordinator keeps it for every holder there is.
-/

namespace UnitOfWork

structure Holder.GoesOn {γ : Type} (holder holder' : Holder γ) : Prop where
  stage : holder'.stage = .active
  deadline : holder'.deadline = holder.deadline
  rollbackOnly : holder.rollbackOnly = true → holder'.rollbackOnly = true

/-- From one state to the other the clock has not gone back, and if a
transaction runs on a holder, it goes on, unless it was ended. -/
structure State.Lasts (id : HolderId) (ended : Bool) (s s' : State) : Prop where
  nextHolder : s.nextHolder ≤ s'.nextHolder
  now : s.now ≤ s'.now
  goesOn : ended = false → (s.holders id).stage = .active →
    (s.holders id).GoesOn (s'.holders id)

def Handle.ends (h : Handle) (id : HolderId) : Bool :=
  decide (h.holder = some id) && (h.ownsHolder || h.began)

namespace State.Lasts

variable {id : HolderId} {ended ended' : Bool} {s s' s'' : State}

theorem of_holder (hnext : s.nextHolder ≤ s'.nextHolder) (hnow : s.now ≤ s'.now)
    (hholder : s'.holders id = s.holders id) : Lasts id ended s s' where
  nextHolder := hnext
  now := hnow
  goesOn _ hactive := by
    rw [hholder]
    exact ⟨hactive, rfl, fun h => h⟩

theorem of_sameHolders (hsame : SameHolders s s') (hnow : s'.now = s.now) :
    Lasts id ended s s' :=
  of_holder (Nat.le_of_eq hsame.nextHolder.symm)
    (Nat.le_of_eq hnow.symm) (by rw [hsame.holders])

theorem refl (s : State) : Lasts id ended s s :=
  of_sameHolders (.refl s) rfl

theorem trans (h : Lasts id ended s s') (h' : Lasts id ended' s' s'') :
    Lasts id (ended || ended') s s'' where
  nextHolder := Nat.le_trans h.nextHolder h'.nextHolder
  now := Nat.le_trans h.now h'.now
  goesOn hno hactive := by
    rw [Bool.or_eq_false_iff] at hno
    obtain ⟨hstage, hdeadline, hmarked⟩ := h.goesOn hno.1 hactive
    obtain ⟨hstage', hdeadline', hmarked'⟩ := h'.goesOn hno.2 hstage
    exact ⟨hstage', hdeadline'.trans hdeadline,
      fun hflag => hmarked' (hmarked hflag)⟩

/-- Nothing was ended in the second part. -/
theorem andThen (h : Lasts id ended s s') (h' : Lasts id false s' s'') :
    Lasts id ended s s'' := by
  have hboth := h.trans h'
  rwa [Bool.or_false] at hboth

theorem say (s : State) (line : Line) : Lasts id ended s (s.say line) :=
  of_holder (Nat.le_refl _) (Nat.le_refl _) rfl

theorem unbind (s : State) (key : Key) : Lasts id ended s (s.unbind key).2 :=
  of_holder (Nat.le_of_eq (s.nextHolder_unbind key).symm)
    (Nat.le_of_eq (s.now_unbind key).symm) (by rw [s.holders_unbind])

theorem setAside (c : Coordinator) (suspended : Option HolderId) (s : State) :
    Lasts id ended s (c.setAside suspended s) := by
  cases suspended with
  | none => exact .refl s
  | some other => exact .unbind s c.key

theorem resumed (c : Coordinator) (suspended : Option HolderId) (s : State) :
    Lasts id ended s (c.resumed suspended s) := by
  rcases c.resumed_cases suspended s with h | ⟨other, -, -, h⟩ <;> rw [h]
  · exact .refl s
  · exact .of_holder (Nat.le_refl _) (Nat.le_refl _) rfl

theorem setHolder (s : State) (other : HolderId) {holder : Holder Connection}
    (hgoesOn : ended = false → other = id → (s.holders id).stage = .active →
      (s.holders id).GoesOn holder) :
    Lasts id ended s (s.setHolder other holder) where
  nextHolder := Nat.le_refl _
  now := Nat.le_refl _
  goesOn hno hactive := by
    rw [holders_setHolder]
    split
    · next hsame => exact hgoesOn hno hsame.symm hactive
    · exact ⟨hactive, rfl, fun h => h⟩

theorem markedHolder (s : State) (other : HolderId) :
    Lasts id ended s (s.markedHolder other) := by
  have hsaid : Lasts id ended s
      (s.say (.markingRollbackOnly (s.holders other).connection)) :=
    .say s _
  refine hsaid.andThen (.setHolder _ other ?_)
  rintro - rfl hactive
  exact ⟨hactive, rfl, fun _ => rfl⟩

theorem markRollbackOnly (h : Handle) (s : State) :
    Lasts id ended s (Coordinator.markRollbackOnly h s).2.2 := by
  rw [Coordinator.markRollbackOnly]
  cases h.holder with
  | none => exact .refl s
  | some other => exact .markedHolder s other

theorem cleanup (c : Coordinator) (h : Handle) (s : State) :
    Lasts id (h.ends id) s (c.cleanup h s) := by
  cases hholder : h.holder with
  | none =>
      have hnothing : c.cleanup h s = s := by rw [Coordinator.cleanup, hholder]
      rw [hnothing]
      exact .refl s
  | some other =>
      constructor
      case nextHolder =>
        exact Nat.le_of_eq (Coordinator.cleanup_nextHolder hholder).symm
      case now => exact Nat.le_of_eq (c.now_cleanup h s).symm
      case goesOn =>
        intro hno hactive
        rw [Coordinator.cleanup_holders (c := c) (s := s) hholder id]
        split
        · next hsame =>
            rw [Handle.ends, hholder, hsame, decide_eq_true rfl, Bool.true_and,
              Bool.or_eq_false_iff] at hno
            rw [Coordinator.settle, hno.1, hno.2, ← hsame]
            exact ⟨hactive, rfl, fun hflag => hflag⟩
        · exact ⟨hactive, rfl, fun hflag => hflag⟩

/-- A beginning does nothing to a transaction that runs: it claims no active
holder. -/
theorem begin (hid : id < s.nextHolder) (c : Coordinator) (d : Definition)
    (h : Handle) :
    Lasts id ended s (c.begin d h s).2.2 := by
  have hnow : s.now ≤ (c.begin d h s).2.2.now :=
    Nat.le_of_eq (c.now_begin d h s).symm
  rcases hbegin : c.begin d h s with ⟨outcome, h', s'⟩
  rw [hbegin] at hnow
  by_cases hactive : (s.holders id).stage = .active
  -- Only an unclaimed holder is begun on, and given back when that fails.
  · cases outcome with
    | error e =>
        have hunused : ¬(Coordinator.reusableHolder h s = some id ∧
            (s.holders id).stage = .unbound) := by
          rw [hactive]
          exact fun hunbound => by cases hunbound.2
        obtain ⟨hnext, hkept⟩ := Coordinator.kept_of_failed hid hunused hbegin
        exact .of_holder hnext hnow hkept
    | ok _ =>
        obtain ⟨conn, other, hbegun⟩ := Coordinator.begun_of_ok hbegin
        exact .of_holder hbegun.nextHolder_le hnow
          (hbegun.others id (hbegun.origin.ne_of_active hid hactive))
  · have hpasses := State.Passes.begin hid c d h
    rw [hbegin] at hpasses
    exact ⟨hpasses.nextHolder, hnow, fun _ h => absurd h hactive⟩

end State.Lasts

/-! ## Acts and steps -/

def Act.ends (id : HolderId) (p : Pocket) : Act → Bool
  | cleanup slot => (p.handles slot).elim false fun h => h.ends id
  | _ => false

def Errand.Step.ends (id : HolderId) (p : Pocket) : Step → Bool
  | .act a => a.ends id p
  | _ => false

namespace Act

variable {c : Coordinator} {id : HolderId} {p : Pocket} {s : State}

theorem onHandle_lasts (slot : Nat) {ended : Bool} {use : Handle → Done}
    (huse : ∀ h, State.Lasts id ended s (use h).state) :
    State.Lasts id ended s (onHandle slot s p use).state := by
  rw [onHandle]
  cases p.handles slot with
  | none => exact .refl s
  | some h => exact huse h

theorem onConnection_lasts (place : Nat) {ended : Bool}
    {use : Connection → Done}
    (huse : ∀ conn, State.Lasts id ended s (use conn).state) :
    State.Lasts id ended s (onConnection place s p use).state := by
  rw [onConnection]
  cases p.connections place with
  | none => exact .refl s
  | some conn => exact huse conn

/-- Whatever a user does, a transaction goes on unless it is cleaned up. -/
theorem perform_lasts (hid : id < s.nextHolder) (act : Act) :
    State.Lasts id (act.ends id p) s (act.perform c s p).state := by
  cases act with
  | discover slot => exact .refl s
  | isExisting slot | inspect slot => exact onHandle_lasts slot fun h => .refl s
  | begin d slot => exact onHandle_lasts slot fun h => .begin hid c d h
  | commit slot =>
      exact onHandle_lasts slot fun h =>
        .of_sameHolders
          (Coordinator.sameHolders_finish "commit" .commit .committing h s)
          (Coordinator.now_finish "commit" .commit .committing h s)
  | rollback slot =>
      exact onHandle_lasts slot fun h =>
        .of_sameHolders
          (Coordinator.sameHolders_finish "rollback" .rollback .rollingBack h s)
          (Coordinator.now_finish "rollback" .rollback .rollingBack h s)
  | markRollbackOnly slot =>
      exact onHandle_lasts slot fun h => .markRollbackOnly h s
  | cleanup slot =>
      rw [ends, perform, onHandle]
      cases p.handles slot with
      | none => exact .refl s
      | some h => exact .cleanup c h s
  | suspend slot place => exact onHandle_lasts slot fun h => .unbind s c.key
  | resume place =>
      rw [perform]
      cases p.suspended place with
      | none => exact .refl s
      | some other => exact .resumed c (some other) s
  | connectionOf slot place =>
      refine onHandle_lasts slot fun h => ?_
      cases h.connection s <;> exact .refl s
  | getConnection place =>
      have hsame := c.source.sameHolders_getConnection s
      have hnow := c.source.now_getConnection s
      rw [perform]
      rcases hget : c.source.getConnection s with ⟨answer, s'⟩
      rw [hget] at hsame hnow
      cases answer <;> exact .of_sameHolders hsame hnow
  | releaseConnection place =>
      exact onConnection_lasts place fun conn =>
        .of_sameHolders (c.source.sameHolders_releaseConnection conn s)
          (c.source.now_releaseConnection conn s)
  | isTransactional place | settings place =>
      exact onConnection_lasts place fun conn => .refl s
  | call place request =>
      refine onConnection_lasts place fun conn => ?_
      have hsame := State.sameHolders_callDirectly s conn request
      have hnow := s.now_callDirectly conn request
      rcases hcall : s.callDirectly conn request with ⟨answer, s'⟩
      rw [hcall] at hsame hnow
      cases answer <;> exact .of_sameHolders hsame hnow
  | rest seconds => exact .of_holder (Nat.le_refl _) (Nat.le_add_right _ _) rfl

end Act

theorem Errand.Step.take_lasts {c : Coordinator} {id : HolderId} {s : State}
    (hid : id < s.nextHolder) (first : Step) (scope : Scope) (p : Pocket) :
    State.Lasts id (first.ends id p) s (first.take c scope s p).2.state := by
  cases first with
  | act a => exact a.perform_lasts hid
  | look => exact .refl s
  | markRollbackOnly =>
      rw [take]
      rcases scope.markRollbackOnly_cases s with
          ⟨e, -, hmark⟩ | ⟨other, -, hmark⟩ <;> rw [hmark]
      · exact .refl s
      · exact .markedHolder s other

/-! ## Calls on holders by hand -/

/-- Whether a call on a holder ends the transaction on it, or gives it another
deadline. -/
def Holder.Command.ends {γ : Type} : Holder.Command γ → Bool
  | .setTimeout _ | .release | .clear => true
  | _ => false

/-- Carries out a call on one of the holders. -/
def State.command (s : State) (other : HolderId)
    (command : Holder.Command Connection) :
    Except TransactionError (Holder.Answer Connection) × State :=
  let answered := (s.holders other).perform s.now command
  (answered.1, s.setHolder other answered.2)

namespace Holder

variable {γ : Type} {holder : Holder γ} {now : Instant}

def Overdue (holder : Holder γ) (now : Instant) : Prop :=
  ∃ t, holder.deadline = some t ∧ t ≤ now

/-- A check tells that the time is up exactly if the deadline has passed.  It
leaves the deadline as it is, and the holder is marked then. -/
theorem perform_checkDeadline (holder : Holder γ) (now : Instant) :
    let answered := holder.perform now .checkDeadline
    answered.2.deadline = holder.deadline ∧ answered.2.stage = holder.stage ∧
      ((∃ overdue, answered.1 = .error (.timedOut overdue)) ↔
        holder.Overdue now) ∧
      (holder.Overdue now → answered.2.rollbackOnly = true) ∧
      (holder.rollbackOnly = true → answered.2.rollbackOnly = true) := by
  simp only [perform, checkDeadline, Overdue]
  cases hdeadline : holder.deadline with
  | none => simp [hdeadline]
  | some t =>
      by_cases hpassed : t ≤ now <;>
        simp [hpassed, hdeadline, markRollbackOnly]

/-- A call by hand leaves a transaction that runs as it is, or ends it. -/
theorem perform_goesOn {command : Command γ} (hno : command.ends = false)
    (hactive : holder.stage = .active) :
    holder.GoesOn (holder.perform now command).2 := by
  cases command with
  | claim | activate seconds =>
      simp only [perform, claim, activate, hactive, attempt]
      exact ⟨hactive, rfl, fun h => h⟩
  | markRollbackOnly => exact ⟨hactive, rfl, fun _ => rfl⟩
  | setTimeout seconds | release | clear => cases hno
  | checkDeadline =>
      obtain ⟨hdeadline, hstage, -, -, hmarked⟩ :=
        holder.perform_checkDeadline now
      exact ⟨hstage.trans hactive, hdeadline, hmarked⟩
  | setConnection connection | inspect => exact ⟨hactive, rfl, fun h => h⟩
  | connection =>
      rw [perform]
      cases holder.held <;> exact ⟨hactive, rfl, fun h => h⟩

end Holder

theorem State.Lasts.command {id : HolderId} (s : State) (other : HolderId)
    (command : Holder.Command Connection) :
    Lasts id (decide (other = id) && command.ends) s
      (s.command other command).2 := by
  refine .setHolder s other fun hno hsame hactive => ?_
  subst hsame
  rw [decide_eq_true rfl, Bool.true_and] at hno
  exact Holder.perform_goesOn hno hactive

/-! ## Executions -/

/-- Whether the transaction on a holder is ended when work ends that was started
in a state.  It is cleaned up if it was begun for the work, also when its
deadline has passed. -/
def Scope.endsAfter {ε α : Type} (scope : Scope) (id : HolderId) (s : State) :
    Ending ε α → Bool
  | .finished _ => scope.isNew && scope.handle.elim false fun h => h.ends id
  | .overdue 0 =>
      (scope.deadline s).isSome && scope.handle.elim false fun h => h.ends id
  | .overdue (_ + 1) => false

/-- Work that has joined a transaction, or has none, ends none. -/
theorem Scope.endsAfter_of_old {ε α : Type} {scope : Scope} {id : HolderId}
    {s : State} (hold : scope.isNew = false) (ending : Ending ε α) :
    scope.endsAfter id s ending = false := by
  have hno : scope.deadline s = none := by
    rw [deadline, hold]
    cases scope.handle <;> rfl
  cases ending with
  | finished result => rw [endsAfter, hold, Bool.false_and]
  | overdue outer =>
      cases outer with
      | zero => rw [endsAfter, hno, Option.isSome_none, Bool.false_and]
      | succ outer => rfl

namespace Coordinator

variable {σ ε α : Type} {c : Coordinator} {d : Definition} {id other : HolderId}
variable {s : State} {h : Handle} {work : Work σ ε α} {m : σ}

theorem runJoining_lasts {mark : Bool}
    (hscope : (work (.joining c { holder := some other })
      (s.say (.participating d.name)) m).1 =
      (Scope.joining c { holder := some other }).marked mark) :
    State.Lasts id false
      (work (.joining c { holder := some other })
        (s.say (.participating d.name)) m).2.state
      (c.runJoining d { holder := some other } work s m).state := by
  rcases hrun : work (.joining c { holder := some other })
      (s.say (.participating d.name)) m with
    ⟨scope, ending, s', m'⟩
  rw [hrun] at hscope
  obtain rfl : scope = _ := hscope
  cases ending with
  | overdue outer =>
      rw [runJoining, hrun]
      exact .refl s'
  | finished result =>
      rw [runJoining_of_finished hrun]
      show State.Lasts id false s' (if Plan.failed result then
        s'.participantFailed other else s')
      split
      · exact (State.Lasts.say s' _).andThen (.markedHolder _ other)
      · exact .refl s'

theorem runWithout_lasts (suspended : Option HolderId) :
    State.Lasts id false (work (.without c) s m).2.state
      ((c.runWithout work s m).afterFinish (c.conclude suspended)).state := by
  rw [runWithout]
  rcases work (.without c) s m with ⟨scope, ending, s', m'⟩
  cases ending with
  | overdue outer => exact .refl s'
  | finished result =>
      show State.Lasts id false s' (c.conclude suspended result s' m').state
      rw [conclude_state]
      exact .resumed c suspended s'

theorem close_lasts (suspended : Option HolderId) (h : Handle)
    {completed : Except (Failure ε) α × State}
    (hsame : State.SameHolders s completed.2) (hnow : completed.2.now = s.now)
    (m : σ) :
    State.Lasts id (h.ends id) s (c.close suspended h completed m).state := by
  have hcompleted : State.Lasts id false s completed.2 :=
    .of_sameHolders hsame hnow
  have hcleaned := hcompleted.trans (.cleanup c h completed.2)
  rw [Bool.false_or] at hcleaned
  rw [close_state]
  exact hcleaned.andThen (.resumed c suspended _)

/-- Work in a transaction that has begun for it is closed when it has ended and
when its own deadline has passed; otherwise it was dropped, and nothing is
done. -/
theorem runBegun_cases (suspended : Option HolderId) {mark : Bool}
    {ending : Ending ε α} {s' : State} {m' : σ}
    (hrun : work (.beginning c h) s m =
      ((Scope.beginning c h).marked mark, ⟨ending, s', m'⟩)) :
    (∃ result, ending = .finished result ∧
      c.runBegun suspended h work s m = c.close suspended (markedHandle h mark)
        (complete (markedHandle h mark) result s') m') ∨
    (∃ deadline, ending = .overdue 0 ∧ h.deadline s = some deadline ∧
      c.runBegun suspended h work s m = c.close suspended (markedHandle h mark)
        (completeOverdue deadline (markedHandle h mark) s') m') ∨
    (c.runBegun suspended h work s m).state = s' := by
  cases ending with
  | finished result => exact Or.inl ⟨result, rfl, runBegun_of_finished hrun⟩
  | overdue outer =>
      cases hlimit : h.deadline s with
      | none =>
          have hno : (Scope.beginning c h).deadline s = none := hlimit
          exact Or.inr (Or.inr (by simp only [runBegun, hrun, hno]))
      | some deadline =>
          have hsome : (Scope.beginning c h).deadline s =
              some deadline := hlimit
          cases outer with
          | zero => exact Or.inr (Or.inl ⟨deadline, rfl, rfl,
              runBegun_of_overdue hrun hlimit⟩)
          | succ outer =>
              exact Or.inr (Or.inr (by simp only [runBegun, hrun, hsome]))

theorem runBegun_lasts (suspended : Option HolderId) {mark : Bool}
    (hscope : (work (.beginning c h) s m).1 =
      (Scope.beginning c h).marked mark) :
    State.Lasts id ((Scope.beginning c h).endsAfter id s
      (work (.beginning c h) s m).2.ending)
      (work (.beginning c h) s m).2.state
        (c.runBegun suspended h work s m).state := by
  rcases hrun : work (.beginning c h) s m with ⟨scope, ending, s', m'⟩
  rw [hrun] at hscope
  obtain rfl : scope = _ := hscope
  rcases runBegun_cases suspended hrun with
    ⟨result, rfl, hclosed⟩ | ⟨deadline, rfl, hlimit, hclosed⟩ | hstate
  · rw [hclosed]
    exact close_lasts suspended (markedHandle h mark)
      (sameHolders_complete (markedHandle h mark) result s')
      (now_complete _ result s') m'
  · have hsome : (Scope.beginning c h).deadline s = some deadline := hlimit
    rw [hclosed]
    simp only [Scope.endsAfter, hsome]
    exact close_lasts suspended (markedHandle h mark)
      (sameHolders_completeOverdue deadline (markedHandle h mark) s')
      (now_completeOverdue deadline _ s') m'
  · rw [hstate]
    exact .refl s'

theorem lasts_opening (hid : id < s.nextHolder) (c : Coordinator)
    (d : Definition) (suspended : Option HolderId) :
    State.Lasts id false s
      (c.begin d (c.blank suspended s) (c.entrance d suspended s)).2.2 := by
  have hentered : State.Lasts id false s (c.entrance d suspended s) :=
    (State.Lasts.setAside c suspended s).andThen (.say _ (.creating d.name))
  exact hentered.andThen
    (.begin (Nat.lt_of_lt_of_le hid hentered.nextHolder) c d _)

/-- An execution starts its work once or not at all.  A transaction that runs
before goes on until the work starts, and it goes on after the work unless the
execution ends it. -/
theorem execute_lasts (hid : id < s.nextHolder) (c : Coordinator)
    (d : Definition)
    (hscope : ∀ scope s₀, ∃ mark, (work scope s₀ m).1 = scope.marked mark) :
    (c.starts d work s m = [] ∧
      State.Lasts id false s (c.execute d work s m).state) ∨
    ∃ scope s₀, c.starts d work s m = [(scope, s₀)] ∧
      State.Lasts id false s s₀ ∧
      State.Lasts id (scope.endsAfter id s₀ (work scope s₀ m).2.ending)
        (work scope s₀ m).2.state (c.execute d work s m).state := by
  rw [starts_eq]
  cases hcourse : c.course d s with
  | refuses reason =>
      rw [execute_of_refuses hcourse]
      simp only [entries, hcourse]
      exact Or.inl ⟨trivial, .refl s⟩
  | joins other =>
      obtain ⟨mark, hmark⟩ :=
        hscope (.joining c { holder := some other })
          (s.say (.participating d.name))
      have hlasts : State.Lasts id false _ _ := runJoining_lasts hmark
      rw [execute_of_joins hcourse]
      simp only [entries, hcourse]
      refine Or.inr ⟨_, _, rfl, .say s _, ?_⟩
      rw [Scope.endsAfter_of_old rfl]
      exact hlasts
  | runsAlone suspended =>
      have hlasts : State.Lasts id false
          (work (.without c) (c.setAside suspended s) m).2.state
          ((c.runWithout work (c.setAside suspended s) m).afterFinish
            (c.conclude suspended)).state := runWithout_lasts suspended
      rw [execute_of_runsAlone hcourse]
      simp only [entries, hcourse]
      refine Or.inr ⟨_, _, rfl, .setAside c suspended s, ?_⟩
      rw [Scope.endsAfter_of_old rfl]
      exact hlasts
  | begins suspended =>
      have hopening := lasts_opening hid c d suspended
      simp only [entries, hcourse]
      rcases hbegin : c.begin d (c.blank suspended s)
          (c.entrance d suspended s) with
        ⟨outcome, h, s₁⟩
      rw [hbegin] at hopening
      cases outcome with
      | error e =>
          rw [execute_of_error hcourse hbegin]
          exact Or.inl ⟨rfl, hopening.andThen (.resumed c suspended s₁)⟩
      | ok _ =>
          obtain ⟨mark, hmark⟩ := hscope (.beginning c h) s₁
          rw [execute_of_ok hcourse hbegin]
          exact Or.inr ⟨_, _, rfl, hopening, runBegun_lasts suspended hmark⟩

end Coordinator

end UnitOfWork
