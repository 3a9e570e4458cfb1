import UnitOfWork.Proofs.Completion

/-!
# What no execution touches

Whatever plans do and wherever they are dropped, a holder on which a transaction
runs keeps its stage and its connection until that transaction is cleaned up,
and a holder that was there is not bound to a key to which it was not bound
before.
-/

namespace UnitOfWork

/-- Every bound holder was made before. -/
def State.BoundExist (s : State) : Prop :=
  ∀ key id, s.boundHolder key = some id → id < s.nextHolder

/-- What has happened between two states leaves the running transactions alone,
and has bound no holders but new ones. -/
structure State.Steady (s s' : State) : Prop where
  nextHolder : s.nextHolder ≤ s'.nextHolder
  active : ∀ id < s.nextHolder, (s.holders id).stage = .active →
    (s'.holders id).stage = .active ∧
      (s'.holders id).connection = (s.holders id).connection
  bound : ∀ key id, s'.boundHolder key = some id →
    s.boundHolder key = some id ∨ s.nextHolder ≤ id ∧ id < s'.nextHolder

namespace State.Steady

variable {s s' s'' : State}

theorem of_sameHolders (h : SameHolders s s') : Steady s s' where
  nextHolder := Nat.le_of_eq h.nextHolder.symm
  active id _ hactive := by
    rw [h.holders]
    exact ⟨hactive, rfl⟩
  bound key id hbound := Or.inl (by rwa [h.bound] at hbound)

theorem refl (s : State) : Steady s s :=
  of_sameHolders (.refl s)

theorem trans (h : Steady s s') (h' : Steady s' s'') : Steady s s'' where
  nextHolder := Nat.le_trans h.nextHolder h'.nextHolder
  active id hid hactive := by
    obtain ⟨hstage, hconn⟩ := h.active id hid hactive
    obtain ⟨hstage', hconn'⟩ :=
      h'.active id (Nat.lt_of_lt_of_le hid h.nextHolder) hstage
    exact ⟨hstage', hconn'.trans hconn⟩
  bound key id hbound := by
    have hfirst := h.nextHolder
    have hsecond := h'.nextHolder
    rcases h'.bound key id hbound with hkey | ⟨hle, hlt⟩
    · rcases h.bound key id hkey with hkey | ⟨hle, hlt⟩
      · exact Or.inl hkey
      · exact Or.inr ⟨hle, Nat.lt_of_lt_of_le hlt hsecond⟩
    · exact Or.inr ⟨Nat.le_trans hfirst hle, hlt⟩

theorem say (s : State) (line : Line) : Steady s (s.say line) :=
  of_sameHolders ⟨rfl, rfl, fun _ => rfl⟩

theorem markedHolder (s : State) (id : HolderId) :
    Steady s (s.markedHolder id) where
  nextHolder := Nat.le_refl _
  active other _ hactive := by
    rw [State.markedHolder]
    by_cases h : other = id
    · subst h
      simpa [Holder.markRollbackOnly] using hactive
    · simpa [h] using hactive
  bound _ _ h := Or.inl h

theorem participantFailed (s : State) (id : HolderId) :
    Steady s (s.participantFailed id) :=
  (say s _).trans (markedHolder _ id)

theorem boundExist (h : Steady s s') (hs : s.BoundExist) : s'.BoundExist := by
  intro key id hbound
  rcases h.bound key id hbound with hkey | ⟨-, hlt⟩
  · exact Nat.lt_of_lt_of_le (hs key id hkey) h.nextHolder
  · exact hlt

end State.Steady

namespace Coordinator

variable {σ ε α : Type} {c : Coordinator} {d : Definition} {s s' : State}
variable {suspended : Option HolderId}

theorem boundExist_setAside (hs : s.BoundExist) :
    (c.setAside suspended s).BoundExist := by
  intro key id hbound
  rw [boundHolder_setAside] at hbound
  have hnext : (c.setAside suspended s).nextHolder = s.nextHolder := by
    cases suspended <;> simp [setAside]
  rw [hnext]
  split at hbound
  · simp at hbound
  · exact hs key id hbound

@[simp]
theorem holders_setAside (c : Coordinator) (suspended : Option HolderId)
    (s : State) :
    (c.setAside suspended s).holders = s.holders := by
  cases suspended <;> simp [setAside]

@[simp]
theorem nextHolder_setAside (c : Coordinator) (suspended : Option HolderId)
    (s : State) :
    (c.setAside suspended s).nextHolder = s.nextHolder := by
  cases suspended <;> simp [setAside]

/-- A bound holder that a transaction is begun on, or that is suspended for one,
was found in the context. -/
theorem boundHolder_of_suspended {id : HolderId}
    (hcourse : c.course d s = .runsAlone suspended ∨
      c.course d s = .begins suspended)
    (hid : suspended = some id) : s.boundHolder c.key = some id := by
  subst hid
  exact (running_eq_some_iff.mp
    (running_of_course (hcourse.elim (fun h => Or.inr (Or.inl h))
    fun h => Or.inr (Or.inr h)))).1

/-- The holder of a transaction that has begun was made before, by now. -/
theorem Begun.id_lt {h h' : Handle} {s₁ : State} {conn : Connection}
    {id : HolderId} (hbegun : c.Begun h s conn id h' s₁) (hs : s.BoundExist)
    (hholder : h.holder = s.boundHolder c.key) : id < s₁.nextHolder := by
  cases hbegun.origin with
  | reused hreused howns hstage hconn hnext =>
      rw [hnext]
      exact hs c.key id (hholder ▸ hreused)
  | created hid howns hnext =>
      rw [hnext, hid]
      exact Nat.lt_succ_self _

theorem boundExist_begun {h h' : Handle} {s₁ : State} {conn : Connection}
    {id : HolderId} (hs : s.BoundExist)
    (hholder : h.holder = s.boundHolder c.key)
    (hbegun : c.Begun h s conn id h' s₁) : s₁.BoundExist := by
  intro key other hkey
  rw [hbegun.bound] at hkey
  split at hkey
  · obtain rfl := Option.some.inj hkey
    exact hbegun.id_lt hs hholder
  · exact Nat.lt_of_lt_of_le (hs key other hkey) hbegun.nextHolder_le

theorem boundExist_entrance (hs : s.BoundExist) :
    (c.entrance d suspended s).BoundExist :=
  boundExist_setAside hs

section

variable {conn : Connection} {id : HolderId} {h : Handle} {s₁ : State}

theorem Begun.boundExist
    (hbegun : c.Begun (c.blank suspended s)
      (c.entrance d suspended s) conn id h s₁)
    (hs : s.BoundExist) : s₁.BoundExist :=
  boundExist_begun (boundExist_entrance hs) rfl hbegun

theorem Begun.holder_lt
    (hbegun : c.Begun (c.blank suspended s)
      (c.entrance d suspended s) conn id h s₁)
    (hs : s.BoundExist) : id < s₁.nextHolder :=
  hbegun.id_lt (boundExist_entrance hs) rfl

end

/-! ## Brackets -/

theorem steady_setAside (c : Coordinator) (suspended : Option HolderId)
    (s : State) :
    State.Steady s (c.setAside suspended s) where
  nextHolder := by simp
  active _ _ hactive := by simpa using hactive
  bound key id hkey := by
    rw [boundHolder_setAside] at hkey
    split at hkey
    · simp at hkey
    · exact Or.inl hkey

theorem steady_entrance (c : Coordinator) (d : Definition)
    (suspended : Option HolderId) (s : State) :
    State.Steady s (c.entrance d suspended s) :=
  (steady_setAside c suspended s).trans (.say _ _)

/-- What is resumed at the end was bound at the beginning. -/
theorem steady_resumed
    (hbound : ∀ id, suspended = some id → s.boundHolder c.key = some id)
    (h : State.Steady s s') : State.Steady s (c.resumed suspended s') := by
  rcases c.resumed_cases suspended s' with hsame | ⟨id, hid, -, hresumed⟩
  · rwa [hsame]
  · refine ⟨?_, fun other hother hactive => ?_, fun key other hkey => ?_⟩
    · rw [hresumed]
      exact h.nextHolder
    · rw [holders_resumed]
      exact h.active other hother hactive
    · have hnext : (c.resumed suspended s').nextHolder = s'.nextHolder := by
        rw [hresumed]
        rfl
      rw [hnext]
      rw [hresumed, State.boundHolder_say] at hkey
      by_cases heq : key = c.key
      · subst heq
        obtain rfl : id = other := by simpa [State.boundHolder] using hkey
        exact Or.inl (hbound id hid)
      · exact h.bound key other (by simpa [State.boundHolder, heq] using hkey)

theorem steady_of_notBegun {h : Handle} (hnot : NotBegun h s s') :
    State.Steady s s' := by
  rcases hnot.holders with
      ⟨hsame, hnext⟩ | ⟨conn, id, owns, horigin, hothers, -⟩
  · exact .of_sameHolders ⟨hsame, hnext, hnot.bound⟩
  · refine ⟨?_, fun other hother hactive => ?_, fun key other hkey => ?_⟩
    · cases horigin with
      | reused _ _ _ _ hnext => exact Nat.le_of_eq hnext.symm
      | created _ _ hnext => exact hnext ▸ Nat.le_succ _
    · rw [hothers other (horigin.ne_of_active hother hactive)]
      exact ⟨hactive, rfl⟩
    · exact Or.inl (by rwa [hnot.bound] at hkey)

theorem steady_of_begun {h h' : Handle} {conn : Connection} {id : HolderId}
    (howns : h.ownsHolder = false) (hbegun : c.Begun h s conn id h' s') :
    State.Steady s s' := by
  refine ⟨hbegun.nextHolder_le, fun other hother hactive => ?_,
    fun key other hkey => ?_⟩
  · rw [hbegun.others other (hbegun.origin.ne_of_active hother hactive)]
    exact ⟨hactive, rfl⟩
  · rw [hbegun.bound] at hkey
    split at hkey
    · next hown =>
        obtain rfl := Option.some.inj hkey
        cases hbegun.origin with
        | reused _ howns' => simp [← howns', hown.1] at howns
        | created hid _ hnext => exact Or.inr ⟨by lia, by lia⟩
    · exact Or.inl hkey

/-- The clean-up after a transaction that was begun since the beginning. -/
theorem steady_cleanup {h : Handle} {id : HolderId}
    (hholder : h.holder = some id)
    (hnew : ∀ other < s.nextHolder,
      (s.holders other).stage = .active → other ≠ id)
    (hsteady : State.Steady s s') : State.Steady s (c.cleanup h s') := by
  refine ⟨?_, fun other hother hactive => ?_, fun key other hkey => ?_⟩
  · rw [cleanup_nextHolder hholder]
    exact hsteady.nextHolder
  · rw [cleanup_holders hholder, if_neg (hnew other hother hactive)]
    exact hsteady.active other hother hactive
  · rw [cleanup_nextHolder hholder]
    rw [cleanup_boundHolder hholder] at hkey
    split at hkey
    · simp at hkey
    · exact hsteady.bound key other hkey

/-- Before its work, an execution leaves the running transactions alone. -/
theorem Entered.steady {scope : Scope} (h : c.Entered d s scope s') :
    State.Steady s s' := by
  cases h with
  | joining => exact .say s _
  | alone => exact c.steady_setAside _ s
  | begun hcourse hbegin =>
      obtain ⟨conn, id, hbegun⟩ := begun_of_ok hbegin
      exact (c.steady_entrance d _ s).trans (steady_of_begun rfl hbegun)

/-- The transaction that an execution begins does not run on a holder on which
another one runs. -/
theorem Begun.spares {h : Handle} {conn : Connection} {other id : HolderId}
    {s₁ : State}
    (hbegun : c.Begun (c.blank suspended s)
      (c.entrance d suspended s) conn other h s₁)
    (hid : id < s.nextHolder) (hactive : (s.holders id).stage = .active) :
    id ≠ other ∧ s₁.holders id = s.holders id := by
  have hne : id ≠ other := hbegun.origin.ne_of_active
    (by simpa [entrance] using hid) (by simpa [entrance] using hactive)
  refine ⟨hne, ?_⟩
  rw [hbegun.others id hne]
  simp [entrance]

theorem NotBegun.spares {id : HolderId}
    (hnot : NotBegun (c.blank suspended s) (c.entrance d suspended s) s')
    (hid : id < s.nextHolder) (hactive : (s.holders id).stage = .active) :
    s'.holders id = s.holders id := by
  have hentrance : (c.entrance d suspended s).holders id = s.holders id := by
    simp [entrance]
  rw [← hentrance]
  apply hnot.holders.elim
  · intro hsame
    rw [hsame.1]
  · rintro ⟨conn, other, owns, horigin, hothers, -⟩
    exact hothers id (horigin.ne_of_active (by simpa [entrance] using hid)
      (by rwa [hentrance]))

/-- An execution on another holder ends without touching this one. -/
theorem holders_close {h : Handle} {other id : HolderId}
    (hholder : h.holder = some other) (hne : id ≠ other) (mark : Bool)
    (result : Except (Failure ε) α) (m : Diary σ) :
    ((c.close suspended (markedHandle h mark)
      (complete (markedHandle h mark) result s)
      m).state.holders id) = s.holders id := by
  have hmarked : (markedHandle h mark).holder = some other := hholder
  rw [close_state, holders_resumed, cleanup_holders hmarked, if_neg hne,
    (sameHolders_complete _ result s).holders]

/-! ## Connections that are held -/

/-- Every connection that is held in the second state is held by the same holder
in the first. -/
def HeldBefore (s s' : State) : Prop :=
  ∀ id conn, (s'.holders id).connection = some conn →
    (s.holders id).connection = some conn

theorem heldBefore_of_notBegun {h : Handle} (hnot : NotBegun h s s') :
    HeldBefore s s' := by
  intro other conn hconn
  rcases hnot.holders with ⟨hsame, -⟩ | ⟨_, id, owns, -, hothers, hleft⟩
  · rwa [hsame] at hconn
  · by_cases hne : other = id
    · subst hne
      rcases hleft with ⟨-, hfinished⟩ | ⟨-, hreleased⟩
      · simp [hfinished, Holder.finished] at hconn
      · rwa [hreleased] at hconn
    · rwa [hothers other hne] at hconn

theorem heldBefore_cleanup {h : Handle} {id : HolderId}
    (hholder : h.holder = some id) (s : State) :
    HeldBefore s (c.cleanup h s) := by
  intro other conn hconn
  rw [cleanup_holders hholder] at hconn
  split at hconn
  · next heq =>
      subst heq
      rw [settle] at hconn
      split at hconn
      · simp [Holder.clear, Holder.finished] at hconn
      · split at hconn <;> exact hconn
  · exact hconn

theorem heldBefore_markedHolder (s : State) (id : HolderId) :
    HeldBefore s (s.markedHolder id) := by
  intro other conn hconn
  rw [State.markedHolder] at hconn
  by_cases h : other = id
  · subst h
    simpa [Holder.markRollbackOnly] using hconn
  · simpa [h] using hconn

/-! ## Runs of plans -/

/-- Every execution is steady if its work is. -/
theorem Execution.steady {body : Plan σ ε α} {m : Diary σ}
    {run : Run (Diary σ) ε α} (hrun : c.Execution d body s m run)
    (hs : s.BoundExist) (hbody : ∀ scope s', s'.BoundExist →
      State.Steady s' (body.run scope s' m).2.state) :
    State.Steady s run.state := by
  have hworked : ∀ {scope s₀}, c.Entered d s scope s₀ →
      State.Steady s (body.run scope s₀ m).2.state := fun hentered =>
    hentered.steady.trans (hbody _ _ (hentered.steady.boundExist hs))
  -- A transaction that was begun for the work, from the beginning to its end.
  have hclosed : ∀ {suspended h s₁ s' s'' mark},
      c.course d s = .begins suspended →
      c.begin d (c.blank suspended s) (c.entrance d suspended s) =
        (.ok (), h, s₁) →
      (body.run (.beginning c h) s₁ m).2.state = s' → State.SameHolders s' s'' →
      State.Steady s
        (c.resumed suspended (c.cleanup (markedHandle h mark) s'')) := by
    intro suspended h s₁ s' s'' mark hcourse hbegin hwork hsame
    obtain ⟨conn, id, hbegun⟩ := begun_of_ok hbegin
    have hsteady := hworked (.begun hcourse hbegin)
    rw [hwork] at hsteady
    apply steady_resumed fun id => boundHolder_of_suspended (Or.inr hcourse)
    apply steady_cleanup
      (show (markedHandle h mark).holder = some id from hbegun.holder)
    · exact fun other hother hactive => (hbegun.spares hother hactive).1
    · exact hsteady.trans (.of_sameHolders hsame)
  cases hrun with
  | refused => exact .refl s
  | @joined id mark result s' m' hcourse hwork =>
      have hafter := hworked (.joining hcourse)
      rw [hwork] at hafter
      show State.Steady s (if Plan.failed result then
        s'.participantFailed id else s')
      split
      · exact hafter.trans (.participantFailed s' id)
      · exact hafter
  | joinedCut hcourse hwork =>
      have hafter := hworked (.joining hcourse)
      rwa [hwork] at hafter
  | alone hcourse hwork =>
      have hafter := hworked (.alone hcourse)
      rw [hwork] at hafter
      rw [conclude_state]
      exact steady_resumed
        (fun id => boundHolder_of_suspended (Or.inl hcourse)) hafter
  | aloneCut hcourse hwork =>
      have hafter := hworked (.alone hcourse)
      rwa [hwork] at hafter
  | notBegun hcourse hbegin =>
      exact steady_resumed (fun id => boundHolder_of_suspended (Or.inr hcourse))
        ((c.steady_entrance d _ s).trans
          (steady_of_notBegun (notBegun_of_error hbegin)))
  | begun hcourse hbegin hwork =>
      rw [close_state]
      exact hclosed hcourse hbegin (by rw [hwork]) (sameHolders_complete _ _ _)
  | timedOut hcourse hbegin hwork =>
      rw [close_state]
      exact hclosed hcourse hbegin (by rw [hwork])
        (sameHolders_completeOverdue _ _ _)
  | begunCut hcourse hbegin hwork =>
      have hafter := hworked (.begun hcourse hbegin)
      rwa [hwork] at hafter

end Coordinator

namespace Plan

variable {σ ε α : Type}

theorem Step.take_steady (step : Step σ) (scope : Scope) (s : State)
    (m : Diary σ) :
    State.Steady s (step.take scope s m).state := by
  rcases step.take_cases scope s m with rfl | ⟨-, hsame, -⟩
  · simp only [Step.take]
    rcases scope.markRollbackOnly_cases s with ⟨e, -, hmark⟩ | ⟨id, -, hmark⟩
    · rw [hmark]
      exact .refl s
    · rw [hmark]
      exact .markedHolder s id
  · exact .of_sameHolders hsame

/-- The run of a plan is steady. -/
theorem run_steady (plan : Plan σ ε α) (scope : Scope) {s : State} (m : Diary σ)
    (hs : s.BoundExist) : State.Steady s (plan.run scope s m).2.state := by
  induction plan generalizing scope s m with
  | finish result => exact .refl s
  | pend outer => exact .refl s
  | step first next ih =>
      have htaken := first.take_steady scope s m
      exact htaken.trans (ih _ _ _ (htaken.boundExist hs))
  | execute c d body next ihbody ihnext =>
      have hinner := (c.execution d body s m).steady hs
        fun scope' s' hs' => ihbody scope' m hs'
      cases hending : (c.execute d body.run s m).ending with
      | finished result =>
          rw [run_execute_of_finished hending]
          exact hinner.trans (ihnext result scope _ (hinner.boundExist hs))
      | overdue outer =>
          rw [run_execute_of_overdue hending]
          exact hinner

/-- What is preserved by the steps of a plan, and by its executions if it is by
their work, is preserved by the run of the plan.  The relation may depend on the
deeds that were done. -/
theorem run_induction {R : State → List Deed → State → Prop}
    (hrefl : ∀ s, R s [] s)
    (htrans : ∀ {s s₁ s' new new'}, State.Steady s s₁ → State.Steady s₁ s' →
      R s new s₁ → R s₁ new' s' → R s (new ++ new') s')
    (hstep : ∀ (step : Step σ) scope s m, s.BoundExist →
      ∃ new, (step.take scope s m).diary.deeds = m.deeds ++ new ∧
        R s new (step.take scope s m).state)
    (hexecute : ∀ {c d} {body : Plan σ ε α} {s m run},
      c.Execution d body s m run →
      s.BoundExist →
      (∀ scope s', s'.BoundExist →
        ∃ new, (body.run scope s' m).2.memory.deeds = m.deeds ++ new ∧
          R s' new (body.run scope s' m).2.state) →
      ∃ new, run.memory.deeds = m.deeds ++ new ∧
        R s (new ++ [deedOf c d s run.ending]) run.state)
    (plan : Plan σ ε α) (scope : Scope) {s : State} (m : Diary σ)
    (hs : s.BoundExist) :
    ∃ new, (plan.run scope s m).2.memory.deeds = m.deeds ++ new ∧
      R s new (plan.run scope s m).2.state := by
  induction plan generalizing scope s m with
  | finish result => exact ⟨[], (List.append_nil _).symm, hrefl s⟩
  | pend outer => exact ⟨[], (List.append_nil _).symm, hrefl s⟩
  | step first next ih =>
      have hsteady := first.take_steady scope s m
      have hexist := hsteady.boundExist hs
      obtain ⟨new, hnew, hfirst⟩ := hstep first scope s m hs
      obtain ⟨rest, hrest, hnext⟩ := ih (first.take scope s m).answer
        (first.take scope s m).scope (first.take scope s m).diary hexist
      refine ⟨new ++ rest, ?_,
        htrans hsteady (run_steady _ _ _ hexist) hfirst hnext⟩
      rw [run, hrest, hnew, List.append_assoc]
  | execute c d body next ihbody ihnext =>
      have hsteady := (c.execution d body s m).steady hs fun scope' _ hs' =>
        body.run_steady scope' m hs'
      obtain ⟨new, hnew, hinner⟩ := hexecute (c.execution d body s m) hs
        fun scope' _ hs' => ihbody scope' m hs'
      cases hending : (c.execute d body.run s m).ending with
      | overdue outer =>
          rw [hending] at hinner
          rw [run_execute_of_overdue hending]
          refine ⟨_, ?_, hinner⟩
          rw [Diary.enter, hnew, List.append_assoc]
          rfl
      | finished result =>
          rw [hending] at hinner
          have hexist := hsteady.boundExist hs
          rw [run_execute_of_finished hending]
          obtain ⟨rest, hrest, hnext⟩ := ihnext result scope
            ((c.execute d body.run s m).memory.enter
              (.returned (c.course d s) (failed result))) hexist
          refine ⟨_, ?_, htrans hsteady (run_steady _ _ _ hexist) hinner hnext⟩
          rw [hrest, Diary.enter, hnew, List.append_assoc, List.append_assoc,
            List.append_assoc]
          rfl

end Plan

namespace Coordinator

theorem execute_steady {σ ε α : Type} (c : Coordinator) (d : Definition)
    (plan : Plan σ ε α) {s : State} (m : Diary σ) (hs : s.BoundExist) :
    State.Steady s (c.execute d plan.run s m).state :=
  (c.execution d plan s m).steady hs fun scope _ hs' =>
    plan.run_steady scope m hs'

end Coordinator

end UnitOfWork
