import UnitOfWork.Proofs.Steady

/-!
# What an execution keeps

An execution leaves the holders that there were with their stages and their
connections, and it binds no holder that was not bound before.  The holders that
were bound stay bound, unless an execution that had suspended them is dropped
before its end.

The proof is an induction over the plan.  A suspension and the transaction that
is begun for a plan are brackets around the run of the plan, and for each of the
two one lemma says that the bracket keeps what the run inside it keeps.
-/

namespace UnitOfWork

/-- What has happened to the holders and bindings of a state is that there are
new holders on which no transaction runs and which have no connection, and that
some of the holders that may be lost are no longer bound. -/
structure State.Keeps (Lost : HolderId → Prop) (s s' : State) : Prop where
  nextHolder : s.nextHolder ≤ s'.nextHolder
  fresh : ∀ id, s.nextHolder ≤ id → id < s'.nextHolder →
    (s'.holders id).stage ≠ .active
  stage : ∀ id < s.nextHolder, (s'.holders id).stage = (s.holders id).stage
  connection : ∀ id < s.nextHolder,
    (s'.holders id).connection = (s.holders id).connection
  bound : ∀ key id, s'.boundHolder key = some id → s.boundHolder key = some id
  kept : ∀ key id, s.boundHolder key = some id →
    s'.boundHolder key = some id ∨ Lost id
  held : Coordinator.HeldBefore s s'

/-- Whether dropping an execution loses no holders but those that may be lost,
and leaves no transaction behind. -/
def Deed.Harmless (Lost : HolderId → Prop) : Deed → Prop
  | .abandoned _ (.begins _) => False
  | .abandoned _ (.runsAlone (some id)) => Lost id
  | _ => True

namespace State.Keeps

variable {Lost : HolderId → Prop} {s s' s'' : State}

theorem refl (s : State) : Keeps Lost s s where
  nextHolder := Nat.le_refl _
  fresh _ hle hlt := absurd hlt (Nat.not_lt.mpr hle)
  stage _ _ := rfl
  connection _ _ := rfl
  bound _ _ h := h
  kept _ _ h := Or.inl h
  held _ _ h := h

theorem trans (h : Keeps Lost s s') (h' : Keeps Lost s' s'') :
    Keeps Lost s s'' where
  nextHolder := Nat.le_trans h.nextHolder h'.nextHolder
  fresh id hle hlt := by
    rcases Nat.lt_or_ge id s'.nextHolder with hold | hnew
    · rw [h'.stage id hold]
      exact h.fresh id hle hold
    · exact h'.fresh id hnew hlt
  stage id hid :=
    (h'.stage id (Nat.lt_of_lt_of_le hid h.nextHolder)).trans (h.stage id hid)
  connection id hid :=
    (h'.connection id (Nat.lt_of_lt_of_le hid h.nextHolder)).trans
      (h.connection id hid)
  bound key id hbound := h.bound key id (h'.bound key id hbound)
  kept key id hbound := by
    rcases h.kept key id hbound with hkept | hlost
    · exact h'.kept key id hkept
    · exact Or.inr hlost
  held id conn hconn := h.held id conn (h'.held id conn hconn)

theorem of_sameHolders (h : SameHolders s s') : Keeps Lost s s' where
  nextHolder := Nat.le_of_eq h.nextHolder.symm
  fresh id hle hlt :=
    absurd hlt (by rw [h.nextHolder]; exact Nat.not_lt.mpr hle)
  stage id _ := by rw [h.holders]
  connection id _ := by rw [h.holders]
  bound key id hbound := by rwa [h.bound] at hbound
  kept key id hbound := Or.inl (by rwa [h.bound])
  held id conn hconn := by rwa [h.holders] at hconn

theorem say (s : State) (line : Line) : Keeps Lost s (s.say line) :=
  .of_sameHolders ⟨rfl, rfl, fun _ => rfl⟩

/-- Marks for rollback count for nothing here. -/
theorem markedHolder (s : State) (id : HolderId) :
    Keeps Lost s (s.markedHolder id) where
  nextHolder := Nat.le_refl _
  fresh _ hle hlt := absurd hlt (Nat.not_lt.mpr hle)
  stage other _ := by
    rw [State.markedHolder]
    by_cases h : other = id <;> simp [h, Holder.markRollbackOnly]
  connection other _ := by
    rw [State.markedHolder]
    by_cases h : other = id <;> simp [h, Holder.markRollbackOnly]
  bound _ _ h := h
  kept _ _ h := Or.inl h
  held := Coordinator.heldBefore_markedHolder s id

theorem boundExist (h : Keeps Lost s s') (hs : s.BoundExist) : s'.BoundExist :=
  fun key id hbound =>
    Nat.lt_of_lt_of_le (hs key id (h.bound key id hbound)) h.nextHolder

/-- A key that was free is free. -/
theorem free (h : Keeps Lost s s') {key : Key}
    (hfree : s.boundHolder key = none) :
    s'.boundHolder key = none := by
  cases hbound : s'.boundHolder key with
  | none => rfl
  | some id => simpa [hfree] using h.bound key id hbound

end State.Keeps

namespace Coordinator

variable {σ ε α : Type} {Lost : HolderId → Prop} {c : Coordinator}
variable {d : Definition} {s s' : State} {suspended : Option HolderId}

/-! ## The bracket of a suspension -/

/-- What was suspended can be resumed after a run that keeps its state. -/
theorem resumable_of_keeps (h : State.Keeps Lost (c.setAside suspended s) s') :
    c.Resumable suspended s' := by
  cases suspended with
  | none => exact Or.inl rfl
  | some id => exact Or.inr (h.free (by simp [boundHolder_setAside]))

theorem resumed_holders (h : c.Resumable suspended s') :
    (c.resumed suspended s').holders = s'.holders ∧
      (c.resumed suspended s').nextHolder = s'.nextHolder ∧
      ∀ key, (c.resumed suspended s').boundHolder key =
        if key = c.key then suspended.or (s'.boundHolder key)
        else s'.boundHolder key := by
  cases suspended with
  | none => exact ⟨rfl, rfl, fun key => by simp [resumed]⟩
  | some id =>
      have hfree := h.resolve_left (by simp)
      simp only [resumed, resume, State.bind_of_free _ hfree]
      exact ⟨rfl, rfl,
        fun key => by simp [State.boundHolder, State.say, State.note]⟩

/-- A suspension keeps what the run between it and its end keeps. -/
theorem keeps_resumed
    (hbound : ∀ id, suspended = some id → s.boundHolder c.key = some id)
    (h : State.Keeps Lost (c.setAside suspended s) s') :
    State.Keeps Lost s (c.resumed suspended s') := by
  obtain ⟨hholders, hnext, hbindings⟩ := resumed_holders (resumable_of_keeps h)
  refine ⟨?_, fun id hle hlt => ?_, fun id hid => ?_, fun id hid => ?_,
    fun key id hkey => ?_, fun key id hkey => ?_, fun id conn hconn => ?_⟩
  · rw [hnext, ← nextHolder_setAside c suspended s]
    exact h.nextHolder
  · rw [hholders]
    exact h.fresh id (by simpa using hle) (by rwa [← hnext])
  · rw [hholders, h.stage id (by simpa using hid), holders_setAside]
  · rw [hholders, h.connection id (by simpa using hid), holders_setAside]
  · rw [hbindings] at hkey
    have hback : ∀ k, s'.boundHolder k = some id →
        s.boundHolder k = some id := by
      intro k hk
      have hset := h.bound k id hk
      rw [boundHolder_setAside] at hset
      split at hset
      · simp at hset
      · exact hset
    split at hkey
    · next heq =>
        subst heq
        cases suspended with
        | none => exact hback _ (by simpa using hkey)
        | some other =>
            obtain rfl : other = id := by simpa using hkey
            exact hbound other rfl
    · exact hback key hkey
  · rw [hbindings]
    by_cases heq : key = c.key
    · subst heq
      cases suspended with
      | none => simpa [setAside] using h.kept _ id hkey
      | some other =>
          have hother := hbound other rfl
          rw [hkey] at hother
          simp [Option.some.inj hother]
    · simpa [heq]
        using h.kept key id (by simp [boundHolder_setAside, heq, hkey])
  · rw [hholders] at hconn
    simpa using h.held id conn hconn

/-! ## The bracket of a transaction -/

/-- A beginning that failed keeps its state. -/
theorem keeps_of_notBegun {h : Handle} (howns : h.ownsHolder = false)
    (hnot : NotBegun h s s') : State.Keeps Lost s s' := by
  have hbound : ∀ key id, s.boundHolder key = some id →
      s'.boundHolder key = some id ∨ Lost id :=
    fun key id hkey => Or.inl (by rwa [hnot.bound])
  have hback : ∀ key id, s'.boundHolder key = some id →
      s.boundHolder key = some id :=
    fun key id hkey => by rwa [hnot.bound] at hkey
  have hheld := heldBefore_of_notBegun hnot
  rcases hnot.holders with
      ⟨hsame, hnext⟩ | ⟨conn, id, owns, horigin, hothers, hleft⟩
  · exact .of_sameHolders ⟨hsame, hnext, hnot.bound⟩
  · cases horigin with
    | reused hreused howns' hstage hconn hnext =>
        have hfalse : owns = false := howns'.trans howns
        have hrelease := (hleft.resolve_left (by simp [hfalse])).2
        refine ⟨Nat.le_of_eq hnext.symm, fun other hle hlt => ?_,
          fun other _ => ?_,
          fun other _ => ?_, hback, hbound, hheld⟩
        · exact absurd hlt (by rw [hnext]; exact Nat.not_lt.mpr hle)
        · by_cases hne : other = id
          · rw [hne, hrelease, hstage]
            rfl
          · rw [hothers other hne]
        · by_cases hne : other = id
          · rw [hne, hrelease]
            rfl
          · rw [hothers other hne]
    | created hid howns' hnext =>
        have hfinished := (hleft.resolve_right (by simp [howns'])).2
        have hne : ∀ other < s.nextHolder, other ≠ id := fun other hlt heq => by
          rw [heq, hid] at hlt
          exact Nat.lt_irrefl _ hlt
        refine ⟨by lia, fun other hle hlt => ?_, fun other hlt => ?_,
          fun other hlt => ?_,
          hback, hbound, hheld⟩
        · obtain rfl : other = id := by lia
          simp [hfinished, Holder.finished]
        · rw [hothers other (hne other hlt)]
        · rw [hothers other (hne other hlt)]

/-- A transaction that is begun on a holder that was there and cleaned up keeps
what the run between the two keeps: the holder goes back to its owner as it
was. -/
theorem keeps_cleanup_reused {h h' : Handle} {s₁ : State} {conn : Connection}
    {id : HolderId} (hbegun : c.Begun h s conn id h' s₁)
    (howns : h'.ownsHolder = false) (hlt : id < s.nextHolder)
    (hstage : (s.holders id).stage = .unbound)
    (hconn : (s.holders id).connection = some conn)
    (hsame : s₁.nextHolder = s.nextHolder) (hkeeps : State.Keeps Lost s₁ s')
    (mark : Bool) :
    State.Keeps Lost s (c.cleanup (markedHandle h' mark) s') := by
  have hid : (markedHandle h' mark).holder = some id := hbegun.holder
  have hfalse : (markedHandle h' mark).ownsHolder = false := howns
  have hcleaned := cleanup_nextHolder (c := c) (s := s') hid
  have hafter := hkeeps.nextHolder
  have hsettled : (c.cleanup (markedHandle h' mark) s').holders id =
      (s'.holders id).release := by
    rw [cleanup_holders hid, if_pos rfl, settle]
    simp [hfalse, show (markedHandle h' mark).began = true from hbegun.began]
  have hothers : ∀ other, other ≠ id →
      (c.cleanup (markedHandle h' mark) s').holders other = s'.holders other :=
    fun other hne => by rw [cleanup_holders hid, if_neg hne]
  have hbound₁ : ∀ key, s₁.boundHolder key = s.boundHolder key := fun key => by
    simp [hbegun.bound, howns]
  have hboundCleaned : ∀ key,
      (c.cleanup (markedHandle h' mark) s').boundHolder key =
      s'.boundHolder key := fun key => by simp [cleanup_boundHolder hid, hfalse]
  refine ⟨by lia, fun other hle hless => ?_, fun other hless => ?_,
    fun other hless => ?_, fun key other hkey => ?_, fun key other hkey => ?_,
    fun other k hk => ?_⟩
  · rw [hothers other (by lia)]
    exact hkeeps.fresh other (by lia) (by lia)
  · by_cases hne : other = id
    · rw [hne, hsettled, hstage]
      rfl
    · rw [hothers other hne, hkeeps.stage other (by lia),
        hbegun.others other hne]
  · by_cases hne : other = id
    · rw [hne, hsettled, Holder.release, hkeeps.connection id (by lia),
        hbegun.connection, hconn]
    · rw [hothers other hne, hkeeps.connection other (by lia),
        hbegun.others other hne]
  · rw [← hbound₁]
    exact hkeeps.bound key other (by rwa [hboundCleaned] at hkey)
  · rw [hboundCleaned]
    exact hkeeps.kept key other (by rwa [hbound₁])
  · have hk' := hkeeps.held other k (heldBefore_cleanup hid s' other k hk)
    by_cases hne : other = id
    · rw [hne, hbegun.connection] at hk'
      rw [hne, hconn, hk']
    · rwa [hbegun.others other hne] at hk'

/-- A transaction that is begun on a new holder and cleaned up keeps what the
run between the two keeps: nothing is left of the holder. -/
theorem keeps_cleanup_created {h h' : Handle} {s₁ : State} {conn : Connection}
    {id : HolderId} (hbegun : c.Begun h s conn id h' s₁)
    (howns : h'.ownsHolder = true) (hnew : id = s.nextHolder)
    (hnext : s₁.nextHolder = s.nextHolder + 1) (hkeeps : State.Keeps Lost s₁ s')
    (mark : Bool) :
    State.Keeps Lost s (c.cleanup (markedHandle h' mark) s') := by
  have hid : (markedHandle h' mark).holder = some id := hbegun.holder
  have htrue : (markedHandle h' mark).ownsHolder = true := howns
  have hcleaned := cleanup_nextHolder (c := c) (s := s') hid
  have hafter := hkeeps.nextHolder
  have hfree := hbegun.free howns
  have hgone : (c.cleanup (markedHandle h' mark) s').holders id =
      .finished := by
    rw [cleanup_holders hid, if_pos rfl, settle, if_pos htrue, Holder.clear]
  have hothers : ∀ other, other ≠ id →
      (c.cleanup (markedHandle h' mark) s').holders other = s'.holders other :=
    fun other hne => by rw [cleanup_holders hid, if_neg hne]
  have hbefore : ∀ key other, s'.boundHolder key = some other →
      if key = c.key then other = id else s.boundHolder key = some other := by
    intro key other hkey
    have hback := hkeeps.bound key other hkey
    rw [hbegun.bound] at hback
    by_cases heq : key = c.key <;> simp_all
  refine ⟨by lia, fun other hle hless => ?_, fun other hless => ?_,
    fun other hless => ?_, fun key other hkey => ?_, fun key other hkey => ?_,
    fun other k hk => ?_⟩
  · by_cases hne : other = id
    · rw [hne, hgone]
      simp [Holder.finished]
    · rw [hothers other hne]
      exact hkeeps.fresh other (by lia) (by lia)
  · rw [hothers other (by lia), hkeeps.stage other (by lia),
      hbegun.others other (by lia)]
  · rw [hothers other (by lia), hkeeps.connection other (by lia),
      hbegun.others other (by lia)]
  · rw [cleanup_boundHolder hid] at hkey
    split at hkey
    · simp at hkey
    · next hnot =>
        have hback := hbefore key other hkey
        by_cases heq : key = c.key
        · subst heq
          rw [if_pos rfl] at hback
          exact absurd ⟨htrue, rfl, by rw [hkey, hback]⟩ hnot
        · rwa [if_neg heq] at hback
  · have hne : key ≠ c.key := fun heq => by simp [heq, hfree] at hkey
    rw [cleanup_boundHolder hid, if_neg (by simp [hne])]
    exact hkeeps.kept key other (by simp [hbegun.bound, hne, hkey])
  · by_cases hne : other = id
    · rw [hne, hgone] at hk
      simp [Holder.finished] at hk
    · have hk' := hkeeps.held other k (heldBefore_cleanup hid s' other k hk)
      rwa [hbegun.others other hne] at hk'

theorem keeps_cleanup {h h' : Handle} {s₁ : State} {conn : Connection}
    {id : HolderId} (hs : s.BoundExist)
    (hholder : h.holder = s.boundHolder c.key) (howns : h.ownsHolder = false)
    (hbegun : c.Begun h s conn id h' s₁) (hkeeps : State.Keeps Lost s₁ s')
    (mark : Bool) :
    State.Keeps Lost s (c.cleanup (markedHandle h' mark) s') := by
  cases hbegun.origin with
  | reused hreused howns' hstage hconn hsame =>
      exact keeps_cleanup_reused hbegun (howns'.trans howns)
        (hs c.key id (hholder ▸ hreused)) hstage hconn hsame hkeeps mark
  | created hnew howns' hnext =>
      exact keeps_cleanup_created hbegun howns' hnew hnext hkeeps mark

/-! ## Runs of plans -/

/-- A suspension that is not undone loses what it has suspended. -/
theorem keeps_setAside
    (hbound : ∀ id, suspended = some id →
      s.boundHolder c.key = some id ∧ Lost id) :
    State.Keeps Lost s (c.setAside suspended s) := by
  refine ⟨by simp, fun id hle hlt => absurd hlt (by simpa using hle),
    fun _ _ => by simp,
    fun _ _ => by simp, fun key id hkey => ?_, fun key id hkey => ?_,
    fun _ _ hk => by simpa using hk⟩
  · rw [boundHolder_setAside] at hkey
    split at hkey
    · simp at hkey
    · exact hkey
  · rw [boundHolder_setAside]
    cases suspended with
    | none => exact Or.inl (by simp [hkey])
    | some other =>
        obtain ⟨hother, hlost⟩ := hbound other rfl
        by_cases heq : key = c.key
        · subst heq
          obtain rfl : other = id := Option.some.inj (hother.symm.trans hkey)
          exact Or.inr hlost
        · exact Or.inl (by simp [heq, hkey])

/-- A transaction that is begun for work that keeps its state, ended and cleaned
up keeps the state in which the running one was set aside. -/
theorem keeps_close {h : Handle} {s₁ s'' : State} {conn : Connection}
    {id : HolderId} (hs : s.BoundExist)
    (hbegun : c.Begun (c.blank suspended s)
      (c.entrance d suspended s) conn id h s₁)
    (hkeeps : State.Keeps Lost s₁ s') (hsame : State.SameHolders s' s'')
    (mark : Bool) :
    State.Keeps Lost (c.setAside suspended s)
      (c.cleanup (markedHandle h mark) s'') :=
  (State.Keeps.say (c.setAside suspended s) _).trans
    (keeps_cleanup (boundExist_entrance hs) rfl rfl hbegun
      (hkeeps.trans (.of_sameHolders hsame)) mark)

/-- The execution of a plan keeps its state if what is done in it is harmless,
and what it means to drop it when it is dropped. -/
theorem Execution.keeps {body : Plan σ ε α} {m : Diary σ}
    {run : Run (Diary σ) ε α} (hrun : c.Execution d body s m run)
    (hs : s.BoundExist) (hdone : Diary.AllNew (Deed.Harmless Lost) m run.memory)
    (hcut : ∀ outer, run.ending = .overdue outer →
      (Deed.abandoned c.key (c.course d s)).Harmless Lost)
    (hbody : ∀ scope s', s'.BoundExist →
      Diary.AllNew (Deed.Harmless Lost) m (body.run scope s' m).2.memory →
      State.Keeps Lost s' (body.run scope s' m).2.state) :
    State.Keeps Lost s run.state := by
  have hworked : ∀ {scope s₀}, c.Entered d s scope s₀ →
      Diary.AllNew (Deed.Harmless Lost) m (body.run scope s₀ m).2.memory →
      State.Keeps Lost s₀ (body.run scope s₀ m).2.state := fun hentered =>
    hbody _ _ (hentered.steady.boundExist hs)
  cases hrun with
  | refused => exact .refl s
  | @joined id mark result s' m' hcourse hwork =>
      have hkeeps := hworked (.joining hcourse) (by rwa [hwork])
      rw [hwork] at hkeeps
      have hafter : State.Keeps Lost s s' := (State.Keeps.say s _).trans hkeeps
      show State.Keeps Lost s (if Plan.failed result then
        s'.participantFailed id else s')
      split
      · exact (hafter.trans (State.Keeps.say s' _)).trans
          (State.Keeps.markedHolder _ id)
      · exact hafter
  | @joinedCut id scope outer s' m' hcourse hwork =>
      have hkeeps := hworked (.joining hcourse) (by rwa [hwork])
      rw [hwork] at hkeeps
      exact (State.Keeps.say s _).trans hkeeps
  | @alone suspended scope result s' m' hcourse hwork =>
      rw [conclude_memory] at hdone
      have hkeeps := hworked (.alone hcourse) (by rwa [hwork])
      rw [hwork] at hkeeps
      rw [conclude_state]
      exact keeps_resumed
        (fun id => boundHolder_of_suspended (Or.inl hcourse)) hkeeps
  | @aloneCut suspended scope outer s' m' hcourse hwork =>
      have hkeeps := hworked (.alone hcourse) (by rwa [hwork])
      rw [hwork] at hkeeps
      have hlost := hcut outer rfl
      rw [hcourse] at hlost
      refine State.Keeps.trans (keeps_setAside fun id hid => ?_) hkeeps
      subst hid
      exact ⟨boundHolder_of_suspended (Or.inl hcourse) rfl, hlost⟩
  | @notBegun suspended e h' s' hcourse hbegin =>
      have hkeeps : State.Keeps Lost (c.entrance d suspended s) s' :=
        keeps_of_notBegun rfl (notBegun_of_error hbegin)
      exact keeps_resumed (fun id => boundHolder_of_suspended (Or.inr hcourse))
        ((State.Keeps.say (c.setAside suspended s) _).trans hkeeps)
  | @begun suspended h s₁ mark result s' m' hcourse hbegin hwork =>
      rw [close_memory] at hdone
      obtain ⟨conn, id, hbegun⟩ := begun_of_ok hbegin
      have hkeeps := hworked (.begun hcourse hbegin) (by rwa [hwork])
      rw [hwork] at hkeeps
      rw [close_state]
      exact keeps_resumed (fun id => boundHolder_of_suspended (Or.inr hcourse))
        (keeps_close hs hbegun hkeeps (sameHolders_complete _ result s') mark)
  | @timedOut suspended h s₁ mark deadline s' m' hcourse hbegin hwork
      hdeadline =>
      rw [close_memory] at hdone
      obtain ⟨conn, id, hbegun⟩ := begun_of_ok hbegin
      have hkeeps := hworked (.begun hcourse hbegin) (by rwa [hwork])
      rw [hwork] at hkeeps
      rw [close_state]
      exact keeps_resumed (fun id => boundHolder_of_suspended (Or.inr hcourse))
        (keeps_close hs hbegun hkeeps
          (sameHolders_completeOverdue deadline _ s') mark)
  | begunCut hcourse hbegin hwork =>
      have hlost := hcut _ rfl
      rw [hcourse] at hlost
      exact hlost.elim

end Coordinator

namespace Plan

variable {σ ε α : Type} {Lost : HolderId → Prop}

theorem Step.take_keeps (step : Step σ) (scope : Scope) (s : State)
    (m : Diary σ) :
    State.Keeps Lost s (step.take scope s m).state := by
  rcases step.take_cases scope s m with rfl | ⟨-, hsame, -⟩
  · simp only [Step.take]
    rcases scope.markRollbackOnly_cases s with ⟨e, -, hmark⟩ | ⟨id, -, hmark⟩
    · rw [hmark]
      exact .refl s
    · rw [hmark]
      exact .markedHolder s id
  · exact .of_sameHolders hsame

theorem Step.take_boundExist (step : Step σ) (scope : Scope) {s : State}
    (m : Diary σ) (hs : s.BoundExist) :
    (step.take scope s m).state.BoundExist := by
  have hkeeps : State.Keeps (fun _ => False) s (step.take scope s m).state :=
    step.take_keeps scope s m
  exact hkeeps.boundExist hs

/-- A plan keeps its state if what is done in it is harmless. -/
theorem run_keeps (plan : Plan σ ε α) {scope : Scope} {s : State} {m : Diary σ}
    (hs : s.BoundExist)
    (hdone : Diary.AllNew (Deed.Harmless Lost) m
      (plan.run scope s m).2.memory) :
    State.Keeps Lost s (plan.run scope s m).2.state := by
  have hrun := run_induction
    (R := fun s new s' => (∀ deed ∈ new, deed.Harmless Lost) →
      State.Keeps Lost s s')
    (fun s _ => .refl s)
    (fun _ _ hfirst hsecond hdone =>
      (hfirst fun deed hdeed => hdone deed (List.mem_append_left _ hdeed)).trans
        (hsecond fun deed hdeed => hdone deed (List.mem_append_right _ hdeed)))
    (fun step scope s m _ => by
      obtain ⟨new, hnew⟩ := step.take_deeds scope s m
      exact ⟨new, hnew.symm, fun _ => step.take_keeps scope s m⟩)
    (fun {c d body s m run} hrun hs hbody => by
      obtain ⟨new, hnew⟩ := hrun.deeds
      refine ⟨new, hnew.symm, fun hdone => ?_⟩
      apply hrun.keeps hs
      · exact ⟨new, hnew.symm, fun deed hdeed =>
          hdone deed (List.mem_append_left _ hdeed)⟩
      · intro outer hending
        exact hdone _ (by simp [deedOf, hending])
      · intro scope' s' hs' hdone'
        obtain ⟨new', hnew', hkeeps⟩ := hbody scope' s' hs'
        exact hkeeps (hdone'.of_deeds hnew'))
    plan scope m hs
  obtain ⟨new, hnew, hkeeps⟩ := hrun
  exact hkeeps (hdone.of_deeds hnew)

end Plan

/-! ## Plans that are not cut off -/

def Deed.Completed : Deed → Prop
  | .abandoned _ _ => False
  | _ => True

theorem Deed.Completed.harmless {Lost : HolderId → Prop} {deed : Deed}
    (h : deed.Completed) : deed.Harmless Lost := by
  cases deed with
  | marked | fetched | returned => trivial
  | abandoned key course => exact h.elim

namespace Plan

variable {σ ε α : Type}

theorem Step.take_completed (step : Step σ) (scope : Scope) (s : State)
    (m : Diary σ) :
    Diary.AllNew Deed.Completed m (step.take scope s m).diary := by
  refine ⟨step.deeds scope s, step.take_diary scope s m, fun deed hdeed => ?_⟩
  rcases step.take_cases scope s m with rfl | ⟨-, -, hfetched⟩
  · simp only [Step.deeds, markOf] at hdeed
    split at hdeed
    · rw [List.mem_singleton.mp hdeed]
      trivial
    · cases hdeed
  · obtain ⟨conn, holder, rfl⟩ := hfetched deed hdeed
    trivial

end Plan

namespace Coordinator

variable {σ ε α : Type} {c : Coordinator} {d : Definition} {body : Plan σ ε α}
variable {s : State} {m : Diary σ} {run : Run (Diary σ) ε α}

/-- An execution comes to its end if its work does. -/
theorem Execution.finishes (hrun : c.Execution d body s m run)
    (hbody : ∀ scope s', ∃ result, (body.run scope s'
      m).2.ending = .finished result) :
    ∃ result, run.ending = .finished result := by
  have hcut : ∀ {scope scope' s' outer s'' m'},
      body.run scope s' m ≠ (scope', ⟨.overdue outer, s'', m'⟩) := by
    intro scope scope' s' outer s'' m' hwork
    obtain ⟨result, hresult⟩ := hbody scope s'
    simp [hwork] at hresult
  cases hrun with
  | refused | joined | notBegun => exact ⟨_, rfl⟩
  | alone | begun => exact conclude_ending _ _ _ _ _
  | joinedCut _ hwork | aloneCut _ hwork | timedOut _ _ hwork
  | begunCut _ _ hwork =>
      exact (hcut hwork).elim

end Coordinator

namespace Plan

variable {σ ε α : Type}

/-- A plan during which no deadline passes comes to its end, and so does every
execution in it. -/
theorem Prompt.run_completes {plan : Plan σ ε α} (hprompt : plan.Prompt)
    (scope : Scope) (s : State) (m : Diary σ) :
    (∃ result, (plan.run scope s m).2.ending = .finished result) ∧
      Diary.AllNew Deed.Completed m (plan.run scope s m).2.memory := by
  induction plan generalizing scope s m with
  | finish result =>
      exact ⟨⟨result, rfl⟩, [], (List.append_nil _).symm, by simp⟩
  | pend outer => exact hprompt.elim
  | step first next ih =>
      obtain ⟨hfinished, hdone⟩ := ih _ (hprompt _) (first.take scope s m).scope
        (first.take scope s m).state (first.take scope s m).diary
      exact ⟨hfinished, (first.take_completed scope s m).trans hdone⟩
  | execute c d body next ihbody ihnext =>
      have hrun := c.execution d body s m
      obtain ⟨result, hresult⟩ := hrun.finishes fun scope' s' =>
        (ihbody hprompt.1 scope' s' m).1
      have hinner :
          Diary.AllNew Deed.Completed m (c.execute d body.run s m).memory := by
        rcases hrun.memory with hsame | ⟨scope', s', -, hwork⟩
        · rw [hsame]
          exact ⟨[], (List.append_nil _).symm, by simp⟩
        · rw [hwork]
          exact (ihbody hprompt.1 scope' s' m).2
      obtain ⟨hfinished, hdone⟩ := ihnext result (hprompt.2 result) scope
        (c.execute d body.run s m).state
        ((c.execute d body.run s m).memory.enter
          (.returned (c.course d s) (failed result)))
      have hentered :
          Diary.AllNew Deed.Completed (c.execute d body.run s m).memory
          ((c.execute d body.run s m).memory.enter
            (.returned (c.course d s) (failed result))) :=
        ⟨_, rfl, fun deed hdeed => by rw [List.mem_singleton.mp hdeed]; trivial⟩
      rw [run_execute_of_finished hresult]
      exact ⟨hfinished, (hinner.trans hentered).trans hdone⟩

theorem Prompt.run_ne_overdue {plan : Plan σ ε α} (hprompt : plan.Prompt)
    {scope scope' : Scope} {s s' : State} {m m' : Diary σ} {outer : Nat} :
    plan.run scope s m ≠ (scope', ⟨.overdue outer, s', m'⟩) := by
  intro hcut
  obtain ⟨⟨result, hresult⟩, -⟩ := hprompt.run_completes scope s m
  simp [hcut] at hresult

/-- A plan during which no deadline passes loses nothing. -/
theorem Prompt.run_keeps {plan : Plan σ ε α} (hprompt : plan.Prompt)
    (scope : Scope) {s : State} (m : Diary σ) (hs : s.BoundExist) :
    State.Keeps (fun _ => False) s (plan.run scope s m).2.state :=
  Plan.run_keeps plan hs
    ((hprompt.run_completes scope s m).2.mono fun _ hdeed => hdeed.harmless)

end Plan

namespace Coordinator

variable {σ ε α : Type} {c : Coordinator} {d : Definition} {plan : Plan σ ε α}
variable {s : State} {m : Diary σ}

theorem execute_completes (hprompt : plan.Prompt) :
    (∃ result, (c.execute d plan.run s m).ending = .finished result) ∧
      Diary.AllNew Deed.Completed m (c.execute d plan.run s m).memory := by
  have hrun := c.execution d plan s m
  refine ⟨hrun.finishes fun scope s' =>
    (hprompt.run_completes scope s' m).1, ?_⟩
  rcases hrun.memory with hsame | ⟨scope', s', -, hwork⟩
  · rw [hsame]
    exact ⟨[], (List.append_nil _).symm, by simp⟩
  · rw [hwork]
    exact (hprompt.run_completes scope' s' m).2

theorem execute_keeps (hprompt : plan.Prompt) (hs : s.BoundExist) :
    State.Keeps (fun _ => False) s (c.execute d plan.run s m).state := by
  obtain ⟨⟨result, hresult⟩, hdone⟩ :=
    execute_completes (c := c) (d := d) (s := s) (m := m) hprompt
  refine (c.execution d plan s m).keeps hs
    (hdone.mono fun _ hdeed => hdeed.harmless)
    (fun outer hout => by simp [hresult] at hout) fun scope' s' hs' _ =>
      hprompt.run_keeps scope' m hs'

/-- An execution of work during which no deadline passes returns, and loses
nothing. -/
theorem execute_returns (c : Coordinator) (d : Definition) (m : Diary σ)
    (hprompt : plan.Prompt) (hs : s.BoundExist) :
    State.Keeps (fun _ => False) s (c.execute d plan.run s m).state ∧
      ∃ result, (c.execute d plan.run s m).ending = .finished result :=
  ⟨execute_keeps hprompt hs, (execute_completes hprompt).1⟩

/-- An execution gives its context back as it was.  Whatever its definition asks
for, whatever its work does and whichever calls on the driver fail: it returns,
the same holders are bound to the same keys as before, and each of them has the
stage and the connection that it had. -/
theorem execute_restores_context (c : Coordinator) (d : Definition)
    (plan : Plan σ ε α) (s : State) (m : Diary σ) (hprompt : plan.Prompt)
    (hs : s.BoundExist) :
    (∃ result, (c.execute d plan.run s m).ending = .finished result) ∧
      (∀ key, (c.execute d plan.run s m).state.boundHolder key =
        s.boundHolder key) ∧
      ∀ key id, s.boundHolder key = some id →
        ((c.execute d plan.run s m).state.holders id).stage =
          (s.holders id).stage ∧
        ((c.execute d plan.run s m).state.holders id).connection =
          (s.holders id).connection := by
  have hkeeps := execute_keeps (c := c) (d := d) (m := m) hprompt hs
  refine ⟨(execute_completes hprompt).1, fun key => ?_, fun key id hkey => ?_⟩
  · cases hbound : s.boundHolder key with
    | none => exact hkeeps.free hbound
    | some id => exact (hkeeps.kept key id hbound).resolve_right not_false
  · exact ⟨hkeeps.stage id (hs key id hkey),
      hkeeps.connection id (hs key id hkey)⟩

/-- Work that suspends the transaction it finds, and asks for a rollback of its
own, gives the context back as it was. -/
theorem execute_restores_suspended_context :
    let c : Coordinator := { source := ⟨0, ⟨"db"⟩⟩ }
    let plan : Plan Unit Unit Unit :=
      .execute c { propagation := .requiresNew }
        (.step .markRollbackOnly fun _ => .finish (.ok ()))
          fun result => .finish result
    let s : State :=
      { holders := fun _ => { connection := some ⟨0, 1⟩, stage := .active }
        nextHolder := 1, context := Bindings.empty.insert ⟨"db"⟩ 0 }
    plan.Prompt ∧ s.BoundExist ∧ s.boundHolder ⟨"db"⟩ = some 0 ∧
      (c.execute {} plan.run s ⟨(), []⟩).state.boundHolder ⟨"db"⟩ = some 0 := by
  intro c plan s
  have hprompt : plan.Prompt := ⟨fun _ => trivial, fun _ => trivial⟩
  have hs : s.BoundExist := by
    intro key id hkey
    rw [State.boundHolder, Bindings.get?_insert] at hkey
    split at hkey
    · obtain rfl := Option.some.inj hkey
      exact Nat.one_pos
    · simp at hkey
  have hbound : s.boundHolder ⟨"db"⟩ = some 0 := by
    simp [s, State.boundHolder]
  refine ⟨hprompt, hs, hbound, ?_⟩
  rw [← hbound]
  exact (execute_restores_context c {} plan s ⟨(), []⟩ hprompt hs).2.1 ⟨"db"⟩

end Coordinator

end UnitOfWork
