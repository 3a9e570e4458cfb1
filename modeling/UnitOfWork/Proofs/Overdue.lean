import UnitOfWork.Proofs.Settlement

/-!
# When a deadline passes

An execution whose deadline passes drops its work, rolls its transaction back
and cleans up after it.  The executions that the work was waiting in are dropped
with it, and nothing is cleaned up for them.  Here is what that means: the
execution leaves nothing behind if none of those that were dropped had begun a
transaction or had suspended one that was there before, and it leaves something
behind otherwise.
-/

namespace UnitOfWork

/-- What an execution leaves behind that was dropped: a transaction whose owner
is gone, or a key to which a holder is no longer bound although it was and is an
old one. -/
inductive State.Scarred (old : HolderId) (s s' : State) : Prop
  | ownerless {id : HolderId} (hid : id < s'.nextHolder)
      (hactive : (s'.holders id).stage = .active)
      (hbefore : ¬ (id < s.nextHolder ∧ (s.holders id).stage = .active))
  | lost {key : Key} {id : HolderId} (hid : id < old)
      (hbefore : s.boundHolder key = some id)
      (hafter : s'.boundHolder key ≠ some id)

namespace State.Scarred

variable {old : HolderId} {s s₀ s' s'' : State}

/-- A scar is one from an earlier point of view. -/
theorem since (hold : old ≤ s₀.nextHolder) (hbefore : Steady s₀ s)
    (h : Scarred old s s') :
    Scarred old s₀ s' := by
  cases h with
  | ownerless hid hactive hnot =>
      refine .ownerless hid hactive fun hearly => hnot ?_
      exact ⟨Nat.lt_of_lt_of_le hearly.1 hbefore.nextHolder,
        (hbefore.active _ hearly.1 hearly.2).1⟩
  | @lost key id hid hbound hafter =>
      refine .lost hid ?_ hafter
      apply (hbefore.bound key id hbound).resolve_right
      intro hnew
      exact Nat.not_lt.mpr hnew.1 (Nat.lt_of_lt_of_le hid hold)

/-- A scar stays. -/
theorem stays (hold : old ≤ s'.nextHolder) (h : Scarred old s s')
    (hafter : Steady s' s'') :
    Scarred old s s'' := by
  cases h with
  | ownerless hid hactive hnot =>
      exact .ownerless (Nat.lt_of_lt_of_le hid hafter.nextHolder)
        (hafter.active _ hid hactive).1 hnot
  | @lost key id hid hbound hlost =>
      refine .lost hid hbound fun hkey => hlost ?_
      apply (hafter.bound key id hkey).resolve_right
      intro hnew
      exact Nat.not_lt.mpr hnew.1 (Nat.lt_of_lt_of_le hid hold)

/-- The clean-up after a transaction that was running before heals no scar. -/
theorem cleanup {c : Coordinator} {h : Handle} {id : HolderId}
    (hholder : h.holder = some id) (hid : id < s.nextHolder)
    (hactive : (s.holders id).stage = .active) (hscarred : Scarred old s s') :
    Scarred old s (c.cleanup h s') := by
  cases hscarred with
  | @ownerless other hother hstage hnot =>
      have hne : other ≠ id := by
        rintro rfl
        exact hnot ⟨hid, hactive⟩
      refine .ownerless ?_ ?_ hnot
      · rwa [Coordinator.cleanup_nextHolder hholder]
      · rwa [Coordinator.cleanup_holders hholder, if_neg hne]
  | lost hother hbound hlost =>
      refine .lost hother hbound fun hkey => hlost ?_
      rw [Coordinator.cleanup_boundHolder hholder] at hkey
      split at hkey
      · cases hkey
      · exact hkey

/-- Resuming what was suspended heals no scar. -/
theorem resumed {c : Coordinator} {suspended : Option HolderId}
    (hfree : suspended.isSome → ∀ id < old, s.boundHolder c.key ≠ some id)
    (hscarred : Scarred old s s') : Scarred old s (c.resumed suspended s') := by
  rcases c.resumed_cases suspended s' with hsame | ⟨other, rfl, -, hresumed⟩
  · rwa [hsame]
  · cases hscarred with
    | @ownerless id hid hactive hnot =>
        refine .ownerless ?_ ?_ hnot
        · rw [hresumed]
          exact hid
        · rwa [Coordinator.holders_resumed]
    | @lost key id hid hbound hlost =>
        refine .lost hid hbound fun hkey => hlost ?_
        rw [hresumed, State.boundHolder_say] at hkey
        have hne : key ≠ c.key := by
          rintro rfl
          exact hfree rfl id hid hbound
        simpa [State.boundHolder, hne] using hkey

end State.Scarred

/-- Whether a deed does no harm to a state with so many holders: no transaction
was begun for an execution that was dropped, and what was suspended for it is
new. -/
abbrev Deed.Spares (old : HolderId) : Deed → Prop :=
  Deed.Harmless fun id => old ≤ id

theorem Diary.AllNew.refl {σ : Type} {P : Deed → Prop} (m : Diary σ) :
    AllNew P m m :=
  ⟨[], (List.append_nil _).symm, by simp⟩

namespace Coordinator

variable {σ ε α : Type} {c : Coordinator} {d : Definition} {s : State}
variable {old : HolderId}

/-- Ending a transaction and cleaning up after it heals no scar. -/
theorem scarred_close {suspended : Option HolderId} {conn : Connection}
    {id : HolderId} {h : Handle} {s₁ s' s'' : State} (mark : Bool)
    (hs : s.BoundExist) (hold : old ≤ s.nextHolder)
    (hbegun : c.Begun (c.blank suspended s)
      (c.entrance d suspended s) conn id h s₁)
    (hscarred : State.Scarred old s₁ s') (hsame : State.SameHolders s' s'') :
    State.Scarred old s
      (c.resumed suspended (c.cleanup (markedHandle h mark) s'')) := by
  have hsteady : State.Steady (c.entrance d suspended s) s₁ :=
    steady_of_begun rfl hbegun
  have hfree : suspended.isSome →
      ∀ other < old, s₁.boundHolder c.key ≠ some other := by
    intro hsome other hother hkey
    have hentrance : (c.entrance d suspended s).boundHolder c.key = none := by
      rw [entrance, State.boundHolder_say, boundHolder_setAside,
        if_pos ⟨hsome, rfl⟩]
    have hnew :=
      (hsteady.bound c.key other hkey).resolve_left (by simp [hentrance])
    have hnext : s.nextHolder ≤ other := by simpa [entrance] using hnew.1
    exact Nat.not_lt.mpr (Nat.le_trans hold hnext) hother
  have hended : State.Scarred old s₁ s'' := by
    cases hscarred with
    | ownerless hid hactive hnot =>
        refine .ownerless ?_ ?_ hnot
        · rwa [hsame.nextHolder]
        · rwa [hsame.holders]
    | lost hid hbound hlost => exact .lost hid hbound (by rwa [hsame.bound])
  have hcleaned := hended.cleanup (c := c) (h := markedHandle h mark)
    hbegun.holder (hbegun.holder_lt hs) hbegun.stage
  exact (hcleaned.resumed hfree).since hold
    ((c.steady_entrance d suspended s).trans hsteady)

/-- What was suspended for work that is dropped is not bound again by anything
that the work did. -/
theorem scarred_aloneCut {id : HolderId} {s' : State}
    (hold : old ≤ s.nextHolder) (hcourse : c.course d s = .runsAlone (some id))
    (hid : id < old) (hsteady : State.Steady (c.setAside (some id) s) s') :
    State.Scarred old s s' := by
  refine .lost hid (boundHolder_of_suspended (Or.inl hcourse) rfl)
    fun hkey => ?_
  rcases hsteady.bound c.key id hkey with hbound | hnew
  · simp [boundHolder_setAside] at hbound
  · rw [nextHolder_setAside] at hnew
    exact Nat.not_lt.mpr hnew.1 (Nat.lt_of_lt_of_le hid hold)

section

variable {body : Plan σ ε α} {m m' : Diary σ} {s₁ s' : State}
variable {suspended : Option HolderId} {h : Handle}

/-- A failed participant heals no scar of the work that joined. -/
theorem scarred_joined {id : HolderId} (hs : s.BoundExist)
    (hold : old ≤ s.nextHolder)
    (hwork : (body.run (.joining c { holder := some id })
      (s.say (.participating d.name)) m).2.state = s')
    (hscarred : State.Scarred old (s.say (.participating d.name)) s')
    (failed : Bool) :
    State.Scarred old s (if failed then s'.participantFailed id else s') := by
  have hsteady := body.run_steady (.joining c { holder := some id }) m hs
    (s := s.say (.participating d.name))
  rw [hwork] at hsteady
  have hafter : State.Scarred old s s' := hscarred.since hold (.say s _)
  split
  · exact hafter.stays (Nat.le_trans hold hsteady.nextHolder)
      (.participantFailed s' id)
  · exact hafter

theorem scarred_alone (hold : old ≤ s.nextHolder)
    (hscarred : State.Scarred old (c.setAside suspended s) s') :
    State.Scarred old s (c.resumed suspended s') := by
  refine (hscarred.resumed fun hsome id hid => ?_).since hold
    (c.steady_setAside suspended s)
  rw [boundHolder_setAside, if_pos ⟨hsome, rfl⟩]
  simp

/-- Nobody is left who would end a transaction that was begun for work that is
dropped. -/
theorem scarred_begunCut (hs : s.BoundExist)
    (hbegin : c.begin d (c.blank suspended s) (c.entrance d suspended s) =
      (.ok (), h, s₁))
    (hwork : (body.run (.beginning c h) s₁ m).2.state = s') :
    State.Scarred old s s' := by
  obtain ⟨conn, id, hbegun⟩ := begun_of_ok hbegin
  have hsteady := body.run_steady (.beginning c h) m (hbegun.boundExist hs)
  rw [hwork] at hsteady
  have hid := hbegun.holder_lt hs
  refine .ownerless (Nat.lt_of_lt_of_le hid hsteady.nextHolder)
    (hsteady.active id hid hbegun.stage).1 fun hbefore => ?_
  exact (hbegun.spares hbefore.1 hbefore.2).1 rfl

end

/-- An execution whose deeds are not all harmless leaves something behind, if
its work does when that holds of the work. -/
theorem Execution.scarred {body : Plan σ ε α} {m : Diary σ}
    {run : Run (Diary σ) ε α} (hrun : c.Execution d body s m run)
    (hs : s.BoundExist) (hold : old ≤ s.nextHolder)
    (hharm : ¬ Diary.AllNew (Deed.Spares old) m run.memory ∨
      ∃ outer, run.ending = .overdue outer ∧
        ¬ (Deed.abandoned c.key (c.course d s)).Spares old)
    (hbody : ∀ scope s', s'.BoundExist → old ≤ s'.nextHolder →
      ¬ Diary.AllNew (Deed.Spares old) m (body.run scope s' m).2.memory →
      State.Scarred old s' (body.run scope s' m).2.state) :
    State.Scarred old s run.state := by
  have hunfinished : ∀ {result : Except (Failure ε) α},
      run.ending = .finished result →
      ¬ Diary.AllNew (Deed.Spares old) m run.memory := by
    intro result hfinished
    apply hharm.resolve_right
    rintro ⟨outer, hending, -⟩
    rw [hfinished] at hending
    cases hending
  have hworked : ∀ {scope scope' s₀ ending s' m'}, c.Entered d s scope s₀ →
      body.run scope s₀ m = (scope', ⟨ending, s', m'⟩) →
      ¬ Diary.AllNew (Deed.Spares old) m m' → State.Scarred old s₀ s' := by
    intro scope scope' s₀ ending s' m' hentered hwork hdone
    have hscarred := hbody scope s₀ (hentered.steady.boundExist hs)
      (Nat.le_trans hold hentered.steady.nextHolder)
    rw [hwork] at hscarred
    exact hscarred hdone
  cases hrun with
  | refused => exact (hunfinished rfl (.refl m)).elim
  | notBegun => exact (hunfinished rfl (.refl m)).elim
  | @joined id mark result s' m' hcourse hwork =>
      exact scarred_joined hs hold (by rw [hwork])
        (hworked (.joining hcourse) hwork (hunfinished rfl)) _
  | joinedCut hcourse hwork =>
      have hdone := hharm.resolve_right fun ⟨_, _, hdeed⟩ =>
        hdeed (by rw [hcourse]; trivial)
      exact (hworked (.joining hcourse) hwork hdone).since hold (.say s _)
  | @alone suspended scope result s' m' hcourse hwork =>
      obtain ⟨result', hfinished⟩ := c.conclude_ending suspended result s' m'
      have hdone := hunfinished hfinished
      rw [conclude_memory] at hdone
      rw [conclude_state]
      exact scarred_alone hold (hworked (.alone hcourse) hwork hdone)
  | @aloneCut suspended scope outer s' m' hcourse hwork =>
      rcases hharm with hdone | ⟨_, _, hdeed⟩
      · exact (hworked (.alone hcourse) hwork hdone).since hold
          (c.steady_setAside suspended s)
      · rw [hcourse] at hdeed
        cases suspended with
        | none => exact (hdeed trivial).elim
        | some id =>
            have hsteady := body.run_steady (.without c) m
              (boundExist_setAside hs) (s := c.setAside (some id) s)
            rw [hwork] at hsteady
            exact scarred_aloneCut hold hcourse (Nat.lt_of_not_le hdeed) hsteady
  | @begun suspended h s₁ mark result s' m' hcourse hbegin hwork =>
      obtain ⟨conn, id, hbegun⟩ := begun_of_ok hbegin
      obtain ⟨result', hfinished⟩ := c.close_ending suspended
        (markedHandle h mark) (complete (markedHandle h mark) result s') m'
      have hdone := hunfinished hfinished
      rw [close_memory] at hdone
      rw [close_state]
      exact scarred_close mark hs hold hbegun
        (hworked (.begun hcourse hbegin) hwork hdone)
        (sameHolders_complete _ result s')
  | @timedOut suspended h s₁ mark deadline s' m' hcourse hbegin hwork
      hdeadline =>
      obtain ⟨conn, id, hbegun⟩ := begun_of_ok hbegin
      obtain ⟨result', hfinished⟩ := c.close_ending (ε := ε) (α := α) suspended
        (markedHandle h mark)
        (completeOverdue deadline (markedHandle h mark) s') m'
      have hdone := hunfinished hfinished
      rw [close_memory] at hdone
      rw [close_state]
      exact scarred_close mark hs hold hbegun
        (hworked (.begun hcourse hbegin) hwork hdone)
        (sameHolders_completeOverdue deadline _ s')
  | begunCut hcourse hbegin hwork =>
      exact scarred_begunCut hs hbegin (by rw [hwork])

end Coordinator

namespace Plan

variable {σ ε α : Type} {old : HolderId}

/-- A run whose deeds are not all harmless leaves something behind. -/
theorem run_scarred (plan : Plan σ ε α) {scope : Scope} {s : State}
    {m : Diary σ} (hs : s.BoundExist) (hold : old ≤ s.nextHolder)
    (hharm : ¬ Diary.AllNew (Deed.Spares old) m (plan.run scope s m).2.memory) :
    State.Scarred old s (plan.run scope s m).2.state := by
  have hrun := run_induction
    (R := fun s new s' => old ≤ s.nextHolder →
      ¬ (∀ deed ∈ new, deed.Spares old) →
      State.Scarred old s s')
    (fun s _ hharm => (hharm (by simp)).elim)
    (fun {s s₁ s' new new'} hsteady hsteady' hfirst hsecond hold hharm => by
      have hold₁ := Nat.le_trans hold hsteady.nextHolder
      by_cases hspared : ∀ deed ∈ new, deed.Spares old
      · refine (hsecond hold₁ fun hspared' => hharm
          fun deed hdeed => ?_).since hold hsteady
        exact (List.mem_append.mp hdeed).elim (hspared deed) (hspared' deed)
      · exact (hfirst hold hspared).stays hold₁ hsteady')
    (fun step scope s m _ => by
      obtain ⟨new, hnew, hcompleted⟩ := step.take_completed scope s m
      exact ⟨new, hnew, fun _ hharm =>
        (hharm fun deed hdeed => (hcompleted deed hdeed).harmless).elim⟩)
    (fun {c d body s m run} hrun hs hbody => by
      obtain ⟨new, hnew⟩ := hrun.deeds
      refine ⟨new, hnew.symm, fun hold hharm => hrun.scarred hs hold ?_ ?_⟩
      · by_cases hspared : Diary.AllNew (Deed.Spares old) m run.memory
        · apply Or.inr
          have hdeed : ¬ (deedOf c d s run.ending).Spares old := fun hlast =>
            hharm fun deed hdeed => (List.mem_append.mp hdeed).elim
              (hspared.of_deeds hnew.symm deed)
              fun hmem => by rwa [List.mem_singleton.mp hmem]
          cases hending : run.ending with
          | finished result =>
              rw [hending] at hdeed
              exact (hdeed trivial).elim
          | overdue outer =>
              rw [hending] at hdeed
              exact ⟨outer, rfl, hdeed⟩
        · exact Or.inl hspared
      · intro scope' s' hs' hold' hharm'
        obtain ⟨new', hnew', hscarred⟩ := hbody scope' s' hs'
        exact hscarred hold' fun hspared => hharm' ⟨new', hnew', hspared⟩)
    plan scope m hs
  obtain ⟨new, hnew, hscarred⟩ := hrun
  exact hscarred hold fun hspared => hharm ⟨new, hnew, hspared⟩

end Plan

theorem State.Settled.of_filter {notes : List Note} {s : State}
    (h : Settled (notes.filter Note.isDeal) s) : Settled notes s where
  ended conn := (ongoing_filter_isDeal conn notes).symm.trans (h.ended conn)
  handedBack conn hconn := by
    have hdeal : .line (.acquired conn) ∈ notes.filter Note.isDeal :=
      List.mem_filter.mpr ⟨hconn, rfl⟩
    exact (h.handedBack conn hdeal).imp_right fun hrefused =>
      (List.mem_filter.mp hrefused).1

/-- What an execution whose deadline has passed is to leave behind: nothing.  It
reports that it timed out, every key is bound as before, every running
transaction was running before, and the drivers are settled. -/
structure LeavesNothing {σ ε α : Type} (s : State) (run : Run σ ε α) :
    Prop where
  timedOut : ∃ overdue,
    run.ending = .finished (.error (.transaction (.timedOut overdue)))
  bound : ∀ key, run.state.boundHolder key = s.boundHolder key
  running : ∀ id, id < run.state.nextHolder →
    (run.state.holders id).stage = .active →
    id < s.nextHolder ∧ (s.holders id).stage = .active
  settled : ∃ notes, run.state.journal = s.journal ++ notes ∧
    run.state.Settled notes

namespace Coordinator

variable {σ ε α : Type} {c : Coordinator} {d : Definition} {plan : Plan σ ε α}
variable {s s₁ s₂ : State} {m m₂ : Diary σ} {h : Handle}
variable {suspended : Option HolderId} {deadline : Instant}

/-- An execution leaves nothing behind if the deeds of its work are harmless. -/
theorem leavesNothing_of_spares {conn : Connection} {id : HolderId}
    {mark : Bool} (hs : s.BoundExist)
    (hbegun : c.Begun (c.blank suspended s)
      (c.entrance d suspended s) conn id h s₁)
    (hwork : (plan.run (.beginning c h) s₁ m).2 = ⟨.overdue 0, s₂, m₂⟩)
    (hexecute : c.execute d plan.run s m =
      c.close suspended (markedHandle h mark)
      (completeOverdue deadline (markedHandle h mark) s₂) m₂)
    (hdone : Diary.AllNew (Deed.Spares s.nextHolder) m m₂) :
    LeavesNothing s (c.execute d plan.run s m) := by
  have hrun := c.execution d plan s m
  have hexist := hbegun.boundExist hs
  have hmemory : (c.execute d plan.run s m).memory = m₂ := by
    rw [hexecute, close_memory]
  obtain ⟨result, hfinished⟩ : ∃ result, (c.execute d plan.run s m).ending =
      .finished result := by
    rw [hexecute]
    exact c.close_ending suspended _ _ m₂
  have hkeeps : State.Keeps (fun id => s.nextHolder ≤ id) s
      (c.execute d plan.run s m).state := by
    apply hrun.keeps hs
    · rwa [hmemory]
    · intro outer hending
      rw [hfinished] at hending
      cases hending
    · intro scope s' hs' hdone'
      exact plan.run_keeps hs' hdone'
  refine ⟨?_, fun key => ?_, fun id hid hactive => ?_, ?_⟩
  · have hinner : State.Keeps (fun id => s.nextHolder ≤ id) s₁
        (plan.run (.beginning c h) s₁ m).2.state :=
          plan.run_keeps hexist (by rwa [hwork])
    rw [hwork] at hinner
    have hresumable := resumable_of_keeps (keeps_close hs hbegun hinner
      (sameHolders_completeOverdue (ε := ε) (α := α) deadline
        (markedHandle h mark) s₂) mark)
    rw [hexecute, close, conclude_of_resumable hresumable]
    exact ⟨_, rfl⟩
  · cases hbound : s.boundHolder key with
    | none => exact hkeeps.free hbound
    | some id =>
        apply (hkeeps.kept key id hbound).resolve_right
        exact Nat.not_le.mpr (hs key id hbound)
  · rcases Nat.lt_or_ge id s.nextHolder with hold | hnew
    · rw [hkeeps.stage id hold] at hactive
      exact ⟨hold, hactive⟩
    · exact (hkeeps.fresh id hnew hid hactive).elim
  · obtain ⟨deals, hdeals, hsettled⟩ := hrun.settled hs
      (fun outer suspended hending => by simp [hfinished] at hending)
      (fun scope s' hs' hsame =>
        plan.run_settled hs' (by rwa [← hsame, hmemory]))
    obtain ⟨notes, hnotes, rfl⟩ := hdeals.journal
    exact ⟨notes, hnotes, hsettled.of_filter⟩

/-- An execution that has begun a transaction and whose deadline passes rolls
the transaction back, by a single call on its connection, and never commits it:
if the transaction has made its holder, or no other holder has the connection,
there is no other call that ends it.

The execution leaves nothing behind if and only if none of the executions in its
work that were dropped had begun a transaction or had suspended one that was
there before. -/
theorem execute_overdue_leaves_nothing_iff (c : Coordinator) (d : Definition)
    (plan : Plan σ ε α) (s : State) (m : Diary σ) (hs : s.BoundExist)
    (hcourse : c.course d s = .begins suspended)
    (hbegin : c.begin d (c.blank suspended s) (c.entrance d suspended s) =
      (.ok (), h, s₁))
    (hdeadline : h.deadline s₁ = some deadline)
    (hwork : (plan.run (.beginning c h) s₁ m).2 = ⟨.overdue 0, s₂, m₂⟩) :
    ∃ id conn fault s₃,
      h.holder = some id ∧ (s₁.holders id).connection = some conn ∧
      Talk conn [(.rollback, fault)] s₂ s₃ ∧
      (∃ h', (c.execute d plan.run s m).state =
        c.resumed suspended (c.cleanup h' s₃)) ∧
      (s.HeldKnown → h.ownsHolder = true ∨
          (∀ other, other ≠ id → (s₁.holders other).connection ≠ some conn) →
        ∃ notes, (c.execute d plan.run s m).state.journal =
          s₁.journal ++ notes ∧
          notes.filter (Note.ends conn) =
            [.driver (.call conn .rollback) fault]) ∧
      (LeavesNothing s (c.execute d plan.run s m) ↔
        Diary.AllNew (Deed.Spares s.nextHolder) m m₂) := by
  obtain ⟨conn, id, hbegun, hdeals, hsource⟩ := deals_of_ok rfl hbegin
  have hid := hbegun.holder_lt hs
  have hexist := hbegun.boundExist hs
  have hsteady := plan.run_steady (.beginning c h) m hexist
  obtain ⟨mark, hscope⟩ := plan.run_scope (.beginning c h) s₁ m
  have hrun : plan.run (.beginning c h) s₁ m =
      ((Scope.beginning c h).marked mark, ⟨.overdue 0, s₂, m₂⟩) :=
        Prod.ext hscope hwork
  rw [hwork] at hsteady
  obtain ⟨hconn, hhandle⟩ := connection_of_steady hbegun hid hsteady mark
  obtain ⟨⟨fault, htalk⟩, -⟩ :=
    completeOverdue_ended (ε := ε) (α := α) hhandle deadline
  have hexecute : c.execute d plan.run s m =
      c.close suspended (markedHandle h mark)
      (completeOverdue deadline (markedHandle h mark) s₂) m₂ := by
    rw [execute_of_ok hcourse hbegin, runBegun_of_overdue hrun hdeadline]
  refine ⟨id, conn, fault, _, hbegun.holder, hbegun.connection, htalk,
    ⟨_, by rw [hexecute, close_state]⟩, fun hknown halone => ?_,
    fun hclean => ?_,
    leavesNothing_of_spares hs hbegun hwork hexecute⟩
  · have hexclusive :=
      hbegun.exclusive hid (heldKnown_entrance hknown suspended) hdeals halone
    have hends := (plan.run_exclusive (.beginning c h) m hexist hexclusive).1
    rw [hwork] at hends
    obtain ⟨fault', -, hcleaned⟩ := deals_cleanup (c := c)
      (h := markedHandle h mark) hbegun.holder
      (by rw [htalk.sameHolders.holders]; exact hconn)
    rw [hexecute, close_state]
    exact ends_of_closing hends (Or.inr rfl)
      ((htalk.deals.trans hcleaned).andThen (c.deals_resumed suspended _))
  · apply Classical.byContradiction
    intro hharm
    have hscarred := (c.execution d plan s m).scarred hs
      (Nat.le_refl s.nextHolder) (Or.inl (by rwa [hexecute, close_memory]))
      fun scope' s' hs' hold hharm' => plan.run_scarred hs' hold hharm'
    cases hscarred with
    | ownerless hother hactive hnot =>
        exact hnot (hclean.running _ hother hactive)
    | lost hother hbound hlost => exact hlost ((hclean.bound _).trans hbound)

/-- Work that waits in a transaction of its own when the deadline of the one
around it passes: its transaction stays behind, and what was done before is not
given back. -/
theorem execute_overdue_abandons_inner_transaction :
    let c : Coordinator := { source := ⟨0, ⟨"db"⟩⟩ }
    let d : Definition := { timeout := .seconds 5 }
    let plan : Plan Unit Unit Unit :=
      .execute c { propagation := .requiresNew } (.pend 0)
        fun result => .finish result
    ∃ h s₁ s₂ m₂, c.begin d (c.blank none {}) (c.entrance d none {}) =
      (.ok (), h, s₁) ∧
      (plan.run (.beginning c h) s₁ ⟨(), []⟩).2 = ⟨.overdue 0, s₂, m₂⟩ ∧
      m₂.deeds = [.abandoned ⟨"db"⟩ (.begins (some 0))] ∧
      ¬ LeavesNothing {} (c.execute d plan.run {} ⟨(), []⟩) := by
  intro c d plan
  have hbegin : c.begin d (c.blank none {}) (c.entrance d none {}) =
      (.ok (), (c.begin d (c.blank none {}) (c.entrance d none {})).2) := rfl
  generalize hbegun : (c.begin d (c.blank none {}) (c.entrance d none {})).2 =
    begun at hbegin
  have hdeadline : begun.1.deadline begun.2 = some 6 := by
    rw [← hbegun]
    decide +kernel
  generalize hwork : (plan.run (.beginning c begun.1) begun.2 ⟨(), []⟩).2 = work
  have hending : (match work.ending with
      | .overdue outer => some outer
      | .finished _ => none) = some 0 := by
    rw [← hwork, ← hbegun]
    decide +kernel
  have hdeeds : work.memory.deeds = [.abandoned ⟨"db"⟩ (.begins (some 0))] := by
    rw [← hwork, ← hbegun]
    decide +kernel
  obtain ⟨ending, s₂, m₂⟩ := work
  cases ending with
  | finished result => cases hending
  | overdue outer =>
      obtain rfl : outer = 0 := Option.some.inj hending
      obtain ⟨id, conn, fault, s₃, -, -, -, -, -, hiff⟩ :=
        execute_overdue_leaves_nothing_iff c d plan {} ⟨(), []⟩
          (fun key id h => by cases h)
          rfl hbegin hdeadline hwork
      refine ⟨_, _, s₂, m₂, hbegin, hwork, hdeeds, fun hclean => ?_⟩
      have hspared := (hiff.mp hclean).of_deeds hdeeds
      exact hspared _ (List.mem_singleton_self _)

end Coordinator

end UnitOfWork
