import UnitOfWork.Proofs.Keeping

/-!
# Marks for rollback

The holder of a transaction has one flag that asks for its rollback, and
everyone who takes part in the transaction may raise it.  The diary tells who
did: the flag is raised by the deeds that doom the holder, and by no others.
Among these deeds are those of executions that joined the transaction.  What an
execution does in a transaction of its own, or in none, does not count.

The proof follows one holder on which a transaction runs from the beginning of a
run to its end, and shows for each step and for each execution that the flag
agrees with the diary.
-/

namespace UnitOfWork

/-- Whether a deed marks the transaction of a holder for rollback. -/
def Deed.dooms (id : HolderId) : Deed → Bool
  | .marked holder _ => holder = id
  | .returned (.joins holder) failed => holder = id && failed
  | _ => false

@[simp]
theorem Scope.isNew_marked (scope : Scope) (mark : Bool) :
    (scope.marked mark).isNew = scope.isNew := rfl

@[simp]
theorem Scope.holder_marked (scope : Scope) (mark : Bool) :
    (scope.marked mark).handle.bind Handle.holder =
      scope.handle.bind Handle.holder := by
  cases scope with
  | mk coordinator handle isNew => cases handle <;> rfl

/-- What a run in a scope has done to the transaction of a holder: the flag of
the holder was raised by the deeds that doom it, the scope was marked if it is
the one that the transaction was begun for and a deed says so, and nothing was
done to a holder that could not be reached. -/
structure Marks (id : HolderId) (scope scope' : Scope) (s s' : State)
    (new : List Deed) :
    Prop where
  flag : (s'.holders id).rollbackOnly =
    ((s.holders id).rollbackOnly || new.any (Deed.dooms id))
  own : ∃ mark, scope' = scope.marked mark ∧
    (.marked id true ∈ new ↔
      mark = true ∧ scope.isNew = true ∧
      scope.handle.bind Handle.holder = some id)
  apart : scope.handle.bind Handle.holder ≠ some id →
    (∀ key, s.boundHolder key ≠ some id) → ∀ deed ∈ new, deed.dooms id = false

namespace Marks

variable {id : HolderId} {scope scope₁ scope' : Scope} {s s₁ s' : State}
variable {new new₁ : List Deed}

/-- Nothing was done. -/
theorem of_flag
    (hflag : (s'.holders id).rollbackOnly = (s.holders id).rollbackOnly) :
    Marks id scope scope s s' [] where
  flag := by simp [hflag]
  own := ⟨false, by simp⟩
  apart _ _ := by simp

theorem trans (h : Marks id scope scope₁ s s₁ new)
    (h' : Marks id scope₁ scope' s₁ s' new₁)
    (hback : ∀ key, s₁.boundHolder key = some id →
      s.boundHolder key = some id) :
    Marks id scope scope' s s' (new ++ new₁) where
  flag := by rw [h'.flag, h.flag, List.any_append, Bool.or_assoc]
  own := by
    obtain ⟨mark, rfl, hown⟩ := h.own
    obtain ⟨mark', rfl, hown'⟩ := h'.own
    refine ⟨mark || mark', by simp, ?_⟩
    rw [List.mem_append, hown, hown', Scope.isNew_marked, Scope.holder_marked,
      Bool.or_eq_true, or_and_right]
  apart hscope hunbound deed hdeed := by
    obtain ⟨mark, rfl, -⟩ := h.own
    rcases List.mem_append.mp hdeed with hdeed | hdeed
    · exact h.apart hscope hunbound deed hdeed
    · exact h'.apart (by rwa [Scope.holder_marked])
        (fun key hkey => hunbound key (hback key hkey)) deed hdeed

/-- What was done apart from all transactions counts the same inside of a
scope. -/
theorem inside {c : Coordinator}
    (h : Marks id (.without c) (.without c) s s' new) (scope : Scope) :
    Marks id scope scope s s' new where
  flag := h.flag
  own := by
    obtain ⟨mark, -, hown⟩ := h.own
    exact ⟨false, by simp, by simpa [Scope.without] using hown⟩
  apart _ := h.apart (by simp [Scope.without])

/-- What came back from anything but a joined transaction says nothing about
one. -/
theorem andReturned (h : Marks id scope scope' s s' new) {course : Course}
    (hcourse : ∀ other, course ≠ .joins other) (failed : Bool) :
    Marks id scope scope' s s' (new ++ [.returned course failed]) := by
  have hdooms : (Deed.returned course failed).dooms id = false := by
    cases course with
    | joins other => exact (hcourse other rfl).elim
    | _ => rfl
  refine ⟨?_, ?_, fun hscope hunbound deed hdeed => ?_⟩
  · rw [h.flag]
    simp [hdooms]
  · obtain ⟨mark, hmark, hown⟩ := h.own
    exact ⟨mark, hmark, by simpa using hown⟩
  · rcases List.mem_append.mp hdeed with hdeed | hdeed
    · exact h.apart hscope hunbound deed hdeed
    · rw [List.mem_singleton.mp hdeed]
      exact hdooms

/-- What was done in the scope of another transaction, or of none, between two
states that have the same flag as those before and after it. -/
theorem outside {s₀ s₂ : State} (h : Marks id scope scope' s s' new)
    (c : Coordinator) (hscope : scope.handle.bind Handle.holder ≠ some id)
    (hbefore : (s.holders id).rollbackOnly = (s₀.holders id).rollbackOnly)
    (hafter : (s₂.holders id).rollbackOnly = (s'.holders id).rollbackOnly)
    (hback : ∀ key, s.boundHolder key = some id →
      s₀.boundHolder key = some id) :
    Marks id (.without c) (.without c) s₀ s₂ new where
  flag := by rw [hafter, h.flag, hbefore]
  own := by
    obtain ⟨mark, -, hown⟩ := h.own
    exact ⟨false, by simp, by simp [hown, hscope]⟩
  apart _ hunbound :=
    h.apart hscope fun key hkey => hunbound key (hback key hkey)

end Marks

theorem State.holders_participantFailed (s : State) (id other : HolderId) :
    ((s.participantFailed id).holders other).rollbackOnly =
      ((s.holders other).rollbackOnly || decide (id = other)) := by
  rw [participantFailed, markedHolder]
  by_cases h : other = id
  · simp [h, Holder.markRollbackOnly]
  · simp [h, Ne.symm h]

namespace Coordinator

variable {σ ε α : Type} {c : Coordinator} {d : Definition} {body : Plan σ ε α}
variable {s : State} {m : Diary σ} {run : Run (Diary σ) ε α} {id : HolderId}

/-- The failure of what joined a transaction is a mark. -/
theorem marks_joined {other : HolderId} {scope' : Scope} {s' : State}
    {new : List Deed}
    (hmarks : Marks id (.joining c { holder := some other }) scope'
      (s.say (.participating d.name)) s' new)
    (hfound : s.boundHolder c.key = some other) (failed : Bool) :
    Marks id (.without c) (.without c) s (if failed then
      s'.participantFailed other else s')
      (new ++ [.returned (.joins other) failed]) where
  flag := by
    have hflag : (s'.holders id).rollbackOnly =
        ((s.holders id).rollbackOnly || new.any (Deed.dooms id)) := hmarks.flag
    rw [List.any_append, ← Bool.or_assoc, ← hflag]
    cases failed with
    | true => simp [State.holders_participantFailed, Deed.dooms]
    | false => simp [Deed.dooms]
  own := by
    obtain ⟨mark, -, hown⟩ := hmarks.own
    exact ⟨false, by simp, by simpa [Scope.without, Scope.joining] using hown⟩
  apart _ hunbound deed hdeed := by
    have hne : other ≠ id := fun heq => hunbound c.key (heq ▸ hfound)
    rcases List.mem_append.mp hdeed with hdeed | hdeed
    · exact hmarks.apart (by simpa [Scope.joining] using hne)
        hunbound deed hdeed
    · rw [List.mem_singleton.mp hdeed]
      simp [Deed.dooms, hne]

/-- An execution that came to its end, with the deed that says how. -/
theorem Execution.marks (hrun : c.Execution d body s m run) (hs : s.BoundExist)
    (hid : id < s.nextHolder) (hactive : (s.holders id).stage = .active)
    (hbody : ∀ scope s', s'.BoundExist → id < s'.nextHolder →
      (s'.holders id).stage = .active →
      ∃ result new, (body.run scope s' m).2.ending = .finished result ∧
        (body.run scope s' m).2.memory.deeds = m.deeds ++ new ∧
        Marks id scope (body.run scope s' m).1 s'
          (body.run scope s' m).2.state new) :
    ∃ new, run.memory.deeds = m.deeds ++ new ∧
      ∀ result, run.ending = .finished result →
        Marks id (.without c) (.without c) s run.state
          (new ++ [.returned (c.course d s) (Plan.failed result)]) := by
  have hworked : ∀ {scope s₀}, c.Entered d s scope s₀ →
      ∃ result new, (body.run scope s₀ m).2.ending = .finished result ∧
        (body.run scope s₀ m).2.memory.deeds = m.deeds ++ new ∧
        Marks id scope (body.run scope s₀ m).1 s₀
          (body.run scope s₀ m).2.state new :=
    fun hentered => hbody _ _ (hentered.steady.boundExist hs)
      (Nat.lt_of_lt_of_le hid hentered.steady.nextHolder)
      (hentered.steady.active id hid hactive).1
  -- Work that was cut off would contradict what is known of the work.
  have hcut : ∀ {scope scope' s₀ outer s' m'}, c.Entered d s scope s₀ →
      body.run scope s₀ m ≠ (scope', ⟨.overdue outer, s', m'⟩) := by
    intro scope scope' s₀ outer s' m' hentered hwork
    obtain ⟨result, new, hfinished, -⟩ := hworked hentered
    simp [hwork] at hfinished
  have hback : ∀ {scope s₀}, c.Entered d s scope s₀ →
      ∀ key, s₀.boundHolder key = some id → s.boundHolder key = some id :=
    fun hentered key hkey => (hentered.steady.bound key id hkey).resolve_right
      fun hnew => Nat.not_lt.mpr hnew.1 hid
  cases hrun with
  | refused hcourse =>
      exact ⟨[], by simp [Run.failed], fun result _ =>
        (Marks.of_flag rfl).andReturned (by simp [hcourse]) _⟩
  | @joined other mark result s' m' hcourse hwork =>
      obtain ⟨result', new, -, hdeeds, hmarks⟩ := hworked (.joining hcourse)
      rw [hwork] at hdeeds hmarks
      refine ⟨new, hdeeds, fun result'' hresult => ?_⟩
      obtain rfl : result = result'' := by simpa using hresult
      have hfound :=
        (running_eq_some_iff.mp (running_of_course (Or.inl hcourse))).1
      rw [hcourse]
      exact marks_joined hmarks hfound (Plan.failed result)
  | joinedCut hcourse hwork => exact (hcut (.joining hcourse) hwork).elim
  | @alone suspended scope result s' m' hcourse hwork =>
      obtain ⟨result', new, -, hdeeds, hmarks⟩ := hworked (.alone hcourse)
      rw [hwork] at hdeeds hmarks
      refine ⟨new, by rwa [conclude_memory],
        fun result'' _ => Marks.andReturned ?_ (by simp [hcourse]) _⟩
      apply hmarks.outside c (by simp [Scope.without]) (by simp)
      · rw [conclude_state, holders_resumed]
      · exact hback (.alone hcourse)
  | aloneCut hcourse hwork => exact (hcut (.alone hcourse) hwork).elim
  | @notBegun suspended e h' s' hcourse hbegin =>
      refine ⟨[], by simp [Run.failed], fun result _ =>
        (Marks.of_flag ?_).andReturned (by simp [hcourse]) _⟩
      show ((c.resumed suspended s').holders id).rollbackOnly = _
      rw [holders_resumed, (notBegun_of_error hbegin).spares hid hactive]
  | @begun suspended h s₁ mark result s' m' hcourse hbegin hwork =>
      obtain ⟨conn, other, hbegun⟩ := begun_of_ok hbegin
      obtain ⟨hne, hsame⟩ := hbegun.spares hid hactive
      obtain ⟨result', new, -, hdeeds, hmarks⟩ :=
        hworked (.begun hcourse hbegin)
      rw [hwork] at hdeeds hmarks
      refine ⟨new, by rwa [close_memory],
        fun result'' _ => Marks.andReturned ?_ (by simp [hcourse]) _⟩
      apply hmarks.outside c
      · simpa [Scope.beginning, hbegun.holder] using Ne.symm hne
      · rw [hsame]
      · rw [holders_close hbegun.holder hne]
      · exact hback (.begun hcourse hbegin)
  | timedOut hcourse hbegin hwork | begunCut hcourse hbegin hwork =>
      exact (hcut (.begun hcourse hbegin) hwork).elim

end Coordinator

namespace Plan

variable {σ ε α : Type} {id : HolderId}

theorem Step.take_marks (step : Step σ) (id : HolderId) (scope : Scope)
    (s : State) (m : Diary σ) :
    Marks id scope (step.take scope s m).scope s (step.take scope s m).state
      (step.deeds scope s) := by
  rcases step.take_cases scope s m with rfl | ⟨hscope, hsame, hfetched⟩
  · simp only [Step.take, Step.deeds]
    rcases scope.markRollbackOnly_cases s with
        ⟨e, hnone, hmark⟩ | ⟨other, hsome, hmark⟩
    · rw [hmark, markOf, hnone]
      exact .of_flag rfl
    · rw [hmark, markOf, hsome]
      refine ⟨?_, ⟨true, rfl, ?_⟩, fun hscope _ deed hdeed => ?_⟩
      · rw [State.markedHolder]
        by_cases h : id = other
        · simp [h, Deed.dooms, Holder.markRollbackOnly]
        · simp [h, Ne.symm h, Deed.dooms]
      · rw [hsome, List.mem_singleton, Deed.marked.injEq, Option.some.injEq]
        exact ⟨fun h => ⟨rfl, h.2.symm, h.1.symm⟩,
          fun h => ⟨h.2.2.symm, h.2.1.symm⟩⟩
      · rw [List.mem_singleton.mp hdeed]
        exact decide_eq_false fun h => hscope (by rw [hsome, h])
  · have hspared : ∀ deed ∈ step.deeds scope s, deed.dooms id = false := by
      intro deed hdeed
      obtain ⟨conn, holder, rfl⟩ := hfetched deed hdeed
      rfl
    refine ⟨?_, ⟨false, by rw [hscope, Scope.marked_false], ?_⟩,
      fun _ _ => hspared⟩
    · have hnone : (step.deeds scope s).any (Deed.dooms id) = false :=
        List.any_eq_false.mpr fun deed hdeed => by simp [hspared deed hdeed]
      rw [hsame.holders, hnone, Bool.or_false]
    · refine ⟨fun hdeed => ?_, fun h => by cases h.1⟩
      obtain ⟨conn, holder, hmarked⟩ := hfetched _ hdeed
      cases hmarked

/-- Over the run of a plan during which no deadline passes, the flag of a holder
on which a transaction runs agrees with the diary. -/
theorem Prompt.run_marks {plan : Plan σ ε α} (hprompt : plan.Prompt)
    (scope : Scope) {s : State} (m : Diary σ) (hs : s.BoundExist)
    (hid : id < s.nextHolder) (hactive : (s.holders id).stage = .active) :
    ∃ result new, (plan.run scope s m).2.ending = .finished result ∧
      (plan.run scope s m).2.memory.deeds = m.deeds ++ new ∧
      Marks id scope (plan.run scope s m).1 s
        (plan.run scope s m).2.state new := by
  induction plan generalizing scope s m with
  | finish result =>
      exact ⟨result, [], rfl, (List.append_nil _).symm, .of_flag rfl⟩
  | pend outer => exact hprompt.elim
  | step first next ih =>
      have hmarks := first.take_marks id scope s m
      have hkeeps :
          State.Keeps (fun _ => False) s (first.take scope s m).state :=
        first.take_keeps scope s m
      obtain ⟨result, rest, hending, hrest, hafter⟩ := ih _ (hprompt _) _ _
        (hkeeps.boundExist hs) (Nat.lt_of_lt_of_le hid hkeeps.nextHolder)
        (by rw [hkeeps.stage id hid, hactive])
      refine ⟨result, _, hending, ?_,
        hmarks.trans hafter fun key => hkeeps.bound key id⟩
      rw [run, hrest, first.take_diary, List.append_assoc]
  | execute c d body next ihbody ihnext =>
      obtain ⟨hkeeps, result, hresult⟩ := c.execute_returns d m hprompt.1 hs
      obtain ⟨new, hnew, hmarks⟩ := (c.execution d body s m).marks hs hid
        hactive
        fun scope' s' => ihbody hprompt.1 scope' m
      rw [run_execute_of_finished hresult]
      obtain ⟨result', rest, hending, hrest, hafter⟩ := ihnext result
        (hprompt.2 result) scope ((c.execute d body.run s m).memory.enter _)
        (hkeeps.boundExist hs)
        (Nat.lt_of_lt_of_le hid hkeeps.nextHolder) (by
          rw [hkeeps.stage id hid, hactive])
      refine ⟨result', _, hending, ?_,
        ((hmarks result hresult).inside scope).trans hafter
        fun key => hkeeps.bound key id⟩
      rw [hrest, Diary.enter, hnew, List.append_assoc, List.append_assoc,
        List.append_assoc]

end Plan

end UnitOfWork
