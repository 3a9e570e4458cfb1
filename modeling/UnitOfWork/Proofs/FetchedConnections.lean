import UnitOfWork.Proofs.ExclusiveConnection
import UnitOfWork.Proofs.Keeping

/-!
# Where fetched connections come from

Every connection that the journal reports as fetched was fetched by a scope, and
the diary tells in which transaction the work of that scope ran.  It ran in
none, unless someone has put a holder without a connection into the context and
made it active by hand.
-/

namespace UnitOfWork

/-- A transaction is said to run on a holder, but the holder has no
connection. -/
structure State.Lonely (s : State) (id : HolderId) : Prop where
  exist : id < s.nextHolder
  active : (s.holders id).stage = .active
  empty : (s.holders id).connection = none

/-- A holder that is lonely after a run that keeps its state was so before. -/
theorem State.Keeps.lonely {s s' : State} {id : HolderId}
    (h : Keeps (fun _ => False) s s') (hlonely : s'.Lonely id) :
    s.Lonely id := by
  rcases Nat.lt_or_ge id s.nextHolder with hold | hnew
  · refine ⟨hold, ?_, ?_⟩
    · rw [← h.stage id hold]
      exact hlonely.active
    · rw [← h.connection id hold]
      exact hlonely.empty
  · exact (h.fresh id hnew hlonely.exist hlonely.active).elim

/-- The transaction of a scope is running, and its holder is bound. -/
def Scope.InForce (scope : Scope) (s : State) : Prop :=
  ∀ id, scope.handle.bind Handle.holder = some id →
    s.boundHolder scope.coordinator.key = some id ∧
    (s.holders id).stage = .active

theorem Scope.InForce.later {scope : Scope} {s s' : State} (h : scope.InForce s)
    (hkeeps : State.Keeps (fun _ => False) s s') (hs : s.BoundExist)
    (mark : Bool) :
    (scope.marked mark).InForce s' := by
  intro id hid
  have hholder : (scope.marked mark).handle.bind Handle.holder =
      scope.handle.bind Handle.holder := by
    cases scope with
    | mk coordinator handle isNew => cases handle <;> rfl
  rw [hholder] at hid
  obtain ⟨hbound, hactive⟩ := h id hid
  refine ⟨(hkeeps.kept _ id hbound).resolve_right not_false, ?_⟩
  rw [hkeeps.stage id (hs _ id hbound)]
  exact hactive

theorem Scope.InForce.kept {scope : Scope} {s s' : State} (h : scope.InForce s)
    (hkeeps : State.Keeps (fun _ => False) s s') (hs : s.BoundExist) :
    scope.InForce s' := by
  have hlater := h.later hkeeps hs false
  rwa [Scope.marked_false] at hlater

/-- Every connection that is fetched in some deals is fetched in some deeds. -/
def Reported (new : List Deed) (deals : List Note) : Prop :=
  ∀ conn, .line (.fetched conn) ∈ deals → ∃ holder, .fetched conn holder ∈ new

/-- The deeds by which a scope in a transaction fetches a connection: the holder
of the transaction is lonely. -/
def Excused (s : State) (new : List Deed) : Prop :=
  ∀ conn id, .fetched conn (some id) ∈ new → s.Lonely id

namespace Coordinator

variable {σ ε α : Type} {c : Coordinator} {d : Definition} {s : State}

theorem reported_of_failedDeals {h : Handle} {s₀ s₁ : State} {deals : List Note}
    (hfailed : c.FailedDeals h s₀ s₁ deals) (new : List Deed) :
    Reported new deals := by
  intro conn hconn
  cases hfailed with
  | refused => cases hconn
  | @abandoned other id owns calls fault =>
      have hnot : .line (.fetched conn) ∉ callsOn other calls := by
        intro hcall
        obtain ⟨request, -, hrequest⟩ := List.mem_map.mp hcall
        cases hrequest
      cases owns <;> simp [acquisition, restitution, hnot] at hconn

/-- What the work of an execution has fetched is reported, and so is what the
whole execution has. -/
theorem Execution.reported {body : Plan σ ε α} {m : Diary σ}
    {run : Run (Diary σ) ε α} (hrun : c.Execution d body s m run)
    (hs : s.BoundExist) (hbody : ∀ scope s', s'.BoundExist →
      ∃ new, (body.run scope s' m).2.memory.deeds = m.deeds ++ new ∧
        ∃ deals, State.Deals deals s' (body.run scope s' m).2.state ∧
          Reported new deals) :
    ∃ new, run.memory.deeds = m.deeds ++ new ∧
      ∃ deals, State.Deals deals s run.state ∧ Reported new deals := by
  obtain ⟨new, hnew⟩ := hrun.deeds
  cases hrun.passage hs with
  | idle hstate =>
      rw [hstate]
      exact ⟨new, hnew.symm, [], .refl s, fun conn hconn => by cases hconn⟩
  | @through scope s₀ hentered hheld hbefore hheld' hafter hmemory =>
      obtain ⟨new, hnew, deals, hdeals, hreported⟩ :=
        hbody scope s₀ (hentered.steady.boundExist hs)
      exact ⟨new, by
        rw [hmemory, hnew], _, (hbefore.trans hdeals).andThen hafter, hreported⟩
  | notBegun hfailed hheld hdeals =>
      exact ⟨new, hnew.symm, _, hdeals, reported_of_failedDeals hfailed new⟩
  | @within suspended conn id h s₁ request fault fault' hentered hbegun hsource
      hbefore hrequest hfault hheld hafter hmemory =>
      obtain ⟨new, hnew, deals, hdeals, hreported⟩ := hbody (.beginning c h) s₁
        (hbegun.boundExist hs)
      refine ⟨new,
        by rw [hmemory, hnew], _, (hbefore.trans hdeals).trans hafter, ?_⟩
      intro other hother
      apply hreported other
      cases howns : h.ownsHolder <;>
        simpa [howns, acquisition, restitution] using hother
  | @dropped suspended conn id h s₁ outer hcourse hentered hbegun hbefore
      hending hstate hmemory =>
      obtain ⟨new, hnew, deals, hdeals, hreported⟩ := hbody (.beginning c h) s₁
        (hbegun.boundExist hs)
      rw [← hstate] at hdeals
      refine ⟨new, by rw [hmemory, hnew], _, hbefore.trans hdeals, ?_⟩
      intro other hother
      apply hreported other
      cases howns : h.ownsHolder <;> simpa [howns, acquisition] using hother

theorem Entered.inForce {scope : Scope} {s' : State}
    (h : c.Entered d s scope s') :
    scope.InForce s' := by
  intro id hid
  cases h with
  | joining hcourse =>
      obtain rfl := Option.some.inj hid
      exact running_eq_some_iff.mp (running_of_course (Or.inl hcourse))
  | alone => cases hid
  | @begun suspended h s₁ hcourse hbegin =>
      obtain ⟨conn, other, hbegun⟩ := begun_of_ok hbegin
      obtain rfl : other = id := Option.some.inj (hbegun.holder.symm.trans hid)
      refine ⟨?_, hbegun.stage⟩
      show s'.boundHolder c.key = some other
      rw [hbegun.bound]
      cases hbegun.origin with
      | reused hreused howns =>
          have hfound : h.ownsHolder = false := howns
          rw [if_neg (by simp [hfound])]
          exact hreused
      | created hid howns hnext => rw [if_pos ⟨howns, rfl⟩]

/-- The holder of a transaction that an execution has begun has a connection, so
that a lonely one was lonely before. -/
theorem Entered.lonely {scope : Scope} {s' : State} {id : HolderId}
    (h : c.Entered d s scope s') (hlonely : s'.Lonely id) : s.Lonely id := by
  obtain ⟨hexist, hactive, hempty⟩ := hlonely
  cases h with
  | joining => exact ⟨hexist, hactive, hempty⟩
  | alone =>
      exact ⟨by simpa using hexist, by simpa using hactive,
        by simpa using hempty⟩
  | @begun suspended h s₁ hcourse hbegin =>
      obtain ⟨conn, other, hbegun⟩ := begun_of_ok hbegin
      have hne : id ≠ other := by
        rintro rfl
        rw [hbegun.connection] at hempty
        cases hempty
      rw [hbegun.others id hne] at hactive hempty
      refine ⟨?_, by
        simpa [entrance] using hactive, by simpa [entrance] using hempty⟩
      have hbefore : id < (c.entrance d suspended s).nextHolder := by
        cases hbegun.origin with
        | reused _ _ _ _ hnext => rwa [← hnext]
        | created hid _ hnext =>
            rw [hnext] at hexist
            exact Nat.lt_of_le_of_ne (Nat.le_of_lt_succ hexist) (hid ▸ hne)
      simpa [entrance] using hbefore

/-- What excuses the work of an execution, in the scope that is made for it,
excuses the execution. -/
theorem Execution.excused {body : Plan σ ε α} {m : Diary σ}
    {run : Run (Diary σ) ε α} (hrun : c.Execution d body s m run)
    (hs : s.BoundExist) (hbody : ∀ scope s', s'.BoundExist → scope.InForce s' →
      ∃ new, (body.run scope s' m).2.memory.deeds = m.deeds ++ new ∧
        Excused s' new) :
    ∃ new, run.memory.deeds = m.deeds ++ new ∧ Excused s new := by
  rcases hrun.memory with hsame | ⟨scope, s', hentered, hwork⟩
  · rw [hsame]
    exact ⟨[], (List.append_nil _).symm, fun _ _ h => by cases h⟩
  · obtain ⟨new, hnew, hexcused⟩ :=
      hbody scope s' (hentered.steady.boundExist hs) hentered.inForce
    rw [hwork]
    exact ⟨new, hnew, fun conn id hdeed =>
      hentered.lonely (hexcused conn id hdeed)⟩

end Coordinator

namespace Plan

variable {σ ε α : Type}

theorem Step.reported (step : Step σ) (scope : Scope) (s : State)
    (m : Diary σ) :
    ∃ deals, State.Deals deals s (step.take scope s m).state ∧
      Reported (step.deeds scope s) deals := by
  cases hstep : step.isDeal with
  | false =>
      exact ⟨[], Step.take_deals_nothing hstep scope s m,
        fun conn hconn => by cases hconn⟩
  | true =>
      cases step with
      | connection =>
          simp only [Step.take, Step.deeds]
          rcases scope.connection_cases s with ⟨conn, -, h⟩ |
            ⟨hbound, conn, s', h, -, hdeals⟩ | ⟨e, s', h, hdeals⟩ <;> rw [h]
          · exact ⟨[], .refl s, fun other hother => by cases hother⟩
          · refine ⟨_, hdeals, fun other hother => ?_⟩
            obtain rfl : other = conn := by simpa using hother
            refine ⟨scope.handle.bind Handle.holder, ?_⟩
            simp [fetchOf, hbound]
          · exact ⟨[], hdeals, fun other hother => by cases hother⟩
      | handBack conn =>
          simp only [Step.take]
          rcases scope.release_cases conn s with ⟨-, h⟩ | ⟨-, fault, -, hdeals⟩
          · rw [h]
            exact ⟨[], .refl s, fun other hother => by cases hother⟩
          · exact ⟨_, hdeals, fun other hother => by simp at hother⟩
      | _ => cases hstep

/-- What a run has fetched is reported in the diary. -/
theorem run_reported (plan : Plan σ ε α) (scope : Scope) {s : State}
    (m : Diary σ) (hs : s.BoundExist) :
    ∃ new, (plan.run scope s m).2.memory.deeds = m.deeds ++ new ∧
      ∃ deals, State.Deals deals s (plan.run scope s m).2.state ∧
        Reported new deals :=
  run_induction
    (R := fun s new s' => ∃ deals, State.Deals deals s s' ∧ Reported new deals)
    (fun s => ⟨[], .refl s, fun conn hconn => by cases hconn⟩)
    (fun _ _ hfirst hsecond => by
      obtain ⟨deals, hdeals, hreported⟩ := hfirst
      obtain ⟨rest, hrest, hreported'⟩ := hsecond
      refine ⟨_, hdeals.trans hrest, fun conn hconn => ?_⟩
      rcases List.mem_append.mp hconn with hconn | hconn
      · obtain ⟨holder, hdeed⟩ := hreported conn hconn
        exact ⟨holder, List.mem_append_left _ hdeed⟩
      · obtain ⟨holder, hdeed⟩ := hreported' conn hconn
        exact ⟨holder, List.mem_append_right _ hdeed⟩)
    (fun step scope s m _ =>
      ⟨_, step.take_diary scope s m, step.reported scope s m⟩)
    (fun hrun hs hbody => by
      obtain ⟨new, hnew, deals, hdeals, hreported⟩ := hrun.reported hs hbody
      refine ⟨new, hnew, deals, hdeals, fun conn hconn => ?_⟩
      obtain ⟨holder, hdeed⟩ := hreported conn hconn
      exact ⟨holder, List.mem_append_left _ hdeed⟩)
    plan scope m hs

theorem run_nextId (plan : Plan σ ε α) (scope : Scope) {s : State} (m : Diary σ)
    (hs : s.BoundExist) (source : SourceId) :
    s.nextId source ≤ (plan.run scope s m).2.state.nextId source := by
  obtain ⟨deals, hdeals⟩ := plan.run_dealt scope m hs
  exact hdeals.nextId source

/-- A step leaves the transaction of its scope in force. -/
theorem Step.inForce (step : Step σ) {scope : Scope} {s : State} (m : Diary σ)
    (hs : s.BoundExist) (hforce : scope.InForce s) :
    (step.take scope s m).scope.InForce (step.take scope s m).state := by
  obtain ⟨mark, hscope⟩ := step.take_scope scope s m
  rw [hscope]
  exact hforce.later (step.take_keeps scope s m) hs mark

/-- A scope in a transaction fetches a connection only if the holder of the
transaction has none. -/
theorem Step.excused (step : Step σ) {scope : Scope} {s : State}
    (hs : s.BoundExist) (hforce : scope.InForce s) :
    Excused s (step.deeds scope s) := by
  intro conn id hdeed
  cases step with
  | connection =>
      obtain ⟨other, -, hnone, hfetched⟩ := mem_fetchOf hdeed
      injection hfetched with hconn hholder
      obtain ⟨hbound, hactive⟩ := hforce id hholder.symm
      refine ⟨hs _ id hbound, hactive, ?_⟩
      have hbound' : s.boundHolder scope.coordinator.source.key = some id :=
        hbound
      rw [Source.boundConnection, hbound'] at hnone
      exact hnone
  | markRollbackOnly =>
      simp only [Step.deeds, markOf] at hdeed
      split at hdeed <;> simp at hdeed
  | _ => cases hdeed

/-- Over the run of a plan during which no deadline passes, a scope in a
transaction fetches a connection only if the holder of the transaction was
lonely from the start. -/
theorem Prompt.run_excused {plan : Plan σ ε α} (hprompt : plan.Prompt)
    (scope : Scope) {s : State} (m : Diary σ) (hs : s.BoundExist)
    (hforce : scope.InForce s) :
    ∃ new, (plan.run scope s m).2.memory.deeds = m.deeds ++ new ∧
      Excused s new := by
  induction plan generalizing scope s m with
  | finish result =>
      exact ⟨[], (List.append_nil _).symm, fun _ _ h => by cases h⟩
  | pend outer => exact hprompt.elim
  | step first next ih =>
      have hkeeps :
          State.Keeps (fun _ => False) s (first.take scope s m).state :=
        first.take_keeps scope s m
      have hlater := first.inForce m hs hforce
      obtain ⟨rest, hrest, hexcused⟩ := ih (first.take scope s m).answer
        (hprompt _) _ (first.take scope s m).diary (hkeeps.boundExist hs) hlater
      refine ⟨first.deeds scope s ++ rest, ?_, fun conn id hdeed => ?_⟩
      · rw [run, hrest, first.take_diary, List.append_assoc]
      · rcases List.mem_append.mp hdeed with hdeed | hdeed
        · exact first.excused hs hforce conn id hdeed
        · exact hkeeps.lonely (hexcused conn id hdeed)
  | execute c d body next ihbody ihnext =>
      obtain ⟨hkeeps, result, hresult⟩ := c.execute_returns d m hprompt.1 hs
      obtain ⟨new, hnew, hinner⟩ := (c.execution d body s m).excused hs
        fun scope' s' hs' hforce' => ihbody hprompt.1 scope' m hs' hforce'
      have hlater := hforce.kept hkeeps hs
      obtain ⟨rest, hrest, hexcused⟩ := ihnext result (hprompt.2 result) scope
        ((c.execute d body.run s m).memory.enter
          (.returned (c.course d s) (failed result)))
        (hkeeps.boundExist hs) hlater
      rw [run_execute_of_finished hresult]
      refine ⟨new ++ [.returned (c.course d s) (failed result)] ++ rest, ?_,
        fun conn id hdeed => ?_⟩
      · rw [hrest, Diary.enter, hnew, List.append_assoc, List.append_assoc,
          List.append_assoc]
      · rcases List.mem_append.mp hdeed with hdeed | hdeed
        · exact hinner conn id (by simpa using hdeed)
        · exact hkeeps.lonely (hexcused conn id hdeed)

end Plan

end UnitOfWork
