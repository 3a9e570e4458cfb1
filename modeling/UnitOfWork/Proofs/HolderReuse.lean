import UnitOfWork.Proofs.HolderIncidents
import UnitOfWork.Proofs.PropagationStack

/-!
# What transactions find on their holders

Each of the transactions on a holder that is bound by hand gets a deadline of
its own; but a mark for rollback stays on the holder until it is wiped off, and
that is done at the end of a transaction and not at its beginning.  Whoever
marks the holder while no transaction has claimed it dooms the next one, which
has not even begun.

`Chore.incidents` lists what happens to one holder in the course of a run.
-/

namespace UnitOfWork

/-! ## Incidents of executions -/

def Coordinator.entryIncidents (c : Coordinator) (d : Definition) (s : State)
    (id : HolderId) :
    List Incident :=
  match c.course d s with
  | .begins suspended =>
      c.beginIncidents d (c.blank suspended s) (c.entrance d suspended s) id
  | _ => []

/-- What becomes of a holder at the end of work that was started in a state.
The transaction that was begun for the work is cleaned up, also when its
deadline has passed, and one that was joined is marked if the work has failed.
Work that was dropped for another deadline leaves everything as it is. -/
def Scope.exitIncidents {ε α : Type} (scope : Scope) (id : HolderId)
    (s : State) :
    Ending ε α → List Incident
  | .finished result =>
      if scope.isNew then scope.handle.elim [] fun h => h.cleanupIncidents id
      else if Plan.failed result then scope.markIncidents id
      else []
  | .overdue 0 =>
      if (scope.deadline s).isSome then
        scope.handle.elim [] fun h => h.cleanupIncidents id
      else []
  | .overdue (_ + 1) => []

/-! ## Chores -/

/-- An errand that is not done on its own: its user may have to wait and is
dropped then, and meanwhile others use the drivers and bind what they like. -/
inductive Chore (ε α : Type) where
  | finish (result : Except (Failure ε) α)
  /-- Waits until the deadline of a transaction around it has passed. -/
  | pend (outer : Nat)
  | step (first : Errand.Step) (next : Reply → Chore ε α)
  /-- Finds the drivers in other states, and other holders bound. -/
  | meanwhile (drivers : SourceId → Driver) (context : Bindings HolderId)
      (next : Chore ε α)
  /-- Executes a chore and goes on with its result. -/
  | execute (d : Definition) (body : Chore ε α)
      (next : Except (Failure ε) α → Chore ε α)

namespace Chore

variable {ε α : Type}

def run (c : Coordinator) : Chore ε α → Work Pocket ε α
  | .finish result, scope, s, p => (scope, ⟨.finished result, s, p⟩)
  | .pend outer, scope, s, p => (scope, ⟨.overdue outer, s, p⟩)
  | .step first next, scope, s, p =>
      match first.take c scope s p with
      | (scope', done) => (next done.reply).run c scope' done.state done.pocket
  | .meanwhile drivers context next, scope, s, p =>
      next.run c scope { s with drivers, context } p
  | .execute d body next, scope, s, p =>
      let inner := c.execute d (body.run c) s p
      match inner.ending with
      | .finished result => (next result).run c scope inner.state inner.memory
      | .overdue outer => (scope, ⟨.overdue outer, inner.state, inner.memory⟩)

def incidents (c : Coordinator) (id : HolderId) :
    Chore ε α → Scope → State → Pocket → List Incident
  | .finish _, _, _, _ => []
  | .pend _, _, _, _ => []
  | .step first next, scope, s, p =>
      first.incidents c id scope s p ++
        match first.take c scope s p with
        | (scope', done) =>
            (next done.reply).incidents c id scope' done.state done.pocket
  | .meanwhile drivers context next, scope, s, p =>
      next.incidents c id scope { s with drivers, context } p
  | .execute d body next, scope, s, p =>
      let inner := c.execute d (body.run c) s p
      c.entryIncidents d s id ++
        ((c.starts d (body.run c) s p).flatMap fun entry =>
          body.incidents c id entry.1 entry.2 p ++
            entry.1.exitIncidents id entry.2
              (body.run c entry.1 entry.2 p).2.ending) ++
        match inner.ending with
        | .finished result =>
            (next result).incidents c id scope inner.state inner.memory
        | .overdue _ => []

end Chore

/-! ## Runs -/

/-- What is left by work in a scope, when a holder has gone through some
incidents: the scope was marked only together with its own holder. -/
structure Scope.Leaves {σ ε α : Type} (scope : Scope) (c : Coordinator)
    (id : HolderId) (incidents : List Incident) (s : State)
    (left : Scope × Run σ ε α) : Prop where
  marked : scope.MarkedIn id incidents left.1
  passes : State.Passes c id incidents s left.2.state

namespace Coordinator

variable {σ ε α : Type} {c : Coordinator} {d : Definition} {id other : HolderId}
variable {s : State} {h : Handle} {incidents : List Incident}
variable {work : Work σ ε α} {m : σ}

theorem passes_setAside (c : Coordinator) (suspended : Option HolderId)
    (s : State) :
    State.Passes c id [] s (c.setAside suspended s) := by
  cases suspended with
  | none => exact .refl s
  | some other => exact .unbind s c.key

/-- Work that is dropped and has not begun a transaction whose deadline it
is. -/
theorem exitIncidents_of_overdue {scope : Scope} (hno : scope.deadline s = none)
    (outer : Nat) :
    scope.exitIncidents id s (.overdue outer : Ending ε α) = [] := by
  cases outer with
  | zero => simp [Scope.exitIncidents, hno]
  | succ outer => rfl

theorem runJoining_passes
    (hleaves : (Scope.joining c { holder := some other }).Leaves c id incidents
      (s.say (.participating d.name))
      (work (.joining c { holder := some other })
        (s.say (.participating d.name)) m)) :
    State.Passes c id
      (incidents ++ (Scope.joining c { holder := some other }).exitIncidents id
        (s.say (.participating d.name))
        (work (.joining c { holder := some other })
          (s.say (.participating d.name)) m).2.ending)
      s (c.runJoining d { holder := some other } work s m).state := by
  obtain ⟨⟨mark, hscope, -⟩, hpasses⟩ := hleaves
  rcases hrun : work (.joining c { holder := some other })
      (s.say (.participating d.name)) m with
    ⟨scope, ending, s', m'⟩
  rw [hrun] at hscope hpasses
  obtain rfl : scope = (Scope.joining c { holder := some other }).marked mark :=
    hscope
  refine ((State.Passes.say s _).trans hpasses).trans ?_
  cases ending with
  | overdue outer =>
      rw [runJoining, hrun, exitIncidents_of_overdue rfl]
      exact .refl s'
  | finished result =>
      rw [runJoining_of_finished hrun]
      show State.Passes c id (if Plan.failed result then
        (if some other = some id then [.marked] else []) else []) s' _
      split
      · exact (State.Passes.say s' _).trans (.markedHolder _ other)
      · exact .refl s'

theorem runWithout_passes (suspended : Option HolderId)
    (hleaves : (Scope.without c).Leaves c id incidents s
      (work (.without c) s m)) :
    State.Passes c id
      (incidents ++ (Scope.without c).exitIncidents id s
        (work (.without c) s m).2.ending)
      s ((c.runWithout work s m).afterFinish (c.conclude suspended)).state := by
  have hpasses := hleaves.passes
  rw [runWithout]
  rcases hrun : work (.without c) s m with ⟨scope, ending, s', m'⟩
  rw [hrun] at hpasses
  refine hpasses.trans ?_
  cases ending with
  | overdue outer =>
      rw [exitIncidents_of_overdue rfl]
      exact .refl s'
  | finished result =>
      have hquiet :
          (Scope.without c).exitIncidents id s (.finished result) = [] := by
        simp [Scope.exitIncidents, Scope.without, Scope.markIncidents]
      show State.Passes c id _ s' (c.conclude suspended result s' m').state
      rw [conclude_state, hquiet]
      exact .resumed suspended s'

/-- After the last call on its connection a transaction is cleaned up. -/
theorem close_passes (suspended : Option HolderId) (h : Handle)
    {completed : Except (Failure ε) α × State}
    (hsame : State.SameHolders s completed.2) (m : σ) :
    State.Passes c id (h.cleanupIncidents id) s
      (c.close suspended h completed m).state := by
  rw [close_state, ← List.append_nil (h.cleanupIncidents id)]
  exact ((State.Passes.of_sameHolders hsame).trans (.cleanup c h _)).trans
    (.resumed suspended _)

theorem runBegun_passes (suspended : Option HolderId)
    (hleaves : (Scope.beginning c h).Leaves c id incidents s
      (work (.beginning c h) s m)) :
    State.Passes c id
      (incidents ++ (Scope.beginning c h).exitIncidents id s
        (work (.beginning c h) s m).2.ending)
      s (c.runBegun suspended h work s m).state := by
  obtain ⟨⟨mark, hscope, -⟩, hpasses⟩ := hleaves
  rcases hrun : work (.beginning c h) s m with ⟨scope, ending, s', m'⟩
  rw [hrun] at hscope hpasses
  obtain rfl : scope = (Scope.beginning c h).marked mark := hscope
  refine hpasses.trans ?_
  cases ending with
  | finished result =>
      rw [runBegun_of_finished hrun]
      exact close_passes suspended (markedHandle h mark)
        (sameHolders_complete (markedHandle h mark) result s') m'
  | overdue outer =>
      cases hlimit : h.deadline s with
      | none =>
          have hno : (Scope.beginning c h).deadline s = none := hlimit
          rw [exitIncidents_of_overdue hno]
          simp only [runBegun, hrun, hno]
          exact .refl s'
      | some deadline =>
          have hsome : (Scope.beginning c h).deadline s = some deadline :=
            hlimit
          cases outer with
          | zero =>
              rw [runBegun_of_overdue hrun hlimit]
              simp only [Scope.exitIncidents, hsome]
              exact close_passes suspended (markedHandle h mark)
                (sameHolders_completeOverdue deadline
                  (markedHandle h mark) s') m'
          | succ outer =>
              simp only [runBegun, hrun, hsome]
              exact .refl s'

theorem passes_opening (hid : id < s.nextHolder) (c : Coordinator)
    (d : Definition) (suspended : Option HolderId) :
    State.Passes c id
      (c.beginIncidents d (c.blank suspended s) (c.entrance d suspended s) id) s
      (c.begin d (c.blank suspended s) (c.entrance d suspended s)).2.2 := by
  have hentered : State.Passes c id [] s (c.entrance d suspended s) :=
    (c.passes_setAside suspended s).trans (.say _ (.creating d.name))
  exact hentered.trans
    (.begin (Nat.lt_of_lt_of_le hid hentered.nextHolder) c d _)

/-- An execution does to a holder what its incidents tell, if its work does. -/
theorem execute_passes (hid : id < s.nextHolder) (c : Coordinator)
    (d : Definition) {made : Scope → State → List Incident}
    (hwork : ∀ (scope : Scope) (s₀ : State), id < s₀.nextHolder →
      scope.Leaves c id (made scope s₀) s₀ (work scope s₀ m)) :
    State.Passes c id
      (c.entryIncidents d s id ++ (c.entries d s).flatMap fun entry =>
        made entry.1 entry.2 ++
          entry.1.exitIncidents id entry.2 (work entry.1 entry.2 m).2.ending)
      s (c.execute d work s m).state := by
  cases hcourse : c.course d s with
  | refuses reason =>
      rw [execute_of_refuses hcourse]
      simp only [entryIncidents, entries, hcourse]
      exact .refl s
  | joins other =>
      rw [execute_of_joins hcourse]
      simp only [entryIncidents, entries, hcourse, List.nil_append,
        List.flatMap_singleton]
      exact runJoining_passes (hwork _ _ hid)
  | runsAlone suspended =>
      have haside : State.Passes c id [] s (c.setAside suspended s) :=
        c.passes_setAside suspended s
      have hleaves :=
        hwork (.without c) _ (Nat.lt_of_lt_of_le hid haside.nextHolder)
      rw [execute_of_runsAlone hcourse]
      simp only [entryIncidents, entries, hcourse, List.nil_append,
        List.flatMap_singleton]
      exact haside.trans (runWithout_passes suspended hleaves)
  | begins suspended =>
      have hopening := passes_opening hid c d suspended
      simp only [entryIncidents, entries, hcourse]
      rcases hbegin : c.begin d (c.blank suspended s)
          (c.entrance d suspended s) with
        ⟨outcome, h, s₁⟩
      rw [hbegin] at hopening
      cases outcome with
      | error e =>
          rw [execute_of_error hcourse hbegin]
          exact hopening.trans (.resumed suspended s₁)
      | ok _ =>
          have hleaves :=
            hwork (.beginning c h) s₁
              (Nat.lt_of_lt_of_le hid hopening.nextHolder)
          rw [execute_of_ok hcourse hbegin]
          simp only [List.flatMap_singleton]
          exact hopening.trans (runBegun_passes suspended hleaves)

end Coordinator

/-- Doing a chore does to a holder what its incidents tell. -/
theorem Chore.run_leaves {ε α : Type} {id : HolderId} (c : Coordinator)
    (chore : Chore ε α) (scope : Scope) (s : State) (p : Pocket)
    (hid : id < s.nextHolder) :
    scope.Leaves c id (chore.incidents c id scope s p) s
      (chore.run c scope s p) := by
  induction chore generalizing scope s p with
  | finish result | pend outer => exact ⟨.refl scope, .refl s⟩
  | step first next ih =>
      obtain ⟨hmarked, hpasses⟩ := first.take_passes (c := c) hid scope p
      obtain ⟨hmarked', hpasses'⟩ := ih (first.take c scope s p).2.reply
        (first.take c scope s p).1 (first.take c scope s p).2.state
        (first.take c scope s p).2.pocket
          (Nat.lt_of_lt_of_le hid hpasses.nextHolder)
      exact ⟨hmarked.trans hmarked', hpasses.trans hpasses'⟩
  | meanwhile drivers context next ih =>
      have hsame : State.Passes c id [] s { s with drivers, context } :=
        .of_holder (Nat.le_refl _) rfl
      obtain ⟨hmarked, hpasses⟩ := ih scope { s with drivers, context } p hid
      exact ⟨hmarked, hsame.trans hpasses⟩
  | execute d body next ihBody ihNext =>
      have hpasses :=
        Coordinator.execute_passes hid c d
          fun scope s₀ hid₀ => ihBody scope s₀ p hid₀
      rw [incidents, run, Coordinator.starts_eq]
      cases hending : (c.execute d (body.run c) s p).ending with
      | overdue outer =>
          exact ⟨.refl scope, by simpa only [List.append_nil] using hpasses⟩
      | finished result =>
          obtain ⟨hmarked, hpasses'⟩ := ihNext result scope
            (c.execute d (body.run c) s p).state
              (c.execute d (body.run c) s p).memory
            (Nat.lt_of_lt_of_le hid hpasses.nextHolder)
          exact ⟨(Scope.MarkedIn.refl scope).trans hmarked,
            hpasses.trans hpasses'⟩

/-! ## What is left for the next transaction -/

deriving instance DecidableEq for Ending

/-- The state in which an open connection is in a holder that is bound by
hand. -/
def State.boundByHand (key : Key) (conn : Connection) : State where
  drivers := fun _ => {
    nextId := conn.id + 1
    sessions := fun id => if id = conn.id then some {} else none }
  holders := fun id => if id = 0 then .of conn else .finished
  nextHolder := 1
  context := Bindings.empty.insert key 0

namespace Coordinator

variable {σ ε α : Type} {c : Coordinator} {d : Definition} {id : HolderId}
variable {s : State} {h : Handle} {conn : Connection}

/-- Work that has a scope of its own was started when its transaction had
begun. -/
theorem opening_of_starts {work : Work σ ε α} {m : σ} {scope : Scope}
    {s₀ : State} (hstart : c.starts d work s m = [(scope, s₀)])
    (hnew : scope.isNew = true) :
    ∃ suspended h, scope = .beginning c h ∧ c.course d s = .begins suspended ∧
      c.begin d (c.blank suspended s)
        (c.entrance d suspended s) = (.ok (), h, s₀) := by
  rw [starts_eq, entries] at hstart
  cases hcourse : c.course d s with
  | refuses reason => simp [hcourse] at hstart
  | joins other =>
      obtain ⟨rfl, -⟩ : Scope.joining c { holder := some other } =
          scope ∧ _ := by
        simpa [hcourse] using hstart
      cases hnew
  | runsAlone suspended =>
      obtain ⟨rfl, -⟩ : Scope.without c = scope ∧ _ := by
        simpa [hcourse] using hstart
      cases hnew
  | begins suspended =>
      simp only [hcourse] at hstart
      rcases hbegin : c.begin d (c.blank suspended s)
          (c.entrance d suspended s) with
        ⟨outcome, h, s₁⟩
      cases outcome with
      | error e => simp [hbegin] at hstart
      | ok _ =>
          obtain ⟨rfl, rfl⟩ : Scope.beginning c h = scope ∧ s₁ = s₀ := by
            simpa [hbegin] using hstart
          exact ⟨suspended, h, rfl, rfl, hbegin⟩

/-- An execution that begins on a holder that was there before suspends nothing,
and leaves the mark of the holder as it was. -/
theorem opening_on {suspended : Option HolderId} {s₀ : State}
    (hid : id < s.nextHolder)
    (hbegin : c.begin d (c.blank suspended s) (c.entrance d suspended s) =
      (.ok (), h, s₀))
    (hholder : h.holder = some id) :
    suspended = none ∧ h.rollbackOnly = false ∧
    (s.holders id).isActive = false ∧
      (s₀.holders id).rollbackOnly = (s.holders id).rollbackOnly ∧
      ∃ conn, (s₀.holders id).connection = some conn := by
  obtain ⟨conn, other, hbegun⟩ := begun_of_ok hbegin
  obtain rfl : other = id := Option.some.inj (hbegun.holder.symm.trans hholder)
  have hthere : other < (c.entrance d suspended s).nextHolder := by
    simpa [entrance] using hid
  have hsame : (c.entrance d suspended s).holders = s.holders := by
    simp [entrance]
  obtain ⟨hfound, hidle⟩ := found_of_begun hthere hbegin hholder
  rw [hsame] at hidle
  refine ⟨?_, hbegun.rollbackOnly, hidle, ?_, conn, hbegun.connection⟩
  · cases hbegun.origin with
    | created hnew howns hnext => exact absurd hthere (hnew ▸ Nat.lt_irrefl _)
    | reused hheld howns hstage hconn hnext =>
        rw [blank, discover, boundHolder_setAside] at hheld
        cases suspended with
        | none => rfl
        | some running => simp at hheld
  · rw [hfound, activeHolder, hsame]

/-- Where a holder was neither marked nor wiped, its handles show what they
did. -/
theorem shown_of_quiet {s₀ s' : State} {incidents : List Incident}
    (hpasses : State.Passes c id incidents s₀ s')
    (hquiet : ∀ incident ∈ incidents, incident ≠ .marked ∧ incident ≠ .wiped)
    (hholder : h.holder = some id)
    (hconn : (s₀.holders id).connection = some conn) :
    h.connection s' = .ok conn ∧
    h.isHolderRollbackOnly s' = (s₀.holders id).rollbackOnly := by
  have hkept : .wiped ∉ incidents := fun hwiped => (hquiet _ hwiped).2 rfl
  have hnone : ∀ incident ∈ incidents, incident.isMark = false :=
    fun incident hmem =>
      Bool.eq_false_iff.mpr fun hmark =>
        (hquiet incident hmem).1 (Incident.isMark_iff.mp hmark)
  have hheld := (hpasses.connection hkept).trans hconn
  constructor
  · simp only [Handle.connection, hholder, Holder.held, hheld]
  · simp only [Handle.isHolderRollbackOnly, hholder]
    rw [hpasses.marked, Incident.after_quiet hnone hkept]

/-- An execution whose work succeeds in a transaction on a holder that was there
before, and does not touch the mark of the holder, ends as the mark demands that
was there before. -/
theorem execute_unexpected_iff {work : Work σ ε α} {m : σ} {scope : Scope}
    {s₀ : State} {incidents : List Incident} {value : α}
    (hid : id < s.nextHolder) (hstart : c.starts d work s m = [(scope, s₀)])
    (hnew : scope.isNew = true)
    (hholder : scope.handle.bind Handle.holder = some id)
    (hleaves : id < s₀.nextHolder →
      scope.Leaves c id incidents s₀ (work scope s₀ m))
    (hended : (work scope s₀ m).2.ending = .finished (.ok value))
    (hquiet : ∀ incident ∈ incidents, incident ≠ .marked ∧ incident ≠ .wiped) :
    (s.holders id).isActive = false ∧ ∃ conn,
    (s₀.holders id).connection = some conn ∧
      ((c.execute d work s m).ending =
          .finished (.error (.transaction .unexpectedRollback)) ↔
        (s.holders id).rollbackOnly = true ∧
          ((work scope s₀ m).2.state.drivers conn.source).faults .rollback =
            false) := by
  obtain ⟨suspended, h, rfl, hcourse, hbegin⟩ := opening_of_starts hstart hnew
  obtain ⟨rfl, hlocal, hidle, hflag, conn, hconn⟩ :=
    opening_on hid hbegin hholder
  refine ⟨hidle, conn, hconn, ?_⟩
  have hopening := passes_opening hid c d none
  rw [hbegin] at hopening
  obtain ⟨⟨mark, hscope, hmark⟩, hpasses⟩ :=
    hleaves (Nat.lt_of_lt_of_le hid hopening.nextHolder)
  rcases hrun : work (.beginning c h) s₀ m with ⟨scope', ending, s', m'⟩
  rw [hrun] at hended hscope hpasses
  obtain rfl : ending = .finished (.ok value) := hended
  obtain rfl : scope' = (Scope.beginning c h).marked mark := hscope
  -- The work has not marked its scope, since it would have marked the holder,
  -- too.
  obtain rfl : mark = false := by
    cases mark with
    | false => rfl
    | true => exact absurd rfl (hquiet _ (hmark rfl hholder)).1
  have hsame : markedHandle h false = h := by simp [markedHandle]
  obtain ⟨hheld, hshared⟩ := shown_of_quiet hpasses hquiet hholder hconn
  have hcompleted := complete_unexpected_iff (ε := ε) value hheld hlocal
  rw [hshared, hflag] at hcompleted
  rw [execute_of_ok hcourse hbegin, runBegun_of_finished hrun,
    hsame, ← hcompleted]
  exact ⟨fun h => by
    simpa [close, conclude] using h, fun h => by simp [close, conclude, h]⟩

/-- Whatever is done by a user and in units of work, each transaction that
begins on a holder has the deadline of its own definition, those that have begun
so far and the next one.  It finds the holder marked for rollback exactly if
somebody has marked it while no transaction ran on it, and it was not given back
since: a mark from an earlier transaction is never left.  Work that succeeds is
rolled back then, though it had nothing to do with the mark. -/
theorem begins_with_marks_left {ε α δ β : Type} (c : Coordinator)
    (chore : Chore ε α) (scope : Scope) (s : State) (p : Pocket) {id : HolderId}
    (hid : id < s.nextHolder) (hunbound : (s.holders id).stage = .unbound)
    (hclean : (s.holders id).rollbackOnly = false) :
    let incidents := chore.incidents c id scope s p
    let left := (chore.run c scope s p).2
    (∀ earlier d now found later,
      incidents = earlier ++ .begun d now found :: later →
      found.deadline = c.deadline d now ∧
        (found.rollbackOnly = true ↔ Incident.LeftMarked earlier)) ∧
    (∀ d h h' s', c.begin d h left.state = (.ok (), h', s') →
      h'.holder = some id →
      (s'.holders id).deadline = c.deadline d left.state.now ∧
        ((s'.holders id).rollbackOnly = true ↔ Incident.LeftMarked incidents)) ∧
    ((left.state.holders id).rollbackOnly = true ↔
      Incident.Lately Incident.isMark incidents) ∧
    ∀ (d : Definition) (body : Chore δ β) scope₀ s₀ value,
      c.starts d (body.run c) left.state left.memory = [(scope₀, s₀)] →
      scope₀.isNew = true → scope₀.handle.bind Handle.holder = some id →
      (body.run c scope₀ s₀ left.memory).2.ending = .finished (.ok value) →
      (∀ incident ∈ body.incidents c id scope₀ s₀ left.memory,
        incident ≠ .marked ∧ incident ≠ .wiped) →
      ∃ conn, (s₀.holders id).connection = some conn ∧
        ((c.execute d (body.run c) left.state left.memory).ending =
            .finished (.error (.transaction .unexpectedRollback)) ↔
          Incident.LeftMarked incidents ∧
            ((body.run c scope₀ s₀ left.memory).2.state.drivers
              conn.source).faults .rollback = false) := by
  intro incidents left
  have hidle : (s.holders id).isActive = false := by
    rw [Holder.isActive, hunbound]
    rfl
  have hpasses : State.Passes c id incidents s left.state :=
    (chore.run_leaves c scope s p hid).passes
  have hthere := Nat.lt_of_lt_of_le hid hpasses.nextHolder
  -- Whoever begins on the holder has found no transaction on it.
  have hleft : (left.state.holders id).isActive = false →
      ((left.state.holders id).rollbackOnly = true ↔
        Incident.LeftMarked incidents) := by
    intro hrests
    rw [hpasses.running, hidle] at hrests
    rw [hpasses.marked, hclean, Incident.leftMarked_iff hrests]
  refine ⟨fun earlier d now found later hsplit => ?_,
    fun d h h' s' hbegin hholder => ?_, ?_,
    fun d body scope₀ s₀ value hstart hnew hholder hended hquiet => ?_⟩
  · have hfound := hpasses.found
    rw [hclean, hidle, hsplit] at hfound
    obtain ⟨hdeadline, hmark, hrests⟩ := hfound.between
    exact ⟨hdeadline, by rw [hmark, Incident.leftMarked_iff hrests]⟩
  · obtain ⟨hfound, hrests⟩ := found_of_begun hthere hbegin hholder
    rw [hfound]
    exact ⟨rfl, hleft hrests⟩
  · rw [hpasses.marked, hclean, Incident.lately_iff]
  · obtain ⟨hrests, conn, hconn, hend⟩ :=
      execute_unexpected_iff hthere hstart hnew hholder
        (body.run_leaves c scope₀ s₀ left.memory) hended hquiet
    exact ⟨conn, hconn, by rw [hend, hleft hrests]⟩

/-- A user marks a holder that is bound by hand and on which no transaction
runs; the next work, which just succeeds, is rolled back. -/
theorem begins_with_mark_of_user :
    let c : Coordinator := { source := ⟨0, ⟨"mock"⟩⟩ }
    let s := State.boundByHand c.key ⟨0, 1⟩
    let chore : Chore Unit Unit := .step (.act (.discover 0)) fun _ =>
      .step (.act (.markRollbackOnly 0)) fun _ => .finish (.ok ())
    let body : Chore Unit Unit := .finish (.ok ())
    let left := (chore.run c (.without c) s {}).2
    let opened :=
      c.begin {} (c.blank none left.state) (c.entrance {} none left.state)
    (0 < s.nextHolder ∧ (s.holders 0).stage = .unbound ∧
      (s.holders 0).rollbackOnly = false) ∧
      c.starts {} (body.run c) left.state left.memory =
        [(.beginning c opened.2.1, opened.2.2)] ∧
      (c.execute {} (body.run c) left.state left.memory).ending =
        .finished (.error (.transaction .unexpectedRollback)) := by
  intro c s chore body left opened
  have hunbound : (s.holders 0).stage = .unbound := rfl
  have hconn : (opened.2.2.holders 0).connection = some ⟨0, 1⟩ := by
    decide +kernel
  have hrollback : (opened.2.2.drivers 0).faults .rollback = false := by
    decide +kernel
  have hstart : c.starts {} (body.run c) left.state left.memory =
      [(.beginning c opened.2.1, opened.2.2)] := by
    rw [starts_eq]
    rfl
  refine ⟨⟨Nat.one_pos, hunbound, rfl⟩, hstart, ?_⟩
  obtain ⟨-, -, -, hnext⟩ := begins_with_marks_left (δ := Unit) (β := Unit) c
    chore (.without c) s {} Nat.one_pos hunbound rfl
  obtain ⟨conn, hheld, hend⟩ := hnext {} body _ _ () hstart rfl
    (by decide +kernel) rfl (fun _ h => by cases h)
  obtain rfl : ⟨0, 1⟩ = conn := Option.some.inj (hconn.symm.trans hheld)
  refine hend.mpr ⟨⟨[], [], rfl, ?_, List.not_mem_nil⟩, hrollback⟩
  rintro ⟨earlier, incident, since, hsplit, -⟩
  simp at hsplit

/-- The mark of such a user is still on the holder when the transaction
begins. -/
theorem mark_without_transaction_dooms :
    let c : Coordinator := { source := ⟨0, ⟨"mock"⟩⟩ }
    let s := State.boundByHand c.key ⟨0, 1⟩
    let chore : Chore Unit Unit := .step (.act (.discover 0)) fun _ =>
      .step (.act (.markRollbackOnly 0)) fun _ =>
        .execute {} (.finish (.ok ())) .finish
    (s.holders 0).stage = .unbound ∧ (s.holders 0).connection = some ⟨0, 1⟩ ∧
      (s.holders 0).rollbackOnly = false ∧ s.boundHolder c.key = some 0 ∧
      chore.incidents c 0 (.without c) s {} =
        [.marked,
          .begun {} 1
            { connection := some ⟨0, 1⟩, stage := .active,
              rollbackOnly := true },
          .wiped] ∧
      (chore.run c (.without c) s {}).2.ending =
        .finished (.error (.transaction .unexpectedRollback)) := by
  intro c s chore
  exact ⟨rfl, rfl, rfl, by decide +kernel, by decide +kernel, by decide +kernel⟩

end Coordinator

end UnitOfWork
