import UnitOfWork.Proofs.ConnectionAccounts
import UnitOfWork.Proofs.FailureReports
import UnitOfWork.Proofs.UnnoticedFailures

/-!
# Every failure of a driver is disclosed once

`Plan.transcript` is what is heard while a plan runs: the entries of the
journal, and between them the answers that scopes give, the starts and ends of
the works of executions, and what executions come back with.  `Candid` is the
grammar of these transcripts.  It leaves a call that fails two places only.
Either it is the last entry before an answer whose error names the fault, but
for the steps that put things back; or the next entry is the line that names it.

So the journal of a run can be read from its start to its end, and each failing
call in it belongs to the line that comes next or to an answer: `Disclosed`.
-/

namespace UnitOfWork

inductive Utterance (ε : Type) where
  /-- An entry of the journal. -/
  | noted (note : Note)
  /-- A scope answers its work, with an error if it has one. -/
  | replied (error : Option TransactionError)
  /-- An execution starts its work. -/
  | entered
  /-- The work of an execution is done. -/
  | left
  /-- An execution comes back.  Its work was started and has failed, or not, and
  the execution fails, or not. -/
  | returned (work result : Option (Failure ε))

/-- The entry of the journal that an utterance is. -/
def Utterance.note? {ε : Type} : Utterance ε → Option Note
  | noted n => some n
  | _ => none

def Utterance.ofNotes {ε : Type} (notes : List Note) : List (Utterance ε) :=
  notes.map .noted

@[simp]
theorem Utterance.filterMap_note?_ofNotes {ε : Type} (notes : List Note) :
    (ofNotes notes : List (Utterance ε)).filterMap note? = notes := by
  rw [ofNotes, List.filterMap_map]
  exact List.filterMap_some

theorem filterMap_singleton {α β : Type} (f : α → Option β) (a : α) :
    [a].filterMap f = (f a).toList := by
  rw [List.filterMap_cons, List.filterMap_nil]
  cases f a <;> rfl

/-- The grammar of transcripts in which every failing call is disclosed once. -/
inductive Candid {ε : Type} : List (Utterance ε) → Prop
  | silent : Candid []
  | append {t t' : List (Utterance ε)} (h : Candid t)
      (h' : Candid t') : Candid (t ++ t')
  | replied {notes : List Note} {e : Option TransactionError}
      (h : Told (e.bind TransactionError.fault?) notes) :
      Candid (Utterance.ofNotes notes ++ [.replied e])
  /-- An execution that does not start its work: it is refused, or its
  transaction cannot be begun. -/
  | unstarted {notes : List Note} {e : TransactionError}
      (h : Reports e.fault? RestoringStep.ofAbandoning notes) :
      Candid (Utterance.ofNotes notes ++
        [.returned none (some (.transaction e))])
  | executed {before after : List Note} {inside : List (Utterance ε)}
      {work result : Option (Failure ε)} (hquiet : Quiet before)
      (hinside : Candid inside) (hclosed : Closed work result after) :
      Candid (Utterance.ofNotes before ++ [.entered] ++ inside ++ [.left] ++
        Utterance.ofNotes after ++ [.returned work result])

/-! ## Transcripts -/

def Ending.failure? {ε α : Type} : Ending ε α → Option (Failure ε)
  | .finished result => errorOf result
  | .overdue _ => none

/-- What is heard of an operation of a scope. -/
def State.reply {ε β : Type} (s : State) (answer : Except TransactionError β)
    (s' : State) :
    List (Utterance ε) :=
  Utterance.ofNotes (s.written s') ++ [.replied (errorOf answer)]

/-- What is heard of an execution, whose work is heard inside. -/
def Coordinator.transcript {σ ε α : Type} (c : Coordinator) (d : Definition)
    (work : Work σ ε α) (inside : Scope → State → List (Utterance ε))
    (s : State) (m : σ) :
    List (Utterance ε) :=
  let run := c.execute d work s m
  match c.starts d work s m with
  | [] => Utterance.ofNotes (s.written run.state) ++
      [.returned none run.ending.failure?]
  | (scope, s₀) :: _ =>
      let worked := (work scope s₀ m).2
      Utterance.ofNotes (s.written s₀) ++ [.entered] ++
      inside scope s₀ ++ [.left] ++
        Utterance.ofNotes (worked.state.written run.state) ++
        [.returned worked.ending.failure? run.ending.failure?]

namespace Plan

variable {σ ε α : Type}

def Step.transcript (scope : Scope) (s : State) : Step σ → List (Utterance ε)
  | connection => s.reply (scope.connection s).1 (scope.connection s).2
  | handBack conn => s.reply (scope.release conn s).1 (scope.release conn s).2
  | markRollbackOnly =>
      s.reply (scope.markRollbackOnly s).1 (scope.markRollbackOnly s).2.2
  | call _ _ | setFault _ _ _ | rest _ | remember _ | look => []

/-- What is heard while a plan runs. -/
def transcript : Plan σ ε α → Scope → State → Diary σ → List (Utterance ε)
  | .finish _, _, _, _ => []
  | .pend _, _, _, _ => []
  | .step first next, scope, s, m =>
      let taken := first.take scope s m
      first.transcript scope s ++
        (next taken.answer).transcript taken.scope taken.state taken.diary
  | .execute c d body next, scope, s, m =>
      let inner := c.execute d body.run s m
      c.transcript d body.run (fun scope' s' =>
        body.transcript scope' s' m) s m ++
      match inner.ending with
      | .finished result =>
          (next result).transcript scope inner.state
            (inner.memory.enter (.returned (c.course d s) (failed result)))
      | .overdue _ => []

end Plan

def Site.transcript {σ ε α : Type} :
    Site σ → List (Job σ ε α) → List (Utterance ε)
  | _, [] => []
  | site, job :: rest =>
      job.coordinator.transcript job.definition job.work.run
        (fun scope s => job.work.transcript scope s site.diary)
        (site.state job.context)
        site.diary ++ (site.execute job).transcript rest

/-- A transcript of what lies between two states: it has all that was added to
the journal, and discloses every failing call once. -/
structure State.Recounts {ε : Type} (t : List (Utterance ε)) (s s' : State) :
    Prop where
  candid : Candid t
  journal : s'.journal = s.journal ++ t.filterMap Utterance.note?

namespace State.Recounts

variable {ε : Type} {t t' : List (Utterance ε)} {s s' s'' : State}

theorem silent (h : s'.journal = s.journal) :
    Recounts ([] : List (Utterance ε)) s s' :=
  ⟨.silent, by rw [h, List.filterMap_nil, List.append_nil]⟩

theorem trans (h : Recounts t s s') (h' : Recounts t' s' s'') :
    Recounts (t ++ t') s s'' :=
  ⟨h.candid.append h'.candid,
    by rw [h'.journal, h.journal, List.filterMap_append, List.append_assoc]⟩

theorem reply {β : Type} {answer : Except TransactionError β}
    (h : Adds (Told ((errorOf answer).bind TransactionError.fault?)) s s') :
    Recounts (s.reply answer s' : List (Utterance ε)) s s' := by
  obtain ⟨hnotes, htold⟩ := h.written
  refine ⟨.replied htold, ?_⟩
  rw [State.reply, List.filterMap_append, Utterance.filterMap_note?_ofNotes]
  simpa [filterMap_singleton, Utterance.note?] using hnotes

end State.Recounts

/-! ## Executions -/

theorem Ended.same {ε α : Type} {notes : List Note} (hquiet : Quiet notes)
    (result : Except (Failure ε) α) :
    Ended (errorOf result) (errorOf result) notes := by
  cases result with
  | ok value => exact .told (e := none) (.quiet hquiet)
  | error failure => exact .passedOn hquiet failure

theorem Ended.closed {ε : Type} {work result : Option (Failure ε)}
    {notes : List Note} (h : Ended work result notes) :
    Closed work result notes :=
  ⟨notes, [], (List.append_nil _).symm, h, Quiet.nil.logged _⟩

namespace Coordinator

variable {σ ε α : Type} {c : Coordinator} {d : Definition} {s : State}

/-- An execution that does not start its work. -/
theorem recounts_unstarted {work : Work σ ε α} {m : σ} {e : TransactionError}
    (inside : Scope → State → List (Utterance ε))
    (hstarts : c.starts d work s m = [])
    (hending : (c.execute d work s m).ending =
      .finished (.error (.transaction e)))
    (hreports : State.Adds (Reports e.fault? RestoringStep.ofAbandoning) s
      (c.execute d work s m).state) :
    State.Recounts (c.transcript d work inside s m) s
      (c.execute d work s m).state := by
  obtain ⟨hnotes, hreports⟩ := hreports.written
  simp only [transcript, hstarts, hending]
  refine ⟨.unstarted hreports, ?_⟩
  rw [List.filterMap_append, Utterance.filterMap_note?_ofNotes]
  simpa [filterMap_singleton, Utterance.note?] using hnotes

/-- An execution that starts its work. -/
theorem recounts_started {work : Work σ ε α} {m : σ} {scope : Scope}
    {s₀ : State} {inside : Scope → State → List (Utterance ε)}
    (hstarts : c.starts d work s m = [(scope, s₀)])
    (hquiet : State.Adds Quiet s s₀)
    (hinside : State.Recounts (inside scope s₀) s₀ (work scope s₀ m).2.state)
    (hclosed : State.Adds (Closed (work scope s₀ m).2.ending.failure?
      (c.execute d work s m).ending.failure?) (work scope s₀ m).2.state
      (c.execute d work s m).state) :
    State.Recounts (c.transcript d work inside s m) s
      (c.execute d work s m).state := by
  obtain ⟨hbefore, hquiet⟩ := hquiet.written
  obtain ⟨hafter, hclosed⟩ := hclosed.written
  simp only [transcript, hstarts]
  refine ⟨.executed hquiet hinside.candid hclosed, ?_⟩
  simp only [List.filterMap_append, Utterance.filterMap_note?_ofNotes]
  rw [hafter, hinside.journal, hbefore]
  simp [filterMap_singleton, Utterance.note?]

/-- A transaction is ended and cleaned up, and what was suspended for it is
resumed. -/
theorem close_adds {suspended : Option HolderId} {h : Handle}
    {conn : Connection} {result : Except (Failure ε) α}
    (hconn : h.connection s = .ok conn)
    (hresumable : c.Resumable suspended (c.cleanup h (complete h result s).2))
    (m : σ) :
    State.Adds
      (Closed (errorOf result)
        (c.close suspended h (complete h result s) m).ending.failure?) s
      (c.close suspended h (complete h result s) m).state := by
  rw [close, conclude_of_resumable hresumable]
  refine (complete_adds hconn result).trans
    ((c.adds_cleanup h _).trans (c.adds_resumed suspended _)
      fun hlogged hquiet => ?_)
    fun hended hlogged => ⟨_, _, rfl, hended, hlogged⟩
  have hboth := hlogged.append (hquiet.logged [])
  rwa [List.append_nil] at hboth

theorem begun_closes {plan : Plan σ ε α} {suspended : Option HolderId}
    {h : Handle} {s₁ s' : State} {m m' : Diary σ} {mark : Bool}
    {result : Except (Failure ε) α} (hprompt : plan.Prompt) (hs : s.BoundExist)
    (hbegin : c.begin d (c.blank suspended s) (c.entrance d suspended s) =
      (.ok (), h, s₁))
    (hwork : (plan.run (.beginning c h) s₁ m).2.state = s') :
    State.Adds (Closed (errorOf result) (c.close suspended (markedHandle h mark)
        (complete (markedHandle h mark) result s') m').ending.failure?) s'
      (c.close suspended (markedHandle h mark)
        (complete (markedHandle h mark) result s') m').state := by
  obtain ⟨conn, id, hbegun⟩ := begun_of_ok hbegin
  have hexist := hbegun.boundExist hs
  have hsteady := plan.run_steady (.beginning c h) m hexist
  have hkeeps := hprompt.run_keeps (.beginning c h) m hexist
  rw [hwork] at hsteady hkeeps
  have hclosed := keeps_close hs hbegun hkeeps
    (sameHolders_complete (markedHandle h mark) result s') mark
  exact close_adds
    (connection_of_steady hbegun (hbegun.holder_lt hs) hsteady mark).2
    (resumable_of_keeps hclosed) m'

theorem recounts_execute {plan : Plan σ ε α} (hprompt : plan.Prompt)
    (hs : s.BoundExist) (c : Coordinator) (d : Definition) (m : Diary σ)
    (hinside : ∀ scope s₀, s₀.BoundExist →
      State.Recounts (plan.transcript scope s₀ m) s₀
        (plan.run scope s₀ m).2.state) :
    State.Recounts (c.transcript d plan.run
      (fun scope s₀ => plan.transcript scope s₀ m) s m) s
      (c.execute d plan.run s m).state := by
  have hexecution := c.execution d plan s m
  have hentries := c.starts_eq d plan.run s m
  rw [entries] at hentries
  have hrecounts : ∀ scope s₀, c.starts d plan.run s m = [(scope, s₀)] →
      State.Recounts (plan.transcript scope s₀ m) s₀
        (plan.run scope s₀ m).2.state := by
    intro scope s₀ hstarts
    have hmem : (scope, s₀) ∈ c.entries d s := by
      rw [← c.starts_eq d plan.run s m, hstarts]
      exact List.mem_singleton_self _
    exact hinside scope s₀ ((entered_of_mem hmem).steady.boundExist hs)
  generalize hrun : c.execute d plan.run s m = run at hexecution
  cases hexecution with
  | refused hcourse =>
      rw [hcourse] at hentries
      rw [← hrun]
      refine recounts_unstarted _ hentries (by rw [hrun]; rfl) ?_
      rw [hrun]
      exact .of_same rfl ((Told.quiet .nil).reports _)
  | @joined id mark result s' m' hcourse hwork =>
      rw [hcourse] at hentries
      rw [← hrun]
      apply recounts_started hentries (s.adds_say _ rfl)
        (hrecounts _ _ hentries)
      rw [hrun, hwork]
      have hafter : State.Adds Quiet s' (if Plan.failed result then
        s'.participantFailed id
          else s') := by
        split
        · exact s'.adds_participantFailed id
        · exact .of_same rfl .nil
      exact hafter.mono fun hquiet => (Ended.same hquiet result).closed
  | @alone suspended scope result s' m' hcourse hwork =>
      rw [hcourse] at hentries
      rw [← hrun]
      apply recounts_started hentries (c.adds_setAside suspended s)
        (hrecounts _ _ hentries)
      have haside : (c.setAside suspended s).BoundExist :=
        boundExist_setAside hs
      have hkeeps := hprompt.run_keeps (.without c) m haside
      rw [hwork] at hkeeps
      rw [hrun, hwork, conclude_of_resumable (resumable_of_keeps hkeeps)]
      exact (c.adds_resumed suspended s').mono fun hquiet =>
        (Ended.same hquiet result).closed
  | @notBegun suspended e h' s' hcourse hbegin =>
      simp only [hcourse, hbegin] at hentries
      rw [← hrun]
      refine recounts_unstarted _ hentries (by rw [hrun]; rfl) ?_
      rw [hrun]
      have hbegun :=
        c.begin_discloses d (c.blank suspended s) (c.entrance d suspended s)
      rw [hbegin] at hbegun
      exact ((c.adds_entrance d suspended s).trans hbegun .after).trans
        (c.adds_resumed suspended s') .andQuiet
  | @begun suspended h s₁ mark result s' m' hcourse hbegin hwork =>
      simp only [hcourse, hbegin] at hentries
      rw [← hrun]
      have hopened :=
        c.begin_discloses d (c.blank suspended s) (c.entrance d suspended s)
      rw [hbegin] at hopened
      apply recounts_started hentries
        ((c.adds_entrance d suspended s).trans hopened .append)
        (hrecounts _ _ hentries)
      rw [hrun, hwork]
      exact begun_closes hprompt hs hbegin (by rw [hwork])
  | joinedCut hcourse hwork => exact (hprompt.run_ne_overdue hwork).elim
  | aloneCut hcourse hwork => exact (hprompt.run_ne_overdue hwork).elim
  | timedOut hcourse hbegin hwork => exact (hprompt.run_ne_overdue hwork).elim
  | begunCut hcourse hbegin hwork => exact (hprompt.run_ne_overdue hwork).elim

end Coordinator

namespace Plan

variable {σ ε α : Type}

/-- A step of a plan is disclosed by the answer of the scope. -/
theorem Step.recounts (step : Step σ) (scope : Scope) (s : State)
    (m : Diary σ) :
    State.Recounts (step.transcript scope s : List (Utterance ε)) s
      (step.take scope s m).state := by
  cases step with
  | connection => exact .reply (scope.coordinator.source.adds_getConnection s)
  | handBack conn =>
      exact .reply (scope.coordinator.source.adds_releaseConnection conn s)
  | markRollbackOnly => exact .reply (scope.adds_markRollbackOnly s)
  | call conn request =>
      apply State.Recounts.silent
      simp only [take, State.callDirectly]
      cases (s.drivers conn.source).call conn.id request <;> rfl
  | setFault | rest | remember | look => exact .silent rfl

/-- The run of a plan during which no deadline passes discloses every failing
call once. -/
theorem Prompt.recounts {plan : Plan σ ε α} (hprompt : plan.Prompt)
    (scope : Scope) {s : State} (m : Diary σ) (hs : s.BoundExist) :
    State.Recounts (plan.transcript scope s m) s
      (plan.run scope s m).2.state := by
  induction plan generalizing scope s m with
  | finish result => exact .silent rfl
  | pend outer => exact hprompt.elim
  | step first next ih =>
      exact (first.recounts scope s m).trans
        (ih _ (hprompt _) _ _ (first.take_boundExist scope m hs))
  | execute c d body next ihBody ihNext =>
      have hinner := Coordinator.recounts_execute hprompt.1 hs c d m
        fun scope' s' hs' => ihBody hprompt.1 scope' m hs'
      obtain ⟨hkeeps, result, hresult⟩ := c.execute_returns d m hprompt.1 hs
      rw [run_execute_of_finished hresult, transcript]
      simp only [hresult]
      exact hinner.trans (ihNext result (hprompt.2 result) _ _
        (hkeeps.boundExist hs))

end Plan

/-! ## Calls that fail, and who names them -/

/-- Whether a line is about a call that has failed by a fault: the step that has
made the call put something back, or it was the rollback after work that had
failed. -/
def Line.TellsOf (call : DriverCall) (fault : Fault) : Line → Prop
  | stepFailed step f => step.Tries call ∧ f = fault
  | rollbackAfterFailureFailed e =>
      (∃ conn, call = .call conn .rollback) ∧
      e = .system "rollback" (.fault fault)
  | _ => False

/-- Entries in which each call that fails belongs to a line or to an answer.
The line comes next, and there are no other alarms; the answers name these
faults, in this order. -/
inductive Disclosed : List Fault → List Note → Prop
  | nil : Disclosed [] []
  | quiet {named : List Fault} {notes : List Note} {n : Note}
      (hquiet : n.isQuiet = true)
      (h : Disclosed named notes) : Disclosed named (n :: notes)
  | logged {named : List Fault} {notes : List Note} {call : DriverCall}
      {fault : Fault}
      {line : Line} (hline : line.TellsOf call fault)
      (h : Disclosed named notes) :
      Disclosed named (.driver call (some fault) :: .line line :: notes)
  | answered {named : List Fault} {notes : List Note} (call : DriverCall)
      (fault : Fault) (h : Disclosed named notes) :
      Disclosed (fault :: named) (.driver call (some fault) :: notes)

/-- The fault that is the direct cause of the error of an answer.  The failure
of its work is no error of an execution's own. -/
def Utterance.fault? {ε : Type} : Utterance ε → Option Fault
  | replied e => e.bind TransactionError.fault?
  | returned none (some (.transaction e)) => e.fault?
  | _ => none

@[simp]
theorem Utterance.filterMap_fault?_ofNotes {ε : Type} (notes : List Note) :
    (ofNotes notes : List (Utterance ε)).filterMap fault? = [] := by
  rw [ofNotes, List.filterMap_map]
  exact List.filterMap_eq_nil_iff.mpr fun _ _ => rfl

section

variable {named named' : List Fault} {notes notes' : List Note}
variable {fault : Option Fault} {steps : List RestoringStep} {ε : Type}
variable {work result : Option (Failure ε)}

theorem Disclosed.append (h : Disclosed named notes)
    (h' : Disclosed named' notes') :
    Disclosed (named ++ named') (notes ++ notes') := by
  induction h with
  | nil => exact h'
  | quiet hquiet _ ih => exact .quiet hquiet ih
  | logged hline _ ih => exact .logged hline ih
  | answered call fault _ ih => exact .answered call fault ih

theorem Quiet.disclosed (h : Quiet notes) : Disclosed [] notes := by
  induction notes with
  | nil => exact .nil
  | cons n rest ih =>
      obtain ⟨hn, hrest⟩ := List.forall_mem_cons.mp h
      exact .quiet hn (ih hrest)

theorem Told.disclosed (h : Told fault notes) :
    Disclosed fault.toList notes := by
  cases h with
  | quiet hquiet => exact hquiet.disclosed
  | failed hquiet call f =>
      exact hquiet.disclosed.append (.answered call f .nil)

theorem Logged.disclosed (h : Logged steps notes) : Disclosed [] notes := by
  induction h with
  | done => exact .nil
  | quiet hquiet _ ih => exact .quiet hquiet ih
  | passed _ _ ih => exact ih
  | failed htries fault _ ih => exact .logged ⟨htries, rfl⟩ ih

theorem Reports.disclosed (h : Reports fault steps notes) :
    Disclosed fault.toList notes := by
  obtain ⟨told, logged, rfl, htold, hlogged⟩ := h
  have hboth := htold.disclosed.append hlogged.disclosed
  rwa [List.append_nil] at hboth

theorem Ended.disclosed (h : Ended work result notes) :
    Disclosed (Utterance.returned work result).fault?.toList notes := by
  cases h with
  | passedOn hquiet failure => exact hquiet.disclosed
  | logged hquiet failure conn fault =>
      exact hquiet.disclosed.append (.logged ⟨⟨conn, rfl⟩, rfl⟩ .nil)
  | @told _ e htold => cases e <;> exact htold.disclosed

theorem Closed.disclosed (h : Closed work result notes) :
    Disclosed (Utterance.returned work result).fault?.toList notes := by
  obtain ⟨ended, logged, rfl, hended, hlogged⟩ := h
  have hboth := hended.disclosed.append hlogged.disclosed
  rwa [List.append_nil] at hboth

end

/-- In a candid transcript each failing call is named once: by the next line, or
by an answer. -/
theorem Candid.disclosed {ε : Type} {t : List (Utterance ε)} (h : Candid t) :
    Disclosed (t.filterMap Utterance.fault?) (t.filterMap Utterance.note?) := by
  induction h with
  | silent => exact .nil
  | append _ _ ih ih' =>
      rw [List.filterMap_append, List.filterMap_append]
      exact ih.append ih'
  | replied htold =>
      simpa [filterMap_singleton, Utterance.note?, Utterance.fault?]
        using htold.disclosed
  | unstarted hreports =>
      simpa [filterMap_singleton, Utterance.note?, Utterance.fault?]
        using hreports.disclosed
  | @executed _ _ inside work result hquiet _ hclosed ih =>
      have hall := (hquiet.disclosed.append ih).append hclosed.disclosed
      have hentered : (Utterance.entered : Utterance ε).fault? = none := rfl
      have hleft : (Utterance.left : Utterance ε).fault? = none := rfl
      simp only [List.filterMap_append, filterMap_singleton, hentered, hleft]
      simpa [Utterance.note?] using hall

/-! ## Sequences of executions -/

namespace Site

variable {σ ε α : Type} {site : Site σ} {job : Job σ ε α}
variable {jobs : List (Job σ ε α)}

/-- What is bound in the contexts exists after an execution. -/
theorem boundExist_execute (hprompt : job.work.Prompt)
    (hbound : ∀ i, (site.state i).BoundExist) (i : Nat) :
    ((site.execute job).state i).BoundExist := by
  have hkeeps := Coordinator.execute_keeps (c := job.coordinator)
    (d := job.definition) (m := site.diary) hprompt (hbound job.context)
  intro key id hid
  exact Nat.lt_of_lt_of_le
    (hbound i key id (bound_execute hprompt (hbound _) i hid)) hkeeps.nextHolder

/-- The transcript of a sequence of executions is candid, and has all of the
journal. -/
theorem executeAll_candid (hbound : ∀ i, (site.state i).BoundExist)
    (hprompt : ∀ job ∈ jobs, job.work.Prompt) :
    Candid (site.transcript jobs) ∧ (site.executeAll jobs).world.journal =
      site.world.journal ++
      (site.transcript jobs).filterMap Utterance.note? := by
  induction jobs generalizing site with
  | nil => exact ⟨.silent, (List.append_nil _).symm⟩
  | cons job rest ih =>
      have hjob := hprompt job List.mem_cons_self
      have hfirst := Coordinator.recounts_execute hjob (hbound job.context)
        job.coordinator
        job.definition site.diary fun scope s hs =>
          hjob.recounts scope site.diary hs
      obtain ⟨hcandid, hjournal⟩ :=
        ih (boundExist_execute hjob hbound) fun job' hjob' =>
        hprompt job' (List.mem_cons_of_mem job hjob')
      refine ⟨hfirst.candid.append hcandid, hjournal.trans ?_⟩
      have hworld : (site.execute job).world.journal = site.world.journal ++
          _ := hfirst.journal
      rw [hworld, transcript, List.filterMap_append, List.append_assoc]

/-- Every failure of a driver is disclosed once.  In a sequence of executions
that are nested to any depth, with any definitions, any coordinators and any
switching of faults, during which no deadline passes, the transcript is candid:
the fault of a call that fails is either the direct cause of the error with
which the operation comes back that has made the call, or it is logged at once,
as a warning with the name of the step in the order of the steps, or as an error
if the call was the rollback after failed work.  So the entries of the journal
tell of each failing call once, apart from those that the answers name, and of
no other. -/
theorem executeAll_discloses_failures (hbound : ∀ i, (site.state i).BoundExist)
    (hprompt : ∀ job ∈ jobs, job.work.Prompt) :
    Candid (site.transcript jobs) ∧
      ∃ notes, (site.executeAll jobs).world.journal =
        site.world.journal ++ notes ∧
        (site.transcript jobs).filterMap Utterance.note? = notes ∧
        Disclosed ((site.transcript jobs).filterMap Utterance.fault?)
          notes := by
  obtain ⟨hcandid, hjournal⟩ := executeAll_candid hbound hprompt
  exact ⟨hcandid, _, hjournal, rfl, hcandid.disclosed⟩

/-- Work executes other work in a transaction of its own, whose commit fails,
and fails itself then; its rollback fails, and so does the release after it. -/
theorem executeAll_discloses_double_fault :
    let c : Coordinator := { source := ⟨0, ⟨"db"⟩⟩ }
    let work : Plan Unit Unit Unit := .step (.setFault 0 .commit true) fun _ =>
      .execute c { propagation := .requiresNew } (.finish (.ok ())) fun _ =>
        .step (.setFault 0 .rollback true) fun _ =>
          .step (.setFault 0 .release true) fun _ => .finish (.error (.own ()))
    let site : Site Unit :=
      { world := {}, contexts := fun _ => .empty, diary := ⟨(), []⟩ }
    let job : Job Unit Unit Unit := ⟨0, c, {}, work⟩
    let site' := site.executeAll [job]
    ((∀ i, (site.state i).BoundExist) ∧ ∀ job' ∈ [job], job'.work.Prompt) ∧
      Candid (site.transcript [job]) ∧ Disclosed [.commit] site'.world.journal ∧
      (site'.world.journal.filterMap Note.line?).filter Line.isAlarm =
        [.rollbackAfterFailureFailed (.system "rollback" (.fault .rollback)),
          .stepFailed .release .release] := by
  intro c work site job site'
  have hbound : ∀ i, (site.state i).BoundExist := by
    intro i key id hid
    cases hid
  have hprompt : ∀ job' ∈ [job], job'.work.Prompt := by
    intro job' hjob'
    obtain rfl := List.mem_singleton.mp hjob'
    exact fun _ => ⟨trivial, fun _ _ _ => trivial⟩
  obtain ⟨hcandid, notes, hjournal, -, hdisclosed⟩ :=
    executeAll_discloses_failures hbound hprompt
  have hnamed : (site.transcript [job]).filterMap Utterance.fault? =
      [.commit] := by
    decide +kernel
  rw [hnamed] at hdisclosed
  obtain rfl : site'.world.journal = notes := hjournal
  exact ⟨⟨hbound, hprompt⟩, hcandid, hdisclosed, by decide +kernel⟩

end Site

end UnitOfWork
