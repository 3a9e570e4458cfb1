import UnitOfWork.Proofs.Completion

/-!
# Where failures of drivers show

A call on a driver that fails shows in one of two ways.  Either the operation
that has made it gives up, and its error names the fault; then no line says so.
Or the operation goes on, and the next line of the journal names the fault; then
no error does.  `Told` is what an operation writes up to the point where it
gives up, `Logged` what the steps write that put things back, each of which goes
on when it fails.

For each operation there is one lemma about what it adds to the journal.
-/

namespace UnitOfWork

def Cause.fault? : Cause → Option Fault
  | .fault f => some f
  | .illegal _ | .described _ => none

/-- The fault of a driver that is the direct cause of an error. -/
def TransactionError.fault? (e : TransactionError) : Option Fault :=
  e.cause?.bind Cause.fault?

def errorOf {ε α : Type} : Except ε α → Option ε
  | .ok _ => none
  | .error e => some e

/-! ## Entries of the journal -/

/-- A warning or an error for the reader of the journal. -/
def Line.isAlarm (line : Line) : Bool :=
  line.severity = .warn || line.severity = .error

/-- Whether an entry tells of no failure: it is a call that has succeeded, or a
line that is no alarm. -/
def Note.isQuiet : Note → Bool
  | .line l => !l.isAlarm
  | .driver _ fault => fault.isNone

def Quiet (notes : List Note) : Prop :=
  ∀ n ∈ notes, n.isQuiet = true

/-- What an operation writes before it answers, if its answer names a fault or
none: all calls have succeeded but the last one, which fails by the fault. -/
inductive Told : Option Fault → List Note → Prop
  | quiet {notes : List Note} (hquiet : Quiet notes) : Told none notes
  | failed {notes : List Note} (hquiet : Quiet notes) (call : DriverCall)
      (fault : Fault) : Told (some fault) (notes ++ [.driver call (some fault)])

def RestoringStep.Tries : RestoringStep → DriverCall → Prop
  | .rollBackFailedBegin, .call _ .rollback => True
  | .restoreAutoCommit, .call _ (.setAutoCommit true) => True
  | .restoreIsolation, .call _ (.setIsolation _) => True
  | .releaseAfterFailedBegin, .release _ _ => True
  | .release, .release _ _ => True
  | _, _ => False

/-- What steps write that put things back in this order.  The failure of a step
is logged at once, with the name of the step and the fault. -/
inductive Logged : List RestoringStep → List Note → Prop
  | done : Logged [] []
  | quiet {steps : List RestoringStep} {notes : List Note} {n : Note}
      (hquiet : n.isQuiet = true) (h : Logged steps notes) :
      Logged steps (n :: notes)
  /-- The step has not failed, or there was nothing to put back. -/
  | passed {steps : List RestoringStep} {notes : List Note}
      (step : RestoringStep)
      (h : Logged steps notes) : Logged (step :: steps) notes
  | failed {steps : List RestoringStep} {notes : List Note}
      {step : RestoringStep}
      {call : DriverCall} (htries : step.Tries call) (fault : Fault)
      (h : Logged steps notes) :
      Logged (step :: steps)
        (.driver call (some fault) :: .line (.stepFailed step fault) :: notes)

def RestoringStep.ofAbandoning : List RestoringStep :=
  [.rollBackFailedBegin, .restoreAutoCommit, .restoreIsolation,
    .releaseAfterFailedBegin]

def RestoringStep.ofCleanup : List RestoringStep :=
  [.restoreAutoCommit, .restoreIsolation, .release]

def Reports (fault : Option Fault) (steps : List RestoringStep)
    (notes : List Note) : Prop :=
  ∃ told logged, notes = told ++ logged ∧ Told fault told ∧ Logged steps logged

/-- What is written when a transaction ends, by the failure of its work and the
failure of the execution.  The failure of work is passed on, and a rollback that
fails after it is logged at once.  Otherwise the last call can fail, and the
error of the execution names its fault. -/
inductive Ended {ε : Type} :
    Option (Failure ε) → Option (Failure ε) → List Note → Prop
  | passedOn {notes : List Note} (hquiet : Quiet notes) (failure : Failure ε) :
      Ended (some failure) (some failure) notes
  | logged {notes : List Note} (hquiet : Quiet notes) (failure : Failure ε)
      (conn : Connection) (fault : Fault) :
      Ended (some failure) (some failure)
        (notes ++ [.driver (.call conn .rollback) (some fault),
          .line (.rollbackAfterFailureFailed
            (.system "rollback" (.fault fault)))])
  | told {notes : List Note} {e : Option TransactionError}
      (h : Told (e.bind TransactionError.fault?) notes) :
      Ended none (e.map .transaction) notes

/-- What is written when an execution ends: what ends its transaction, and the
clean-up. -/
def Closed {ε : Type} (inner outer : Option (Failure ε)) (notes : List Note) :
    Prop :=
  ∃ ended logged, notes = ended ++ logged ∧ Ended inner outer ended ∧
    Logged RestoringStep.ofCleanup logged

section

variable {notes notes' : List Note} {steps steps' : List RestoringStep}
variable {fault : Option Fault}

theorem Quiet.nil : Quiet [] :=
  fun _ h => by cases h

theorem Quiet.cons {n : Note} (hn : n.isQuiet = true) (h : Quiet notes) :
    Quiet (n :: notes) :=
  List.forall_mem_cons.mpr ⟨hn, h⟩

theorem Quiet.append (h : Quiet notes) (h' : Quiet notes') :
    Quiet (notes ++ notes') :=
  List.forall_mem_append.mpr ⟨h, h'⟩

theorem Told.after (h : Quiet notes) (h' : Told fault notes') :
    Told fault (notes ++ notes') := by
  cases h' with
  | quiet hquiet => exact .quiet (h.append hquiet)
  | failed hquiet call fault =>
      rw [← List.append_assoc]
      exact .failed (h.append hquiet) call fault

/-- The outcome of one call tells whether it has failed. -/
theorem Told.ofCall (call : DriverCall) (fault : Option Fault) :
    Told fault [.driver call fault] := by
  cases fault with
  | none => exact .quiet (.cons rfl .nil)
  | some fault => exact .failed .nil call fault

/-- Something quiet may come before the end of a transaction. -/
theorem Ended.after {ε : Type} {inner outer : Option (Failure ε)}
    (h : Quiet notes) (h' : Ended inner outer notes') :
    Ended inner outer (notes ++ notes') := by
  cases h' with
  | passedOn hquiet failure => exact .passedOn (h.append hquiet) failure
  | logged hquiet failure conn fault =>
      rw [← List.append_assoc]
      exact .logged (h.append hquiet) failure conn fault
  | told htold => exact .told (.after h htold)

theorem Told.quiet_of_none (h : Told none notes) : Quiet notes := by
  cases h with
  | quiet hquiet => exact hquiet

theorem Quiet.logged (h : Quiet notes) (steps : List RestoringStep) :
    Logged steps notes := by
  induction steps with
  | nil =>
      induction notes with
      | nil => exact .done
      | cons n rest ih =>
          obtain ⟨hn, hrest⟩ := List.forall_mem_cons.mp h
          exact .quiet hn (ih hrest)
  | cons step rest ih => exact .passed step ih

theorem Logged.append (h : Logged steps notes) (h' : Logged steps' notes') :
    Logged (steps ++ steps') (notes ++ notes') := by
  induction h with
  | done => exact h'
  | quiet hquiet _ ih => exact .quiet hquiet ih
  | passed step _ ih => exact .passed step ih
  | failed htries fault _ ih => exact .failed htries fault ih

theorem Told.reports (h : Told fault notes) (steps : List RestoringStep) :
    Reports fault steps notes :=
  ⟨notes, [], (List.append_nil _).symm, h, Quiet.nil.logged steps⟩

theorem Reports.after (h : Quiet notes) (h' : Reports fault steps notes') :
    Reports fault steps (notes ++ notes') := by
  obtain ⟨told, logged, rfl, htold, hlogged⟩ := h'
  exact ⟨notes ++ told, logged, (List.append_assoc _ _ _).symm,
    .after h htold, hlogged⟩

theorem Reports.andQuiet (h : Reports fault steps notes) (h' : Quiet notes') :
    Reports fault steps (notes ++ notes') := by
  obtain ⟨told, logged, rfl, htold, hlogged⟩ := h
  refine ⟨told, logged ++ notes', List.append_assoc _ _ _, htold, ?_⟩
  have hboth := hlogged.append (h'.logged [])
  rwa [List.append_nil] at hboth

end

/-! ## What is added to the journal -/

/-- The entries that were added to the journal between two states have a
property. -/
def State.Adds (P : List Note → Prop) (s s' : State) : Prop :=
  ∃ notes, s'.journal = s.journal ++ notes ∧ P notes

def State.written (s s' : State) : List Note :=
  s'.journal.drop s.journal.length

namespace State

variable {P Q R : List Note → Prop} {s s' s'' : State}

theorem Adds.trans (h : Adds P s s') (h' : Adds Q s' s'')
    (hboth : ∀ {notes notes'}, P notes → Q notes' → R (notes ++ notes')) :
    Adds R s s'' := by
  obtain ⟨notes, hnotes, hP⟩ := h
  obtain ⟨notes', hnotes', hQ⟩ := h'
  exact ⟨notes ++ notes',
    by rw [hnotes', hnotes, List.append_assoc], hboth hP hQ⟩

theorem Adds.mono (h : Adds P s s') (hPQ : ∀ {notes}, P notes → Q notes) :
    Adds Q s s' := by
  obtain ⟨notes, hnotes, hP⟩ := h
  exact ⟨notes, hnotes, hPQ hP⟩

/-- Holders, bindings, drivers and the clock are not in the journal. -/
theorem Adds.of_same (hjournal : s'.journal = s.journal) (h : P []) :
    Adds P s s' :=
  ⟨[], by rw [hjournal, List.append_nil], h⟩

theorem Adds.of_eq (h : Adds P s s') (hjournal : s''.journal = s'.journal) :
    Adds P s s'' := by
  rwa [Adds, hjournal]

theorem Adds.written (h : Adds P s s') :
    s'.journal = s.journal ++ s.written s' ∧ P (s.written s') := by
  obtain ⟨notes, hnotes, hP⟩ := h
  have hwritten : s.written s' = notes := by
    rw [State.written, hnotes, List.drop_left]
  rw [hwritten]
  exact ⟨hnotes, hP⟩

/-- A line that is no alarm. -/
theorem adds_say (s : State) (line : Line) (hline : line.isAlarm = false) :
    Adds Quiet s (s.say line) :=
  ⟨[.line line], rfl, .cons (by rw [Note.isQuiet, hline]; rfl) .nil⟩

theorem adds_call (s : State) (conn : Connection) (request : Call) :
    Adds (· = [.driver (.call conn request) (faultOf (s.call conn request).1)])
      s (s.call conn request).2 := by
  rw [State.call, callDirectly]
  cases (s.drivers conn.source).call conn.id request <;> exact ⟨_, rfl, rfl⟩

theorem adds_release (s : State) (source : SourceId) (conn : Connection) :
    Adds (· = [.driver (.release source conn)
      (faultOf (s.release source conn).1)]) s (s.release source conn).2 := by
  rw [State.release]
  cases (s.drivers source).release conn.id <;> exact ⟨_, rfl, rfl⟩

theorem adds_create (s : State) (source : SourceId) :
    Adds (Told (faultOf (s.create source).1)) s (s.create source).2 := by
  rw [State.create]
  cases (s.drivers source).create <;> exact ⟨_, rfl, .ofCall _ _⟩

/-- A restoring step goes on when its call fails, and says so. -/
theorem adds_restoring {call : DriverCall} {result : Except Fault Unit × State}
    {step : RestoringStep} (htries : step.Tries call)
    (h : Adds (· = [.driver call (faultOf result.1)]) s result.2) :
    Adds (Logged [step]) s (restoring step result) := by
  obtain ⟨outcome, s'⟩ := result
  obtain ⟨notes, hnotes, rfl⟩ := h
  cases outcome with
  | ok _ => exact ⟨_, hnotes, .passed step (.quiet rfl .done)⟩
  | error fault =>
      refine ⟨_, ?_, .failed htries fault .done⟩
      rw [restoring, journal_say, hnotes, List.append_assoc]
      rfl

theorem adds_restoringCall (s : State) (step : RestoringStep)
    (conn : Connection) (request : Call)
    (htries : step.Tries (.call conn request)) :
    Adds (Logged [step]) s (restoring step (s.call conn request)) :=
  adds_restoring htries (s.adds_call conn request)

theorem adds_handedBack (s : State) (step : RestoringStep) (line : Line)
    (hline : line.isAlarm = false) (source : SourceId) (conn : Connection)
    (htries : step.Tries (.release source conn)) :
    Adds (Logged [step]) s (handedBack line step source conn s) :=
  (s.adds_say _ hline).trans
    (adds_restoring htries ((s.say line).adds_release source conn))
    fun hquiet hlogged => (hquiet.logged []).append hlogged

theorem adds_unbind (s : State) (key : Key) :
    Adds Quiet s (s.unbind key).2 := by
  rw [unbind]
  cases s.context.unbind key with
  | mk found context =>
      cases found with
      | none => exact .of_same rfl .nil
      | some id => exact ⟨[.line (.unbound key)], rfl, .cons rfl .nil⟩

theorem adds_bind {key : Key} {id : HolderId} (h : s.bind key id = .ok s') :
    Adds Quiet s s' := by
  rw [bind] at h
  cases hcontext : s.context.bind key id with
  | error occupied => simp [hcontext] at h
  | ok context =>
      simp only [hcontext, Except.ok.injEq] at h
      rw [← h]
      exact ⟨[.line (.bound key)], rfl, .cons rfl .nil⟩

theorem adds_markedHolder (s : State) (id : HolderId) :
    Adds Quiet s (s.markedHolder id) :=
  ⟨[.line (.markingRollbackOnly (s.holders id).connection)], rfl,
    .cons rfl .nil⟩

theorem adds_participantFailed (s : State) (id : HolderId) :
    Adds Quiet s (s.participantFailed id) :=
  (s.adds_say _ rfl).trans (adds_markedHolder _ id) .append

end State

/-! ## Operations of a scope -/

/-- A source that has no connection to give blames the call that asked for
one. -/
theorem Source.adds_getConnection (source : Source) (s : State) :
    State.Adds (Told
      ((errorOf (source.getConnection s).1).bind TransactionError.fault?)) s
      (source.getConnection s).2 := by
  rw [getConnection]
  cases source.boundConnection s with
  | some conn => exact .of_same rfl (.quiet .nil)
  | none =>
      have hcreate := s.adds_create source.id
      generalize s.create source.id = result at hcreate ⊢
      obtain ⟨outcome, s'⟩ := result
      cases outcome with
      | error fault => exact hcreate
      | ok conn =>
          refine hcreate.trans (s'.adds_say (.fetched conn) rfl)
            fun htold hquiet => ?_
          exact .quiet (htold.quiet_of_none.append hquiet)

/-- A source that does not take a connection back blames the call that was to
release it. -/
theorem Source.adds_releaseConnection (source : Source) (conn : Connection)
    (s : State) :
    State.Adds
      (Told ((errorOf (source.releaseConnection conn s).1).bind
        TransactionError.fault?)) s
      (source.releaseConnection conn s).2 := by
  rw [releaseConnection]
  split
  · exact .of_same rfl (.quiet .nil)
  · have hrelease := (s.adds_release source.id conn).mono
      (Q := Told (faultOf (s.release source.id conn).1))
        fun hnotes => hnotes ▸ .ofCall _ _
    generalize s.release source.id conn = result at hrelease ⊢
    obtain ⟨outcome, s'⟩ := result
    cases outcome <;> exact hrelease

theorem Scope.adds_markRollbackOnly (scope : Scope) (s : State) :
    State.Adds (Told
      ((errorOf (scope.markRollbackOnly s).1).bind TransactionError.fault?)) s
      (scope.markRollbackOnly s).2.2 := by
  rw [markRollbackOnly]
  cases scope.handle with
  | none => exact .of_same rfl (.quiet .nil)
  | some h =>
      simp only [Coordinator.markRollbackOnly]
      cases h.holder with
      | none => exact .of_same rfl (.quiet .nil)
      | some id => exact (s.adds_markedHolder id).mono .quiet

/-! ## Putting things back -/

theorem Handle.adds_restoreSession (h : Handle) (conn : Connection)
    (s : State) :
    State.Adds (Logged [.restoreAutoCommit, .restoreIsolation]) s
      (h.restoreSession conn s).2 := by
  have hauto : State.Adds (Logged [.restoreAutoCommit]) s
      (if h.restoresAutoCommit then
        State.restoring .restoreAutoCommit (s.call conn (.setAutoCommit true))
      else s) := by
    split
    · exact s.adds_restoringCall .restoreAutoCommit conn
        (.setAutoCommit true) trivial
    · exact .of_same rfl (Quiet.nil.logged _)
  rw [Handle.restoreSession]
  refine hauto.trans (Q := Logged [.restoreIsolation]) ?_ .append
  cases h.previousIsolation with
  | none => exact .of_same rfl (Quiet.nil.logged _)
  | some level =>
      exact State.adds_restoringCall _ .restoreIsolation conn
        (.setIsolation level) trivial

namespace Coordinator

variable {c : Coordinator} {d : Definition} {conn : Connection} {h : Handle}
variable {s : State}

/-- Nothing that fails while a beginning is abandoned goes unlogged. -/
theorem adds_abandon (c : Coordinator) (driverBegan : Bool) (conn : Connection)
    (h : Handle) (s : State) :
    State.Adds (Logged RestoringStep.ofAbandoning) s
      (c.abandon driverBegan conn h s).2 := by
  have hback : State.Adds (Logged [.rollBackFailedBegin]) s
      (rolledBack driverBegan conn s) := by
    rw [rolledBack]
    split
    · exact s.adds_restoringCall .rollBackFailedBegin conn .rollback trivial
    · exact .of_same rfl (Quiet.nil.logged _)
  have hsession : State.Adds
      (Logged [.rollBackFailedBegin, .restoreAutoCommit, .restoreIsolation]) s
      (h.restoreSession conn (rolledBack driverBegan conn s)).2 :=
    hback.trans (h.adds_restoreSession conn _) .append
  refine hsession.trans (Q := Logged [.releaseAfterFailedBegin]) ?_ .append
  rw [abandon, ← rolledBack]
  obtain ⟨h', s'⟩ := h.restoreSession conn (rolledBack driverBegan conn s)
  simp only
  split
  · rw [discard]
    apply (s'.adds_handedBack .releaseAfterFailedBegin
      (.releasingAfterFailedBegin conn) rfl c.source.id conn trivial).of_eq
    cases h'.holder <;> rfl
  · cases h'.holder <;> exact .of_same rfl (Quiet.nil.logged _)

theorem adds_released (c : Coordinator) (h : Handle) (id : HolderId)
    (s : State) :
    State.Adds Quiet s (c.released h id s) := by
  rw [released, unbindHolder]
  split
  · split
    · exact s.adds_unbind c.key
    · exact .of_same rfl .nil
  · exact .of_same rfl .nil

/-- Nothing that fails in a clean-up goes unlogged. -/
theorem adds_cleanup (c : Coordinator) (h : Handle) (s : State) :
    State.Adds (Logged RestoringStep.ofCleanup) s (c.cleanup h s) := by
  cases hholder : h.holder with
  | none =>
      rw [cleanup, hholder]
      exact .of_same rfl (Quiet.nil.logged _)
  | some id =>
      have hrestored : State.Adds (Logged RestoringStep.ofCleanup)
          (c.released h id s) (c.restored h id (c.released h id s)) := by
        rw [restored]
        split
        · next conn _ =>
            refine (h.adds_restoreSession conn _).trans
              (Q := Logged [.release]) ?_ .append
            rw [restoreConnection]
            split
            · exact State.adds_handedBack _ .release _ rfl c.source.id
                conn trivial
            · exact .of_same rfl (Quiet.nil.logged _)
        · exact .of_same rfl (Quiet.nil.logged _)
      rw [cleanup_eq hholder]
      refine ((c.adds_released h id s).trans hrestored
        fun hquiet hlogged => ?_).of_eq rfl
      exact (hquiet.logged []).append hlogged

theorem adds_setAside (c : Coordinator) (suspended : Option HolderId)
    (s : State) :
    State.Adds Quiet s (c.setAside suspended s) := by
  cases suspended with
  | none => exact .of_same rfl .nil
  | some id => exact s.adds_unbind c.key

theorem adds_entrance (c : Coordinator) (d : Definition)
    (suspended : Option HolderId) (s : State) :
    State.Adds Quiet s (c.entrance d suspended s) :=
  (c.adds_setAside suspended s).trans (State.adds_say _ _ rfl) .append

theorem adds_resumed (c : Coordinator) (suspended : Option HolderId)
    (s : State) :
    State.Adds Quiet s (c.resumed suspended s) := by
  rcases c.resumed_cases suspended s with hsame | ⟨id, -, -, hresumed⟩
  · rw [hsame]
    exact .of_same rfl .nil
  · rw [hresumed]
    exact ⟨[.line (.bound c.key)], rfl, .cons rfl .nil⟩

end Coordinator

/-! ## Beginnings -/

/-- Some steps of a beginning end by the call whose fault their outcome
names. -/
def Progress.Tells (s : State) (p : Progress) : Prop :=
  State.Adds (Told ((errorOf p.outcome).bind Cause.fault?)) s p.state

namespace Progress

variable {p : Progress} {h : Handle} {s : State}
variable {next : Handle → State → Progress}

theorem tells_ok (h : Handle) (s : State) : Tells s ⟨.ok (), h, s⟩ :=
  .of_same rfl (.quiet .nil)

theorem Tells.quiet (hp : p.Tells s) (hok : p.outcome = .ok ()) :
    State.Adds Quiet s p.state :=
  hp.mono fun htold => by
    rw [hok] at htold
    exact htold.quiet_of_none

theorem Tells.andThen (hp : p.Tells s)
    (hnext : (next p.handle p.state).Tells p.state) :
    (p.andThen next).Tells s := by
  rw [Progress.andThen]
  cases hout : p.outcome with
  | ok _ => exact (hp.quiet hout).trans hnext .after
  | error cause => exact hp

theorem tells_ofCall (h : Handle) (onSuccess : Handle → Handle) (s : State)
    (conn : Connection) (request : Call) :
    (ofCall h onSuccess (s.call conn request)).Tells s := by
  have hcall := (s.adds_call conn request).mono
    (Q := Told (faultOf (s.call conn request).1))
      fun hnotes => hnotes ▸ .ofCall _ _
  generalize s.call conn request = result at hcall ⊢
  obtain ⟨outcome, s'⟩ := result
  cases outcome <;> exact hcall

/-- A step that is one call, which is announced by a line. -/
theorem tells_announced {line : Line} (hline : line.isAlarm = false)
    (h : Handle) (onSuccess : Handle → Handle) (s : State) (conn : Connection)
    (request : Call) :
    (ofCall h onSuccess ((s.say line).call conn request)).Tells s :=
  (s.adds_say _ hline).trans
    (tells_ofCall h onSuccess (s.say line) conn request) .after

end Progress

namespace Coordinator

variable {c : Coordinator} {d : Definition} {conn : Connection} {h h₁ : Handle}
variable {s s₁ : State}

theorem started_tells (d : Definition) (conn : Connection) (h : Handle)
    (s : State) :
    (started d conn h s).Tells s := by
  have hlevel : (requestIsolation d conn h s).Tells s := by
    rw [requestIsolation]
    cases d.isolation.resolve with
    | none => exact Progress.tells_ok h s
    | some level =>
        simp only
        split
        · exact Progress.tells_ok h s
        · exact Progress.tells_announced rfl h _ s conn _
  have hauto : ∀ h' s', (disableAutoCommit conn h' s').Tells s' := by
    intro h' s'
    rw [disableAutoCommit]
    split
    · exact Progress.tells_announced rfl h' _ s' conn _
    · exact Progress.tells_ok h' s'
  exact (hlevel.andThen (hauto _ _)).andThen
    (Progress.tells_ofCall _ id _ conn .begin)

theorem enforceReadOnly_tells (c : Coordinator) (d : Definition)
    (conn : Connection) (h : Handle) (s : State) :
    (c.enforceReadOnly d conn h s).Tells s := by
  rw [enforceReadOnly]
  split
  · exact Progress.tells_announced rfl h id s conn _
  · exact Progress.tells_ok h s

/-- No call on a driver is made to activate a holder. -/
theorem activate_tells (c : Coordinator) (d : Definition)
    (h : Handle) (s : State) : (c.activate d h s).Tells s := by
  rw [activate]
  cases h.holder with
  | none => exact .of_same rfl (.quiet .nil)
  | some id =>
      simp only
      cases (s.holders id).activate (c.deadline d s.now) with
      | error reason => exact .of_same rfl (.quiet .nil)
      | ok holder =>
          simp only
          split
          · cases hbind : (s.setHolder id holder).bind c.key id with
            | error occupied => exact .of_same rfl (.quiet .nil)
            | ok s' =>
                exact (State.adds_bind hbind).mono (Q := Told none) .quiet
          · exact .of_same rfl (.quiet .nil)

/-- Whoever gets no connection blames the call that asked for one, if it was
made. -/
theorem obtainConnection_adds (c : Coordinator) (h : Handle) (s : State) :
    State.Adds (Told ((errorOf (c.obtainConnection h s).1).bind Cause.fault?)) s
      (c.obtainConnection h s).2.2 := by
  rw [obtainConnection]
  cases reusableHolder h s with
  | some id =>
      simp only [claimConnection]
      cases (s.holders id).claim with
      | error reason => exact .of_same rfl (.quiet .nil)
      | ok holder =>
          simp only
          cases holder.held <;> exact .of_same rfl (.quiet .nil)
  | none =>
      have hcreate := s.adds_create c.source.id
      generalize s.create c.source.id = result at hcreate ⊢
      obtain ⟨outcome, s'⟩ := result
      cases outcome with
      | error fault => exact hcreate
      | ok conn =>
          refine (hcreate.trans (s'.adds_say (.acquired conn) rfl)
            fun htold hquiet => ?_).of_eq rfl
          exact .quiet (htold.quiet_of_none.append hquiet)

/-- A beginning that is abandoned blames the step that failed, and logs what
fails while it is abandoned. -/
theorem failBegin_adds {p : Progress} {cause : Cause} (hp : p.Tells s)
    (hcause : p.outcome = .error cause) (c : Coordinator) (driverBegan : Bool)
    (conn : Connection) :
    State.Adds (Reports (TransactionError.cannotCreate cause).fault?
      RestoringStep.ofAbandoning) s
        (c.failBegin driverBegan conn cause p.handle p.state).2.2 := by
  rw [Progress.Tells, hcause] at hp
  exact hp.trans (c.adds_abandon driverBegan conn p.handle p.state)
    fun htold hlogged => ⟨_, _, rfl, htold, hlogged⟩

/-- What a beginning discloses that started in a state: nothing has failed, or
it has failed by the fault that its error names, and what failed while it was
abandoned is logged. -/
def Discloses (s : State) : Except TransactionError Unit × Handle × State → Prop
  | (.ok (), _, s') => State.Adds Quiet s s'
  | (.error e, _, s') =>
      State.Adds (Reports e.fault? RestoringStep.ofAbandoning) s s'

theorem afterStart_discloses {p : Progress} (hp : p.Tells s) (c : Coordinator)
    (d : Definition) (conn : Connection) :
    Discloses s (c.afterStart d conn p) := by
  rw [afterStart]
  cases hout : p.outcome with
  | error cause => exact failBegin_adds hp hout c false conn
  | ok _ =>
      have hnext := (c.enforceReadOnly_tells d conn p.handle p.state).andThen
        (c.activate_tells d _ _)
      have hready := (hp.quiet hout).trans (R := Told _) hnext .after
      simp only
      generalize (c.enforceReadOnly d conn p.handle p.state).andThen
        (c.activate d) = ready
        at hready ⊢
      cases hready' : ready.outcome with
      | error cause => exact failBegin_adds hready hready' c true conn
      | ok _ => exact Progress.Tells.quiet hready hready'

/-- A beginning discloses what fails in it. -/
theorem begin_discloses (c : Coordinator) (d : Definition) (h : Handle)
    (s : State) :
    Discloses s (c.begin d h s) := by
  have hfirst := c.obtainConnection_adds h s
  rcases hobtain : c.obtainConnection h s with ⟨outcome, h₁, s₁⟩
  rw [hobtain] at hfirst
  cases outcome with
  | error cause =>
      have hbegin : c.begin d h s = (.error (.cannotCreate cause), h₁, s₁) := by
        rw [begin, hobtain]
      rw [hbegin]
      exact hfirst.mono fun htold => htold.reports _
  | ok conn =>
      rw [begin_of_obtained hobtain]
      have hquiet := hfirst.mono Told.quiet_of_none
      exact afterStart_discloses
        (hquiet.trans (started_tells d conn h₁ s₁) .after) c d conn

/-! ## Ends -/

/-- The last call of a transaction, after a line that announces it. -/
theorem finish_adds (hconn : h.connection s = .ok conn) (task : String)
    (request : Call) (announcement : Connection → Line)
    (hline : (announcement conn).isAlarm = false) :
    ∃ fault, State.Adds (fun notes => ∃ before, Quiet before ∧
        notes = before ++ [.driver (.call conn request) fault]) s
        (finish task request announcement h s).2 ∧
      (finish task request announcement h s).1 =
        match fault with
        | none => .ok ()
        | some f => .error (.system task (.fault f)) := by
  have hadds :
      State.Adds (fun notes => ∃ before, Quiet before ∧ notes = before ++
      [.driver (.call conn request)
        (faultOf ((s.say (announcement conn)).call conn request).1)])
      s ((s.say (announcement conn)).call conn request).2 :=
    (s.adds_say _ hline).trans (State.adds_call _ conn request)
      fun hquiet hnotes => ⟨_, hquiet, by rw [hnotes]⟩
  simp only [finish, hconn]
  generalize (s.say (announcement conn)).call conn request = result at hadds ⊢
  obtain ⟨outcome, s'⟩ := result
  cases outcome with
  | ok _ => exact ⟨none, hadds, rfl⟩
  | error fault => exact ⟨some fault, hadds, rfl⟩

theorem finish_tells (hconn : h.connection s = .ok conn) (task : String)
    (request : Call) (announcement : Connection → Line)
    (hline : (announcement conn).isAlarm = false) :
    State.Adds (Told ((errorOf (finish task request announcement h s).1).bind
      TransactionError.fault?)) s (finish task request announcement h s).2 := by
  obtain ⟨fault, hadds, houtcome⟩ :=
    finish_adds hconn task request announcement hline
  have htold := hadds.mono (Q := Told fault) fun hnotes => by
    obtain ⟨before, hquiet, rfl⟩ := hnotes
    exact .after hquiet (.ofCall _ _)
  rw [houtcome]
  cases fault <;> exact htold

variable {ε α : Type}

/-- A rollback that fails after work that has failed is logged. -/
theorem rollbackAnyway_adds (hconn : h.connection s = .ok conn)
    (failure : Failure ε) :
    State.Adds (Ended (some failure) (some failure)) s
      (rollbackAnyway .rollbackAfterFailureFailed h s) := by
  obtain ⟨fault, hadds, houtcome⟩ := finish_adds hconn "rollback" .rollback
    .rollingBack rfl
  rw [rollbackAnyway, rollback]
  generalize finish "rollback" .rollback .rollingBack h s =
    result at hadds houtcome ⊢
  obtain ⟨outcome, s'⟩ := result
  obtain ⟨notes, hnotes, before, hquiet, rfl⟩ := hadds
  cases fault with
  | none =>
      subst houtcome
      exact ⟨_, hnotes, .passedOn (hquiet.append (.cons rfl .nil)) failure⟩
  | some fault =>
      subst houtcome
      refine ⟨_, ?_, .logged hquiet failure conn fault⟩
      rw [State.journal_say, hnotes, List.append_assoc, List.append_assoc]
      rfl

/-- A rollback that fails after work that has succeeded is the cause of the
error. -/
theorem rollbackWith_adds (hconn : h.connection s = .ok conn)
    {result : Except (Failure ε) α} {e : Option TransactionError}
    (hresult : errorOf result = e.map .transaction)
    (hfault : e.bind TransactionError.fault? = none) :
    State.Adds (Ended none (errorOf (rollbackWith h result s).1)) s
      (rollbackWith h result s).2 := by
  have htells := finish_tells hconn "rollback" .rollback .rollingBack rfl
  rw [rollbackWith, rollback]
  generalize finish "rollback" .rollback .rollingBack h s = finished at htells ⊢
  obtain ⟨outcome, s'⟩ := finished
  cases outcome with
  | ok _ =>
      simp only
      rw [hresult]
      exact htells.mono fun htold => .told (hfault ▸ htold)
  | error e' => exact htells.mono (.told (e := some e'))

/-- The end of a transaction reports whether its last call has failed: by the
error of the execution, or in the journal if the work has failed before. -/
theorem complete_adds (hconn : h.connection s = .ok conn)
    (result : Except (Failure ε) α) :
    State.Adds (Ended (errorOf result) (errorOf (complete h result s).1)) s
      (complete h result s).2 := by
  unfold complete
  cases result with
  | error failure => exact rollbackAnyway_adds hconn failure
  | ok value =>
      simp only
      split
      · exact (s.adds_say _ rfl).trans
          (rollbackWith_adds (e := none) (s := s.say .rollbackRequested)
            hconn rfl rfl) .after
      · split
        · exact (s.adds_say _ rfl).trans (rollbackWith_adds
            (e := some .unexpectedRollback) (s := s.say .rollbackImposed)
            hconn rfl rfl) .after
        · have htells := finish_tells hconn "commit" .commit .committing rfl
          rw [commit]
          generalize finish "commit" .commit .committing h s =
            finished at htells ⊢
          obtain ⟨outcome, s'⟩ := finished
          cases outcome with
          | ok _ => exact htells.mono (.told (e := none))
          | error e => exact htells.mono (.told (e := some e))

end Coordinator

end UnitOfWork
