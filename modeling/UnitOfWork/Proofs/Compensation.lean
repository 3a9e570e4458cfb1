import UnitOfWork.Proofs.Keeping
import UnitOfWork.Proofs.Protocol

/-!
# Calls that only put things back

When a transaction is over, or could not be begun, its connection is released
and its auto-commit is switched on again.  Nothing else makes these two calls,
and nobody waits for their answers.  So two states may differ in whether such
calls fail, and then also in their sessions, in what their drivers have recorded
and in their journals: a coordinator that only ever begins on new connections
does the same in both.

`State.Alike` is that likeness.  It is an equivalence, and apart from the
creation of a connection no call on a driver leaves its class, so that most of
what is to be shown about an operation is that its answer does not hang on a
call that puts things back.
-/

namespace UnitOfWork

/-- Whether a fault is one of the calls that only put things back. -/
def Fault.compensates : Fault → Bool
  | release | enableAutoCommit => true
  | create | setIsolation | disableAutoCommit | begin | commit | rollback
  | execute => false

/-- Two drivers that give the same connections and refuse the same calls, except
calls that put things back. -/
structure Driver.Alike (d d' : Driver) : Prop where
  initial : d'.initial = d.initial
  nextId : d'.nextId = d.nextId
  faults : ∀ fault, fault.compensates = false → d'.faults fault = d.faults fault

structure State.Alike (s s' : State) : Prop where
  drivers : ∀ source, (s.drivers source).Alike (s'.drivers source)
  holders : s'.holders = s.holders
  nextHolder : s'.nextHolder = s.nextHolder
  now : s'.now = s.now
  context : s'.context = s.context

namespace Driver.Alike

variable {d d' d'' : Driver} {id : ConnectionId} {request : Call}

theorem refl (d : Driver) : d.Alike d := ⟨rfl, rfl, fun _ _ => rfl⟩

theorem symm (h : d.Alike d') : d'.Alike d where
  initial := h.initial.symm
  nextId := h.nextId.symm
  faults fault hfault := (h.faults fault hfault).symm

theorem trans (h : d.Alike d') (h' : d'.Alike d'') : d.Alike d'' where
  initial := h'.initial.trans h.initial
  nextId := h'.nextId.trans h.nextId
  faults fault hfault := (h'.faults fault hfault).trans (h.faults fault hfault)

theorem of_call (h : d.call id request = .ok d') : d.Alike d' := by
  rw [call_eq_ok h]
  exact ⟨rfl, rfl, fun _ _ => rfl⟩

theorem of_release (h : d.release id = .ok d') : d.Alike d' := by
  rw [release, check] at h
  split at h
  · simp at h
  · obtain rfl := Except.ok.inj h
    exact ⟨rfl, rfl, fun _ _ => rfl⟩

/-- A fault of compensation was switched on or off. -/
theorem setFault (d : Driver) {fault : Fault}
    (hfault : fault.compensates = true) (on : Bool) :
    d.Alike (d.setFault fault on) where
  initial := rfl
  nextId := rfl
  faults other hother := by
    have hne : other ≠ fault := by
      rintro rfl
      simp [hother] at hfault
    rw [faults_setFault, if_neg hne]

end Driver.Alike

namespace State.Alike

variable {s s' s'' s₁ s₁' : State}

theorem refl (s : State) : s.Alike s := ⟨fun _ => .refl _, rfl, rfl, rfl, rfl⟩

theorem symm (h : s.Alike s') : s'.Alike s where
  drivers source := (h.drivers source).symm
  holders := h.holders.symm
  nextHolder := h.nextHolder.symm
  now := h.now.symm
  context := h.context.symm

theorem trans (h : s.Alike s') (h' : s'.Alike s'') : s.Alike s'' where
  drivers source := (h.drivers source).trans (h'.drivers source)
  holders := h'.holders.trans h.holders
  nextHolder := h'.nextHolder.trans h.nextHolder
  now := h'.now.trans h.now
  context := h'.context.trans h.context

/-- What is alike to each of two states that are alike is alike. -/
theorem across (h : s.Alike s') (h₁ : s.Alike s₁) (h₁' : s'.Alike s₁') :
    s₁.Alike s₁' :=
  (h₁.symm.trans h).trans h₁'

theorem boundHolder (h : s.Alike s') (key : Key) :
    s'.boundHolder key = s.boundHolder key := by
  rw [State.boundHolder, State.boundHolder, h.context]

/-! ## What stays alike by itself -/

theorem note (s : State) (n : Note) : s.Alike (s.note n) :=
  ⟨fun _ => .refl _, rfl, rfl, rfl, rfl⟩

theorem say (s : State) (line : Line) : s.Alike (s.say line) := note s _

theorem setDriver {source : SourceId} {driver : Driver}
    (h : (s.drivers source).Alike driver) :
    s.Alike (s.setDriver source driver) where
  drivers i := by
    rw [drivers_setDriver]
    split
    · next heq => exact heq ▸ h
    · exact .refl _
  holders := rfl
  nextHolder := rfl
  now := rfl
  context := rfl

theorem callDirectly (s : State) (conn : Connection) (request : Call) :
    s.Alike (s.callDirectly conn request).2 := by
  rw [State.callDirectly]
  cases hcall : (s.drivers conn.source).call conn.id request with
  | ok driver => exact setDriver (.of_call hcall)
  | error fault => exact refl s

theorem call (s : State) (conn : Connection) (request : Call) :
    s.Alike (s.call conn request).2 := by
  have hdirect := callDirectly s conn request
  rw [State.call]
  cases hcall : s.callDirectly conn request with
  | mk outcome s₁ =>
      rw [hcall] at hdirect
      cases outcome <;> exact hdirect.trans (note s₁ _)

theorem release (s : State) (source : SourceId) (conn : Connection) :
    s.Alike (s.release source conn).2 := by
  rw [State.release]
  cases hrelease : (s.drivers source).release conn.id with
  | ok driver => exact (setDriver (.of_release hrelease)).trans (note _ _)
  | error fault => exact note s _

theorem restoring {result : Except Fault Unit × State} (h : s.Alike result.2)
    (step : RestoringStep) : s.Alike (State.restoring step result) := by
  obtain ⟨outcome, s₁⟩ := result
  cases outcome with
  | ok _ => exact h
  | error fault => exact h.trans (say s₁ _)

theorem restoreSession (h : Handle) (conn : Connection) (s : State) :
    s.Alike (h.restoreSession conn s).2 := by
  have hauto : s.Alike
      (if h.restoresAutoCommit then
        State.restoring .restoreAutoCommit (s.call conn (.setAutoCommit true))
      else s) := by
    split
    · exact (call s conn _).restoring _
    · exact refl s
  rw [Handle.restoreSession]
  cases h.previousIsolation with
  | none => exact hauto
  | some level => exact hauto.trans ((call _ conn _).restoring _)

/-! ## What keeps two states alike -/

theorem setHolder (h : s.Alike s') (id : HolderId)
    (holder : Holder Connection) :
    (s.setHolder id holder).Alike (s'.setHolder id holder) :=
  { h with
    holders := by
      funext i
      rw [holders_setHolder, holders_setHolder, h.holders] }

theorem addHolder (h : s.Alike s') (holder : Holder Connection) :
    (s'.addHolder holder).1 = (s.addHolder holder).1 ∧
      (s.addHolder holder).2.Alike (s'.addHolder holder).2 := by
  refine ⟨h.nextHolder, { h with holders := ?_, nextHolder := ?_ }⟩
  · funext i
    rw [holders_addHolder, holders_addHolder, h.holders, h.nextHolder]
  · rw [nextHolder_addHolder, nextHolder_addHolder, h.nextHolder]

theorem unbind (h : s.Alike s') (key : Key) :
    (s.unbind key).2.Alike (s'.unbind key).2 := by
  rw [State.unbind, State.unbind, h.context]
  cases s.context.unbind key with
  | mk found context =>
      cases found with
      | none => exact h
      | some id =>
          have hset : State.Alike { s with context } { s' with context } :=
            { h with context := rfl }
          exact hset.across (say _ _) (say _ _)

/-- A key is taken in both states or in neither. -/
theorem bind (h : s.Alike s') (key : Key) (id : HolderId) :
    (∃ s₁ s₁', s.bind key id = .ok s₁ ∧ s'.bind key id = .ok s₁' ∧
      s₁.Alike s₁') ∨
      ∃ occupied, s.bind key id = .error occupied ∧
        s'.bind key id = .error occupied := by
  rw [State.bind, State.bind, h.context]
  cases s.context.bind key id with
  | ok context =>
      have hset : State.Alike { s with context } { s' with context } :=
        { h with context := rfl }
      exact Or.inl ⟨_, _, rfl, rfl, hset.across (say _ _) (say _ _)⟩
  | error occupied => exact Or.inr ⟨occupied, rfl, rfl⟩

/-! ## Answers -/

theorem faults (h : s.Alike s') (source : SourceId) {fault : Fault}
    (hfault : fault.compensates = false) :
    (s'.drivers source).faults fault = (s.drivers source).faults fault :=
  (h.drivers source).faults fault hfault

theorem callDirectly_answer (h : s.Alike s') (conn : Connection)
    {request : Call} (hfault : request.fault.compensates = false) :
    (s'.callDirectly conn request).1 = (s.callDirectly conn request).1 := by
  rw [State.callDirectly, State.callDirectly, Driver.call, Driver.call,
    Driver.check, Driver.check, h.faults conn.source hfault]
  cases (s.drivers conn.source).faults request.fault <;> rfl

/-- A call that does not put things back is answered in the same way. -/
theorem called (h : s.Alike s') (conn : Connection) {request : Call}
    (hfault : request.fault.compensates = false) :
    ∃ answer s₁ s₁', s.call conn request = (answer, s₁) ∧
      s'.call conn request = (answer, s₁') ∧ s₁.Alike s₁' := by
  have hanswer := h.callDirectly_answer conn hfault
  have hstate := h.across (call s conn request) (call s' conn request)
  rw [State.call, State.call] at hstate ⊢
  cases hdirect : s.callDirectly conn request with
  | mk answer t =>
      cases hdirect' : s'.callDirectly conn request with
      | mk answer' t' =>
          rw [hdirect, hdirect'] at hanswer hstate
          obtain rfl : answer' = answer := hanswer
          cases answer' <;> exact ⟨_, _, _, rfl, rfl, hstate⟩

/-- A connection whose session is the same has the same session after a call. -/
theorem session_call (h : s.Alike s') {conn : Connection} {request : Call}
    (hfault : request.fault.compensates = false)
    (hsession : s'.session conn = s.session conn) :
    (s'.call conn request).2.session conn =
      (s.call conn request).2.session conn := by
  rw [State.call, State.call, State.callDirectly, State.callDirectly,
    Driver.call, Driver.call, Driver.check, Driver.check,
    h.faults conn.source hfault]
  rw [World.session, World.session] at hsession
  cases (s.drivers conn.source).faults request.fault with
  | true => exact hsession
  | false => simp [World.session, Driver.record, hsession]

/-- A connection is created in both states or in neither, and its session is the
same. -/
theorem create (h : s.Alike s') (source : SourceId) :
    (∃ conn s₁ s₁', s.create source = (.ok conn, s₁) ∧
      s'.create source = (.ok conn, s₁') ∧
      s₁.Alike s₁' ∧ s₁'.session conn = s₁.session conn) ∨
    ∃ fault s₁ s₁', s.create source = (.error fault, s₁) ∧
      s'.create source = (.error fault, s₁') ∧ s₁.Alike s₁' := by
  have hdriver := h.drivers source
  rw [State.create, State.create, Driver.create, Driver.create, Driver.check,
    Driver.check, h.faults source rfl, hdriver.nextId, hdriver.initial]
  cases (s.drivers source).faults .create with
  | true => exact Or.inr ⟨_, _, _, rfl, rfl, h.across (note s _) (note s' _)⟩
  | false =>
      refine Or.inl ⟨_, _, _, rfl, rfl,
        State.Alike.across ?_ (note _ _) (note _ _), ?_⟩
      · refine { h with drivers := fun i => ?_ }
        rw [drivers_setDriver, drivers_setDriver]
        split
        · exact ⟨hdriver.initial, rfl, hdriver.faults⟩
        · exact h.drivers i
      · simp [World.session, Driver.record]

end State.Alike

/-! ## A beginning -/

structure Progress.Alike (p p' : Progress) : Prop where
  outcome : p'.outcome = p.outcome
  handle : p'.handle = p.handle
  state : p.state.Alike p'.state

theorem Progress.state_ofCall (h : Handle) (onSuccess : Handle → Handle)
    (result : Except Fault Unit × State) :
    (Progress.ofCall h onSuccess result).state = result.2 := by
  obtain ⟨outcome, s⟩ := result
  cases outcome <;> rfl

namespace Progress.Alike

variable {h : Handle} {s s' : State} {conn : Connection}

theorem nothing (hs : s.Alike s') (outcome : Except Cause Unit) (h : Handle) :
    Progress.Alike ⟨outcome, h, s⟩ ⟨outcome, h, s'⟩ :=
  ⟨rfl, rfl, hs⟩

theorem andThen {p p' : Progress} {next : Handle → State → Progress}
    (hp : p.Alike p')
    (hnext : (next p.handle p.state).Alike (next p.handle p'.state)) :
    (p.andThen next).Alike (p'.andThen next) := by
  rw [Progress.andThen, Progress.andThen, hp.outcome, hp.handle]
  cases p.outcome with
  | ok _ => exact hnext
  | error cause => exact hp

/-- A step that is one call. -/
theorem ofCall (hs : s.Alike s') (h : Handle) (onSuccess : Handle → Handle)
    {request : Call} (hfault : request.fault.compensates = false) :
    (Progress.ofCall h onSuccess (s.call conn request)).Alike
      (.ofCall h onSuccess (s'.call conn request)) := by
  obtain ⟨answer, s₁, s₁', hcall, hcall', hstate⟩ := hs.called conn hfault
  rw [hcall, hcall']
  cases answer <;> exact ⟨rfl, rfl, hstate⟩

end Progress.Alike

namespace Coordinator

variable {c : Coordinator} {d : Definition} {h : Handle} {s s' : State}
variable {conn : Connection}

theorem requestIsolation_alike (hs : s.Alike s')
    (hsession : s'.session conn = s.session conn) (d : Definition)
    (h : Handle) :
    (requestIsolation d conn h s).Alike (requestIsolation d conn h s') ∧
      (requestIsolation d conn h s').state.session conn =
        (requestIsolation d conn h s).state.session conn := by
  rw [requestIsolation, requestIsolation, State.isolation_eq,
    State.isolation_eq, hsession]
  cases d.isolation.resolve with
  | none => exact ⟨.nothing hs _ h, hsession⟩
  | some level =>
      dsimp only
      split
      · exact ⟨.nothing hs _ h, hsession⟩
      · have hsaid := hs.across (.say s (.changingIsolation conn level))
          (.say s' (.changingIsolation conn level))
        refine ⟨.ofCall hsaid h _ rfl, ?_⟩
        rw [Progress.state_ofCall, Progress.state_ofCall]
        exact hsaid.session_call rfl hsession

theorem disableAutoCommit_alike (hs : s.Alike s')
    (hsession : s'.session conn = s.session conn) (h : Handle) :
    (disableAutoCommit conn h s).Alike (disableAutoCommit conn h s') := by
  rw [disableAutoCommit, disableAutoCommit, State.autoCommit_eq,
    State.autoCommit_eq, hsession]
  split
  · exact .ofCall (hs.across (.say s _) (.say s' _)) h _ rfl
  · exact .nothing hs _ h

theorem enforceReadOnly_alike (hs : s.Alike s') (c : Coordinator)
    (d : Definition) (conn : Connection) (h : Handle) :
    (c.enforceReadOnly d conn h s).Alike (c.enforceReadOnly d conn h s') := by
  rw [enforceReadOnly, enforceReadOnly]
  split
  · exact .ofCall (hs.across (.say s _) (.say s' _)) h _ rfl
  · exact .nothing hs _ h

theorem activate_alike (hs : s.Alike s') (c : Coordinator) (d : Definition)
    (h : Handle) :
    (c.activate d h s).Alike (c.activate d h s') := by
  rw [activate, activate]
  cases h.holder with
  | none => exact .nothing hs _ h
  | some id =>
      simp only [hs.holders, hs.now]
      cases (s.holders id).activate (c.deadline d s.now) with
      | error reason => exact .nothing hs _ h
      | ok holder =>
          have hset := hs.setHolder id holder
          dsimp only
          split
          · rcases hset.bind c.key id with
              ⟨s₁, s₁', hbind, hbind', hbound⟩ | ⟨occupied, hbind, hbind'⟩
            · rw [hbind, hbind']
              exact .nothing hbound _ h
            · rw [hbind, hbind']
              exact .nothing hset _ h
          · exact .nothing hset _ h

theorem activate_handle (c : Coordinator) (d : Definition) (h : Handle)
    (s : State) :
    (c.activate d h s).handle = h := by
  rw [activate]
  cases h.holder with
  | none => rfl
  | some id =>
      dsimp only
      cases (s.holders id).activate (c.deadline d s.now) with
      | error reason => rfl
      | ok holder =>
          dsimp only
          split
          · cases (s.setHolder id holder).bind c.key id <;> rfl
          · rfl

theorem started_holder (d : Definition) (conn : Connection) (h : Handle)
    (s : State) :
    (started d conn h s).handle.holder = h.holder := by
  rcases started_cases d conn h s with
      ⟨_, hfollows⟩ | ⟨_, _, _, _, hfollows⟩ <;>
    exact hfollows.attempt.holder

/-- The steps up to the driver's own, on a connection with the same session. -/
theorem started_alike (hs : s.Alike s')
    (hsession : s'.session conn = s.session conn) (d : Definition)
    (h : Handle) : (started d conn h s).Alike (started d conn h s') := by
  obtain ⟨hisolated, hkept⟩ := requestIsolation_alike hs hsession d h
  have hmanual :
      ((requestIsolation d conn h s).andThen (disableAutoCommit conn)).Alike
      ((requestIsolation d conn h s').andThen (disableAutoCommit conn)) :=
    hisolated.andThen (disableAutoCommit_alike hisolated.state hkept _)
  rw [started, started]
  exact hmanual.andThen (.ofCall hmanual.state _ id rfl)

theorem givenUp_alike (c : Coordinator) (driverBegan : Bool) (conn : Connection)
    (h : Handle) (s : State) : s.Alike (c.givenUp driverBegan conn h s) := by
  have hback : s.Alike (rolledBack driverBegan conn s) := by
    rw [rolledBack]
    split
    · exact (State.Alike.call s conn .rollback).restoring _
    · exact .refl s
  have hsession := hback.trans (.restoreSession h conn _)
  unfold givenUp
  dsimp only
  split
  · apply State.Alike.restoring
    exact (hsession.trans (.say _ _)).trans (.release _ _ _)
  · exact hsession

/-- A beginning is abandoned in the same way, whichever calls fail in that. -/
theorem abandon_alike (hs : s.Alike s') {id : HolderId}
    (hholder : h.holder = some id) (c : Coordinator) (driverBegan : Bool)
    (conn : Connection) :
    (c.abandon driverBegan conn h s').1 = (c.abandon driverBegan conn h s).1 ∧
      (c.abandon driverBegan conn h s).2.Alike
        (c.abandon driverBegan conn h s').2 := by
  constructor
  · cases howns : h.ownsHolder <;>
      simp [abandon, discard, Handle.restoreSession, howns, hholder]
  · rw [abandon_snd hholder, abandon_snd hholder, hs.holders]
    exact (hs.across (c.givenUp_alike driverBegan conn h s)
      (c.givenUp_alike driverBegan conn h s')).setHolder id _

structure AlikeEnd (r r' : Except TransactionError Unit × Handle × State) :
    Prop where
  outcome : r'.1 = r.1
  handle : r'.2.1 = r.2.1
  state : r.2.2.Alike r'.2.2

theorem failBegin_alike (hs : s.Alike s') {id : HolderId}
    (hholder : h.holder = some id) (c : Coordinator) (driverBegan : Bool)
    (conn : Connection) (cause : Cause) :
    AlikeEnd (c.failBegin driverBegan conn cause h s)
      (c.failBegin driverBegan conn cause h s') :=
  ⟨rfl, (abandon_alike hs hholder c driverBegan conn).1,
    (abandon_alike hs hholder c driverBegan conn).2⟩

/-- A beginning goes on in the same way after the driver's own. -/
theorem afterStart_alike {p p' : Progress} (hp : p.Alike p') {id : HolderId}
    (hholder : p.handle.holder = some id) (c : Coordinator) (d : Definition)
    (conn : Connection) :
    AlikeEnd (c.afterStart d conn p) (c.afterStart d conn p') := by
  rw [afterStart, afterStart, hp.outcome, hp.handle]
  cases p.outcome with
  | error cause => exact failBegin_alike hp.state hholder c false conn cause
  | ok _ =>
      have henforced := enforceReadOnly_alike hp.state c d conn p.handle
      have hready : ((c.enforceReadOnly d conn p.handle p.state).andThen
          (c.activate d)).Alike
          ((c.enforceReadOnly d conn p.handle p'.state).andThen
            (c.activate d)) :=
        henforced.andThen (activate_alike henforced.state c d _)
      have hready_holder :
          ((c.enforceReadOnly d conn p.handle p.state).andThen
            (c.activate d)).handle.holder = some id := by
        have hsame :=
          (c.enforceReadOnly_follows d conn p.handle p.state).attempt.holder
        rw [Progress.andThen]
        split
        · rw [activate_handle, hsame, hholder]
        · rw [hsame, hholder]
      dsimp only
      rw [hready.outcome, hready.handle]
      generalize (c.enforceReadOnly d conn p.handle p.state).andThen
        (c.activate d) = q
        at hready hready_holder ⊢
      cases q.outcome with
      | error cause =>
          exact failBegin_alike hready.state hready_holder c true conn cause
      | ok _ => exact ⟨rfl, rfl, hready.state⟩

/-- A beginning on a new connection comes to the same end in states that are
alike. -/
theorem begin_alike (hs : s.Alike s') (hholder : h.holder = none)
    (c : Coordinator) (d : Definition) :
    AlikeEnd (c.begin d h s) (c.begin d h s') := by
  have hfresh : ∀ t, reusableHolder h t = none :=
    fun t => by simp [reusableHolder, hholder]
  rcases hs.create c.source.id with
    ⟨conn, s₁, s₁', hcreate, hcreate', hcreated, hsession⟩ |
      ⟨fault, s₁, s₁', hcreate, hcreate', hcreated⟩
  · have hsaid :=
      hcreated.across (.say s₁ (.acquired conn)) (.say s₁' (.acquired conn))
    obtain ⟨hid, hadded⟩ :=
      hsaid.addHolder { Holder.of conn with stage := .claimed }
    have hobtained : ∀ {t t₁ : State}, t.create c.source.id = (.ok conn, t₁) →
        c.obtainConnection h t =
          (.ok conn,
            { h with
              holder := some ((t₁.say (.acquired conn)).addHolder
                { Holder.of conn with stage := .claimed }).1
              ownsHolder := true },
            ((t₁.say (.acquired conn)).addHolder
              { Holder.of conn with stage := .claimed }).2) := by
      intro t t₁ hgiven
      rw [obtainConnection, hfresh, hgiven]
    rw [begin_of_obtained (hobtained hcreate),
      begin_of_obtained (hobtained hcreate'), hid]
    exact afterStart_alike (started_alike hadded hsession d _)
      (started_holder d conn _ _) c d conn
  · have hend : ∀ {t t₁ : State}, t.create c.source.id = (.error fault, t₁) →
        c.begin d h t = (.error (.cannotCreate (.fault fault)), h, t₁) := by
      intro t t₁ hrefused
      rw [begin, obtainConnection, hfresh, hrefused]
    rw [hend hcreate, hend hcreate']
    exact ⟨rfl, rfl, hcreated⟩

/-! ## The end of a transaction -/

variable {ε α : Type}

theorem finish_alike (hs : s.Alike s') (task : String) (request : Call)
    (hfault : request.fault.compensates = false)
    (announcement : Connection → Line) (h : Handle) :
    ∃ answer s₁ s₁', finish task request announcement h s = (answer, s₁) ∧
      finish task request announcement h s' = (answer, s₁') ∧ s₁.Alike s₁' := by
  have hconnection : h.connection s' = h.connection s := by
    rw [Handle.connection, Handle.connection, hs.holders]
  rw [finish, finish, hconnection]
  cases h.connection s with
  | error reason => exact ⟨_, s, s', rfl, rfl, hs⟩
  | ok conn =>
      have hsaid :=
        hs.across (.say s (announcement conn)) (.say s' (announcement conn))
      obtain ⟨answer, s₁, s₁', hcall, hcall', hstate⟩ :=
        hsaid.called conn hfault
      simp only [hcall, hcall']
      cases answer <;> exact ⟨_, s₁, s₁', rfl, rfl, hstate⟩

theorem rollbackAnyway_alike (hs : s.Alike s') (line : TransactionError → Line)
    (h : Handle) :
    (rollbackAnyway line h s).Alike (rollbackAnyway line h s') := by
  obtain ⟨answer, s₁, s₁', hfinish, hfinish', hstate⟩ :=
    finish_alike hs "rollback" .rollback rfl .rollingBack h
  rw [rollbackAnyway, rollbackAnyway, rollback, rollback, hfinish, hfinish']
  cases answer with
  | ok _ => exact hstate
  | error e => exact hstate.across (.say s₁ _) (.say s₁' _)

theorem rollbackWith_alike (hs : s.Alike s') (h : Handle)
    (result : Except (Failure ε) α) :
    (rollbackWith h result s').1 = (rollbackWith h result s).1 ∧
      (rollbackWith h result s).2.Alike (rollbackWith h result s').2 := by
  obtain ⟨answer, s₁, s₁', hfinish, hfinish', hstate⟩ :=
    finish_alike hs "rollback" .rollback rfl .rollingBack h
  rw [rollbackWith, rollbackWith, rollback, rollback, hfinish, hfinish']
  cases answer <;> exact ⟨rfl, hstate⟩

/-- A transaction ends in the same way, and with the same result. -/
theorem complete_alike (hs : s.Alike s') (h : Handle)
    (result : Except (Failure ε) α) :
    (complete h result s').1 = (complete h result s).1 ∧
      (complete h result s).2.Alike (complete h result s').2 := by
  have hmarked : h.isHolderRollbackOnly s' = h.isHolderRollbackOnly s := by
    rw [Handle.isHolderRollbackOnly, Handle.isHolderRollbackOnly, hs.holders]
  cases result with
  | error failure => exact ⟨rfl, rollbackAnyway_alike hs _ h⟩
  | ok value =>
      simp only [complete, hmarked]
      split
      · exact rollbackWith_alike (hs.across (.say s _) (.say s' _)) h _
      · split
        · exact rollbackWith_alike (hs.across (.say s _) (.say s' _)) h _
        · obtain ⟨answer, s₁, s₁', hfinish, hfinish', hstate⟩ :=
            finish_alike hs "commit" .commit rfl .committing h
          rw [commit, commit, hfinish, hfinish']
          cases answer <;> exact ⟨rfl, hstate⟩

theorem restored_alike (c : Coordinator) (h : Handle) (id : HolderId)
    (s : State) :
    s.Alike (c.restored h id s) := by
  rw [restored]
  split
  · next conn _ =>
      have hsession := State.Alike.restoreSession h conn s
      unfold restoreConnection
      dsimp only
      split
      · apply State.Alike.restoring
        exact (hsession.trans (.say _ _)).trans (.release _ _ _)
      · exact hsession
  · exact .refl s

/-- A clean-up leaves the same holders and the same bindings, whichever calls
fail in it. -/
theorem cleanup_alike (hs : s.Alike s') (c : Coordinator) (h : Handle) :
    (c.cleanup h s).Alike (c.cleanup h s') := by
  cases hholder : h.holder with
  | none =>
      rw [cleanup, cleanup, hholder]
      exact hs
  | some id =>
      have hreleased : (c.released h id s).Alike (c.released h id s') := by
        rw [released, released, unbindHolder, unbindHolder, hs.boundHolder]
        split
        · split
          · exact hs.unbind c.key
          · exact hs
        · exact hs
      have hrestored :=
        hreleased.across (c.restored_alike h id _) (c.restored_alike h id _)
      rw [cleanup_eq hholder, cleanup_eq hholder, hrestored.holders]
      exact hrestored.setHolder id _

/-! ## Suspending and resuming -/

theorem setAside_alike (hs : s.Alike s') (c : Coordinator)
    (suspended : Option HolderId) :
    (c.setAside suspended s).Alike (c.setAside suspended s') := by
  cases suspended with
  | none => exact hs
  | some id => exact hs.unbind c.key

theorem resume_alike (hs : s.Alike s') (c : Coordinator) (id : HolderId) :
    ∃ answer s₁ s₁', c.resume id s = (answer, s₁) ∧
      c.resume id s' = (answer, s₁') ∧
      s₁.Alike s₁' := by
  rw [resume, resume]
  rcases hs.bind c.key id with
    ⟨s₁, s₁', hbind, hbind', hbound⟩ | ⟨occupied, hbind, hbind'⟩
  · rw [hbind, hbind']
    exact ⟨_, s₁, s₁', rfl, rfl, hbound⟩
  · rw [hbind, hbind']
    exact ⟨_, s, s', rfl, rfl, hs⟩

theorem course_alike (hs : s.Alike s') (c : Coordinator) (d : Definition) :
    c.course d s' = c.course d s := by
  rw [course, course, running, running, hs.boundHolder, hs.holders]

end Coordinator

end UnitOfWork
