import UnitOfWork.Proofs.Completion
import UnitOfWork.Proofs.Protocol

/-!
# What a transaction says to its connection

A beginning makes the calls that its definition asks for, in the session that it
finds, until one of them fails; the handle notes what there is to restore after
them.  Whoever ends the attempt, the failed beginning itself or the clean-up
after the work, makes the calls that the handle owes then, whichever of them
fail.  So an attempt that has its connection to itself follows the protocol.
-/

namespace UnitOfWork

/-! ## What a handle owes to the session -/

namespace Handle

/-- The calls that a handle has still to make to put the session back. -/
def owed (h : Handle) : List Call :=
  (if h.restoresAutoCommit then [.setAutoCommit true] else []) ++
    h.previousIsolation.toList.map .setIsolation

/-- The handle after some calls of a beginning, in a session that had these
settings before: it knows what they have changed. -/
def noted (h : Handle) (settings : Settings)
    (made : List (Call × Option Fault)) : Handle :=
  { h with
    restoresAutoCommit :=
      h.restoresAutoCommit || decide (.setAutoCommit false ∈ succeeded made)
    previousIsolation :=
      if (succeeded made).any Call.isIsolation then some settings.isolation
      else h.previousIsolation }

variable {h : Handle} {settings : Settings}
variable {made made' : List (Call × Option Fault)}

theorem noted_of_none (hnone : succeeded made = []) :
    h.noted settings made = h := by
  simp [noted, hnone]

/-- There is nothing to note about statements. -/
theorem noted_of_statements
    (hstatements : ∀ request ∈ succeeded made, request.isStatement = true) :
    h.noted settings made = h := by
  have hauto : .setAutoCommit false ∉ succeeded made := fun hmem => by
    cases hstatements _ hmem
  have hlevel : (succeeded made).any Call.isIsolation = false := by
    apply List.any_eq_false.mpr
    intro request hmem hisolation
    cases request with
    | setIsolation level => cases hstatements _ hmem
    | _ => cases hisolation
  simp [noted, hauto, hlevel]

theorem noted_noted : (h.noted settings made).noted settings made' =
    h.noted settings (made ++ made') := by
  simp only [noted, succeeded_append, List.mem_append, List.any_append,
    Bool.or_assoc, Bool.decide_or]
  cases (succeeded made).any Call.isIsolation <;>
    cases (succeeded made').any Call.isIsolation <;> rfl

/-- A handle that owed nothing owes what puts back the calls that it has
noted. -/
theorem owed_noted (settings : Settings) (made : List (Call × Option Fault))
    (hnothing : h.owed = []) :
    (h.noted settings made).owed = settings.restoringCalls made := by
  obtain ⟨hauto, hlevel⟩ := List.append_eq_nil_iff.mp hnothing
  have hrestores : h.restoresAutoCommit = false := by
    cases hr : h.restoresAutoCommit with
    | false => rfl
    | true => simp [hr] at hauto
  have hprevious : h.previousIsolation = none := by simpa using hlevel
  simp only [owed, noted, Settings.restoringCalls, hrestores, hprevious,
    Bool.false_or, decide_eq_true_eq]
  cases (succeeded made).any Call.isIsolation <;> rfl

end Handle

/-! ## Steps of a beginning -/

/-- A step of a beginning makes calls on a connection until one of them fails,
and notes in the handle what there is to restore after them. -/
structure Progress.Tries (conn : Connection) (settings : Settings)
    (requests : List Call) (made : List (Call × Option Fault)) (h : Handle)
    (s : State) (p : Progress) : Prop where
  tried : Tried requests made p.outcome.isOk
  said : State.Said conn made (succeeded made) s p.state
  handle : p.handle = h.noted settings made

namespace Progress.Tries

variable {conn : Connection} {settings : Settings}
variable {requests requests' : List Call}
variable {made made' : List (Call × Option Fault)} {h : Handle} {s : State}

/-- A step that makes no call. -/
theorem nothing (h : Handle) (s : State) :
    Tries conn settings [] [] h s ⟨.ok (), h, s⟩ :=
  ⟨.done, .silent (.refl conn s), (Handle.noted_of_none rfl).symm⟩

/-- The next step goes on if this one succeeded. -/
theorem andThen {p : Progress} {next : Handle → State → Progress}
    (hp : p.Tries conn settings requests made h s)
    (hnext : ∃ made',
      (next p.handle p.state).Tries conn settings requests' made' p.handle
      p.state) :
    ∃ made', (p.andThen next).Tries conn settings
      (requests ++ requests') made' h s := by
  rw [Progress.andThen]
  have htried := hp.tried
  cases hout : p.outcome with
  | error cause =>
      rw [hout] at htried
      refine ⟨made, ?_, hp.said, hp.handle⟩
      rw [hout]
      exact htried.stopped requests'
  | ok _ =>
      rw [hout] at htried
      obtain ⟨made', hnext⟩ := hnext
      have hboth := hp.said.trans hnext.said
      rw [← succeeded_append] at hboth
      refine ⟨made ++ made', htried.append hnext.tried, hboth, ?_⟩
      rw [hnext.handle, hp.handle, Handle.noted_noted]

/-- A step that is one call, which is noted if it succeeds. -/
theorem ofCall (conn : Connection) (settings : Settings) (h : Handle)
    (s : State) (request : Call) (onSuccess : Handle → Handle)
    (hnoted : onSuccess h = h.noted settings [(request, none)]) :
    ∃ made, (Progress.ofCall h onSuccess (s.call conn request)).Tries conn
      settings [request]
      made h s := by
  have hsaid := State.Said.call s conn request
  cases hresult : s.call conn request with
  | mk outcome s' =>
      rw [hresult] at hsaid
      cases outcome with
      | ok _ => exact ⟨_, .next request .done, hsaid, hnoted⟩
      | error fault =>
          exact ⟨_, .failed request fault [], hsaid,
            (Handle.noted_of_none rfl).symm⟩

/-- A line before a step is not said on the connection. -/
theorem after_say {line : Line} {p : Progress}
    (hp : p.Tries conn settings requests made h (s.say line)) :
    p.Tries conn settings requests made h s :=
  ⟨hp.tried, (State.Said.silent (.say s line)).trans hp.said, hp.handle⟩

end Progress.Tries

namespace Coordinator

variable {c : Coordinator} {d : Definition} {conn : Connection} {h : Handle}
variable {s : State} {settings : Settings}

theorem requestIsolation_tries (d : Definition) (h : Handle)
    (hsettings : Settings.reported (s.session conn) = settings) :
    ∃ made, (requestIsolation d conn h s).Tries conn settings
      ((d.levelToSet settings).toList.map .setIsolation) made h s := by
  have hcurrent : s.isolation conn = settings.isolation := by
    rw [State.isolation_eq, hsettings]
  rw [requestIsolation, Definition.levelToSet]
  cases d.isolation.resolve with
  | none => exact ⟨[], .nothing h s⟩
  | some level =>
      simp only [hcurrent, Option.filter]
      by_cases hsame : settings.isolation.equivalent level = true
      · simp only [hsame, if_true, Bool.not_true, Bool.false_eq_true, if_false]
        exact ⟨[], .nothing h s⟩
      · simp only [hsame, Bool.not_false, if_true, Bool.false_eq_true, if_false]
        have hcall := Progress.Tries.ofCall conn settings h
          (s.say (.changingIsolation conn level)) (.setIsolation level)
          (fun h => { h with previousIsolation := some settings.isolation })
          (by simp [Handle.noted, Call.isIsolation])
        exact Exists.imp (fun made hmade => hmade.after_say) hcall

theorem disableAutoCommit_tries (h : Handle)
    (hauto : (Settings.reported (s.session conn)).autoCommit =
      settings.autoCommit) :
    ∃ made, (disableAutoCommit conn h s).Tries conn settings
      (if settings.autoCommit then [.setAutoCommit false] else [])
      made h s := by
  rw [disableAutoCommit, State.autoCommit_eq, hauto]
  cases settings.autoCommit with
  | false => exact ⟨[], .nothing h s⟩
  | true =>
      have hcall := Progress.Tries.ofCall conn settings h
        (s.say (.disablingAutoCommit conn))
        (.setAutoCommit false) (fun h => { h with restoresAutoCommit := true })
        (by simp [Handle.noted, Call.isIsolation])
      exact Exists.imp (fun made hmade => hmade.after_say) hcall

theorem beginOnDriver_tries (settings : Settings) (h : Handle) (s : State) :
    ∃ made, (beginOnDriver conn h s).Tries conn settings [.begin] made h s :=
  Progress.Tries.ofCall conn settings h s .begin
    id (by simp [Handle.noted, Call.isIsolation])

/-- The steps up to the driver's own make the calls that the definition asks
for. -/
theorem started_tries (d : Definition) (h : Handle)
    (hsettings : Settings.reported (s.session conn) = settings) :
    ∃ made, (started d conn h s).Tries conn settings
      (d.openingCalls settings) made h s := by
  obtain ⟨made, hlevel⟩ := requestIsolation_tries d h hsettings
  -- Until then only the isolation level was set.
  have honly : ∀ request ∈ succeeded made, request.isIsolation = true := by
    intro request hrequest
    obtain ⟨level, -, rfl⟩ :=
      List.mem_map.mp (hlevel.tried.mem_of_succeeded request hrequest)
    rfl
  have hauto : (Settings.reported
      ((requestIsolation d conn h s).state.session conn)).autoCommit =
        settings.autoCommit := by
    rw [hlevel.said.session, Settings.autoCommit_after _ honly, hsettings]
  obtain ⟨made', hready⟩ := hlevel.andThen (disableAutoCommit_tries _ hauto)
  obtain ⟨made'', hstarted⟩ := hready.andThen (beginOnDriver_tries settings _ _)
  rw [List.append_assoc] at hstarted
  exact ⟨made'', hstarted⟩

/-- The read-only statement leaves nothing to restore. -/
theorem enforceReadOnly_tries (c : Coordinator) (d : Definition)
    (settings : Settings) (h : Handle) (s : State) :
    ∃ made, (c.enforceReadOnly d conn h s).Tries conn settings
      (c.readOnlyCalls d) made h s ∧
      (c.enforceReadOnly d conn h s).handle = h := by
  have hmade : ∃ made,
      (c.enforceReadOnly d conn h s).Tries conn settings (c.readOnlyCalls d)
      made h s := by
    rw [enforceReadOnly, readOnlyCalls]
    cases c.config.enforceReadOnly && d.readOnly with
    | false => exact ⟨[], .nothing h s⟩
    | true =>
        have hcall := Progress.Tries.ofCall conn settings h
          (s.say (.markingReadOnly conn)) (.execute c.config.readOnlyStatement)
          id (by simp [Handle.noted, Call.isIsolation])
        exact Exists.imp (fun made hmade => hmade.after_say) hcall
  obtain ⟨made, hmade⟩ := hmade
  refine ⟨made, hmade,
    hmade.handle.trans (Handle.noted_of_statements fun request hmem => ?_)⟩
  have hasked := hmade.tried.mem_of_succeeded request hmem
  rw [readOnlyCalls] at hasked
  split at hasked
  · obtain rfl := List.mem_singleton.mp hasked
    rfl
  · cases hasked

end Coordinator

/-! ## Faults -/

/-- No commit fails, and no rollback. -/
def World.Lenient (w : World) : Prop :=
  ∀ source, (w.drivers source).faults .commit = false ∧
    (w.drivers source).faults .rollback = false

theorem Driver.faults_of_call {d d' : Driver} {id : ConnectionId}
    {request : Call} (h : d.call id request = .ok d') :
    d'.faults = d.faults := by
  rw [call_eq_ok h]
  rfl

theorem Driver.faults_of_release {d d' : Driver} {id : ConnectionId}
    (h : d.release id = .ok d') : d'.faults = d.faults := by
  rw [release] at h
  split at h
  · cases h
  · rw [← Except.ok.inj h]
    rfl

theorem Driver.faults_of_create {d d' : Driver} {id : ConnectionId}
    (h : d.create = .ok (id, d')) : d'.faults = d.faults := by
  rw [create] at h
  split at h
  · cases h
  · rw [← (Prod.mk.inj (Except.ok.inj h)).2]
    rfl

namespace State

theorem faults_setDriver {s : State} {source : SourceId} {driver : Driver}
    (h : driver.faults = (s.drivers source).faults) (other : SourceId) :
    ((s.setDriver source driver).drivers other).faults =
      (s.drivers other).faults := by
  rw [drivers_setDriver]
  split
  · next heq => rw [heq, h]
  · rfl

theorem faults_callDirectly (s : State) (conn : Connection) (request : Call)
    (source : SourceId) :
    ((s.callDirectly conn request).2.drivers source).faults =
      (s.drivers source).faults := by
  rw [callDirectly]
  cases hcall : (s.drivers conn.source).call conn.id request with
  | error fault => rfl
  | ok driver => exact faults_setDriver (Driver.faults_of_call hcall) source

theorem faults_call (s : State) (conn : Connection) (request : Call)
    (source : SourceId) :
    ((s.call conn request).2.drivers source).faults =
      (s.drivers source).faults := by
  have hdirect := faults_callDirectly s conn request source
  rw [State.call]
  cases hresult : s.callDirectly conn request with
  | mk outcome s' =>
      rw [hresult] at hdirect
      cases outcome <;> exact hdirect

theorem faults_release (s : State) (place : SourceId) (conn : Connection)
    (source : SourceId) :
    ((s.release place conn).2.drivers source).faults =
      (s.drivers source).faults := by
  rw [release]
  cases hrelease : (s.drivers place).release conn.id with
  | error fault => rfl
  | ok driver =>
      exact faults_setDriver (Driver.faults_of_release hrelease) source

theorem faults_create (s : State) (place source : SourceId) :
    ((s.create place).2.drivers source).faults = (s.drivers source).faults := by
  rw [create]
  cases hcreate : (s.drivers place).create with
  | error fault => rfl
  | ok made => exact faults_setDriver (Driver.faults_of_create hcreate) source

/-- Operations on connections switch no fault on or off. -/
theorem Confined.faults {on : Connection → Prop} {s s' : State}
    (h : Confined on s s') (source : SourceId) :
    (s'.drivers source).faults = (s.drivers source).faults := by
  induction h with
  | refl => rfl
  | say _ line ih => exact ih
  | call _ _ request ih => exact (faults_call _ _ request source).trans ih
  | @create s₁ s₂ _ place outcome hcreate _ ih =>
      have hcreated := faults_create s₁ place source
      rw [hcreate] at hcreated
      exact hcreated.trans ih
  | release _ _ ih => exact (faults_release _ _ _ source).trans ih
  | hold _ _ _ hdrivers ih => rw [hdrivers, ih]

theorem Confined.lenient {on : Connection → Prop} {s s' : State}
    (h : Confined on s s') (hlenient : s.Lenient) : s'.Lenient := by
  intro source
  rw [h.faults]
  exact hlenient source

/-- A call is answered unless its fault is switched on. -/
theorem faultOf_call {s : State} {conn : Connection} {request : Call}
    (h : (s.drivers conn.source).faults request.fault = false) :
    faultOf (s.call conn request).1 = none := by
  simp [State.call, callDirectly, Driver.call, Driver.check, h, faultOf]

theorem faultOf_last {s : State} (h : s.Lenient) (conn : Connection)
    {last : Call} (hlast : last = .commit ∨ last = .rollback) :
    faultOf (s.call conn last).1 = none := by
  obtain ⟨hcommit, hrollback⟩ := h conn.source
  rcases hlast with rfl | rfl
  · exact faultOf_call hcommit
  · exact faultOf_call hrollback

/-- A commit or a rollback where none fails. -/
theorem Said.last {s : State} (hlenient : s.Lenient) (conn : Connection)
    {last : Call} (hlast : last = .commit ∨ last = .rollback) :
    Said conn [(last, none)] [last] s (s.call conn last).2 := by
  have hsaid := Said.call s conn last
  rwa [faultOf_last hlenient conn hlast] at hsaid

/-! ## Ends of attempts -/

/-- A restoring step makes its call, and a failure of that is ignored. -/
theorem Said.restoring (step : RestoringStep) (s : State) (conn : Connection)
    (request : Call) :
    ∃ fault, Said conn [(request, fault)] (succeeded [(request, fault)]) s
      (State.restoring step (s.call conn request)) :=
  ⟨_, Heard.restoring step (Said.call s conn request)⟩

/-- How the connection of an attempt is left: it is handed back to its source if
the attempt had acquired it, and nothing is done to it otherwise. -/
def Parted (owns : Bool) (conn : Connection) (s s' : State) : Prop :=
  ∃ fault, ReleaseOutcome fault ∧
    Heard conn (if owns then
      [.driver (.release conn.source conn) fault] else [])
      (if owns ∧ fault = none then [.released conn.id] else []) s s'

theorem Parted.andThen {owns : Bool} {conn : Connection} {s s' s'' : State}
    (h : Parted owns conn s s') (h' : Heard conn [] [] s' s'') :
    Parted owns conn s s'' := by
  obtain ⟨fault, hfault, hheard⟩ := h
  exact ⟨fault, hfault, hheard.andThen h'⟩

/-- What an attempt has acquired is handed back, between two lines in the
journal of which the second reports a failure. -/
theorem parted_handedBack (owns : Bool) (line : Line) (step : RestoringStep)
    {source : SourceId} {conn : Connection}
    (hsource : owns = true → conn.source = source) (s : State) :
    Parted owns conn s (if owns then
      handedBack line step source conn s else s) := by
  cases owns with
  | false => exact ⟨none, Or.inl rfl, by simpa using Heard.refl conn s⟩
  | true =>
      obtain rfl := hsource rfl
      have hreleased :=
        (Heard.say s line).after (Heard.released (s.say line) conn)
      refine ⟨_, (s.say line).faultOf_release conn.source conn, ?_⟩
      simp only [if_true, true_and]
      exact hreleased.restoring step

end State

/-- A handle makes all the calls that it owes, whichever of them fail. -/
theorem Handle.said_restoreSession (h : Handle) (conn : Connection)
    (s : State) :
    ∃ closed, closed.map Prod.fst = h.owed ∧
      State.Said conn closed (succeeded closed) s
        (h.restoreSession conn s).2 := by
  have hauto : ∃ closed, closed.map Prod.fst =
      (if h.restoresAutoCommit then [.setAutoCommit true] else []) ∧
      State.Said conn closed (succeeded closed) s
        (if h.restoresAutoCommit then
          State.restoring .restoreAutoCommit (s.call conn (.setAutoCommit true))
        else s) := by
    cases h.restoresAutoCommit with
    | false => exact ⟨[], rfl, .silent (.refl conn s)⟩
    | true =>
        obtain ⟨fault, hsaid⟩ := State.Said.restoring .restoreAutoCommit s conn
          (.setAutoCommit true)
        exact ⟨_, rfl, hsaid⟩
  obtain ⟨closed, hclosed, hsaid⟩ := hauto
  rw [Handle.restoreSession, Handle.owed]
  cases h.previousIsolation with
  | none => exact ⟨closed, by simpa using hclosed, hsaid⟩
  | some level =>
      obtain ⟨fault, hlevel⟩ := State.Said.restoring .restoreIsolation _ conn
        (.setIsolation level)
      have hboth := hsaid.trans hlevel
      rw [← succeeded_append] at hboth
      exact ⟨_, by simpa using hclosed, hboth⟩

namespace Coordinator

variable {ε α : Type} {c : Coordinator} {d : Definition} {conn : Connection}
variable {h : Handle} {s : State} {id : HolderId}

/-- What a handle owes is said when its beginning is abandoned, after the driver
was rolled back if it had begun. -/
theorem abandon_said (hholder : h.holder = some id)
    (hsource : h.ownsHolder = true → conn.source = c.source.id)
    (driverBegan : Bool) :
    ∃ rolled closed s', rolled.map Prod.fst =
      (if driverBegan then [.rollback] else []) ∧
      (s.Lenient → ∀ r ∈ rolled, r.2 = none) ∧ closed.map Prod.fst = h.owed ∧
      State.Said conn (rolled ++ closed)
        (succeeded rolled ++ succeeded closed) s s' ∧
      State.Parted h.ownsHolder conn s' (c.abandon driverBegan conn h s).2 := by
  have hback : ∃ rolled, rolled.map Prod.fst =
      (if driverBegan then [.rollback] else []) ∧
      (s.Lenient → ∀ r ∈ rolled, r.2 = none) ∧
      State.Said conn rolled (succeeded rolled) s
        (rolledBack driverBegan conn s) := by
    rw [rolledBack]
    cases driverBegan with
    | false => exact ⟨[], rfl, fun _ r hr => (List.not_mem_nil hr).elim,
        .silent (.refl conn s)⟩
    | true =>
        refine ⟨_, rfl, fun hlenient r hr => ?_,
          State.Heard.restoring _ (State.Said.call s conn .rollback)⟩
        rw [List.mem_singleton.mp hr]
        exact State.faultOf_last hlenient conn (Or.inr rfl)
  obtain ⟨rolled, hrolled, hnone, hback⟩ := hback
  obtain ⟨closed, hclosed, hsaid⟩ :=
    h.said_restoreSession conn (rolledBack driverBegan conn s)
  have hparted := State.parted_handedBack h.ownsHolder
    (.releasingAfterFailedBegin conn)
    .releaseAfterFailedBegin hsource
      (h.restoreSession conn (rolledBack driverBegan conn s)).2
  refine ⟨rolled, closed, _, hrolled, hnone, hclosed, hback.trans hsaid, ?_⟩
  rw [abandon_snd hholder]
  exact hparted.andThen (.of_drivers rfl rfl)

/-- If rollbacks succeed, so does that one. -/
theorem said_abandon (hlenient : s.Lenient) (hholder : h.holder = some id)
    (hsource : h.ownsHolder = true → conn.source = c.source.id)
    (driverBegan : Bool) :
    ∃ closed s', closed.map Prod.fst = h.owed ∧
      State.Said conn
        ((if driverBegan then [(.rollback, none)] else []) ++ closed)
        ((if driverBegan then [.rollback] else []) ++ succeeded closed) s s' ∧
      State.Parted h.ownsHolder conn s' (c.abandon driverBegan conn h s).2 := by
  obtain ⟨rolled, closed, s', hrolled, hnone, hclosed, hsaid, hparted⟩ :=
    abandon_said (s := s) hholder hsource driverBegan
  have hmade : rolled = if driverBegan then [(.rollback, none)] else [] := by
    cases driverBegan with
    | false => exact List.map_eq_nil_iff.mp hrolled
    | true =>
        obtain ⟨⟨request, fault⟩, rfl, rfl⟩ :=
          List.map_eq_singleton_iff.mp hrolled
        obtain rfl : fault = none :=
          hnone hlenient _ (List.mem_singleton_self _)
        rfl
  subst hmade
  refine ⟨closed, s', hclosed, ?_, hparted⟩
  cases driverBegan <;> exact hsaid

/-- What a handle owes is said when it is cleaned up. -/
theorem said_cleanup (hholder : h.holder = some id)
    (hconn : (s.holders id).connection = some conn)
    (hsource : h.ownsHolder = true → conn.source = c.source.id) :
    ∃ closed s', closed.map Prod.fst = h.owed ∧
      State.Said conn closed (succeeded closed) s s' ∧
      State.Parted h.ownsHolder conn s' (c.cleanup h s) := by
  have hreleased : State.Heard conn [] [] s (c.released h id s) :=
    (c.confined_released (fun _ => False) h id s).heard not_false
  obtain ⟨closed, hclosed, hsaid⟩ :=
    h.said_restoreSession conn (c.released h id s)
  have hparted := State.parted_handedBack h.ownsHolder (.releasing conn)
    .release hsource (h.restoreSession conn (c.released h id s)).2
  refine ⟨closed, _, hclosed, (State.Said.silent hreleased).trans hsaid, ?_⟩
  rw [cleanup_eq hholder]
  simp only [restored, holders_released, hconn, restoreConnection]
  exact hparted.andThen (.of_drivers rfl rfl)

/-- The call by which a transaction ends, whatever becomes of it. -/
theorem finish_said (hconn : h.connection s = .ok conn) (task : String)
    (last : Call) (announcement : Connection → Line) :
    ∃ fault, (s.Lenient → (last = .commit ∨ last = .rollback) → fault = none) ∧
      State.Said conn [(last, fault)] (succeeded [(last, fault)]) s
        (finish task last announcement h s).2 := by
  have hsaid := (State.Said.silent (.say s (announcement conn))).trans
    (State.Said.call (s.say (announcement conn)) conn last)
  refine ⟨faultOf ((s.say (announcement conn)).call conn last).1,
    fun hlenient hlast =>
      State.faultOf_last (s := s.say _) hlenient conn hlast, ?_⟩
  simp only [finish, hconn]
  cases hresult : (s.say (announcement conn)).call conn last with
  | mk outcome s' =>
      rw [hresult] at hsaid
      cases outcome <;> exact hsaid

theorem said_finish (hlenient : s.Lenient) (hconn : h.connection s = .ok conn)
    (task : String) {last : Call} (hlast : last = .commit ∨ last = .rollback)
    (announcement : Connection → Line) :
    State.Said conn [(last, none)]
      [last] s (finish task last announcement h s).2 := by
  obtain ⟨fault, hnone, hsaid⟩ := finish_said hconn task last announcement
  rwa [hnone hlenient hlast] at hsaid

/-- A transaction ends by one commit or one rollback. -/
theorem said_complete (hlenient : s.Lenient) (hconn : h.connection s = .ok conn)
    (result : Except (Failure ε) α) :
    ∃ last, (last = .commit ∨ last = .rollback) ∧
      State.Said conn [(last, none)] [last] s (complete h result s).2 := by
  have hrollback : ∀ line, State.Said conn [(.rollback, none)] [.rollback] s
      (rollback h (s.say line)).2 := fun line =>
    (State.Heard.say s line).after
      (said_finish (s := s.say line) hlenient hconn "rollback"
        (Or.inr rfl) .rollingBack)
  unfold complete
  cases result with
  | error failure =>
      refine ⟨.rollback, Or.inr rfl, ?_⟩
      have hfinished :=
        said_finish hlenient hconn "rollback" (Or.inr rfl) .rollingBack
      simp only [rollbackAnyway, rollback]
      cases hresult : finish "rollback" .rollback .rollingBack h s with
      | mk outcome s' =>
          rw [hresult] at hfinished
          cases outcome with
          | ok _ => exact hfinished
          | error e => exact hfinished.andThen (.say s' _)
  | ok value =>
      simp only
      split
      · exact ⟨.rollback, Or.inr rfl,
          by rw [rollbackWith_snd]; exact hrollback _⟩
      · split
        · exact ⟨.rollback, Or.inr rfl,
            by rw [rollbackWith_snd]; exact hrollback _⟩
        · have hfinished :=
            said_finish hlenient hconn "commit" (Or.inl rfl) .committing
          refine ⟨.commit, Or.inl rfl, ?_⟩
          rw [commit]
          cases hresult : finish "commit" .commit .committing h s with
          | mk outcome s' =>
              rw [hresult] at hfinished
              cases outcome <;> exact hfinished

/-! ## Beginnings -/

/-- A connection that an attempt acquires is created, and one that was there
hears nothing. -/
theorem Obtained.heard {h₁ : Handle} {s₁ : State} (howns : h.ownsHolder = false)
    (hobtained : c.Obtained h s conn id h₁ s₁) :
    State.Heard conn []
      (if h₁.ownsHolder then [.created conn.id] else []) s s₁ := by
  cases hobtained with
  | reused hholder hstage hconn =>
      rw [howns]
      exact .of_drivers rfl rfl
  | @created s₁ hcreate =>
      have hsource : conn.source = c.source.id :=
        (State.Deals.create hcreate (.acquired conn) rfl).2
      rw [← hsource] at hcreate
      have hcreated :=
        (State.Heard.created hcreate).2.andThen (.say s₁ (.acquired conn))
      exact hcreated.andThen (.of_drivers rfl rfl)

theorem Obtained.owed {h₁ : Handle} {s₁ : State}
    (hobtained : c.Obtained h s conn id h₁ s₁) : h₁.owed = h.owed := by
  cases hobtained <;> rfl

/-- The ways in which a beginning can go, with all that is said on its
connection. -/
inductive Outset (c : Coordinator) (d : Definition) (h : Handle) (s : State) :
    Except TransactionError Unit × Handle × State → Prop
  /-- There was no connection to begin on. -/
  | refused {e : TransactionError} {h' : Handle} {s' : State}
      (hsame : State.SameHolders s s')
      (hconfined : State.Confined (fun _ => False) s s') :
      Outset c d h s (.error e, h', s')
  /-- It failed and was abandoned, with which the attempt was at its end. -/
  | abandoned {conn : Connection} {id : HolderId} {h₁ : Handle} {s₁ s₂ : State}
      {made : List (Call × Option Fault)} {calls : List Call}
      {e : TransactionError}
      {h' : Handle} {s' : State} (hobtained : c.Obtained h s conn id h₁ s₁)
      (hattempt : Attempt c d (.reported (s₁.session conn)) made calls)
      (hsaid : State.Said conn made calls s₁ s₂)
      (hparted : State.Parted h₁.ownsHolder conn s₂ s')
      (hconfined : State.Confined (· = conn) s s') :
      Outset c d h s (.error e, h', s')
  /-- It succeeded, and the handle knows what there is to restore. -/
  | opened {conn : Connection} {id : HolderId} {h₁ h' : Handle} {s₁ s' : State}
      {opened marked : List (Call × Option Fault)}
      (hobtained : c.Obtained h s conn id h₁ s₁)
      (howns : h'.ownsHolder = h₁.ownsHolder)
      (hbegun : c.Begun h s conn id h' s')
      (hopened : Tried (d.openingCalls (.reported (s₁.session conn)))
        opened true)
      (hmarked : Tried (c.readOnlyCalls d) marked true)
      (hsaid : State.Said conn (opened ++ marked)
        (succeeded opened ++ succeeded marked) s₁ s')
      (howed : h'.owed =
        (Settings.reported (s₁.session conn)).restoringCalls opened)
      (hconfined : State.Confined (· = conn) s s') :
      Outset c d h s (.ok (), h', s')

section

variable {h₁ h₂ : Handle} {s₁ s₂ s₃ : State}
variable {calls : List (Call × Option Fault)}
variable {opened marked : List (Call × Option Fault)} {e : TransactionError}

theorem Obtained.source_of_owns (hobtained : c.Obtained h s conn id h₁ s₁)
    (howns : h.ownsHolder = false) (hsame : h₁.SameAttempt h₂)
    (howns₂ : h₂.ownsHolder = true) : conn.source = c.source.id :=
  (hobtained.created_of_owns (fun _ _ _ => howns)
    (hsame.ownsHolder.symm.trans howns₂)).1

/-- A beginning that finds no connection. -/
theorem outset_refused {cause : Cause}
    (hobtain : c.obtainConnection h s = (.error cause, h₁, s₁)) :
    c.Outset d h s (c.begin d h s) := by
  have hbegin : c.begin d h s = (.error (.cannotCreate cause), h₁, s₁) := by
    rw [begin]
    rw [hobtain]
  rw [hbegin]
  rcases (obtainConnection_of_error hobtain).2 with rfl | ⟨fault, hcreate⟩
  · exact .refused (.refl _) (.refl _)
  · have hsame := s.sameHolders_create c.source.id
    rw [hcreate] at hsame
    exact .refused hsame
      ((State.Confined.refl s).create hcreate fun _ hok => by cases hok)

/-- A beginning that fails before the driver has begun. -/
theorem outset_early (hlenient : s.Lenient) (howns : h.ownsHolder = false)
    (hobtained : c.Obtained h s conn id h₁ s₁) (hsame : h₁.SameAttempt h₂)
    (htalk : Talk conn calls s₁ s₂)
    (hopened : Tried (d.openingCalls (.reported (s₁.session conn)))
      opened false)
    (hsaid : State.Said conn opened (succeeded opened) s₁ s₂)
    (howed : h₂.owed =
      (Settings.reported (s₁.session conn)).restoringCalls opened) :
    c.Outset d h s (.error e, c.abandon false conn h₂ s₂) := by
  have hholder := hsame.holder.trans hobtained.claimed.1
  have hsource := hobtained.source_of_owns howns hsame
  have hbefore := hobtained.confined.trans htalk.confined
  obtain ⟨closed, s', hclosed, habandoned, hparted⟩ :=
    said_abandon (hbefore.lenient hlenient) hholder hsource false
  rw [hsame.ownsHolder] at hparted
  exact .abandoned hobtained (.notBegun hopened (hclosed.trans howed))
    (hsaid.trans habandoned) hparted (hobtained.confined.trans
      (confined_abandoned (d := d) false hholder hsource htalk (Or.inl rfl)))

/-- A beginning that fails after the driver has begun, which is rolled back
then. -/
theorem outset_late {ready : Bool} (hlenient : s.Lenient)
    (howns : h.ownsHolder = false) (hobtained : c.Obtained h s conn id h₁ s₁)
    (hsame : h₁.SameAttempt h₂) (htalk : Talk conn calls s₁ s₂)
    (hactive : s₃ = s₂ ∨
      h₂.ownsHolder = true ∧ s₃ = s₂.setHolder id (c.activeHolder d s₂ id))
    (hopened : Tried (d.openingCalls (.reported (s₁.session conn))) opened true)
    (hmarked : Tried (c.readOnlyCalls d) marked ready)
    (hsaid : State.Said conn (opened ++ marked)
      (succeeded opened ++ succeeded marked) s₁ s₂)
    (howed : h₂.owed =
      (Settings.reported (s₁.session conn)).restoringCalls opened) :
    c.Outset d h s (.error e, c.abandon true conn h₂ s₃) := by
  have hholder := hsame.holder.trans hobtained.claimed.1
  have hsource := hobtained.source_of_owns howns hsame
  have hactivated : State.Confined (fun _ => False) s₂ s₃ := by
    rcases hactive with rfl | ⟨-, rfl⟩
    · exact .refl s₃
    · exact (State.Confined.refl s₂).hold _ rfl rfl
  have hbefore := hactivated.lenient
    ((hobtained.confined.trans htalk.confined).lenient hlenient)
  obtain ⟨closed, s', hclosed, habandoned, hparted⟩ :=
    said_abandon hbefore hholder hsource true
  rw [hsame.ownsHolder] at hparted
  have hwhole : Attempt c d (.reported (s₁.session conn))
      (opened ++ marked ++ [(.rollback, none)] ++ closed)
      (succeeded opened ++ succeeded marked ++ [] ++ [.rollback] ++
        succeeded closed) :=
    .begun hopened hmarked (by simp) (fun _ => ⟨rfl, rfl⟩) (Or.inr rfl)
      (hclosed.trans howed)
  have hended := (hsaid.andThen (hactivated.heard not_false)).trans habandoned
  refine .abandoned hobtained hwhole (by simpa using hended) hparted ?_
  exact hobtained.confined.trans
    (confined_abandoned true hholder hsource htalk hactive)

/-- A holder is activated, and bound if it is new, without a call on a
connection. -/
theorem confined_activated (on : Connection → Prop)
    (hactive : if h₂.ownsHolder then
        (s₂.setHolder id (c.activeHolder d s₂ id)).bind c.key id = .ok s₃
      else s₃ = s₂.setHolder id (c.activeHolder d s₂ id)) :
    State.Confined on s₂ s₃ := by
  have hset : State.Confined on s₂ (s₂.setHolder id (c.activeHolder d s₂ id)) :=
    (State.Confined.refl s₂).hold _ rfl rfl
  split at hactive
  · exact hset.trans (State.confined_bind hactive)
  · rw [hactive]
    exact hset

end

/-- How far a beginning gets: there is no connection to begin on, it succeeds,
or it is abandoned, before or after the driver has begun.  This says what was
said on the connection until then, and what the handle owes. -/
inductive Advance (c : Coordinator) (d : Definition) (h : Handle) (s : State) :
    Except TransactionError Unit × Handle × State → Prop
  | refused {cause : Cause} {h₁ : Handle} {s₁ : State}
      (hobtain : c.obtainConnection h s = (.error cause, h₁, s₁)) :
      Advance c d h s (c.begin d h s)
  | early {conn : Connection} {id : HolderId} {h₁ h₂ : Handle} {s₁ s₂ : State}
      {calls opened : List (Call × Option Fault)} {e : TransactionError}
      (hobtain : c.obtainConnection h s = (.ok conn, h₁, s₁))
      (hobtained : c.Obtained h s conn id h₁ s₁) (hsame : h₁.SameAttempt h₂)
      (htalk : Talk conn calls s₁ s₂)
      (hopened : Tried (d.openingCalls (.reported (s₁.session conn)))
        opened false)
      (hsaid : State.Said conn opened (succeeded opened) s₁ s₂)
      (howed : h₂.owed =
        (Settings.reported (s₁.session conn)).restoringCalls opened) :
      Advance c d h s (.error e, c.abandon false conn h₂ s₂)
  | late {conn : Connection} {id : HolderId} {h₁ h₂ : Handle} {s₁ s₂ s₃ : State}
      {calls opened marked : List (Call × Option Fault)} {ready : Bool}
      {e : TransactionError}
      (hobtain : c.obtainConnection h s = (.ok conn, h₁, s₁))
      (hobtained : c.Obtained h s conn id h₁ s₁) (hsame : h₁.SameAttempt h₂)
      (htalk : Talk conn calls s₁ s₂)
      (hactive : s₃ = s₂ ∨
        h₂.ownsHolder = true ∧ s₃ = s₂.setHolder id (c.activeHolder d s₂ id))
      (hopened : Tried (d.openingCalls (.reported (s₁.session conn)))
        opened true)
      (hmarked : Tried (c.readOnlyCalls d) marked ready)
      (hsaid : State.Said conn (opened ++ marked)
        (succeeded opened ++ succeeded marked) s₁ s₂)
      (howed : h₂.owed =
        (Settings.reported (s₁.session conn)).restoringCalls opened) :
      Advance c d h s (.error e, c.abandon true conn h₂ s₃)
  | opened {conn : Connection} {id : HolderId} {h₁ h' : Handle} {s₁ s' : State}
      {opened marked : List (Call × Option Fault)}
      (hobtain : c.obtainConnection h s = (.ok conn, h₁, s₁))
      (hobtained : c.Obtained h s conn id h₁ s₁)
      (howns : h'.ownsHolder = h₁.ownsHolder)
      (hbegun : c.Begun h s conn id h' s')
      (hopened : Tried (d.openingCalls (.reported (s₁.session conn)))
        opened true)
      (hmarked : Tried (c.readOnlyCalls d) marked true)
      (hsaid : State.Said conn (opened ++ marked)
        (succeeded opened ++ succeeded marked) s₁ s')
      (howed : h'.owed =
        (Settings.reported (s₁.session conn)).restoringCalls opened)
      (hconfined : State.Confined (· = conn) s s') :
      Advance c d h s (.ok (), h', s')

/-- A beginning gets to one of these points. -/
theorem advance (c : Coordinator) (d : Definition) (s : State)
    (hnothing : h.owed = []) :
    c.Advance d h s (c.begin d h s) := by
  cases hobtain : c.obtainConnection h s with
  | mk outcome rest =>
  obtain ⟨h₁, s₁⟩ := rest
  cases outcome with
  | error cause => exact .refused hobtain
  | ok conn =>
      obtain ⟨id, hobtained⟩ := obtained_of_ok hobtain
      obtain ⟨hholder, hstage, -⟩ := hobtained.claimed
      obtain ⟨opened, hopened⟩ := started_tries d h₁
        (Eq.refl (Settings.reported (s₁.session conn)))
      have hstarted := started_cases d conn h₁ s₁
      rw [begin_of_obtained hobtain]
      generalize started d conn h₁ s₁ = p at hopened hstarted ⊢
      have htried := hopened.tried
      have howed := Handle.owed_noted (Settings.reported (s₁.session conn))
        opened (hobtained.owed.trans hnothing)
      rw [← hopened.handle] at howed
      rw [afterStart]
      rcases hstarted with ⟨hp, hfollows⟩ | ⟨cause, calls, hp, hcalls, hfollows⟩
      · obtain ⟨marked, hmarked, hsame⟩ := c.enforceReadOnly_tries d
          (Settings.reported (s₁.session conn)) p.handle p.state
        have hready := hfollows.andThen (enforceReadOnly_follows c d conn)
        rw [Progress.andThen] at hready
        rw [hp] at htried
        simp only [hp] at hready ⊢
        generalize c.enforceReadOnly d conn p.handle p.state =
          q at hmarked hsame hready ⊢
        rw [← hsame] at howed
        have hsaid := hopened.said.trans hmarked.said
        have htried' := hmarked.tried
        rw [Progress.andThen]
        cases hq : q.outcome with
        | error cause =>
            rw [hq] at htried'
            simp only [hq]
            exact .late hobtain hobtained hready.attempt hready.talk
              (Or.inl rfl) htried htried' hsaid howed
        | ok _ =>
            rw [hq] at htried'
            have hclaimed : (q.state.holders id).stage = .claimed := by
              rw [hready.talk.sameHolders.holders, hstage]
            rcases activate_cases (c := c) (d := d)
              (hready.attempt.holder.trans hholder)
              hclaimed with ⟨s₃, hact, hactive⟩ | ⟨cause, howns', hact⟩
            · simp only [hact]
              exact .opened hobtain hobtained hready.attempt.ownsHolder
                (begun_holders hobtained hready.attempt hready.talk hactive)
                htried htried' (hsaid.andThen
                  ((confined_activated (fun _ => False)
                    hactive).heard not_false))
                howed ((hobtained.confined.trans hready.talk.confined).trans
                  (confined_activated _ hactive))
            · simp only [hact]
              exact .late hobtain hobtained hready.attempt hready.talk
                (Or.inr ⟨howns', rfl⟩) htried htried' hsaid howed
      · simp only [hp]
        rw [hp] at htried
        exact .early hobtain hobtained hfollows.attempt hfollows.talk htried
          hopened.said howed

/-- A beginning goes in one of these ways, if the driver lets a transaction be
rolled back. -/
theorem outset (c : Coordinator) (d : Definition) (hlenient : s.Lenient)
    (howns : h.ownsHolder = false) (hnothing : h.owed = []) :
    c.Outset d h s (c.begin d h s) := by
  have hadvance := c.advance d s hnothing
  generalize hresult : c.begin d h s = result at hadvance
  cases hadvance with
  | refused hobtain =>
      rw [← hresult]
      exact outset_refused hobtain
  | early hobtain hobtained hsame htalk hopened hsaid howed =>
      exact outset_early hlenient howns hobtained hsame htalk
        hopened hsaid howed
  | late hobtain hobtained hsame htalk hactive hopened hmarked hsaid howed =>
      exact outset_late hlenient howns hobtained hsame htalk hactive hopened
        hmarked hsaid howed
  | opened hobtain hobtained howns' hbegun hopened hmarked hsaid howed
      hconfined =>
      exact .opened hobtained howns' hbegun hopened hmarked hsaid
        howed hconfined

/-- A transaction that was begun, with statements of its work and the end of it,
is one whole attempt. -/
theorem said_attempt {h' : Handle} {s₁ s₂ s' : State}
    {opened marked : List (Call × Option Fault)} {work : List Call}
    (mark : Bool) (result : Except (Failure ε) α)
    (hbegun : c.Begun h s conn id h' s₂) (hid : id < s₂.nextHolder)
    (hsteady : State.Steady s₂ s') (hlenient : s'.Lenient)
    (hsource : h'.ownsHolder = true → conn.source = c.source.id)
    (hopened : Tried (d.openingCalls (.reported (s₁.session conn))) opened true)
    (hmarked : Tried (c.readOnlyCalls d) marked true)
    (hbefore : State.Said conn (opened ++ marked)
      (succeeded opened ++ succeeded marked) s₁ s₂)
    (howed : h'.owed =
      (Settings.reported (s₁.session conn)).restoringCalls opened)
    (hwork : State.Said conn [] work s₂ s')
    (hstatements : ∀ request ∈ work, request.isStatement = true) :
    ∃ made calls s₃, Attempt c d (.reported (s₁.session conn)) made calls ∧
      State.Said conn made calls s₁ s₃ ∧
      State.Parted h'.ownsHolder conn s₃
        (c.cleanup (markedHandle h' mark)
          (complete (markedHandle h' mark) result s').2) := by
  obtain ⟨hconn, hheld⟩ := connection_of_steady hbegun hid hsteady mark
  obtain ⟨last, hlast, hended⟩ := said_complete hlenient hheld result
  have hkept := (sameHolders_complete (markedHandle h' mark) result s').holders
  obtain ⟨closed, s₃, hclosed, hrestored, hparted⟩ := said_cleanup (c := c)
    (h := markedHandle h' mark) hbegun.holder (by rw [hkept, hconn]) hsource
  refine ⟨_, _, s₃,
    .begun hopened hmarked hstatements (fun hno => by cases hno) hlast
    (hclosed.trans howed), ?_, hparted⟩
  simpa using ((hbefore.trans hwork).trans hended).trans hrestored

end Coordinator

end UnitOfWork
