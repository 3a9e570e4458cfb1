import UnitOfWork.Proofs.OperationDeals

/-!
# What happens to one connection

A driver keeps the sessions of all its connections together, and its events in
one list.  `State.Heard` picks out what concerns one connection: the entries of
the journal about it, the events about it, and its session, which can be
replayed from the events.

`State.Confined` relates two states by operations that make calls only on
connections with a certain property.  Any other connection hears nothing of
them, and no fault is switched on or off by them.
-/

namespace UnitOfWork

/-- The settings of a connection's session, if the connection is open. -/
def World.session (w : World) (conn : Connection) : Option Settings :=
  (w.drivers conn.source).sessions conn.id

def World.initial (w : World) (conn : Connection) : Settings :=
  (w.drivers conn.source).initial

/-- What its source has recorded about a connection. -/
def World.eventsOf (w : World) (conn : Connection) : List Event :=
  (w.drivers conn.source).events.filter fun e => e.connection = conn.id

def DriverCall.target? : DriverCall → Option Connection
  | .create _ => none
  | .release source conn => some ⟨source, conn.id⟩
  | .call conn _ => some conn

/-- Whether an entry is about a call on a certain connection, or about handing
it back. -/
def Note.concerns (conn : Connection) : Note → Bool
  | .line _ => false
  | .driver call _ => call.target? = some conn

/-- What an event tells of the session of its connection. -/
def Event.effect (initial : Settings) :
    Option Settings → Event → Option Settings
  | _, .created _ => some initial
  | _, .released _ => none
  | some settings, .called _ (.setAutoCommit on) =>
      some ⟨on, settings.isolation⟩
  | some settings, .called _ (.setIsolation level) =>
      some ⟨settings.autoCommit, level⟩
  | session, .called _ _ => session

/-- The event of a call tells what the driver makes of the session. -/
theorem Event.effect_called (initial : Settings) (session : Option Settings)
    (id : ConnectionId) (request : Call) :
    effect initial session (.called id request) =
      session.map request.effect := by
  cases session with
  | none => cases request <;> rfl
  | some settings => cases request <;> rfl

/-- The session of a connection after some events. -/
def replay (initial : Settings) (session : Option Settings)
    (events : List Event) :
    Option Settings :=
  events.foldl (Event.effect initial) session

@[simp]
theorem replay_nil (initial : Settings) (session : Option Settings) :
    replay initial session [] = session := rfl

@[simp]
theorem replay_append (initial : Settings) (session : Option Settings)
    (events events' : List Event) :
    replay initial session (events ++ events') =
      replay initial (replay initial session events) events' :=
  List.foldl_append

structure Driver.Heard (id : ConnectionId) (new : List Event) (d d' : Driver) :
    Prop where
  events : (d'.events.filter fun e => e.connection = id) =
    (d.events.filter fun e => e.connection = id) ++ new
  session : d'.sessions id = replay d.initial (d.sessions id) new
  initial : d'.initial = d.initial

namespace Driver

variable {d d' : Driver} {id other : ConnectionId}

theorem Heard.refl (id : ConnectionId) (d : Driver) : Heard id [] d d :=
  ⟨(List.append_nil _).symm, rfl, rfl⟩

/-- An event about another connection, and a session of another connection. -/
theorem Heard.of_other (hne : other ≠ id) (session : Option Settings)
    (event : Event) (hevent : event.connection = other) :
    Heard id [] d ((d.setSession other session).record event) where
  events := by simp [record, setSession, hevent, hne]
  session := by simp [record, Ne.symm hne]
  initial := rfl

/-- An event about the connection, with what it makes of the session. -/
theorem Heard.of_same (event : Event) (hevent : event.connection = id) :
    Heard id [event] d
      ((d.setSession id (event.effect d.initial (d.sessions id))).record
        event) where
  events := by simp [record, setSession, hevent]
  session := by simp [record, replay]
  initial := rfl

theorem Heard.of_call (id : ConnectionId) {request : Call}
    (h : d.call other request = .ok d') :
    Heard id (if other = id then [.called id request] else []) d d' := by
  rw [call_eq_ok h]
  split
  · next heq =>
      subst heq
      rw [← Event.effect_called d.initial _ other request]
      exact .of_same _ rfl
  · next hne => exact .of_other hne _ _ rfl

theorem Heard.of_release (id : ConnectionId) (h : d.release other = .ok d') :
    Heard id (if other = id then [.released id] else []) d d' := by
  rw [release] at h
  split at h
  · cases h
  · obtain rfl := Except.ok.inj h
    split
    · next heq =>
        subst heq
        exact .of_same _ rfl
    · next hne => exact .of_other hne _ _ rfl

theorem Heard.of_create (id : ConnectionId) (h : d.create = .ok (other, d')) :
    other = d.nextId ∧
    Heard id (if other = id then [.created id] else []) d d' := by
  rw [create] at h
  split at h
  · cases h
  · obtain ⟨rfl, rfl⟩ := Prod.mk.inj (Except.ok.inj h)
    refine ⟨rfl, ?_⟩
    split
    · next heq =>
        subst heq
        obtain ⟨hevents, hsession, hinitial⟩ := Heard.of_same (d := d)
          (.created d.nextId) rfl
        exact ⟨hevents, hsession, hinitial⟩
    · next hne =>
        obtain ⟨hevents, hsession, hinitial⟩ := Heard.of_other (d := d) hne
          (some d.initial) (.created d.nextId) rfl
        exact ⟨hevents, hsession, hinitial⟩

end Driver

/-- What happened to a connection between two states: the entries of the journal
that concern it and the events about it. -/
structure State.Heard (conn : Connection) (notes : List Note)
    (events : List Event) (s s' : State) : Prop where
  journal : ∃ more, s'.journal = s.journal ++ more ∧
    more.filter (Note.concerns conn) = notes
  driver : (s.drivers conn.source).Heard conn.id events (s'.drivers conn.source)

namespace State.Heard

variable {conn other : Connection} {notes notes' : List Note}
variable {events events' : List Event} {s s' s'' : State}

theorem eventsOf (h : Heard conn notes events s s') :
    s'.eventsOf conn = s.eventsOf conn ++ events :=
  h.driver.events

theorem session (h : Heard conn notes events s s') :
    s'.session conn = replay (s.initial conn) (s.session conn) events :=
  h.driver.session

theorem initial (h : Heard conn notes events s s') :
    s'.initial conn = s.initial conn :=
  h.driver.initial

theorem trans (h : Heard conn notes events s s')
    (h' : Heard conn notes' events' s' s'') :
    Heard conn (notes ++ notes') (events ++ events') s s'' where
  journal := by
    obtain ⟨more, hmore, hnotes⟩ := h.journal
    obtain ⟨more', hmore', hnotes'⟩ := h'.journal
    exact ⟨more ++ more', by rw [hmore', hmore, List.append_assoc],
      by rw [List.filter_append, hnotes, hnotes']⟩
  driver :=
    { events := by rw [h'.driver.events, h.driver.events, List.append_assoc]
      session := by
        rw [h'.driver.session, h.driver.session, h.driver.initial,
          replay_append]
      initial := h'.driver.initial.trans h.driver.initial }

/-- The second part was not about the connection. -/
theorem andThen (h : Heard conn notes events s s')
    (h' : Heard conn [] [] s' s'') :
    Heard conn notes events s s'' := by
  have hboth := h.trans h'
  rwa [List.append_nil, List.append_nil] at hboth

/-- The first part was not about the connection. -/
theorem after (h : Heard conn [] [] s s')
    (h' : Heard conn notes events s' s'') :
    Heard conn notes events s s'' :=
  h.trans h'

theorem of_drivers (hjournal : s'.journal = s.journal)
    (hdrivers : s'.drivers = s.drivers) :
    Heard conn [] [] s s' where
  journal := ⟨[], by rw [hjournal, List.append_nil], rfl⟩
  driver := by
    rw [hdrivers]
    exact .refl conn.id _

theorem refl (conn : Connection) (s : State) : Heard conn [] [] s s :=
  of_drivers rfl rfl

theorem note (conn : Connection) (s : State) (n : Note) :
    Heard conn ([n].filter (Note.concerns conn)) [] s (s.note n) where
  journal := ⟨[n], rfl, rfl⟩
  driver := .refl conn.id _

theorem say (s : State) (line : Line) : Heard conn [] [] s (s.say line) :=
  note conn s (.line line)

theorem setDriver {source : SourceId} {driver : Driver} {events : List Event}
    (h : source = conn.source → (s.drivers source).Heard conn.id events driver)
    (hother : source ≠ conn.source → events = []) :
    Heard conn [] events s (s.setDriver source driver) where
  journal := ⟨[], (List.append_nil _).symm, rfl⟩
  driver := by
    rw [drivers_setDriver]
    split
    · next heq =>
        subst heq
        exact h rfl
    · next hne =>
        rw [hother (Ne.symm hne)]
        exact .refl conn.id _

def ofCall (conn : Connection) (request : Call) (fault : Option Fault) :
    List Event :=
  if fault = none then [.called conn.id request] else []

theorem callDirectly (s : State) (conn : Connection) (request : Call) :
    Heard conn []
      (ofCall conn request (faultOf (s.callDirectly conn request).1)) s
      (s.callDirectly conn request).2 := by
  rw [State.callDirectly]
  cases hcall : (s.drivers conn.source).call conn.id request with
  | error fault => exact refl conn s
  | ok driver =>
      have hdriver := Driver.Heard.of_call conn.id hcall
      rw [if_pos rfl] at hdriver
      exact setDriver (fun _ => hdriver) fun hne => absurd rfl hne

theorem callDirectly_other (hne : other ≠ conn) (s : State) (request : Call) :
    Heard conn [] [] s (s.callDirectly other request).2 := by
  rw [State.callDirectly]
  cases hcall : (s.drivers other.source).call other.id request with
  | error fault => exact refl conn s
  | ok driver =>
      refine setDriver (fun hsource => ?_) fun _ => rfl
      have hid : other.id ≠ conn.id := fun hid => hne (by
        cases other
        cases conn
        simp_all)
      have hdriver := Driver.Heard.of_call conn.id hcall
      rwa [if_neg hid] at hdriver

/-- The entry about a call on a connection. -/
theorem call (s : State) (conn : Connection) (request : Call) :
    Heard conn [.driver (.call conn request) (faultOf (s.call conn request).1)]
      (ofCall conn request (faultOf (s.call conn request).1)) s
      (s.call conn request).2 := by
  have hdirect := callDirectly s conn request
  have hnoted := fun fault => hdirect.trans
    (note conn (s.callDirectly conn request).2
      (.driver (.call conn request) fault))
  have hconcerns : ∀ fault,
      [Note.driver (.call conn request) fault].filter (Note.concerns conn) =
        [.driver (.call conn request) fault] := fun fault => by
    simp [Note.concerns, DriverCall.target?]
  simp only [hconcerns, List.append_nil, List.nil_append] at hnoted
  rw [State.call]
  cases hresult : s.callDirectly conn request with
  | mk outcome s' =>
      rw [hresult] at hnoted
      cases outcome with
      | ok _ => exact hnoted none
      | error fault => exact hnoted (some fault)

theorem call_other (hne : other ≠ conn) (s : State) (request : Call) :
    Heard conn [] [] s (s.call other request).2 := by
  have hdirect := callDirectly_other hne s request
  have hnoted := fun fault => hdirect.trans
    (note conn (s.callDirectly other request).2
      (.driver (.call other request) fault))
  have hconcerns : ∀ fault,
      [Note.driver (.call other request) fault].filter
        (Note.concerns conn) = [] :=
    fun fault => by simp [Note.concerns, DriverCall.target?, hne]
  simp only [hconcerns, List.append_nil] at hnoted
  rw [State.call]
  cases hresult : s.callDirectly other request with
  | mk outcome s' =>
      rw [hresult] at hnoted
      cases outcome with
      | ok _ => exact hnoted none
      | error fault => exact hnoted (some fault)

theorem created (hcreate : s.create conn.source = (.ok conn, s')) :
    conn.id = s.nextId conn.source ∧ Heard conn [] [.created conn.id] s s' := by
  rw [State.create] at hcreate
  cases hresult : (s.drivers conn.source).create with
  | error fault => simp [hresult] at hcreate
  | ok made =>
      obtain ⟨id, driver⟩ := made
      simp only [hresult, Prod.mk.injEq, Except.ok.injEq] at hcreate
      obtain ⟨hconn, rfl⟩ := hcreate
      obtain rfl : id = conn.id := by rw [← hconn]
      obtain ⟨hnew, hdriver⟩ := Driver.Heard.of_create conn.id hresult
      rw [if_pos rfl] at hdriver
      exact ⟨hnew,
        (setDriver (fun _ => hdriver) fun hne => absurd rfl hne).andThen
        (note conn _ (.driver (.create _) none))⟩

theorem create_other {source : SourceId} {outcome : Except Fault Connection}
    (hcreate : s.create source = (outcome, s')) (hne : outcome ≠ .ok conn) :
    Heard conn [] [] s s' := by
  rw [State.create] at hcreate
  cases hresult : (s.drivers source).create with
  | error fault =>
      simp only [hresult, Prod.mk.injEq] at hcreate
      rw [← hcreate.2]
      exact note conn s (.driver (.create _) (some fault))
  | ok made =>
      obtain ⟨id, driver⟩ := made
      simp only [hresult, Prod.mk.injEq] at hcreate
      obtain ⟨rfl, rfl⟩ := hcreate
      refine Heard.andThen (setDriver (fun hsource => ?_) fun _ => rfl)
        (note conn _ (.driver (.create _) none))
      have hid : id ≠ conn.id := fun hid => hne (by rw [hsource, hid])
      have hdriver := (Driver.Heard.of_create conn.id hresult).2
      rwa [if_neg hid] at hdriver

theorem released (s : State) (conn : Connection) :
    Heard conn
      [.driver (.release conn.source conn)
        (faultOf (s.release conn.source conn).1)]
      (if faultOf (s.release conn.source conn).1 = none then
        [.released conn.id] else [])
      s (s.release conn.source conn).2 := by
  have hconcerns : ∀ fault,
      [Note.driver (.release conn.source conn) fault].filter
        (Note.concerns conn) =
        [.driver (.release conn.source conn) fault] := fun fault => by
    simp [Note.concerns, DriverCall.target?]
  rw [State.release]
  cases hresult : (s.drivers conn.source).release conn.id with
  | error fault =>
      have hnoted :=
        note conn s (.driver (.release conn.source conn) (some fault))
      rwa [hconcerns] at hnoted
  | ok driver =>
      have hdriver := Driver.Heard.of_release conn.id hresult
      rw [if_pos rfl] at hdriver
      have hset : Heard conn [] [.released conn.id] s
          (s.setDriver conn.source driver) :=
        setDriver (fun _ => hdriver) fun hne => absurd rfl hne
      have hnoted :=
        hset.trans (note conn _ (.driver (.release conn.source conn) none))
      rwa [hconcerns] at hnoted

theorem release_other {source : SourceId}
    (hne : (⟨source, other.id⟩ : Connection) ≠ conn) (s : State) :
    Heard conn [] [] s (s.release source other).2 := by
  have hconcerns : ∀ fault,
      [Note.driver (.release source other) fault].filter
        (Note.concerns conn) = [] :=
    fun fault => by simp [Note.concerns, DriverCall.target?, hne]
  rw [State.release]
  cases hresult : (s.drivers source).release other.id with
  | error fault =>
      have hnoted := note conn s (.driver (.release source other) (some fault))
      rwa [hconcerns] at hnoted
  | ok driver =>
      have hset : Heard conn [] [] s (s.setDriver source driver) := by
        refine setDriver (fun hsource => ?_) fun _ => rfl
        have hid : other.id ≠ conn.id := fun hid => hne (by rw [hsource, hid])
        have hdriver := Driver.Heard.of_release conn.id hresult
        rwa [if_neg hid] at hdriver
      have hnoted :=
        hset.trans (note conn _ (.driver (.release source other) none))
      rwa [hconcerns] at hnoted

/-- A failure of a restoring step is ignored. -/
theorem restoring {result : Except Fault Unit × State} (step : RestoringStep)
    (h : Heard conn notes events s result.2) :
    Heard conn notes events s (State.restoring step result) := by
  obtain ⟨outcome, s'⟩ := result
  cases outcome with
  | ok _ => exact h
  | error fault => exact h.andThen (.say s' _)

theorem setFault (s : State) (source : SourceId) (fault : Fault) (on : Bool) :
    Heard conn []
      [] s (s.setDriver source ((s.drivers source).setFault fault on)) :=
  setDriver (fun _ => ⟨(List.append_nil _).symm, rfl, rfl⟩) fun _ => rfl

end State.Heard

/-! ## Operations on certain connections -/

def State.Created (conn : Connection) (s s' : State) : Prop :=
  s.nextId conn.source ≤ conn.id ∧ conn.id < s'.nextId conn.source

theorem State.Created.mono {conn : Connection} {s s₁ s₂ s' : State}
    (h : Created conn s₁ s₂)
    (hfirst : ∀ source, s.nextId source ≤ s₁.nextId source)
    (hlast : ∀ source, s₂.nextId source ≤ s'.nextId source) :
    Created conn s s' :=
  ⟨Nat.le_trans (hfirst _) h.1, Nat.lt_of_lt_of_le h.2 (hlast _)⟩

theorem State.nextId_create {s s' : State} {source : SourceId}
    {outcome : Except Fault Connection}
    (hcreate : s.create source = (outcome, s')) (other : SourceId) :
    s.nextId other ≤ s'.nextId other := by
  cases outcome with
  | error fault => exact (State.Deals.createFailed hcreate).nextId other
  | ok conn =>
      exact (State.Deals.create hcreate (.fetched conn) rfl).1.nextId other

/-- What lies between the two states are calls on connections with a property,
lines in the journal, and changes of holders and bindings. -/
inductive State.Confined (on : Connection → Prop) : State → State → Prop
  | refl (s : State) : Confined on s s
  | say {s s' : State} (h : Confined on s s')
      (line : Line) : Confined on s (s'.say line)
  | call {s s' : State} (h : Confined on s s') {conn : Connection}
      (hconn : on conn)
      (request : Call) : Confined on s (s'.call conn request).2
  | create {s s' s'' : State} (h : Confined on s s') {source : SourceId}
      {outcome : Except Fault Connection}
      (hcreate : s'.create source = (outcome, s''))
      (hconn : ∀ conn, outcome = .ok conn → on conn) : Confined on s s''
  | release {s s' : State} (h : Confined on s s') {source : SourceId}
      {conn : Connection}
      (hconn : on ⟨source, conn.id⟩) : Confined on s (s'.release source conn).2
  | hold {s s' : State} (h : Confined on s s') (s'' : State)
      (hjournal : s''.journal = s'.journal)
      (hdrivers : s''.drivers = s'.drivers) : Confined on s s''

namespace State.Confined

variable {on : Connection → Prop} {s s' s'' : State}

theorem trans (h : Confined on s s') (h' : Confined on s' s'') :
    Confined on s s'' := by
  induction h' with
  | refl => exact h
  | say _ line ih => exact ih.say line
  | call _ hconn request ih => exact ih.call hconn request
  | create _ hcreate hconn ih => exact ih.create hcreate hconn
  | release _ hconn ih => exact ih.release hconn
  | hold _ _ hjournal hdrivers ih => exact ih.hold _ hjournal hdrivers

/-- A restoring step is done with a call on a connection, and a failure of it
with a line in the journal. -/
theorem restoring {result : Except Fault Unit × State} (step : RestoringStep)
    (h : Confined on s result.2) :
    Confined on s (State.restoring step result) := by
  obtain ⟨outcome, s'⟩ := result
  cases outcome with
  | ok _ => exact h
  | error fault => exact h.say _

/-- A source never goes back in its numbers. -/
theorem nextId (h : Confined on s s') (source : SourceId) :
    s.nextId source ≤ s'.nextId source := by
  induction h with
  | refl => exact Nat.le_refl _
  | say _ line ih => exact ih
  | @call s' _ conn _ request ih =>
      exact Nat.le_trans ih ((State.Deals.call s' conn request).nextId source)
  | create _ hcreate _ ih =>
      exact Nat.le_trans ih (State.nextId_create hcreate source)
  | @release s' _ place conn _ ih =>
      exact Nat.le_trans ih ((State.Deals.release s' place conn).nextId source)
  | hold _ _ hjournal hdrivers ih =>
      exact Nat.le_trans ih (by simp [World.nextId, hdrivers])

/-- Any other connection hears nothing. -/
theorem heard {conn : Connection} (h : Confined on s s') (hnot : ¬ on conn) :
    Heard conn [] [] s s' := by
  induction h with
  | refl => exact .refl conn s
  | say _ line ih => exact ih.andThen (.say _ line)
  | call _ hconn request ih =>
      exact ih.andThen
        (.call_other (fun heq => hnot (by rwa [← heq])) _ request)
  | create _ hcreate hconn ih =>
      exact ih.andThen (.create_other hcreate fun hok => hnot (hconn conn hok))
  | release _ hconn ih =>
      exact ih.andThen (.release_other (fun heq => hnot (by rwa [← heq])) _)
  | hold _ _ hjournal hdrivers ih =>
      exact ih.andThen (.of_drivers hjournal hdrivers)

end State.Confined

theorem Talk.confined {conn : Connection} {calls : List (Call × Option Fault)}
    {s s' : State} (h : Talk conn calls s s') :
    State.Confined (· = conn) s s' := by
  induction h with
  | refl s => exact .refl s
  | say _ _ ih => exact ih.say _
  | adjust _ _ ih | control _ _ _ ih => exact ih.call rfl _

theorem State.confined_handedBack (line : Line) (step : RestoringStep)
    {source : SourceId} {conn : Connection} (hsource : conn.source = source)
    (s : State) :
    Confined (· = conn) s (handedBack line step source conn s) := by
  subst hsource
  have hreleased :
      Confined (· = conn) s ((s.say line).release conn.source conn).2 :=
    ((Confined.refl s).say line).release rfl
  exact hreleased.restoring step

theorem State.confined_unbind (on : Connection → Prop) (s : State) (key : Key) :
    Confined on s (s.unbind key).2 := by
  rw [State.unbind]
  cases s.context.unbind key with
  | mk found context =>
      cases found with
      | none => exact .refl s
      | some id =>
          exact ((Confined.refl s).hold { s with context } rfl rfl).say _

theorem State.confined_bind {on : Connection → Prop} {s s' : State} {key : Key}
    {id : HolderId} (h : s.bind key id = .ok s') : Confined on s s' := by
  rw [State.bind] at h
  cases hcontext : s.context.bind key id with
  | error occupied => simp [hcontext] at h
  | ok context =>
      simp only [hcontext, Except.ok.injEq] at h
      rw [← h]
      exact ((Confined.refl s).hold { s with context } rfl rfl).say _

theorem State.confined_markedHolder (on : Connection → Prop) (s : State)
    (id : HolderId) :
    Confined on s (s.markedHolder id) :=
  ((Confined.refl s).say _).hold _ rfl rfl

namespace Coordinator

variable {ε α : Type} {c : Coordinator} {d : Definition}
variable {conn : Connection} {h h' : Handle} {s s' : State} {id : HolderId}

theorem Obtained.confined (hobtained : c.Obtained h s conn id h' s') :
    State.Confined (· = conn) s s' := by
  cases hobtained with
  | reused => exact (State.Confined.refl s).hold _ rfl rfl
  | created hcreate =>
      exact (((State.Confined.refl s).create hcreate fun other hok =>
        (Except.ok.inj hok).symm).say _).hold _ rfl rfl

theorem confined_givenUp (c : Coordinator) (driverBegan : Bool)
    {conn : Connection} {h : Handle}
    (hsource : h.ownsHolder = true → conn.source = c.source.id) (s : State) :
    State.Confined (· = conn) s (c.givenUp driverBegan conn h s) := by
  obtain ⟨calls, htalk, -⟩ := talk_rolledBack driverBegan conn s
  have hrestored := htalk.confined.trans
    (h.talk_restoreSession conn (rolledBack driverBegan conn s)).confined
  unfold givenUp
  simp only
  split
  · next howns =>
      exact hrestored.trans (State.confined_handedBack _ _ (hsource howns) _)
  · exact hrestored

/-- A holder that a beginning has made has a new connection of the coordinator's
own source. -/
theorem Obtained.created_of_owns
    (hfree : ∀ other, h.holder = some other →
      (s.holders other).stage = .unbound →
      h.ownsHolder = false)
    (hobtained : c.Obtained h s conn id h' s') (howns' : h'.ownsHolder = true) :
    conn.source = c.source.id ∧ State.Created conn s s' := by
  obtain ⟨hdeals, hsource⟩ := deals_obtained hfree hobtained
  rw [acquisition, howns', if_pos rfl] at hdeals
  exact ⟨hsource howns', hdeals.new_of_acquired (List.mem_singleton_self _)⟩

/-- A beginning that succeeds makes calls on the connection of its holder only,
and that is new if the holder is. -/
theorem confined_of_ok (howns : h.ownsHolder = false)
    (hok : c.begin d h s = (.ok (), h', s')) :
    ∃ conn id, c.Begun h s conn id h' s' ∧ State.Confined (· = conn) s s' ∧
      (h'.ownsHolder = true → conn.source = c.source.id ∧
        State.Created conn s s') := by
  have hbeginning := c.beginning d h s
  rw [hok] at hbeginning
  cases hbeginning with
  | @begun conn id h₁ h₂ s₁ s₂ s₃ hobtained hsame htalk hactive =>
      have htalked := htalk.confined.hold
        (s₂.setHolder id (c.activeHolder d s₂ id)) rfl rfl
      have hactivated : State.Confined (· = conn) s₁ s' := by
        split at hactive
        · exact htalked.trans (State.confined_bind hactive)
        · rw [hactive]
          exact htalked
      refine ⟨conn, id, begun_holders hobtained hsame htalk hactive,
        hobtained.confined.trans hactivated, fun howns' => ?_⟩
      obtain ⟨hsource, hcreated⟩ := hobtained.created_of_owns
        (fun _ _ _ => howns) (hsame.ownsHolder.symm.trans howns')
      exact ⟨hsource, hcreated.mono (fun _ => Nat.le_refl _) hactivated.nextId⟩

/-- What a beginning that fails has done: nothing but asking for a connection in
vain, or something on one connection, whose holder is released or finished. -/
inductive Failing (c : Coordinator) (h : Handle) (s s' : State) : Prop
  | refused (hsame : State.SameHolders s s')
      (hconfined : State.Confined (fun _ => False) s s')
  | abandoned {conn : Connection} {id : HolderId} {owns : Bool}
      (horigin : Origin h s conn id owns s')
      (hothers : ∀ other, other ≠ id → s'.holders other = s.holders other)
      (hconfined : State.Confined (· = conn) s s')
      (hcreated : owns = true → conn.source = c.source.id ∧
        State.Created conn s s')

/-- A beginning that is abandoned after some calls makes no call on another
connection. -/
theorem confined_abandoned {s₁ s₂ s₃ : State}
    {calls : List (Call × Option Fault)} (driverBegan : Bool)
    (hholder : h.holder = some id)
    (hsource : h.ownsHolder = true → conn.source = c.source.id)
    (htalk : Talk conn calls s₁ s₂) (hactive : s₃ = s₂ ∨
      h.ownsHolder = true ∧ s₃ = s₂.setHolder id (c.activeHolder d s₂ id)) :
    State.Confined (· = conn) s₁ (c.abandon driverBegan conn h s₃).2 := by
  have hactivated : State.Confined (· = conn) s₁ s₃ := by
    rcases hactive with rfl | ⟨-, rfl⟩
    · exact htalk.confined
    · exact htalk.confined.hold _ rfl rfl
  rw [abandon_snd hholder]
  exact (hactivated.trans
    (c.confined_givenUp driverBegan hsource s₃)).hold _ rfl rfl

theorem failing_of_abandoned {h₁ h₂ : Handle} {s₁ s₂ s₃ : State}
    {driverBegan : Bool} {calls : List (Call × Option Fault)}
    (howns : h.ownsHolder = false) (hobtained : c.Obtained h s conn id h₁ s₁)
    (hsame : h₁.SameAttempt h₂) (htalk : Talk conn calls s₁ s₂)
    (hactive : s₃ = s₂ ∨
      h₂.ownsHolder = true ∧ s₃ = s₂.setHolder id (c.activeHolder d s₂ id)) :
    c.Failing h s (c.abandon driverBegan conn h₂ s₃).2 := by
  have hsource : h₂.ownsHolder = true → conn.source = c.source.id ∧
      State.Created conn s s₁ :=
    fun howns' => hobtained.created_of_owns (fun _ _ _ => howns)
        (hsame.ownsHolder.symm.trans howns')
  have habandoned := confined_abandoned driverBegan
    (hsame.holder.trans hobtained.claimed.1) (fun howns' => (hsource howns').1)
    htalk hactive
  refine .abandoned (abandoned_origin driverBegan hobtained hsame htalk hactive)
    (abandoned_cases driverBegan hobtained hsame htalk hactive).2.1
    (hobtained.confined.trans habandoned) fun howns' => ?_
  obtain ⟨hfrom, hcreated⟩ := hsource howns'
  exact ⟨hfrom, hcreated.mono (fun _ => Nat.le_refl _) habandoned.nextId⟩

theorem failing_of_error {e : TransactionError} (howns : h.ownsHolder = false)
    (herror : c.begin d h s = (.error e, h', s')) : c.Failing h s s' := by
  have hbeginning := c.beginning d h s
  rw [herror] at hbeginning
  generalize hresult : (Except.error e, h', s') = result at hbeginning
  cases hbeginning with
  | refused hstate =>
      obtain ⟨-, -, rfl⟩ := by simpa using hresult
      rcases hstate with rfl | ⟨fault, hcreate⟩
      · exact .refused (.refl s') (.refl s')
      · have hsame := s.sameHolders_create c.source.id
        rw [hcreate] at hsame
        exact .refused hsame
          ((State.Confined.refl s).create hcreate fun _ hok => by cases hok)
  | early hobtained hsame hcalls htalk =>
      obtain rfl : s' = _ := (Prod.mk.inj (Prod.mk.inj hresult).2).2
      exact failing_of_abandoned (d := d) howns hobtained hsame htalk
        (Or.inl rfl)
  | late hobtained hsame htalk hactive =>
      obtain rfl : s' = _ := (Prod.mk.inj (Prod.mk.inj hresult).2).2
      exact failing_of_abandoned howns hobtained hsame htalk hactive
  | begun => simp at hresult

theorem confined_released (on : Connection → Prop) (c : Coordinator)
    (h : Handle) (id : HolderId) (s : State) :
    State.Confined on s (c.released h id s) := by
  rw [released, unbindHolder]
  split
  · split
    · exact s.confined_unbind _ c.key
    · exact .refl s
  · exact .refl s

theorem confined_cleanup (hholder : h.holder = some id)
    (hconn : (s.holders id).connection = some conn)
    (hsource : h.ownsHolder = true → conn.source = c.source.id) :
    State.Confined (· = conn) s (c.cleanup h s) := by
  have hreleased := c.confined_released (· = conn) h id s
  have hsession :=
    hreleased.trans (h.talk_restoreSession conn (c.released h id s)).confined
  rw [cleanup_eq hholder]
  simp only [restored, holders_released, hconn, restoreConnection]
  split
  · next howns =>
      exact (hsession.trans
        (State.confined_handedBack (.releasing conn) .release
        (hsource howns) _)).hold _ rfl rfl
  · exact hsession.hold _ rfl rfl

theorem confined_setAside (on : Connection → Prop) (c : Coordinator)
    (suspended : Option HolderId) (s : State) :
    State.Confined on s (c.setAside suspended s) := by
  cases suspended with
  | none => exact .refl s
  | some id => exact s.confined_unbind _ c.key

theorem confined_entrance (on : Connection → Prop) (c : Coordinator)
    (d : Definition) (suspended : Option HolderId) (s : State) :
    State.Confined on s (c.entrance d suspended s) :=
  (confined_setAside on c suspended s).say _

theorem confined_resumed (on : Connection → Prop) (c : Coordinator)
    (suspended : Option HolderId) (s : State) :
    State.Confined on s (c.resumed suspended s) := by
  rcases c.resumed_cases suspended s with hsame | ⟨id, -, -, hbound⟩
  · rw [hsame]
    exact .refl s
  · rw [hbound]
    exact ((State.Confined.refl s).hold
      { s with context := s.context.insert c.key id } rfl rfl).say _

end Coordinator

end UnitOfWork
