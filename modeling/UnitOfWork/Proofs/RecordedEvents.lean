import UnitOfWork.Proofs.ConnectionEvents

/-!
# What a driver has recorded

A recording driver keeps the sessions of its open connections in a table, and
beside it the list of its events.  Each request that succeeds changes both of
them, and one that fails changes neither.  So the list tells everything about
the table: whoever replays the events has the sessions that are open, with their
settings.  A connection that was released has none, whatever is asked of it
later.
-/

namespace UnitOfWork

/-! ## The table that events tell of -/

namespace Event

/-- A table of sessions after one more event. -/
def enter (initial : Settings) (table : ConnectionId → Option Settings)
    (event : Event) :
    ConnectionId → Option Settings :=
  fun id => if id = event.connection then
    effect initial (table id) event else table id

/-- The table of sessions after some events, if no connection was open before
them. -/
def table (initial : Settings) (events : List Event) :
    ConnectionId → Option Settings :=
  events.foldl (enter initial) fun _ => none

def isCreation : Event → Bool
  | created _ => true
  | _ => false

variable {initial : Settings} {events earlier later : List Event}
variable {id : ConnectionId}

theorem table_append (initial : Settings) (events new : List Event) :
    table initial (events ++ new) = new.foldl (enter initial)
      (table initial events) :=
  List.foldl_append

/-- Nothing but its creation gives a connection a session. -/
theorem foldl_enter_of_not_created {sessions : ConnectionId → Option Settings}
    (hclosed : sessions id = none) (hnot : .created id ∉ events) :
    events.foldl (enter initial) sessions id = none := by
  induction events generalizing sessions with
  | nil => exact hclosed
  | cons event rest ih =>
      rw [List.mem_cons, not_or] at hnot
      apply ih _ hnot.2
      rw [enter]
      split
      · next hid =>
          rw [hclosed]
          cases event with
          | created other => exact absurd (congrArg created hid) hnot.1
          | released other => rfl
          | called other request => rw [effect_called, Option.map_none]
      · exact hclosed

/-- A connection that was not created has no session. -/
theorem table_of_not_created (hnot : .created id ∉ events) :
    table initial events id = none :=
  foldl_enter_of_not_created rfl hnot

/-- A connection that was released has no session until it is created once
more. -/
theorem table_of_released (hnot : .created id ∉ later) :
    table initial (earlier ++ .released id :: later) id = none := by
  rw [table_append, List.foldl_cons]
  apply foldl_enter_of_not_created _ hnot
  rw [enter, if_pos (show id = (released id).connection from rfl)]
  rfl

end Event

/-! ## Requests -/

namespace Driver

inductive Request where
  | create
  | release (id : ConnectionId)
  | call (id : ConnectionId) (call : Call)
  /-- Asks a connection whether it commits every statement by itself. -/
  | autoCommit (id : ConnectionId)
  /-- Asks a connection for its isolation level. -/
  | isolation (id : ConnectionId)
  | setFault (fault : Fault) (on : Bool)

inductive Reply where
  | done
  | refused (fault : Fault)
  | connection (id : ConnectionId)
  | flag (on : Bool)
  | level (level : Level)
  deriving DecidableEq

/-- The answer of an operation that may be refused, which then changes
nothing. -/
def answer (d : Driver) : Except Fault Driver → Reply × Driver
  | .ok d' => (.done, d')
  | .error fault => (.refused fault, d)

def serve (d : Driver) : Request → Reply × Driver
  | .create =>
      match d.create with
      | .ok (id, d') => (.connection id, d')
      | .error fault => (.refused fault, d)
  | .release id => d.answer (d.release id)
  | .call id request => d.answer (d.call id request)
  | .autoCommit id => (.flag (d.autoCommit id), d)
  | .isolation id => (.level (d.isolation id), d)
  | .setFault fault on => (.done, d.setFault fault on)

def serveAll (d : Driver) (requests : List Request) : Driver :=
  requests.foldl (fun d request => (d.serve request).2) d

def Request.fault? : Request → Option Fault
  | create => some .create
  | release _ => some .release
  | call _ request => some request.fault
  | autoCommit _ | isolation _ | setFault _ _ => none

/-- The event that a request leaves when it succeeds.  A connection that it
creates has the next number. -/
def Request.event? (next : ConnectionId) : Request → Option Event
  | create => some (.created next)
  | release id => some (.released id)
  | call id request => some (.called id request)
  | autoCommit _ | isolation _ | setFault _ _ => none

/-- From one driver to another some events were recorded, and nothing else was
done. -/
structure Records (new : List Event) (d d' : Driver) : Prop where
  initial : d'.initial = d.initial
  events : d'.events = d.events ++ new
  sessions : d'.sessions = new.foldl (Event.enter d.initial) d.sessions
  nextId : d'.nextId = d.nextId + new.countP Event.isCreation

variable {d d' : Driver} {initial : Settings} {id : ConnectionId}
variable {request : Request} {fault : Fault}

theorem check_of_off (hoff : d.faults fault = false) :
    d.check fault = .ok () := by
  rw [check, hoff]
  rfl

theorem check_of_on (hon : d.faults fault = true) :
    d.check fault = .error fault := by
  rw [check, hon]
  rfl

/-- A request whose fault is switched on is refused. -/
theorem serve_of_on (hfault : request.fault? = some fault)
    (hon : d.faults fault = true) :
    d.serve request = (.refused fault, d) := by
  cases request with
  | create =>
      obtain rfl : Fault.create = fault := Option.some.inj hfault
      rw [serve, create, check_of_on hon]
  | release id =>
      obtain rfl : Fault.release = fault := Option.some.inj hfault
      rw [serve, release, check_of_on hon]
      rfl
  | call id call =>
      obtain rfl : call.fault = fault := Option.some.inj hfault
      rw [serve, Driver.call, check_of_on hon]
      rfl
  | autoCommit id | isolation id | setFault fault on => cases hfault

/-- A request whose fault is not switched on is not refused, and leaves its
event. -/
theorem serve_of_off
    (hoff : ∀ fault, request.fault? = some fault → d.faults fault = false) :
    (∀ fault, (d.serve request).1 ≠ .refused fault) ∧
      d.Records (request.event? d.nextId).toList (d.serve request).2 := by
  cases request with
  | create =>
      rw [serve, create, check_of_off (hoff _ rfl)]
      refine ⟨by simp, rfl, rfl, ?_, rfl⟩
      funext id
      by_cases hid : id = d.nextId <;>
        simp [record, Request.event?, Event.enter, Event.connection,
          Event.effect, hid]
  | release id =>
      rw [serve, release, check_of_off (hoff _ rfl)]
      refine ⟨by simp [answer], rfl, rfl, ?_, rfl⟩
      funext other
      by_cases hid : other = id <;>
        simp [answer, record, Request.event?, Event.enter, Event.connection,
          Event.effect, hid]
  | call id call =>
      rw [serve, Driver.call, check_of_off (hoff _ rfl)]
      refine ⟨by simp [answer], rfl, rfl, ?_, rfl⟩
      funext other
      by_cases hid : other = id <;>
        simp [answer, record, Request.event?, Event.enter, Event.connection,
          Event.effect_called, hid]
  | autoCommit id | isolation id | setFault fault on =>
      exact ⟨by simp [serve], rfl, (List.append_nil _).symm, rfl, rfl⟩

/-- A request is refused exactly by a fault of its own that is switched on. -/
theorem serve_refused_iff :
    (d.serve request).1 = .refused fault ↔
      request.fault? = some fault ∧ d.faults fault = true := by
  refine ⟨fun hrefused => ?_,
    fun ⟨hfault, hon⟩ => by rw [serve_of_on hfault hon]⟩
  cases hfault : request.fault? with
  | none =>
      have hanswered : ∀ other, (d.serve request).1 ≠ .refused other :=
        (serve_of_off (by simp [hfault])).1
      exact absurd hrefused (hanswered fault)
  | some other =>
      cases hon : d.faults other with
      | false =>
          have hanswered : ∀ other, (d.serve request).1 ≠ .refused other :=
            (serve_of_off (by simp [hfault, hon])).1
          exact absurd hrefused (hanswered fault)
      | true =>
          rw [serve_of_on hfault hon] at hrefused
          obtain rfl : other = fault := Reply.refused.inj hrefused
          exact ⟨rfl, hon⟩

theorem serve_of_refused (hrefused : (d.serve request).1 = .refused fault) :
    (d.serve request).2 = d := by
  obtain ⟨hfault, hon⟩ := serve_refused_iff.mp hrefused
  rw [serve_of_on hfault hon]

theorem serve_of_not_refused
    (hnot : ∀ fault, (d.serve request).1 ≠ .refused fault) :
    d.Records (request.event? d.nextId).toList (d.serve request).2 := by
  refine (serve_of_off fun fault hfault => ?_).2
  exact Bool.eq_false_iff.mpr fun hon =>
    hnot fault (serve_refused_iff.mpr ⟨hfault, hon⟩)

/-! ## The table and the events in step -/

structure InStep (initial : Settings) (d : Driver) : Prop where
  opening : d.initial = initial
  sessions : d.sessions = Event.table initial d.events
  nextId : d.nextId = d.events.countP Event.isCreation + 1
  created : ∀ id, d.events.count (.created id) =
    if 1 ≤ id ∧ id < d.nextId then 1 else 0

theorem inStep_fresh (initial : Settings) :
    InStep initial { initial := initial } where
  opening := rfl
  sessions := rfl
  nextId := rfl
  created id := by
    rw [if_neg fun hid => Nat.not_lt.mpr hid.1 hid.2]
    rfl

namespace InStep

/-- The connections that were created are those with the numbers up to the next
one. -/
theorem created_iff (h : d.InStep initial) :
    .created id ∈ d.events ↔ 1 ≤ id ∧ id < d.nextId := by
  rw [← List.count_pos_iff, h.created]
  split
  · next hid => simp [hid]
  · next hid => simp [hid]

theorem records {new : List Event} (h : d.InStep initial)
    (hrecords : d.Records new d')
    (hcreated : ∀ id, new.count (.created id) = if id = d.nextId then
      new.countP Event.isCreation else 0)
        (hone : new.countP Event.isCreation ≤ 1) :
    d'.InStep initial where
  opening := hrecords.initial.trans h.opening
  sessions := by
    rw [hrecords.sessions, hrecords.events, Event.table_append,
      h.opening, h.sessions]
  nextId := by
    rw [hrecords.nextId, hrecords.events, List.countP_append, h.nextId]
    exact Nat.add_right_comm _ _ _
  created id := by
    have hpositive := h.nextId
    rw [hrecords.events, List.count_append, h.created, hcreated,
      hrecords.nextId]
    grind

theorem serve (h : d.InStep initial) (request : Request) :
    (d.serve request).2.InStep initial := by
  by_cases hrefused : ∃ fault, (d.serve request).1 = .refused fault
  · obtain ⟨fault, hrefused⟩ := hrefused
    rw [serve_of_refused hrefused]
    exact h
  · have hrecords :=
      serve_of_not_refused fun fault hfault => hrefused ⟨fault, hfault⟩
    apply h.records hrecords
    · intro id
      cases request <;>
        simp [Request.event?, Event.isCreation, List.count_cons,
          eq_comm (a := id)]
    · cases request <;> simp [Request.event?, Event.isCreation]

theorem serveAll (h : d.InStep initial) (requests : List Request) :
    (d.serveAll requests).InStep initial := by
  induction requests generalizing d with
  | nil => exact h
  | cons request rest ih => exact ih (h.serve request)

/-- The open connections that are listed are those that the events tell of. -/
theorem mem_openSessions_iff (h : d.InStep initial) {settings : Settings} :
    (id, settings) ∈ d.openSessions ↔
      Event.table initial d.events id = some settings := by
  rw [← h.sessions, openSessions, List.mem_filterMap]
  constructor
  · rintro ⟨other, -, hother⟩
    obtain ⟨found, hfound, heq⟩ := Option.map_eq_some_iff.mp hother
    obtain ⟨rfl, rfl⟩ := Prod.mk.inj heq
    exact hfound
  · intro hopen
    refine ⟨id, List.mem_range.mpr ?_, by rw [hopen]; rfl⟩
    have hcreated : .created id ∈ d.events := by
      apply Decidable.byContradiction
      intro hnot
      rw [h.sessions, Event.table_of_not_created hnot] at hopen
      cases hopen
    exact (h.created_iff.mp hcreated).2

/-- A connection that was created and released has no session. -/
theorem closed_of_released (h : d.InStep initial) {earlier later : List Event}
    (hevents : d.events = earlier ++ .released id :: later)
    (hcreated : .created id ∈ earlier) :
    d.sessions id = none := by
  rw [h.sessions, hevents]
  apply Event.table_of_released
  intro hagain
  have htwice : 2 ≤ d.events.count (.created id) := by
    rw [hevents, List.count_append, List.count_cons_of_ne (by simp)]
    exact Nat.add_le_add (List.count_pos_iff.mpr hcreated)
      (List.count_pos_iff.mpr hagain)
  rw [h.created] at htwice
  split at htwice <;> simp at htwice

end InStep

/-- Whatever is asked of a driver and of its connections, whether these are open
or not, its events tell which connections are open and with which settings:
replaying them from the beginning gives the table of sessions.  No number is
given to two connections, and as long as there are fewer than `UInt32.size - 1`
of them every number has 32 bits.  A request is refused exactly if its fault is
switched on, and it changes nothing then; any other request leaves the one event
that belongs to it.  A connection that was released reports that auto-commit is
off and that it is at READ COMMITTED, whatever was set on it. -/
theorem record_tells_sessions (initial : Settings) (requests : List Request) :
    let d := serveAll { initial := initial } requests
    d.sessions = Event.table initial d.events ∧
    (∀ id settings, (id, settings) ∈ d.openSessions ↔
      Event.table initial d.events id = some settings) ∧
    (∀ id, d.events.count (.created id) ≤ 1) ∧
    (d.events.countP Event.isCreation < UInt32.size - 1 →
      d.nextId < UInt32.size ∧ ∀ id, .created id ∈ d.events → id < d.nextId) ∧
    (∀ request fault, (d.serve request).1 = .refused fault ↔
      request.fault? = some fault ∧ d.faults fault = true) ∧
    (∀ request fault, (d.serve request).1 = .refused fault →
      (d.serve request).2 = d) ∧
    (∀ request, (∀ fault, (d.serve request).1 ≠ .refused fault) →
      (d.serve request).2.events = d.events ++
      (request.event? d.nextId).toList) ∧
    ∀ earlier later id, d.events = earlier ++ .released id :: later →
      .created id ∈ earlier →
      (d.serve (.autoCommit id)).1 = .flag false ∧
        (d.serve (.isolation id)).1 = .level (.standard .readCommitted) := by
  intro d
  have hstep : d.InStep initial := (inStep_fresh initial).serveAll requests
  refine ⟨hstep.sessions, fun id settings => hstep.mem_openSessions_iff,
    fun id => ?_,
    fun hfew => ⟨?_, fun id hid => (hstep.created_iff.mp hid).2⟩,
    fun request fault => serve_refused_iff,
    fun request fault => serve_of_refused,
    fun request hnot => (serve_of_not_refused hnot).events,
    fun earlier later id hevents hcreated => ?_⟩
  · rw [hstep.created]
    split <;> simp
  · rw [hstep.nextId]
    exact Nat.add_lt_of_lt_sub hfew
  · have hclosed := hstep.closed_of_released hevents hcreated
    constructor
    · rw [Driver.serve, Driver.autoCommit, hclosed]
    · rw [Driver.serve, Driver.isolation, hclosed]

/-- A connection is released twice and called in between, and one call on it is
refused. -/
theorem record_tells_of_released_twice :
    let requests : List Request :=
      [.create, .create, .call 1 (.setIsolation (.vendor "SNAPSHOT")),
        .call 2 (.setAutoCommit true), .release 1,
        .call 1 (.setAutoCommit true),
        .setFault .setIsolation true,
        .call 1 (.setIsolation (.standard .serializable)),
        .release 1]
    let d := serveAll { initial := { autoCommit := false } } requests
    d.events = [.created 1, .created 2,
      .called 1 (.setIsolation (.vendor "SNAPSHOT")),
        .called 2 (.setAutoCommit true), .released 1,
        .called 1 (.setAutoCommit true),
        .released 1] ∧
      d.openSessions = [(2, {})] ∧
      (d.serve (.autoCommit 1)).1 = .flag false ∧
      (d.serve (.isolation 1)).1 = .level (.standard .readCommitted) := by
  intro requests d
  obtain ⟨-, -, -, -, -, -, -, hreads⟩ :=
    record_tells_sessions { autoCommit := false } requests
  have hevents : d.events = [.created 1, .created 2,
      .called 1 (.setIsolation (.vendor "SNAPSHOT")),
      .called 2 (.setAutoCommit true),
      .released 1, .called 1 (.setAutoCommit true), .released 1] := rfl
  exact ⟨hevents, rfl,
    hreads (d.events.take 4) (d.events.drop 5) 1 rfl (by decide)⟩

end Driver

end UnitOfWork
