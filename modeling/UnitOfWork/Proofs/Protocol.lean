import UnitOfWork.Proofs.ConnectionEvents

/-!
# The protocol of a connection

The words that the events of a connection can form.  An attempt at a transaction
makes certain calls to begin, in a certain order, until one of them fails; and
what the calls that succeeded have changed it puts back at its end.  Between the
two there is nothing but the statements of the work.

What is said on a connection is told by two lists: the calls that coordinators
make, each with the fault by which it failed if it did, and the calls that
succeeded, which are the events.  Statements of the work are among the events,
and the calls of the coordinators that failed are not.
-/

namespace UnitOfWork

def Call.isStatement : Call → Bool
  | .execute _ => true
  | _ => false

def Call.isIsolation : Call → Bool
  | .setIsolation _ => true
  | _ => false

/-- The calls that succeeded. -/
def succeeded (made : List (Call × Option Fault)) : List Call :=
  made.filterMap fun r => if r.2 = none then some r.1 else none

@[simp]
theorem succeeded_nil : succeeded [] = [] := rfl

@[simp]
theorem succeeded_append (made made' : List (Call × Option Fault)) :
    succeeded (made ++ made') = succeeded made ++ succeeded made' :=
  List.filterMap_append

@[simp]
theorem succeeded_ok (request : Call) (made : List (Call × Option Fault)) :
    succeeded ((request, none) :: made) = request :: succeeded made := rfl

@[simp]
theorem succeeded_failed (request : Call) (fault : Fault)
    (made : List (Call × Option Fault)) :
    succeeded ((request, some fault) :: made) = succeeded made := rfl

/-- What succeeds of some calls was among them. -/
theorem mem_map_of_succeeded {made : List (Call × Option Fault)}
    {request : Call} (h : request ∈ succeeded made) :
    request ∈ made.map Prod.fst := by
  obtain ⟨⟨other, fault⟩, hmem, hok⟩ := List.mem_filterMap.mp h
  split at hok
  · obtain rfl := Option.some.inj hok
    exact List.mem_map.mpr ⟨_, hmem, rfl⟩
  · cases hok

/-- Calls are made one after the other until one of them fails: the calls that
were to be made, those that were made, and whether all of them succeeded. -/
inductive Tried : List Call → List (Call × Option Fault) → Bool → Prop
  | done : Tried [] [] true
  | failed (request : Call) (fault : Fault) (rest : List Call) :
      Tried (request :: rest) [(request, some fault)] false
  | next {rest : List Call} {made : List (Call × Option Fault)} {all : Bool}
      (request : Call)
      (h : Tried rest made all) :
      Tried (request :: rest) ((request, none) :: made) all

namespace Tried

variable {requests requests' : List Call}
variable {made made' : List (Call × Option Fault)} {all : Bool}

theorem append (h : Tried requests made true) (h' : Tried requests' made' all) :
    Tried (requests ++ requests') (made ++ made') all := by
  generalize hall : true = first at h
  induction h with
  | done => exact h'
  | failed => cases hall
  | next request _ ih => exact .next request (ih hall)

/-- After a call that failed no other is made. -/
theorem stopped (h : Tried requests made false) (requests' : List Call) :
    Tried (requests ++ requests') made false := by
  generalize hall : false = all at h ⊢
  induction h with
  | done => cases hall
  | failed request fault rest =>
      rw [← hall]
      exact .failed request fault _
  | next request _ ih => exact .next request (ih hall)

/-- Only calls that were to be made are made. -/
theorem mem_of_made (h : Tried requests made all) :
    ∀ r ∈ made, r.1 ∈ requests := by
  induction h with
  | done => simp
  | failed => simp
  | next request _ ih =>
      intro r hr
      rcases List.mem_cons.mp hr with rfl | hr
      · exact List.mem_cons_self
      · exact List.mem_cons_of_mem _ (ih r hr)

theorem mem_of_succeeded (h : Tried requests made all) :
    ∀ request ∈ succeeded made, request ∈ requests := by
  intro request hrequest
  obtain ⟨r, hr, rfl⟩ := List.mem_map.mp (mem_map_of_succeeded hrequest)
  exact h.mem_of_made r hr

/-- If no call fails, all of them have succeeded. -/
theorem succeeded_eq (h : Tried requests made true) :
    succeeded made = requests := by
  generalize hall : true = all at h
  induction h with
  | done => rfl
  | failed => cases hall
  | next request _ ih => rw [succeeded_ok, ih hall]

/-- If some call fails, the last one has not succeeded. -/
theorem mem_of_stopped {last : Call}
    (h : Tried (requests ++ [last]) made false) :
    ∀ request ∈ succeeded made, request ∈ requests := by
  induction requests generalizing made with
  | nil =>
      cases h with
      | failed => simp
      | next _ h => cases h
  | cons first rest ih =>
      cases h with
      | failed => simp
      | next _ h =>
          intro request hrequest
          rcases List.mem_cons.mp hrequest with rfl | hrequest
          · exact List.mem_cons_self
          · exact List.mem_cons_of_mem _ (ih h request hrequest)

/-- Some call is made if there are any. -/
theorem made_ne_nil (h : Tried requests made all) (hne : requests ≠ []) :
    made ≠ [] := by
  cases h with
  | done => exact absurd rfl hne
  | failed | next => exact List.cons_ne_nil _ _

end Tried

/-! ## Sessions -/

namespace Settings

/-- The settings that a connection reports.  One that is not open reports that
it does not commit by itself, and the level READ COMMITTED. -/
def reported (session : Option Settings) : Settings :=
  session.getD { autoCommit := false }

/-- The session of a connection after calls on it that succeeded. -/
def after (session : Option Settings) (calls : List Call) : Option Settings :=
  calls.foldl (fun session request => session.map request.effect) session

@[simp]
theorem after_append (session : Option Settings) (calls calls' : List Call) :
    after session (calls ++ calls') = after (after session calls) calls' :=
  List.foldl_append

@[simp]
theorem after_execute (session : Option Settings) (text : String) :
    after session [.execute text] = session := by
  cases session <;> rfl

/-- Setting isolation levels leaves auto-commit alone. -/
theorem autoCommit_after (session : Option Settings) {calls : List Call}
    (h : ∀ request ∈ calls, request.isIsolation = true) :
    (reported (after session calls)).autoCommit =
      (reported session).autoCommit := by
  induction calls generalizing session with
  | nil => rfl
  | cons request rest ih =>
      have hfirst := h request List.mem_cons_self
      have hrest : ∀ other ∈ rest, other.isIsolation = true :=
        fun other hother => h other (List.mem_cons_of_mem _ hother)
      cases request with
      | setIsolation level =>
          refine (ih (session.map (Call.effect (.setIsolation level)))
            hrest).trans ?_
          cases session <;> rfl
      | _ => cases hfirst

/-- The calls that put back what some calls have changed, in a session that had
these settings before: auto-commit first, and then the isolation level. -/
def restoringCalls (settings : Settings) (made : List (Call × Option Fault)) :
    List Call :=
  (if .setAutoCommit false ∈ succeeded made then
    [.setAutoCommit true] else []) ++
    (if (succeeded made).any Call.isIsolation then
      [.setIsolation settings.isolation] else [])

end Settings

/-! ## Attempts -/

/-- The level that a definition sets in a session with some settings: the one
that it asks for, unless the session has an equivalent one. -/
def Definition.levelToSet (d : Definition) (settings : Settings) :
    Option Level :=
  d.isolation.resolve.filter fun level => !settings.isolation.equivalent level

def Definition.openingCalls (d : Definition) (settings : Settings) :
    List Call :=
  (d.levelToSet settings).toList.map .setIsolation ++
    ((if settings.autoCommit then [.setAutoCommit false] else []) ++ [.begin])

/-- The read-only statement, if the transaction is to be read-only and the
coordinator enforces it. -/
def Coordinator.readOnlyCalls (c : Coordinator) (d : Definition) : List Call :=
  if c.config.enforceReadOnly && d.readOnly then
    [.execute c.config.readOnlyStatement] else []

theorem Definition.openingCalls_ne_nil (d : Definition) (settings : Settings) :
    d.openingCalls settings ≠ [] := by
  simp [openingCalls]

/-- One attempt at a transaction on a connection, in a session with some
settings: the calls that the coordinator made, and those that succeeded together
with the statements of the work. -/
inductive Attempt (c : Coordinator) (d : Definition) (settings : Settings) :
    List (Call × Option Fault) → List Call → Prop
  /-- A call of the beginning failed, and what those before it have changed is
  put back. -/
  | notBegun {opened closed : List (Call × Option Fault)}
      (hopened : Tried (d.openingCalls settings) opened false)
      (hclosed : closed.map Prod.fst = settings.restoringCalls opened) :
      Attempt c d settings (opened ++ closed)
        (succeeded opened ++ succeeded closed)
  /-- The driver began.  The read-only statement follows, if there is to be one,
  then the statements of the work, one commit or rollback, and what puts the
  session back.  If the read-only statement fails there is no work, and the
  driver is rolled back. -/
  | begun {opened marked closed : List (Call × Option Fault)} {ready : Bool}
      {work : List Call} {last : Call}
      (hopened : Tried (d.openingCalls settings) opened true)
      (hmarked : Tried (c.readOnlyCalls d) marked ready)
      (hwork : ∀ request ∈ work, request.isStatement = true)
      (hready : ready = false → work = [] ∧ last = .rollback)
      (hlast : last = .commit ∨ last = .rollback)
      (hclosed : closed.map Prod.fst = settings.restoringCalls opened) :
      Attempt c d settings (opened ++ marked ++ [(last, none)] ++ closed)
        (succeeded opened ++ succeeded marked ++ work ++ [last] ++
          succeeded closed)

/-- Every attempt makes a call. -/
theorem Attempt.made_ne_nil {c : Coordinator} {d : Definition}
    {settings : Settings} {made : List (Call × Option Fault)}
    {calls : List Call} (h : Attempt c d settings made calls) : made ≠ [] := by
  cases h with
  | notBegun hopened hclosed =>
      exact List.append_ne_nil_of_left_ne_nil
        (hopened.made_ne_nil (d.openingCalls_ne_nil settings)) _
  | begun => simp

/-! ## Known connections -/

/-- What is said on a connection over some time: attempts at transactions, one
after the other, and statements between them.  Each attempt is for an execution
that was asked for, and starts in the session that was left by what came
before. -/
inductive Traffic (asked : Coordinator → Definition → Prop) :
    Option Settings → List (Call × Option Fault) → List Call → Prop
  | silent (session : Option Settings) : Traffic asked session [] []
  | statement {session : Option Settings} {made : List (Call × Option Fault)}
      {calls : List Call} (text : String)
      (h : Traffic asked session made calls) :
      Traffic asked session made (.execute text :: calls)
  | attempt {session : Option Settings} {c : Coordinator} {d : Definition}
      {made made' : List (Call × Option Fault)} {calls calls' : List Call}
      (hasked : asked c d)
      (hattempt : Attempt c d (.reported session) made calls)
      (h : Traffic asked (Settings.after session calls) made' calls') :
      Traffic asked session (made ++ made') (calls ++ calls')

namespace Traffic

variable {asked : Coordinator → Definition → Prop} {session : Option Settings}
variable {made made' : List (Call × Option Fault)} {calls calls' : List Call}

theorem trans (h : Traffic asked session made calls)
    (h' : Traffic asked (Settings.after session calls) made' calls') :
    Traffic asked session (made ++ made') (calls ++ calls') := by
  induction h with
  | silent => exact h'
  | @statement session made calls text _ ih =>
      have hsame : Settings.after session (.execute text :: calls) =
          Settings.after session calls :=
        congrArg (fun start => Settings.after start calls)
          (Settings.after_execute session text)
      rw [hsame] at h'
      exact .statement text (ih h')
  | attempt hasked hattempt _ ih =>
      rw [Settings.after_append] at h'
      rw [List.append_assoc, List.append_assoc]
      exact .attempt hasked hattempt (ih h')

/-- Work alone makes statements and nothing else. -/
theorem of_statements (h : ∀ request ∈ calls, request.isStatement = true) :
    Traffic asked session [] calls := by
  induction calls with
  | nil => exact .silent session
  | cons request rest ih =>
      have hrest :=
        ih fun other hother => h other (List.mem_cons_of_mem _ hother)
      cases request with
      | execute text => exact .statement text hrest
      | _ => cases h _ List.mem_cons_self

theorem of_attempt {c : Coordinator} {d : Definition} (hasked : asked c d)
    (hattempt : Attempt c d (.reported session) made calls) :
    Traffic asked session made calls := by
  have honly := Traffic.attempt hasked hattempt (.silent _)
  rwa [List.append_nil, List.append_nil] at honly

/-- Where coordinators make no calls there are only statements. -/
theorem statements (h : Traffic asked session [] calls) :
    ∀ request ∈ calls, request.isStatement = true := by
  generalize hmade : [] = made at h
  induction h with
  | silent => simp
  | statement text _ ih =>
      intro request hrequest
      rcases List.mem_cons.mp hrequest with rfl | hrequest
      · rfl
      · exact ih hmade request hrequest
  | attempt hasked hattempt _ _ =>
      exact absurd (List.append_eq_nil_iff.mp hmade.symm).1 hattempt.made_ne_nil

end Traffic

/-! ## Transactions of the driver -/

/-- Whether a transaction of the driver runs after a call, if one ran before or
not.  There is no answer if it was begun while one was running, or ended while
none was. -/
def Call.running : Option Bool → Call → Option Bool
  | some false, .begin => some true
  | some true, .commit | some true, .rollback => some false
  | before, request => if request.isControl then none else before

theorem Call.running_of_quiet {request : Call} (h : request.isControl = false)
    (before : Option Bool) : Call.running before request = before := by
  cases request with
  | begin | commit | rollback => cases h
  | setAutoCommit | setIsolation | execute =>
      rcases before with _ | _ | _ <;> rfl

theorem foldl_running_of_quiet {calls : List Call}
    (h : ∀ request ∈ calls, request.isControl = false) (before : Option Bool) :
    calls.foldl Call.running before = before := by
  induction calls with
  | nil => rfl
  | cons request rest ih =>
      rw [List.foldl_cons, Call.running_of_quiet (h request List.mem_cons_self),
        ih fun other hother => h other (List.mem_cons_of_mem _ hother)]

theorem Call.quiet_of_statement {request : Call}
    (h : request.isStatement = true) :
    request.isControl = false := by
  cases request with
  | execute => rfl
  | _ => cases h

/-- The calls of a beginning before the last, which is the driver's own. -/
theorem Definition.openingCalls_eq (d : Definition) (settings : Settings) :
    ∃ setting, d.openingCalls settings = setting ++ [.begin] ∧
      ∀ request ∈ setting, request.isControl = false := by
  refine ⟨_, (List.append_assoc _ _ _).symm, fun request hrequest => ?_⟩
  rcases List.mem_append.mp hrequest with hlevel | hauto
  · obtain ⟨level, -, rfl⟩ := List.mem_map.mp hlevel
    rfl
  · split at hauto
    · rw [List.mem_singleton.mp hauto]
      rfl
    · cases hauto

theorem Coordinator.readOnlyCalls_quiet (c : Coordinator) (d : Definition) :
    ∀ request ∈ c.readOnlyCalls d, request.isControl = false := by
  intro request hrequest
  rw [readOnlyCalls] at hrequest
  split at hrequest
  · rw [List.mem_singleton.mp hrequest]
    rfl
  · cases hrequest

theorem Settings.restoringCalls_quiet {settings : Settings}
    {made closed : List (Call × Option Fault)}
    (hclosed : closed.map Prod.fst = settings.restoringCalls made) :
    ∀ request ∈ succeeded closed, request.isControl = false := by
  intro request hrequest
  have hmem := mem_map_of_succeeded hrequest
  rw [hclosed, restoringCalls] at hmem
  rcases List.mem_append.mp hmem with h | h <;> split at h
  · rw [List.mem_singleton.mp h]
    rfl
  · cases h
  · rw [List.mem_singleton.mp h]
    rfl
  · cases h

/-- An attempt begins at most one transaction of the driver, and ends it. -/
theorem Attempt.running {c : Coordinator} {d : Definition} {settings : Settings}
    {made : List (Call × Option Fault)} {calls : List Call}
    (h : Attempt c d settings made calls) :
    calls.foldl Call.running (some false) = some false := by
  obtain ⟨setting, hopening, hquiet⟩ := d.openingCalls_eq settings
  cases h with
  | notBegun hopened hclosed =>
      rw [hopening] at hopened
      rw [List.foldl_append,
        foldl_running_of_quiet fun request h =>
          hquiet request (hopened.mem_of_stopped request h),
        foldl_running_of_quiet (Settings.restoringCalls_quiet hclosed)]
  | @begun opened marked closed ready work last hopened hmarked hwork hready
      hlast hclosed =>
      have hbegan : (succeeded opened).foldl Call.running (some false) =
          some true := by
        rw [hopened.succeeded_eq, hopening, List.foldl_append,
          foldl_running_of_quiet hquiet]
        rfl
      have hended : [last].foldl Call.running (some true) = some false := by
        rcases hlast with rfl | rfl <;> rfl
      simp only [List.foldl_append]
      rw [hbegan, foldl_running_of_quiet fun request h =>
          c.readOnlyCalls_quiet d request (hmarked.mem_of_succeeded request h),
        foldl_running_of_quiet fun request h =>
          Call.quiet_of_statement (hwork request h),
        hended, foldl_running_of_quiet (Settings.restoringCalls_quiet hclosed)]

/-- On a connection that carries traffic, transactions of the driver begin and
end in turn. -/
theorem Traffic.running {asked : Coordinator → Definition → Prop}
    {session : Option Settings} {made : List (Call × Option Fault)}
    {calls : List Call} (h : Traffic asked session made calls) :
    calls.foldl Call.running (some false) = some false := by
  induction h with
  | silent => rfl
  | statement text _ ih => exact ih
  | attempt _ hattempt _ ih => rw [List.foldl_append, hattempt.running, ih]

/-! ## What is said between two states -/

/-- What is said on a connection between two states: the calls that coordinators
made on it, and those that succeeded. -/
def State.Said (conn : Connection) (made : List (Call × Option Fault))
    (calls : List Call) (s s' : State) : Prop :=
  Heard conn (callsOn conn made) (calls.map (.called conn.id)) s s'

namespace State.Said

variable {conn : Connection} {made made' : List (Call × Option Fault)}
variable {calls calls' : List Call} {s s' s'' : State}

theorem silent (h : Heard conn [] [] s s') : Said conn [] [] s s' := h

theorem trans (h : Said conn made calls s s')
    (h' : Said conn made' calls' s' s'') :
    Said conn (made ++ made') (calls ++ calls') s s'' := by
  have hboth := Heard.trans h h'
  rwa [callsOn, callsOn, ← List.map_append, ← List.map_append] at hboth

/-- Nothing is said in the second part. -/
theorem andThen (h : Said conn made calls s s') (h' : Heard conn [] [] s' s'') :
    Said conn made calls s s'' :=
  Heard.andThen h h'

theorem session (h : Said conn made calls s s') :
    s'.session conn = Settings.after (s.session conn) calls := by
  rw [Heard.session h, replay, List.foldl_map]
  simp only [Event.effect_called]
  rfl

/-- A call of a coordinator, with its outcome. -/
theorem call (s : State) (conn : Connection) (request : Call) :
    Said conn [(request, faultOf (s.call conn request).1)]
      (succeeded [(request, faultOf (s.call conn request).1)]) s
      (s.call conn request).2 := by
  have hcall := Heard.call s conn request
  cases hfault : faultOf (s.call conn request).1 with
  | none =>
      rw [hfault] at hcall
      exact hcall
  | some fault =>
      rw [hfault] at hcall
      exact hcall

/-- A statement of the work. -/
theorem statement (s : State) (conn : Connection) (text : String) :
    ∃ calls : List Call, (∀ request ∈ calls, request.isStatement = true) ∧
      Said conn [] calls s (s.callDirectly conn (.execute text)).2 := by
  have hcall := Heard.callDirectly s conn (.execute text)
  cases hfault : faultOf (s.callDirectly conn (.execute text)).1 with
  | none =>
      rw [hfault] at hcall
      exact ⟨[.execute text], by simp [Call.isStatement], hcall⟩
  | some fault =>
      rw [hfault] at hcall
      exact ⟨[], by simp, hcall⟩

end State.Said

theorem State.autoCommit_eq (s : State) (conn : Connection) :
    s.autoCommit conn = (Settings.reported (s.session conn)).autoCommit := by
  rw [State.autoCommit, Driver.autoCommit, World.session]
  cases (s.drivers conn.source).sessions conn.id <;> rfl

theorem State.isolation_eq (s : State) (conn : Connection) :
    s.isolation conn = (Settings.reported (s.session conn)).isolation := by
  rw [State.isolation, Driver.isolation, World.session]
  cases (s.drivers conn.source).sessions conn.id <;> rfl

/-- The life of a connection that was acquired for one attempt at a transaction:
it is created, the attempt is made in the session that it is created with, and
it is handed back.  It is released at the end, then, unless its source has
refused it. -/
def State.Lived (asked : Coordinator → Definition → Prop) (conn : Connection)
    (s s' : State) : Prop :=
  ∃ c d made calls fault, asked c d ∧ conn.source = c.source.id ∧
    Attempt c d (s.initial conn) made calls ∧ ReleaseOutcome fault ∧
    Heard conn (callsOn conn made ++
      [.driver (.release conn.source conn) fault])
      (.created conn.id :: calls.map (.called conn.id) ++
        if fault = none then [.released conn.id] else []) s s'

end UnitOfWork
