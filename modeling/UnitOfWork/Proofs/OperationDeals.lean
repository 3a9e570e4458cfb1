import UnitOfWork.Proofs.DriverDeals
import UnitOfWork.Proofs.Steady

/-!
# What the operations deal with the drivers

For each operation on a transaction here are the deals that it makes.  An
attempt at a transaction that has a holder of its own acquires a connection in
its beginning and hands it back at its end, or in the beginning already if that
fails.  In between, it begins a transaction of the driver and ends it.
Suspending and resuming are no matters of the drivers.
-/

namespace UnitOfWork

/-- The deal by which a new connection is acquired for an attempt that owns its
holder. -/
def acquisition (owns : Bool) (conn : Connection) : List Note :=
  if owns then [.line (.acquired conn)] else []

/-- The deal by which the connection is handed back to the source. -/
def Coordinator.restitution (c : Coordinator) (owns : Bool) (conn : Connection)
    (fault : Option Fault) : List Note :=
  if owns then [.driver (.release c.source.id conn) fault] else []

def callsOn (conn : Connection) (calls : List (Call × Option Fault)) :
    List Note :=
  calls.map fun r => .driver (.call conn r.1) r.2

/-- A source refuses a connection by the fault for that, and by no other. -/
theorem State.faultOf_release (s : State) (source : SourceId)
    (conn : Connection) :
    faultOf (s.release source conn).1 = none ∨
      faultOf (s.release source conn).1 = some .release := by
  rw [State.release, Driver.release, Driver.check]
  by_cases h : (s.drivers source).faults .release
  · exact Or.inr (by simp [h, faultOf])
  · exact Or.inl (by simp [h, faultOf])

/-- The outcomes of handing a connection back. -/
def ReleaseOutcome (fault : Option Fault) : Prop :=
  fault = none ∨ fault = some .release

/-- The entry by which the source of a connection has refused to take it
back. -/
def refusal (conn : Connection) : Note :=
  .driver (.release conn.source conn) (some .release)

theorem State.deals_handedBack (line : Line) (hline : line.made? = none)
    (step : RestoringStep) (source : SourceId) (conn : Connection) (s : State) :
    ∃ fault, ReleaseOutcome fault ∧
      Deals [.driver (.release source conn) fault] s
      (handedBack line step source conn s) :=
  ⟨_, (s.say line).faultOf_release source conn,
    ((State.Deals.say s hline).trans (.release _ source conn)).restoring step⟩

namespace Coordinator

variable {c : Coordinator} {d : Definition} {conn : Connection} {h h' : Handle}
variable {s s' : State} {id : HolderId}

/-! ## Beginnings -/

/-- The deals by which a connection is got, where the handle owns no holder that
it could begin on again. -/
theorem deals_obtained
    (hfree : ∀ other, h.holder = some other →
      (s.holders other).stage = .unbound →
      h.ownsHolder = false)
    (hobtained : c.Obtained h s conn id h' s') :
    State.Deals (acquisition h'.ownsHolder conn) s s' ∧
      (h'.ownsHolder = true → conn.source = c.source.id) := by
  cases hobtained with
  | reused hholder hstage hconn =>
      have howns := hfree id hholder hstage
      refine ⟨?_, fun htrue => by simp [howns] at htrue⟩
      rw [acquisition, howns]
      exact .setHolder s id _
  | @created s₁ hcreate =>
      obtain ⟨hdeals, hsource⟩ :=
        State.Deals.create hcreate (.acquired conn) rfl
      exact ⟨hdeals.andThen (.of_drivers rfl rfl), fun _ => hsource⟩

theorem deals_givenUp (c : Coordinator) (driverBegan : Bool) (conn : Connection)
    (h : Handle) (s : State) :
    ∃ calls fault, ReleaseOutcome fault ∧
      (if driverBegan then ∃ f, calls = [(.rollback, f)] else calls = []) ∧
      State.Deals (callsOn conn calls ++
        c.restitution h.ownsHolder conn fault) s
        (c.givenUp driverBegan conn h s) := by
  obtain ⟨calls, htalk, hcalls⟩ := talk_rolledBack driverBegan conn s
  have hrestored := htalk.deals.andThen
    (h.talk_restoreSession conn (rolledBack driverBegan conn s)).deals
  unfold givenUp restitution
  cases h.ownsHolder with
  | false => exact ⟨calls, none, Or.inl rfl, hcalls, hrestored.trans (.refl _)⟩
  | true =>
      obtain ⟨fault, hfault, hback⟩ := State.deals_handedBack
        (.releasingAfterFailedBegin conn)
        rfl .releaseAfterFailedBegin c.source.id
        conn (h.restoreSession conn (rolledBack driverBegan conn s)).2
      exact ⟨calls, fault, hfault, hcalls, hrestored.trans hback⟩

/-- The deals up to the activation of a holder. -/
theorem deals_begun {h₁ h₂ : Handle} {s₁ s₂ s₃ : State}
    (hfree : ∀ other, h.holder = some other →
      (s.holders other).stage = .unbound →
      h.ownsHolder = false)
    (hobtained : c.Obtained h s conn id h₁ s₁) (hsame : h₁.SameAttempt h₂)
    (htalk : Talk conn [(.begin, none)] s₁ s₂)
    (hactive : if h₂.ownsHolder then
        (s₂.setHolder id (c.activeHolder d s₂ id)).bind c.key id = .ok s₃
      else s₃ = s₂.setHolder id (c.activeHolder d s₂ id)) :
    State.Deals (acquisition h₂.ownsHolder conn ++
      [.driver (.call conn .begin) none]) s s₃ ∧
      (h₂.ownsHolder = true → conn.source = c.source.id) := by
  obtain ⟨hacquired, hsource⟩ := deals_obtained hfree hobtained
  have hbegan := hacquired.trans htalk.deals
  rw [← hsame.ownsHolder] at hbegan hsource
  refine ⟨?_, hsource⟩
  split at hactive
  · exact (hbegan.andThen (.setHolder s₂ id _)).andThen (.bind hactive)
  · rw [hactive]
    exact hbegan.andThen (.setHolder s₂ id _)

/-- The deals of a beginning that succeeds. -/
theorem deals_of_ok (howns : h.ownsHolder = false)
    (hok : c.begin d h s = (.ok (), h', s')) :
    ∃ conn id, c.Begun h s conn id h' s' ∧
      State.Deals (acquisition h'.ownsHolder conn ++
        [.driver (.call conn .begin) none]) s s' ∧
      (h'.ownsHolder = true → conn.source = c.source.id) := by
  have hbeginning := c.beginning d h s
  rw [hok] at hbeginning
  cases hbeginning with
  | @begun conn id h₁ h₂ s₁ s₂ s₃ hobtained hsame htalk hactive =>
      obtain ⟨hdeals, hsource⟩ :=
        deals_begun (fun _ _ _ => howns) hobtained hsame htalk hactive
      exact ⟨conn, id, begun_holders hobtained hsame htalk hactive,
        hdeals, hsource⟩

inductive FailedDeals (c : Coordinator) (h : Handle) (s s' : State) :
    List Note → Prop
  | refused : FailedDeals c h s s' []
  | abandoned {conn : Connection} {id : HolderId} {owns : Bool}
      {calls : List (Call × Option Fault)} {fault : Option Fault}
      (horigin : Origin h s conn id owns s')
      (hsource : owns = true → conn.source = c.source.id)
      (hcalls : NotStarted calls ∨
        ∃ f, calls = [(.begin, none), (.rollback, f)])
      (hfault : ReleaseOutcome fault) :
      FailedDeals c h s s'
        (acquisition owns conn ++ callsOn conn calls ++
          c.restitution owns conn fault)

/-- The deals of a beginning that is abandoned. -/
theorem deals_abandoned {h₁ h₂ : Handle} {s₁ s₂ s₃ : State}
    {calls : List (Call × Option Fault)} (driverBegan : Bool)
    (hfree : ∀ other, h.holder = some other →
      (s.holders other).stage = .unbound →
      h.ownsHolder = false)
    (hobtained : c.Obtained h s conn id h₁ s₁) (hsame : h₁.SameAttempt h₂)
    (htalk : Talk conn calls s₁ s₂)
    (hactive : s₃ = s₂ ∨
      h₂.ownsHolder = true ∧ s₃ = s₂.setHolder id (c.activeHolder d s₂ id)) :
    (h₂.ownsHolder = true → conn.source = c.source.id) ∧
    ∃ calls' fault, ReleaseOutcome fault ∧
      (if driverBegan then ∃ f, calls' = [(.rollback, f)] else calls' = []) ∧
      State.Deals (acquisition h₂.ownsHolder conn ++
        callsOn conn (calls ++ calls') ++
        c.restitution h₂.ownsHolder conn fault) s
          (c.abandon driverBegan conn h₂ s₃).2 := by
  obtain ⟨hacquired, hsource⟩ := deals_obtained hfree hobtained
  obtain ⟨calls', fault, hfault, hcalls, hgiven⟩ :=
    c.deals_givenUp driverBegan conn h₂ s₃
  have hactivated : State.Deals [] s₂ s₃ := by
    rcases hactive with rfl | ⟨-, rfl⟩
    · exact .refl s₃
    · exact .setHolder s₂ id _
  rw [← hsame.ownsHolder] at hacquired hsource
  refine ⟨hsource, calls', fault, hfault, hcalls, ?_⟩
  rw [abandon_snd (hsame.holder.trans hobtained.claimed.1)]
  have hall :=
    (((hacquired.trans htalk.deals).andThen hactivated).trans hgiven).andThen
      (.setHolder _ id (leftover h₂.ownsHolder (s₃.holders id)))
  simpa [callsOn] using hall

/-- The deals of a beginning that fails. -/
theorem deals_of_error (howns : h.ownsHolder = false) {e : TransactionError}
    (herror : c.begin d h s = (.error e, h', s')) :
    ∃ deals, State.Deals deals s s' ∧ c.FailedDeals h s s' deals := by
  have hbeginning := c.beginning d h s
  rw [herror] at hbeginning
  generalize hresult : (Except.error e, h', s') = result at hbeginning
  cases hbeginning with
  | refused hstate =>
      obtain ⟨-, -, rfl⟩ := by simpa using hresult
      refine ⟨[], ?_, .refused⟩
      rcases hstate with rfl | ⟨fault, hcreate⟩
      · exact .refl s'
      · exact .createFailed hcreate
  | @early conn id h₁ h₂ s₁ s₂ cause calls hobtained hsame hcalls htalk =>
      obtain rfl : s' = (c.abandon false conn h₂ s₂).2 :=
        (Prod.mk.inj (Prod.mk.inj hresult).2).2
      obtain ⟨hsource, calls', fault, hfault, hcalls', hdeals⟩ :=
        deals_abandoned (d := d) false
          (fun _ _ _ => howns) hobtained hsame htalk (Or.inl rfl)
      obtain rfl : calls' = [] := hcalls'
      rw [List.append_nil] at hdeals
      exact ⟨_, hdeals,
        .abandoned (abandoned_origin (d := d) false hobtained hsame htalk
        (Or.inl rfl)) hsource (Or.inl hcalls) hfault⟩
  | @late conn id h₁ h₂ s₁ s₂ s₃ cause hobtained hsame htalk hactive =>
      obtain rfl : s' = (c.abandon true conn h₂ s₃).2 :=
        (Prod.mk.inj (Prod.mk.inj hresult).2).2
      obtain ⟨hsource, calls', fault, hfault, ⟨f, rfl⟩, hdeals⟩ :=
        deals_abandoned true (fun _ _ _ => howns) hobtained hsame htalk hactive
      exact ⟨_, hdeals,
        .abandoned (abandoned_origin true hobtained hsame htalk hactive) hsource
        (Or.inr ⟨f, rfl⟩) hfault⟩
  | begun => simp at hresult

/-! ## Ends -/

theorem deals_released (c : Coordinator) (h : Handle) (id : HolderId)
    (s : State) :
    State.Deals [] s (c.released h id s) := by
  rw [released, unbindHolder]
  split
  · split
    · exact .unbind s c.key
    · exact .refl s
  · exact .refl s

/-- The deals of a clean-up. -/
theorem deals_cleanup (hholder : h.holder = some id)
    (hconn : (s.holders id).connection = some conn) :
    ∃ fault, ReleaseOutcome fault ∧
      State.Deals (c.restitution h.ownsHolder conn fault) s
        (c.cleanup h s) := by
  have hreleased := c.deals_released h id s
  have hsession := (h.talk_restoreSession conn (c.released h id s)).deals
  rw [cleanup_eq hholder]
  simp only [restored, holders_released, hconn, restoreConnection]
  unfold restitution
  cases h.ownsHolder with
  | false =>
      exact ⟨none, Or.inl rfl,
        (hreleased.andThen hsession).andThen (.setHolder _ id _)⟩
  | true =>
      obtain ⟨fault, hfault, hback⟩ := State.deals_handedBack (.releasing conn)
        rfl .release c.source.id conn
        (h.restoreSession conn (c.released h id s)).2
      exact ⟨fault, hfault, ((hreleased.andThen hsession).trans hback).andThen
        (.setHolder _ id _)⟩

/-! ## Suspensions -/

theorem deals_setAside (c : Coordinator) (suspended : Option HolderId)
    (s : State) :
    State.Deals [] s (c.setAside suspended s) := by
  cases suspended with
  | none => exact .refl s
  | some id => exact .unbind s c.key

theorem deals_entrance (c : Coordinator) (d : Definition)
    (suspended : Option HolderId) (s : State) :
    State.Deals [] s (c.entrance d suspended s) :=
  (c.deals_setAside suspended s).andThen (.say _ rfl)

theorem Entered.nextId {c : Coordinator} {d : Definition} {s s' : State}
    {scope : Scope} (hentered : c.Entered d s scope s') (source : SourceId) :
    s.nextId source ≤ s'.nextId source := by
  cases hentered with
  | joining => exact Nat.le_refl _
  | alone => exact (c.deals_setAside _ s).nextId source
  | @begun suspended h s₁ hcourse hbegin =>
      obtain ⟨other, id, hbegun, hdeals, -⟩ := deals_of_ok rfl hbegin
      exact ((c.deals_entrance d suspended s).trans hdeals).nextId source

theorem deals_resumed (c : Coordinator) (suspended : Option HolderId)
    (s : State) :
    State.Deals [] s (c.resumed suspended s) := by
  rcases c.resumed_cases suspended s with hsame | ⟨id, -, -, hbound⟩
  · rw [hsame]
    exact .refl s
  · rw [hbound]
    have hset : State.Deals [] s
        { s with context := s.context.insert c.key id } :=
      .of_drivers rfl rfl
    exact hset.andThen (.say _ rfl)

end Coordinator

/-! ## Marks -/

theorem State.deals_markedHolder (s : State) (id : HolderId) :
    Deals [] s (s.markedHolder id) :=
  (Deals.say s rfl).andThen (.setHolder _ id _)

theorem State.deals_participantFailed (s : State) (id : HolderId) :
    Deals [] s (s.participantFailed id) :=
  (Deals.say s rfl).andThen (State.deals_markedHolder _ id)

namespace Coordinator

variable {σ ε α : Type} {c : Coordinator} {d : Definition} {body : Plan σ ε α}
variable {s : State} {m : Diary σ} {run : Run (Diary σ) ε α}

/-! ## Executions -/

/-- The ways in which an execution deals with the drivers, and with the
connections that are held. -/
inductive Passage (c : Coordinator) (d : Definition) (body : Plan σ ε α)
    (s : State) (m : Diary σ) (run : Run (Diary σ) ε α) : Prop
  /-- No work was run. -/
  | idle (hstate : run.state = s)
  /-- The work was run in a transaction of someone else, or in none. -/
  | through {scope : Scope} {s₀ : State} (hentered : c.Entered d s scope s₀)
      (hheld : HeldBefore s s₀) (hbefore : State.Deals [] s s₀)
      (hheld' : HeldBefore (body.run scope s₀ m).2.state run.state)
      (hafter : State.Deals [] (body.run scope s₀ m).2.state run.state)
      (hmemory : run.memory = (body.run scope s₀ m).2.memory)
  /-- The transaction for the work could not be begun. -/
  | notBegun {suspended : Option HolderId} {s' : State} {deals : List Note}
      (hfailed : c.FailedDeals (c.blank suspended s)
        (c.entrance d suspended s) s' deals)
      (hheld : HeldBefore s run.state) (hdeals : State.Deals deals s run.state)
  /-- The work was run in a transaction that was begun for it, and ended after
  it. -/
  | within {suspended : Option HolderId} {conn : Connection} {id : HolderId}
      {h : Handle}
      {s₁ : State} (request : Call) (fault : Option Fault)
      {fault' : Option Fault} (hentered : c.Entered d s (.beginning c h) s₁)
      (hbegun : c.Begun (c.blank suspended s)
        (c.entrance d suspended s) conn id h s₁)
      (hsource : h.ownsHolder = true → conn.source = c.source.id)
      (hbefore : State.Deals
        (acquisition h.ownsHolder conn ++
          [.driver (.call conn .begin) none]) s s₁)
      (hrequest : request = .commit ∨ request = .rollback)
      (hfault : ReleaseOutcome fault')
      (hheld : HeldBefore (body.run (.beginning c h) s₁ m).2.state run.state)
      (hafter : State.Deals
        (.driver (.call conn request) fault ::
          c.restitution h.ownsHolder conn fault')
        (body.run (.beginning c h) s₁ m).2.state run.state)
      (hmemory : run.memory = (body.run (.beginning c h) s₁ m).2.memory)
  /-- The work was dropped in a transaction that was begun for it. -/
  | dropped {suspended : Option HolderId} {conn : Connection} {id : HolderId}
      {h : Handle}
      {s₁ : State} {outer : Nat} (hcourse : c.course d s = .begins suspended)
      (hentered : c.Entered d s (.beginning c h) s₁)
      (hbegun : c.Begun (c.blank suspended s)
        (c.entrance d suspended s) conn id h s₁)
      (hbefore : State.Deals
        (acquisition h.ownsHolder conn ++
          [.driver (.call conn .begin) none]) s s₁)
      (hending : run.ending = .overdue outer)
      (hstate : run.state = (body.run (.beginning c h) s₁ m).2.state)
      (hmemory : run.memory = (body.run (.beginning c h) s₁ m).2.memory)

/-- After its work, the handle of a transaction still has the connection that it
was begun on. -/
theorem connection_of_steady {h h' : Handle} {s₁ s' : State} {conn : Connection}
    {id : HolderId} (hbegun : c.Begun h s conn id h' s₁)
    (hid : id < s₁.nextHolder) (hsteady : State.Steady s₁ s') (mark : Bool) :
    (s'.holders id).connection = some conn ∧
      (markedHandle h' mark).connection s' = .ok conn := by
  have hconn : (s'.holders id).connection = some conn := by
    rw [(hsteady.active id hid hbegun.stage).2, hbegun.connection]
  refine ⟨hconn, ?_⟩
  simp [Handle.connection, markedHandle, hbegun.holder, Holder.held, hconn]

/-- The end of a transaction by a call on its connection, and the clean-up after
it. -/
theorem deals_close {suspended : Option HolderId} {conn : Connection}
    {id : HolderId} {h : Handle} {s₁ s' s'' : State} {request : Call}
    {fault : Option Fault} (mark : Bool) (hs : s.BoundExist)
    (hbegun : c.Begun (c.blank suspended s)
      (c.entrance d suspended s) conn id h s₁)
    (hsteady : State.Steady s₁ s')
    (htalk : Talk conn [(request, fault)] s' s'') :
    ∃ fault', ReleaseOutcome fault' ∧
      HeldBefore s'
        (c.resumed suspended (c.cleanup (markedHandle h mark) s'')) ∧
      State.Deals
        (.driver (.call conn request) fault ::
          c.restitution h.ownsHolder conn fault')
        s' (c.resumed suspended (c.cleanup (markedHandle h mark) s'')) := by
  have hholder : (markedHandle h mark).holder = some id := hbegun.holder
  have hconn :=
    (connection_of_steady hbegun (hbegun.holder_lt hs) hsteady mark).1
  rw [← htalk.sameHolders.holders] at hconn
  obtain ⟨fault', hfault, hcleaned⟩ := deals_cleanup (c := c) hholder hconn
  refine ⟨fault', hfault, fun other k hk => ?_,
    (htalk.deals.trans hcleaned).andThen (c.deals_resumed _ _)⟩
  rw [holders_resumed] at hk
  rw [← htalk.sameHolders.holders]
  exact heldBefore_cleanup hholder s'' other k hk

/-- A transaction that was begun for the work is ended after it. -/
theorem passage_closed {suspended : Option HolderId} {h : Handle}
    {s₁ s' : State} {scope : Scope} {ending : Ending ε α} {m' : Diary σ}
    {mark : Bool} {completed : Except (Failure ε) α × State} (hs : s.BoundExist)
    (hcourse : c.course d s = .begins suspended)
    (hbegin : c.begin d (c.blank suspended s) (c.entrance d suspended s) =
      (.ok (), h, s₁))
    (hwork : body.run (.beginning c h) s₁ m = (scope, ⟨ending, s', m'⟩))
    (hended : ∀ conn, (markedHandle h mark).connection s' = .ok conn →
      ∃ request fault, (request = .commit ∨ request = .rollback) ∧
        Talk conn [(request, fault)] s' completed.2) :
    c.Passage d body s m
      (c.close suspended (markedHandle h mark) completed m') := by
  obtain ⟨conn, id, hbegun, hdeals, hsource⟩ := deals_of_ok rfl hbegin
  have hsteady := body.run_steady (.beginning c h) m (hbegun.boundExist hs)
  rw [hwork] at hsteady
  obtain ⟨request, fault, hrequest, htalk⟩ :=
    hended conn (connection_of_steady hbegun
      (hbegun.holder_lt hs) hsteady mark).2
  obtain ⟨fault', hfault, hheld, hafter⟩ :=
    deals_close mark hs hbegun hsteady htalk
  refine .within request fault (.begun hcourse hbegin) hbegun hsource
    ((c.deals_entrance d suspended s).trans hdeals) hrequest hfault ?_ ?_ ?_
  · rw [hwork, close_state]
    exact hheld
  · rw [hwork, close_state]
    exact hafter
  · rw [hwork, close_memory]

theorem Execution.passage (hrun : c.Execution d body s m run)
    (hs : s.BoundExist) :
    c.Passage d body s m run := by
  cases hrun with
  | refused => exact .idle rfl
  | @joined id mark result s' m' hcourse hwork =>
      have hsaid : State.Deals [] s (s.say (.participating d.name)) :=
        .say s rfl
      refine .through (.joining hcourse) (fun _ _ h => h) hsaid
        ?_ ?_ ?_ <;> rw [hwork]
      · show HeldBefore s' (if Plan.failed result then
          s'.participantFailed id else s')
        split
        · exact heldBefore_markedHolder (s'.say .participantFailed) id
        · exact fun _ _ h => h
      · show State.Deals [] s' (if Plan.failed result then
          s'.participantFailed id else s')
        split
        · exact s'.deals_participantFailed id
        · exact .refl s'
  | @joinedCut id scope outer s' m' hcourse hwork =>
      have hsaid : State.Deals [] s (s.say (.participating d.name)) :=
        .say s rfl
      refine .through (.joining hcourse) (fun _ _ h => h) hsaid
        ?_ ?_ ?_ <;> rw [hwork]
      · exact fun _ _ h => h
      · exact .refl _
  | @alone suspended scope result s' m' hcourse hwork =>
      refine .through (.alone hcourse)
        (fun _ _ h => by rwa [holders_setAside] at h)
        (c.deals_setAside suspended s) ?_ ?_ ?_ <;> rw [hwork]
      · rw [conclude_state]
        exact fun _ _ h => by rwa [holders_resumed] at h
      · rw [conclude_state]
        exact c.deals_resumed suspended s'
      · rw [conclude_memory]
  | @aloneCut suspended scope outer s' m' hcourse hwork =>
      refine .through (.alone hcourse)
        (fun _ _ h => by rwa [holders_setAside] at h)
        (c.deals_setAside suspended s) ?_ ?_ ?_ <;> rw [hwork]
      · exact fun _ _ h => h
      · exact .refl _
  | @notBegun suspended e h' s' hcourse hbegin =>
      obtain ⟨deals, hdeals, hfailed⟩ := deals_of_error rfl hbegin
      have hheld := heldBefore_of_notBegun (notBegun_of_error hbegin)
      refine .notBegun hfailed (fun id conn hconn => ?_)
        (((c.deals_entrance d suspended s).trans hdeals).andThen
          (c.deals_resumed suspended s'))
      have hentrance :=
        hheld id conn (by rwa [← holders_resumed c suspended s'])
      rwa [entrance, State.holders_say, holders_setAside] at hentrance
  | @begun suspended h s₁ mark result s' m' hcourse hbegin hwork =>
      refine passage_closed hs hcourse hbegin hwork fun conn hconn => ?_
      obtain ⟨fault, htalk, -⟩ := complete_ended hconn result
      exact ⟨_, fault, lastCall_cases _, htalk⟩
  | @timedOut suspended h s₁ mark deadline s' m' hcourse hbegin hwork
      hdeadline =>
      refine passage_closed hs hcourse hbegin hwork fun conn hconn => ?_
      obtain ⟨⟨fault, htalk⟩, -⟩ :=
        completeOverdue_ended (ε := ε) (α := α) hconn deadline
      exact ⟨.rollback, fault, Or.inr rfl, htalk⟩
  | @begunCut suspended h s₁ scope inner outer s' m' hcourse hbegin hwork =>
      obtain ⟨conn, id, hbegun, hdeals, hsource⟩ := deals_of_ok rfl hbegin
      exact .dropped hcourse (.begun hcourse hbegin) hbegun
        ((c.deals_entrance d suspended s).trans hdeals) rfl
        (by rw [hwork]) (by rw [hwork])

/-- Whatever an execution deals with the drivers. -/
theorem Execution.dealt (hrun : c.Execution d body s m run) (hs : s.BoundExist)
    (hbody : ∀ scope s', s'.BoundExist →
      ∃ deals, State.Deals deals s' (body.run scope s' m).2.state) :
    ∃ deals, State.Deals deals s run.state := by
  have hwork : ∀ {scope s₀ before}, c.Entered d s scope s₀ →
      State.Deals before s s₀ →
      ∃ deals, State.Deals deals s (body.run scope s₀ m).2.state := by
    intro scope s₀ before hentered hbefore
    obtain ⟨deals, hdeals⟩ := hbody scope s₀ (hentered.steady.boundExist hs)
    exact ⟨_, hbefore.trans hdeals⟩
  cases hrun.passage hs with
  | idle hstate =>
      rw [hstate]
      exact ⟨[], .refl s⟩
  | through hentered hheld hbefore hheld' hafter =>
      obtain ⟨deals, hdeals⟩ := hwork hentered hbefore
      exact ⟨_, hdeals.trans hafter⟩
  | notBegun hfailed hheld hdeals => exact ⟨_, hdeals⟩
  | within request fault hentered hbegun hsource hbefore hrequest hfault
      hheld hafter =>
      obtain ⟨deals, hdeals⟩ := hwork hentered hbefore
      exact ⟨_, hdeals.trans hafter⟩
  | dropped hcourse hentered hbegun hbefore hending hstate =>
      rw [hstate]
      exact hwork hentered hbefore

end Coordinator

/-! ## Steps of plans -/

/-- A scope that is asked for a connection gives the bound one or fetches a new
one. -/
theorem Scope.connection_cases (scope : Scope) (s : State) :
    (∃ conn, scope.coordinator.source.boundConnection s = some conn ∧
      scope.connection s = (.ok conn, s)) ∨
    (scope.coordinator.source.boundConnection s = none ∧
      ∃ conn s', scope.connection s = (.ok conn, s') ∧
        conn.source = scope.coordinator.source.id ∧
        State.Deals [.line (.fetched conn)] s s') ∨
    ∃ e s', scope.connection s = (.error e, s') ∧ State.Deals [] s s' := by
  rw [Scope.connection, Source.getConnection]
  cases scope.coordinator.source.boundConnection s with
  | some conn => exact Or.inl ⟨conn, rfl, rfl⟩
  | none =>
      apply Or.inr
      cases hcreate : s.create scope.coordinator.source.id with
      | mk outcome s' =>
          cases outcome with
          | ok conn =>
              obtain ⟨hdeals, hsource⟩ :=
                State.Deals.create hcreate (.fetched conn) rfl
              exact Or.inl ⟨rfl, conn, _, rfl, hsource, hdeals⟩
          | error fault => exact Or.inr ⟨_, s', rfl, .createFailed hcreate⟩

/-- A connection that is handed back to a scope is handed back to the source,
unless it is the bound one. -/
theorem Scope.release_cases (scope : Scope) (conn : Connection) (s : State) :
    (s.isTransactional scope.coordinator.key conn = true ∧
      scope.release conn s = (.ok (), s)) ∨
    (s.isTransactional scope.coordinator.key conn = false ∧
      ∃ fault, ReleaseOutcome fault ∧ State.Deals
        [.driver (.release scope.coordinator.source.id conn) fault] s
        (scope.release conn s).2) := by
  rw [Scope.release, Source.releaseConnection]
  show (s.isTransactional scope.coordinator.source.key conn = true ∧ _) ∨
    (s.isTransactional scope.coordinator.source.key conn = false ∧ _)
  cases s.isTransactional scope.coordinator.source.key conn with
  | true => exact Or.inl ⟨rfl, rfl⟩
  | false =>
      have hdeals := State.Deals.release s scope.coordinator.source.id conn
      have hfault := s.faultOf_release scope.coordinator.source.id conn
      refine Or.inr ⟨rfl, _, hfault, ?_⟩
      simp only [Bool.false_eq_true, if_false]
      cases hresult : s.release scope.coordinator.source.id conn with
      | mk outcome s' =>
          rw [hresult] at hdeals
          cases outcome <;> exact hdeals

namespace Plan

variable {σ : Type}

def Step.isDeal : Step σ → Bool
  | connection | handBack _ => true
  | _ => false

/-- No other step deals with the drivers. -/
theorem Step.take_deals_nothing {step : Step σ} (hstep : step.isDeal = false)
    (scope : Scope) (s : State) (m : Diary σ) :
    State.Deals [] s (step.take scope s m).state := by
  cases step with
  | connection | handBack => cases hstep
  | markRollbackOnly =>
      simp only [Step.take]
      rcases scope.markRollbackOnly_cases s with
          ⟨e, -, h⟩ | ⟨id, -, h⟩ <;> rw [h]
      · exact .refl s
      · exact s.deals_markedHolder id
  | call conn request => exact .callDirectly s conn request
  | setFault source fault on => exact .setFault s source fault on
  | rest | remember | look => exact .of_drivers rfl rfl

/-- The deals of a step are at most one: a connection was fetched, or one was
handed back. -/
theorem Step.take_deals (step : Step σ) (scope : Scope) (s : State)
    (m : Diary σ) :
    State.Deals [] s (step.take scope s m).state ∨
    (∃ conn, State.Deals [.line (.fetched conn)] s
      (step.take scope s m).state) ∨
    ∃ conn fault,
      State.Deals [.driver (.release scope.coordinator.source.id conn) fault] s
      (step.take scope s m).state := by
  cases hstep : step.isDeal with
  | false => exact Or.inl (Step.take_deals_nothing hstep scope s m)
  | true =>
      cases step with
      | connection =>
          simp only [Step.take]
          rcases scope.connection_cases s with
              ⟨conn, -, h⟩ | ⟨-, conn, s', h, -, hdeals⟩ |
            ⟨e, s', h, hdeals⟩ <;> rw [h]
          · exact Or.inl (.refl s)
          · exact Or.inr (Or.inl ⟨conn, hdeals⟩)
          · exact Or.inl hdeals
      | handBack conn =>
          simp only [Step.take]
          rcases scope.release_cases conn s with ⟨-, h⟩ | ⟨-, fault, -, hdeals⟩
          · rw [h]
            exact Or.inl (.refl s)
          · exact Or.inr (Or.inr ⟨conn, fault, hdeals⟩)
      | _ => cases hstep

/-- Whatever a step deals with the drivers. -/
theorem Step.take_dealt (step : Step σ) (scope : Scope) (s : State)
    (m : Diary σ) :
    ∃ deals, State.Deals deals s (step.take scope s m).state := by
  rcases step.take_deals scope s m with h | ⟨_, h⟩ | ⟨_, _, h⟩ <;> exact ⟨_, h⟩

theorem Step.take_nextId (step : Step σ) (scope : Scope) (s : State)
    (m : Diary σ) (source : SourceId) :
    s.nextId source ≤ (step.take scope s m).state.nextId source := by
  obtain ⟨deals, hdeals⟩ := step.take_dealt scope s m
  exact hdeals.nextId source

theorem Step.take_heldBefore (step : Step σ) (scope : Scope) (s : State)
    (m : Diary σ) :
    Coordinator.HeldBefore s (step.take scope s m).state := by
  rcases step.take_cases scope s m with rfl | ⟨-, hsame, -⟩
  · simp only [Step.take]
    rcases scope.markRollbackOnly_cases s with
        ⟨e, -, hmark⟩ | ⟨id, -, hmark⟩ <;> rw [hmark]
    · exact fun _ _ h => h
    · exact Coordinator.heldBefore_markedHolder s id
  · exact fun _ _ h => by rwa [hsame.holders] at h

theorem run_dealt {ε α : Type} (plan : Plan σ ε α) (scope : Scope) {s : State}
    (m : Diary σ) (hs : s.BoundExist) :
    ∃ deals, State.Deals deals s (plan.run scope s m).2.state := by
  obtain ⟨-, -, hdealt⟩ := run_induction
    (R := fun s _ s' => ∃ deals, State.Deals deals s s')
    (fun s => ⟨[], .refl s⟩)
    (fun _ _ ⟨_, hdeals⟩ ⟨_, hrest⟩ => ⟨_, hdeals.trans hrest⟩)
    (fun step scope s m _ => by
      obtain ⟨new, hnew⟩ := step.take_deeds scope s m
      exact ⟨new, hnew.symm, step.take_dealt scope s m⟩)
    (fun {c d body s m run} hrun hs hbody => by
      obtain ⟨new, hnew⟩ := hrun.deeds
      refine ⟨new, hnew.symm, hrun.dealt hs fun scope' s' hs' => ?_⟩
      obtain ⟨-, -, hwork⟩ := hbody scope' s' hs'
      exact hwork)
    plan scope m hs
  exact hdealt

end Plan

theorem Coordinator.execute_dealt {σ ε α : Type} (c : Coordinator)
    (d : Definition) (body : Plan σ ε α) {s : State} (m : Diary σ)
    (hs : s.BoundExist) :
    ∃ deals, State.Deals deals s (c.execute d body.run s m).state :=
  (c.execution d body s m).dealt hs fun scope _ hs' =>
    body.run_dealt scope m hs'

end UnitOfWork
