import UnitOfWork.Proofs.ConnectionEvents
import UnitOfWork.Proofs.HonestWork

/-!
# Connections that are taken and given back

Code outside of a transaction asks a source for connections and hands them back
later.  Three operations decide by themselves whether a connection is the one of
a transaction: the one that looks for a connection asks whether the bound holder
has any, the one that takes it back and the one that is asked about it compare
it with what the holder has.  They agree: what a source gives while no
connection is bound is its own loan, which is handed back once, and what it
gives otherwise is the bound connection, which stays.

`Lent` says what the loans that are out make of a state.  A connection that is
fetched is one more of them, one that is handed back is one less, and with none
out the state has the sessions, the bindings and the holders that it had at
first.
-/

namespace UnitOfWork

variable {source : Source} {s s' : State} {out : List Connection}
variable {conn : Connection}

namespace Source

def getConnections (source : Source) :
    Nat → State → List (Except TransactionError Connection) × State
  | 0, s => ([], s)
  | n + 1, s =>
      match source.getConnection s with
      | (answer, s') =>
          match getConnections source n s' with
          | (answers, s'') => (answer :: answers, s'')

def releaseConnections (source : Source) :
    List Connection → State → List (Except TransactionError Unit) × State
  | [], s => ([], s)
  | conn :: rest, s =>
      match source.releaseConnection conn s with
      | (answer, s') =>
          match releaseConnections source rest s' with
          | (answers, s'') => (answer :: answers, s'')

end Source

/-! ## The drivers that there are -/

/-- The drivers that a source can have: a fresh one, and what its operations
make of it. -/
inductive Driver.Reached : Driver → Prop
  | fresh : Reached {}
  | setInitial {d : Driver} (h : d.Reached) (initial : Settings) :
      Reached { d with initial := initial }
  | setFault {d : Driver} (h : d.Reached) (fault : Fault) (on : Bool) :
      Reached (d.setFault fault on)
  | clearEvents {d : Driver} (h : d.Reached) : Reached d.clearEvents
  | create {d d' : Driver} (h : d.Reached) {id : ConnectionId}
      (hcreate : d.create = .ok (id, d')) : Reached d'
  | release {d d' : Driver} (h : d.Reached) {id : ConnectionId}
      (hrelease : d.release id = .ok d') : Reached d'
  | call {d d' : Driver} (h : d.Reached) {id : ConnectionId} {request : Call}
      (hcall : d.call id request = .ok d') : Reached d'

/-- A connection that was not given yet has no session. -/
theorem Driver.Reached.sessions_of_unknown {d : Driver} (h : d.Reached)
    {id : ConnectionId} (hunknown : d.nextId ≤ id) : d.sessions id = none := by
  induction h with
  | fresh => rfl
  | setInitial _ _ ih | setFault _ _ _ ih | clearEvents _ ih =>
      exact ih hunknown
  | create _ hcreate ih =>
      rw [Driver.create] at hcreate
      split at hcreate
      · cases hcreate
      · obtain ⟨rfl, rfl⟩ := Prod.mk.inj (Except.ok.inj hcreate)
        have hlater := Nat.lt_of_succ_le hunknown
        simp [record, Nat.ne_of_gt hlater, ih (Nat.le_of_lt hlater)]
  | release _ hrelease ih =>
      rw [Driver.release] at hrelease
      split at hrelease
      · cases hrelease
      · obtain rfl := Except.ok.inj hrelease
        simp [record, ih hunknown]
  | call _ hcall ih =>
      rw [call_eq_ok hcall] at hunknown ⊢
      have hnone := ih hunknown
      simp only [record, sessions_setSession]
      split
      · next hsame => rw [← hsame, hnone, Option.map_none]
      · exact hnone

/-! ## What decides about a connection -/

/-- Which connection is bound is seen in the context and in the holders. -/
theorem Source.boundConnection_of_same (hcontext : s'.context = s.context)
    (hholders : s'.holders = s.holders) :
    source.boundConnection s' = source.boundConnection s := by
  rw [boundConnection, boundConnection, State.boundHolder, State.boundHolder,
    hcontext, hholders]

/-- Where no connection is bound, none is the one of a transaction. -/
theorem Source.isTransactional_of_none (hnone : source.boundConnection s = none)
    (conn : Connection) : s.isTransactional source.key conn = false := by
  apply Bool.eq_false_iff.mpr
  intro hyes
  cases hnone.symm.trans (isTransactional_iff.mp hyes)

/-! ## A source that gives its bound connection -/

/-- As often as it is asked for, the bound connection is given, and nothing
happens. -/
theorem Source.getConnections_of_bound
    (hbound : source.boundConnection s = some conn) (n : Nat) :
    source.getConnections n s = (List.replicate n (.ok conn), s) := by
  induction n with
  | zero => rfl
  | succ n ih =>
      have hget : source.getConnection s = (.ok conn, s) := by
        rw [getConnection, hbound]
      rw [getConnections, hget]
      simp only [ih]
      rfl

/-- The bound connection is not released by handing it back. -/
theorem Source.releaseConnections_of_bound
    (hbound : source.boundConnection s = some conn) {order : List Connection}
    (horder : ∀ c ∈ order, c = conn) :
    source.releaseConnections order s = (order.map fun _ => .ok (), s) := by
  induction order with
  | nil => rfl
  | cons c rest ih =>
      obtain rfl := horder c List.mem_cons_self
      have hrelease : source.releaseConnection c s = (.ok (), s) := by
        rw [releaseConnection, if_pos (Source.isTransactional_iff.mpr hbound)]
      rw [releaseConnections, hrelease]
      simp only [ih fun c' hc' => horder c' (List.mem_cons_of_mem _ hc'),
        List.map_cons]

/-! ## A source that lends connections -/

/-- What becomes of a state when a source has lent some connections and has
changed nothing else: each of them is new, and has a session that was not there
before. -/
structure Lent (source : Source) (s : State) (out : List Connection)
    (s' : State) : Prop where
  holders : s'.holders = s.holders
  nextHolder : s'.nextHolder = s.nextHolder
  context : s'.context = s.context
  others : ∀ i, i ≠ source.id → s'.drivers i = s.drivers i
  faults : (s'.drivers source.id).faults = (s.drivers source.id).faults
  nextId : s.nextId source.id ≤ s'.nextId source.id
  session : ∀ c, c ∉ out → s'.session c = s.session c
  created : ∀ c ∈ out, c.source = source.id ∧ State.Created c s s'
  nodup : out.Nodup

namespace Lent

theorem refl (source : Source) (s : State) : Lent source s [] s where
  holders := rfl
  nextHolder := rfl
  context := rfl
  others _ _ := rfl
  faults := rfl
  nextId := Nat.le_refl _
  session _ _ := rfl
  created _ h := by cases h
  nodup := .nil

theorem boundConnection (h : Lent source s out s') :
    source.boundConnection s' = source.boundConnection s :=
  Source.boundConnection_of_same h.context h.holders

/-- Nothing that is lent is numbered like the next connection. -/
theorem next_not_mem (h : Lent source s out s') :
    (⟨source.id, s'.nextId source.id⟩ : Connection) ∉ out :=
  fun hmem => Nat.lt_irrefl _ (h.created _ hmem).2.2

/-- The next connection is fetched, and it is one more loan. -/
theorem take (h : Lent source s out s')
    (hnone : source.boundConnection s = none)
    (hcreate : (s.drivers source.id).faults .create = false) :
    ∃ conn s'', source.getConnection s' = (.ok conn, s'') ∧
      conn = ⟨source.id, s'.nextId source.id⟩ ∧
      Lent source s (conn :: out) s'' := by
  have hcheck : (s'.drivers source.id).check .create = .ok () := by
    rw [Driver.check, h.faults, hcreate]
    rfl
  have hunbound := h.boundConnection.trans hnone
  rw [Source.getConnection, hunbound, State.create, Driver.create, hcheck]
  refine ⟨_, _, rfl, rfl, ?_⟩
  constructor
  case nodup => exact List.nodup_cons.mpr ⟨h.next_not_mem, h.nodup⟩
  case created =>
    intro c hc
    rcases List.mem_cons.mp hc with rfl | hc
    · refine ⟨rfl, h.nextId, ?_⟩
      simp [World.nextId]
    · obtain ⟨hsource, hfirst, hlast⟩ := h.created c hc
      refine ⟨hsource, hfirst, Nat.lt_of_lt_of_le hlast ?_⟩
      simp [World.nextId, hsource]
  case session =>
    intro c hc
    obtain ⟨hne, hc⟩ := not_or.mp (mt List.mem_cons.mpr hc)
    rw [← h.session c hc, World.session, World.session, State.drivers_say,
      State.drivers_note, State.drivers_setDriver]
    split
    · next hsource =>
        have hid : c.id ≠ (s'.drivers source.id).nextId := by
          intro hid
          obtain ⟨_, _⟩ := c
          simp_all
        simp [Driver.record, hid, hsource]
    · rfl
  case holders => exact h.holders
  case nextHolder => exact h.nextHolder
  case context => exact h.context
  case others =>
    intro i hi
    rw [← h.others i hi]
    simp [hi]
  case faults => simpa [Driver.record, Driver.setSession] using h.faults
  case nextId =>
    refine Nat.le_trans h.nextId ?_
    simp [World.nextId]

/-- A loan is handed back and released, and it is one less. -/
theorem giveBack (h : Lent source s out s')
    (hnone : source.boundConnection s = none)
    (hrelease : (s.drivers source.id).faults .release = false)
    (hreached : (s.drivers source.id).Reached) (hconn : conn ∈ out) :
    ∃ s'', source.releaseConnection conn s' = (.ok (), s'') ∧
      Lent source s (out.erase conn) s'' ∧
      (s''.drivers source.id).events =
        (s'.drivers source.id).events ++ [.released conn.id] := by
  have hcheck : (s'.drivers source.id).check .release = .ok () := by
    rw [Driver.check, h.faults, hrelease]
    rfl
  have hfree :=
    Source.isTransactional_of_none (h.boundConnection.trans hnone) conn
  obtain ⟨hsource, hcreated, -⟩ := h.created conn hconn
  rw [Source.releaseConnection, hfree, State.release, Driver.release, hcheck]
  refine ⟨_, rfl, ?_, by simp [Driver.record, Driver.setSession]⟩
  constructor
  case nodup => exact h.nodup.erase conn
  case created =>
    intro c hc
    obtain ⟨hsource, hfirst, hlast⟩ := h.created c (List.mem_of_mem_erase hc)
    refine ⟨hsource, hfirst, Nat.lt_of_lt_of_le hlast ?_⟩
    simp [World.nextId, hsource, Driver.record, Driver.setSession]
  case session =>
    intro c hc
    rw [World.session, State.drivers_note, State.drivers_setDriver]
    by_cases hsame : c = conn
    · -- What was handed back has no session, as before it was created.
      subst hsame
      have hclosed : s.session c = none := by
        rw [World.session, hsource]
        exact hreached.sessions_of_unknown (hsource ▸ hcreated)
      rw [hclosed, if_pos hsource]
      simp [Driver.record]
    · have hout : c ∉ out :=
        fun hmem => hc ((List.mem_erase_of_ne hsame).mpr hmem)
      rw [← h.session c hout]
      split
      · next hs =>
          have hid : c.id ≠ conn.id := by
            intro hid
            obtain ⟨_, _⟩ := c
            obtain ⟨_, _⟩ := conn
            simp_all
          simp [Driver.record, hid, World.session, hs]
      · rfl
  case holders => exact h.holders
  case nextHolder => exact h.nextHolder
  case context => exact h.context
  case others =>
    intro i hi
    rw [← h.others i hi]
    simp [hi]
  case faults => simpa [Driver.record, Driver.setSession] using h.faults
  case nextId => simpa [World.nextId, Driver.record, Driver.setSession]
    using h.nextId

/-- As often as it is asked, the source lends a connection that it never gave
before. -/
theorem takeAll (h : Lent source s out s')
    (hnone : source.boundConnection s = none)
    (hcreate : (s.drivers source.id).faults .create = false) (n : Nat) :
    ∃ (obtained : List Connection) (s'' : State),
      source.getConnections n s' = (obtained.map .ok, s'') ∧
      obtained.length = n ∧ Lent source s (obtained.reverse ++ out) s'' := by
  induction n generalizing out s' with
  | zero => exact ⟨[], s', rfl, rfl, h⟩
  | succ n ih =>
      obtain ⟨conn, s₁, hget, -, htaken⟩ := h.take hnone hcreate
      obtain ⟨obtained, s₂, hrest, hlength, hlent⟩ := ih htaken
      refine ⟨conn :: obtained, s₂, ?_, by simp [hlength], ?_⟩
      · simp only [Source.getConnections, hget, hrest, List.map_cons]
      · simpa using hlent

/-- When all loans have been handed back, in any order, none is out. -/
theorem giveAllBack (hreached : (s.drivers source.id).Reached)
    (hnone : source.boundConnection s = none)
    (hrelease : (s.drivers source.id).faults .release = false) :
    ∀ {order out : List Connection}
      {s' : State}, order.Perm out → Lent source s out s' →
    ∃ s'', source.releaseConnections order s' =
      (order.map fun _ => .ok (), s'') ∧ Lent source s [] s'' ∧
      (s''.drivers source.id).events =
        (s'.drivers source.id).events ++ order.map fun c => .released c.id := by
  intro order
  induction order with
  | nil =>
      intro out s' hperm h
      obtain rfl := hperm.nil_eq
      exact ⟨s', rfl, h, by simp⟩
  | cons conn rest ih =>
      intro out s' hperm h
      have hconn : conn ∈ out := hperm.subset List.mem_cons_self
      have hrest : rest.Perm (out.erase conn) := by
        have := hperm.erase conn
        rwa [List.erase_cons_head] at this
      obtain ⟨s₁, hback, hlent, hevents⟩ :=
        h.giveBack hnone hrelease hreached hconn
      obtain ⟨s₂, hall, hnothing, hevents'⟩ := ih hrest hlent
      refine ⟨s₂, ?_, hnothing, ?_⟩
      · simp only [Source.releaseConnections, hback, hall, List.map_cons]
      · rw [hevents', hevents, List.append_assoc, List.map_cons,
          List.singleton_append]

end Lent

/-- Connection lookup is balanced.  Where a connection is bound it is given each
time, and none is released.  Where none is, the connections that are given are
new and all different, and those are released that come back.  In the end
nothing is different. -/
theorem Source.lookups_balance (source : Source) (s : State) (n : Nat)
    (hreached : (s.drivers source.id).Reached)
    (hcreate : (s.drivers source.id).faults .create = false)
    (hrelease : (s.drivers source.id).faults .release = false) :
    ∃ (obtained : List Connection) (given : State),
      source.getConnections n s = (obtained.map .ok, given) ∧
      obtained.length = n ∧
      (∀ conn, source.boundConnection s = some conn →
        ∀ c ∈ obtained, c = conn) ∧
      (source.boundConnection s = none → obtained.Nodup ∧
        ∀ c ∈ obtained, c.source = source.id ∧ s.nextId c.source ≤ c.id) ∧
      (∀ c ∈ obtained, given.isTransactional source.key c =
        (source.boundConnection s).isSome) ∧
      ∀ order : List Connection, order.Perm obtained → ∃ final : State,
        source.releaseConnections order given =
          (order.map fun _ => .ok (), final) ∧
        (final.drivers source.id).events = (given.drivers source.id).events ++
          (order.filter fun c => !given.isTransactional source.key c).map
            (fun c => .released c.id) ∧
        (∀ c, final.session c = s.session c) ∧ final.context = s.context ∧
        final.holders = s.holders ∧ final.nextHolder = s.nextHolder := by
  cases hbound : source.boundConnection s with
  | some conn =>
      have hyes : s.isTransactional source.key conn = true :=
        Source.isTransactional_iff.mpr hbound
      refine ⟨List.replicate n conn, s, ?_, List.length_replicate, ?_,
        (fun h => by cases h), ?_, ?_⟩
      · rw [getConnections_of_bound hbound, List.map_replicate]
      · intro conn' hconn' c hc
        rw [List.eq_of_mem_replicate hc, Option.some.inj hconn']
      · intro c hc
        rw [List.eq_of_mem_replicate hc, hyes, Option.isSome_some]
      · intro order hperm
        have horder : ∀ c ∈ order, c = conn := fun c hc =>
          List.eq_of_mem_replicate (hperm.subset hc)
        have hnothing :
            (order.filter fun c => !s.isTransactional source.key c) = [] := by
          apply List.filter_eq_nil_iff.mpr
          intro c hc
          rw [horder c hc, hyes]
          exact Bool.false_ne_true
        refine ⟨s, releaseConnections_of_bound hbound horder, ?_, fun _ => rfl,
          rfl, rfl, rfl⟩
        rw [hnothing, List.map_nil, List.append_nil]
  | none =>
      obtain ⟨obtained, given, hget, hlength, hlent⟩ :=
        (Lent.refl source s).takeAll hbound hcreate n
      rw [List.append_nil] at hlent
      have hno := isTransactional_of_none (hlent.boundConnection.trans hbound)
      refine ⟨obtained, given, hget, hlength, (fun _ h => by cases h),
        fun _ => ⟨?_, ?_⟩,
        fun c _ => hno c, ?_⟩
      · exact (List.reverse_perm obtained).nodup_iff.mp hlent.nodup
      · intro c hc
        obtain ⟨hsource, hcreated⟩ := hlent.created c (List.mem_reverse.mpr hc)
        exact ⟨hsource, hcreated.1⟩
      · intro order hperm
        obtain ⟨final, hback, hnothing, hevents⟩ := Lent.giveAllBack hreached
          hbound hrelease (hperm.trans (List.reverse_perm obtained).symm) hlent
        refine ⟨final, hback, ?_, fun c => hnothing.session c List.not_mem_nil,
          hnothing.context, hnothing.holders, hnothing.nextHolder⟩
        rw [hevents, List.filter_eq_self.mpr fun c _ => by rw [hno]; rfl]

/-- The bound holder is active and has no connection: two connections are lent
beside the one that is open, and come back in the other order. -/
theorem Source.lookups_balance_beside_empty_holder :
    let source : Source := ⟨0, ⟨"mock"⟩⟩
    let driver : Driver :=
      { nextId := 2, sessions := fun i => if i = 1 then some {} else none
        events := [.created 1] }
    let s : State :=
      { drivers := fun _ => driver, nextHolder := 1,
        holders := fun _ => { connection := none, stage := .active },
        context := Bindings.empty.insert source.key 0 }
    ((s.drivers source.id).Reached ∧
      (s.drivers source.id).faults .create = false ∧
      (s.drivers source.id).faults .release = false) ∧
    ∃ given final : State,
      source.getConnections 2 s = ([.ok ⟨0, 2⟩, .ok ⟨0, 3⟩], given) ∧
      given.isTransactional source.key ⟨0, 3⟩ = false ∧
      source.releaseConnections [⟨0, 3⟩, ⟨0, 2⟩] given =
        ([.ok (), .ok ()], final) ∧
      (final.drivers source.id).events =
        [.created 1, .created 2, .created 3, .released 3, .released 2] ∧
      (∀ c, final.session c = s.session c) ∧ final.context = s.context ∧
      final.holders = s.holders := by
  intro source driver s
  have hreached : (s.drivers source.id).Reached := .create .fresh rfl
  refine ⟨⟨hreached, rfl, rfl⟩, ?_⟩
  obtain ⟨obtained, given, hget, -, -, -, hfree, hback⟩ :=
    lookups_balance source s 2 hreached rfl rfl
  have hboth : source.getConnections 2 s =
      ([.ok ⟨0, 2⟩, .ok ⟨0, 3⟩], (source.getConnections 2 s).2) := rfl
  obtain ⟨hanswers, rfl⟩ := Prod.mk.inj (hget.symm.trans hboth)
  obtain rfl : obtained = [⟨0, 2⟩, ⟨0, 3⟩] :=
    (List.map_inj_right fun _ _ => Except.ok.inj).mp hanswers
  obtain ⟨final, hall, hevents, hsession, hcontext, hholders, -⟩ :=
    hback [⟨0, 3⟩, ⟨0, 2⟩] (List.Perm.swap _ _ _)
  exact ⟨_, final, hget, hfree _ (by decide), hall, hevents, hsession,
    hcontext, hholders⟩

end UnitOfWork
