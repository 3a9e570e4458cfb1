import UnitOfWork.Proofs.FailedBegin
import UnitOfWork.Proofs.ManualOperations

/-!
# The duties of a clean-up

Whoever cleans up a handle has certain calls to make: what the handle owes to
the session of its connection, and the release of the connection if the handle
owns its holder.  All of them are made, in this order and whichever of them
fail, and none of the rest of a clean-up depends on how they end.

At a desk nothing is missing for that: a holder that is not completed has a
connection, and a handle through which no transaction has begun has no duties.
-/

namespace UnitOfWork

/-! ## The calls that are made -/

def Note.call? : Note → Option (DriverCall × Option Fault)
  | .line _ => none
  | .driver call fault => some (call, fault)

/-- The fault by which a call on a driver fails, which may be switched on. -/
def DriverCall.fault : DriverCall → SourceId × Fault
  | .create conn => (conn.source, .create)
  | .release source _ => (source, .release)
  | .call conn request => (conn.source, request.fault)

/-- The fault by which a driver refuses a call, if it does. -/
def World.refusal (w : World) (call : DriverCall) : Option Fault :=
  if (w.drivers call.fault.1).faults call.fault.2 then some call.fault.2
  else none

/-- Certain calls on drivers were made between two states, and no other.  Each
failed if its fault was switched on, and only then. -/
structure State.Makes (calls : List DriverCall) (s s' : State) : Prop where
  journal : ∃ notes, s'.journal = s.journal ++ notes ∧
    notes.filterMap Note.call? = calls.map fun call => (call, s.refusal call)
  faults : ∀ source, (s'.drivers source).faults = (s.drivers source).faults

namespace State.Makes

variable {calls calls' : List DriverCall} {s s' s'' : State}

theorem trans (h : Makes calls s s') (h' : Makes calls' s' s'') :
    Makes (calls ++ calls') s s'' where
  journal := by
    obtain ⟨notes, hnotes, hcalls⟩ := h.journal
    obtain ⟨notes', hnotes', hcalls'⟩ := h'.journal
    have hrefusal : ∀ call, s'.refusal call = s.refusal call := by
      intro call
      rw [World.refusal, World.refusal, h.faults]
    refine ⟨notes ++ notes', by rw [hnotes', hnotes, List.append_assoc], ?_⟩
    simp only [hrefusal] at hcalls'
    rw [List.filterMap_append, hcalls, hcalls', List.map_append]
  faults source := (h'.faults source).trans (h.faults source)

/-- No call was made in the second part. -/
theorem andThen (h : Makes calls s s') (h' : Makes [] s' s'') :
    Makes calls s s'' := by
  have hboth := h.trans h'
  rwa [List.append_nil] at hboth

theorem of_drivers (hjournal : s'.journal = s.journal)
    (hdrivers : s'.drivers = s.drivers) :
    Makes [] s s' where
  journal := ⟨[], by rw [hjournal, List.append_nil], rfl⟩
  faults source := by rw [hdrivers]

theorem refl (s : State) : Makes [] s s :=
  of_drivers rfl rfl

theorem say (s : State) (line : Line) : Makes [] s (s.say line) where
  journal := ⟨[.line line], rfl, rfl⟩
  faults _ := rfl

theorem call (s : State) (conn : Connection) (request : Call) :
    Makes [.call conn request] s (s.call conn request).2 where
  journal := by
    rw [State.call, State.callDirectly, Driver.call, Driver.check]
    cases hfault : (s.drivers conn.source).faults request.fault with
    | false =>
        refine ⟨[.driver (.call conn request) none], rfl, ?_⟩
        simp [Note.call?, World.refusal, DriverCall.fault, hfault]
    | true =>
        refine ⟨[.driver (.call conn request) (some request.fault)], rfl, ?_⟩
        simp [Note.call?, World.refusal, DriverCall.fault, hfault]
  faults := s.faults_call conn request

theorem release (s : State) (source : SourceId) (conn : Connection) :
    Makes [.release source conn] s (s.release source conn).2 where
  journal := by
    rw [State.release, Driver.release, Driver.check]
    cases hfault : (s.drivers source).faults .release with
    | false =>
        refine ⟨[.driver (.release source conn) none], rfl, ?_⟩
        simp [Note.call?, World.refusal, DriverCall.fault, hfault]
    | true =>
        refine ⟨[.driver (.release source conn) (some .release)], rfl, ?_⟩
        simp [Note.call?, World.refusal, DriverCall.fault, hfault]
  faults := s.faults_release source conn

/-- A failure of a restoring step is ignored. -/
theorem restoring {result : Except Fault Unit × State} (step : RestoringStep)
    (h : Makes calls s result.2) :
    Makes calls s (State.restoring step result) := by
  obtain ⟨outcome, s'⟩ := result
  cases outcome with
  | ok _ => exact h
  | error fault => exact h.andThen (say s' _)

theorem unbind (s : State) (key : Key) : Makes [] s (s.unbind key).2 := by
  rw [State.unbind]
  cases s.context.unbind key with
  | mk found context =>
      cases found with
      | none => exact refl s
      | some id =>
          have hset : Makes [] s { s with context } := of_drivers rfl rfl
          exact hset.andThen (say _ _)

end State.Makes

/-- A handle makes the calls that it owes, in their order and whichever of them
fail. -/
theorem Handle.makes_restoreSession (h : Handle) (conn : Connection)
    (s : State) :
    State.Makes (h.owed.map (.call conn)) s (h.restoreSession conn s).2 := by
  have hauto : State.Makes
      ((if h.restoresAutoCommit then [.setAutoCommit true] else []).map
        (.call conn))
      s
      (if h.restoresAutoCommit then
        State.restoring .restoreAutoCommit (s.call conn (.setAutoCommit true))
      else s) := by
    cases h.restoresAutoCommit with
    | false => exact .refl s
    | true => exact (State.Makes.call s conn (.setAutoCommit true)).restoring _
  rw [Handle.restoreSession, Handle.owed, List.map_append]
  cases h.previousIsolation with
  | none => exact hauto.trans (.refl _)
  | some level =>
      exact hauto.trans
        ((State.Makes.call _ conn (.setIsolation level)).restoring _)

namespace Coordinator

variable {c : Coordinator} {d : Definition} {h h' : Handle} {s s' : State}
variable {id : HolderId} {conn : Connection}

/-- The calls that cleaning up a handle has to make, on the connection of its
holder. -/
def duties (c : Coordinator) (h : Handle) (conn : Connection) :
    List DriverCall :=
  h.owed.map (.call conn) ++ if h.ownsHolder then
    [.release c.source.id conn] else []

theorem makes_released (c : Coordinator) (h : Handle) (id : HolderId)
    (s : State) :
    State.Makes [] s (c.released h id s) := by
  rw [released, unbindHolder]
  split
  · split
    · exact .unbind s c.key
    · exact .refl s
  · exact .refl s

/-- A clean-up makes the calls that it has to make. -/
theorem makes_cleanup (hholder : h.holder = some id)
    (hconn : (s.holders id).connection = some conn) :
    State.Makes (c.duties h conn) s (c.cleanup h s) := by
  have hsession := (c.makes_released h id s).trans
    (h.makes_restoreSession conn (c.released h id s))
  rw [cleanup_eq hholder]
  simp only [restored, holders_released, hconn, restoreConnection, duties]
  cases h.ownsHolder with
  | false => exact (hsession.trans (.refl _)).andThen (.of_drivers rfl rfl)
  | true =>
      have hback :=
        (State.Makes.say (h.restoreSession conn (c.released h id s)).2
          (.releasing conn)).trans (.release _ c.source.id conn)
      exact (hsession.trans (hback.restoring .release)).andThen
        (.of_drivers rfl rfl)

end Coordinator

/-! ## What is there to be cleaned up -/

def World.Furnished (w : World) : Prop :=
  ∀ id < w.nextHolder, (w.holders id).stage ≠ .completed →
    (w.holders id).connection.isSome

namespace World.Furnished

variable {c : Coordinator} {d : Definition} {h h' : Handle} {s s' : State}

theorem still (hs : s.Furnished) (hstill : State.Still s s') :
    s'.Furnished := by
  intro id hid hstage
  rw [hstill.nextHolder] at hid
  rw [hstill.stage] at hstage
  rw [hstill.connection]
  exact hs id hid hstage

/-- One holder was changed, or made. -/
theorem changed (hs : s.Furnished) (id : HolderId)
    (hnext : s'.nextHolder = s.nextHolder ∨
      id = s.nextHolder ∧ s'.nextHolder = s.nextHolder + 1)
    (hothers : ∀ other, other ≠ id → s'.holders other = s.holders other)
    (hholder : (s'.holders id).stage ≠ .completed →
      (s'.holders id).connection.isSome) :
    s'.Furnished := by
  intro other hother hstage
  by_cases hne : other = id
  · rw [hne] at hstage ⊢
    exact hholder hstage
  · rw [hothers other hne] at hstage ⊢
    apply hs other _ hstage
    rcases hnext with hsame | ⟨rfl, hmore⟩
    · exact Nat.lt_of_lt_of_eq hother hsame
    · rw [hmore] at hother
      exact Nat.lt_of_le_of_ne (Nat.le_of_lt_succ hother) hne

theorem of_origin {owns : Bool} {id : HolderId} {conn : Connection}
    (hs : s.Furnished) (horigin : Coordinator.Origin h s conn id owns s')
    (hothers : ∀ other, other ≠ id → s'.holders other = s.holders other)
    (hholder : (s'.holders id).stage ≠ .completed →
      (s'.holders id).connection.isSome) :
    s'.Furnished := by
  refine hs.changed id ?_ hothers hholder
  cases horigin with
  | reused _ _ _ _ hnext => exact Or.inl hnext
  | created hid _ hnext => exact Or.inr ⟨hid, hnext⟩

theorem begin (hs : s.Furnished) (c : Coordinator) (d : Definition)
    (h : Handle) :
    (c.begin d h s).2.2.Furnished := by
  cases hbegin : c.begin d h s with
  | mk outcome rest =>
  obtain ⟨h', s'⟩ := rest
  cases outcome with
  | ok _ =>
      obtain ⟨conn, id, hbegun⟩ := Coordinator.begun_of_ok hbegin
      exact hs.of_origin hbegun.origin hbegun.others
        fun _ => by rw [hbegun.connection]; rfl
  | error e =>
      obtain ⟨-, ⟨hsame, hnext⟩ | ⟨conn, id, owns, horigin, hothers, hleft⟩⟩ :=
        Coordinator.notBegun_of_error hbegin
      · exact hs.still ⟨hnext, fun id => by rw [hsame], fun id => by rw [hsame]⟩
      · refine hs.of_origin horigin hothers fun hstage => ?_
        rcases hleft with ⟨-, hfinished⟩ | ⟨howns, hreleased⟩
        · rw [hfinished] at hstage
          exact absurd rfl hstage
        · cases horigin with
          | reused _ _ _ hconn _ =>
              rw [hreleased, Holder.release, hconn]
              rfl
          | created _ htrue _ =>
              rw [howns] at htrue
              cases htrue

theorem cleanup (hs : s.Furnished) (hsound : h.Sound c s.toWorld) :
    (c.cleanup h s).Furnished := by
  cases hholder : h.holder with
  | none => rwa [Coordinator.cleanup, hholder]
  | some id =>
      have hholders := Coordinator.cleanup_holders (c := c) (s := s) hholder
      refine hs.changed id (Or.inl (Coordinator.cleanup_nextHolder hholder))
        (fun other hne => (hholders other).trans (if_neg hne)) fun hstage => ?_
      have hid := hsound.exist id hholder
      rw [hholders, if_pos rfl, Coordinator.settle] at hstage ⊢
      cases howns : h.ownsHolder with
      | true =>
          rw [howns] at hstage
          exact absurd rfl hstage
      | false =>
          simp only [howns, Bool.false_eq_true, if_false] at hstage ⊢
          cases hbegan : h.began with
          | true =>
              exact hs id hid (hsound.borrowed id ⟨hholder, howns, hbegan⟩)
          | false =>
              rw [hbegan] at hstage
              exact hs id hid hstage

theorem marked (hs : s.Furnished) (h : Handle) :
    (Coordinator.markRollbackOnly h s).2.2.Furnished := by
  rw [Coordinator.markRollbackOnly]
  cases h.holder with
  | none => exact hs
  | some id => exact hs.still (Coordinator.still_markedHolder s id)

end World.Furnished

theorem Coordinator.began_markRollbackOnly (h : Handle) (s : State) :
    (Coordinator.markRollbackOnly h s).2.1.began = h.began := by
  rw [Coordinator.markRollbackOnly]
  cases h.holder <;> rfl

/-- After a beginning that succeeded the handle has begun, and one that failed
leaves it as it was in that. -/
theorem Coordinator.begun_or_unbegun (c : Coordinator) (d : Definition)
    {h : Handle} (hh : h.began = true ∨ h.Unbegun) (s : State) :
    (c.begin d h s).2.1.began = true ∨ (c.begin d h s).2.1.Unbegun := by
  cases hbegin : c.begin d h s with
  | mk outcome rest =>
  obtain ⟨h', s'⟩ := rest
  cases outcome with
  | ok _ =>
      obtain ⟨conn, id, hbegun⟩ := Coordinator.begun_of_ok hbegin
      exact Or.inl hbegun.began
  | error e =>
      refine hh.imp (fun hbegan => ?_) fun hunbegun => hunbegun.refused hbegin
      exact (Coordinator.began_of_error hbegin).trans hbegan

theorem State.furnished_wrap {s : State} (hs : s.Furnished)
    (source : SourceId) :
    (s.wrap source).Furnished := by
  cases hcreate : s.create source with
  | mk outcome s₁ =>
  cases outcome with
  | error fault =>
      have hsame := s.sameHolders_create source
      rw [hcreate] at hsame
      have hstate : s.wrap source = s₁ := by rw [State.wrap, hcreate]
      rw [hstate]
      exact hs.still hsame.still
  | ok conn =>
      have hholders := State.holders_wrap hcreate
      refine hs.changed s.nextHolder
        (Or.inr ⟨rfl, State.nextHolder_wrap hcreate⟩)
        (fun other hne => (hholders other).trans (if_neg hne)) fun _ => ?_
      rw [hholders, if_pos rfl]
      rfl

/-! ## At a desk -/

namespace Desk

variable {c : Coordinator} {desk : Desk} {context slot : Nat} {h h' : Handle}
variable {s' : State}

/-- At a desk holders are furnished, and a handle through which no transaction
has begun is as it was given out. -/
structure Equipped (desk : Desk) : Prop where
  furnished : desk.world.Furnished
  handles : ∀ slot h, desk.handles slot = some h → h.began = true ∨ h.Unbegun

theorem equipped_fresh (initial : SourceId → Settings) :
    (fresh initial).Equipped where
  furnished id hid := absurd hid (Nat.not_lt_zero id)
  handles _ _ h := by cases h

theorem Equipped.put (hequipped : desk.Equipped) (hs : s'.Furnished) :
    (desk.put context s').Equipped :=
  ⟨hs, hequipped.handles⟩

theorem Equipped.stash (hequipped : desk.Equipped) (place : Nat)
    (id : Option HolderId) :
    (desk.stash place id).Equipped :=
  ⟨hequipped.furnished, hequipped.handles⟩

theorem Equipped.keep (hequipped : desk.Equipped) {kept : Option Handle}
    (hkept : ∀ h, kept = some h → h.began = true ∨ h.Unbegun) :
    (desk.keep slot kept).Equipped where
  furnished := hequipped.furnished
  handles i h hi := by
    rw [Desk.keep] at hi
    simp only at hi
    split at hi
    · exact hkept h hi
    · exact hequipped.handles i h hi

theorem Equipped.withHandle (hequipped : desk.Equipped)
    {use : Handle → State → Option Handle × State}
    (huse : ∀ h, desk.handles slot = some h → h.began = true ∨ h.Unbegun →
      (use h (desk.state context)).2.Furnished ∧
      ∀ h', (use h (desk.state context)).1 = some h' →
        h'.began = true ∨ h'.Unbegun) :
    (desk.withHandle context slot use).Equipped := by
  rw [Desk.withHandle]
  cases hslot : desk.handles slot with
  | none => exact hequipped
  | some h =>
      obtain ⟨hfurnished, hkept⟩ :=
        huse h hslot (hequipped.handles slot h hslot)
      exact (hequipped.put hfurnished).keep hkept

theorem Equipped.perform_suspend (hequipped : desk.Equipped) (c : Coordinator)
    (context slot place : Nat) :
    (c.perform desk (.suspend context slot place)).Equipped := by
  rw [Coordinator.perform]
  cases hslot : desk.handles slot with
  | none => exact hequipped
  | some h =>
      have hkept : ∀ h', some (c.suspend h (desk.state context)).2.1 = some h' →
          h'.began = true ∨ h'.Unbegun := by
        intro h' heq
        obtain rfl := Option.some.inj heq
        exact (hequipped.handles slot h hslot).imp id
          fun hunbegun => hunbegun.suspended c _
      have hfurnished : (c.suspend h (desk.state context)).2.2.Furnished :=
        World.Furnished.still hequipped.furnished
          (Coordinator.still_unbind _ c.key)
      simp only
      cases hsuspend : c.suspend h (desk.state context) with
      | mk suspended rest =>
      rw [hsuspend] at hkept hfurnished
      cases suspended with
      | none => exact (hequipped.put hfurnished).keep hkept
      | some id => exact ((hequipped.put hfurnished).keep hkept).stash place _

theorem Equipped.bound (hequipped : desk.Equipped) {key : Key} {id : HolderId}
    (hbind : (desk.state context).bind key id = .ok s') :
    (desk.put context s').Equipped := by
  rw [Coordinator.bind_eq_ok hbind]
  exact hequipped.put hequipped.furnished

/-- Whatever is done at an equipped desk, it is equipped afterwards. -/
theorem Equipped.perform (hequipped : desk.Equipped) (hsound : desk.Sound c)
    (operation : Operation) : (c.perform desk operation).Equipped := by
  have hstill : ∀ {context s'}, State.Still (desk.state context) s' →
      (desk.put context s').Equipped := fun hstill =>
    hequipped.put (World.Furnished.still hequipped.furnished hstill)
  cases operation with
  | discover context slot =>
      exact hequipped.keep fun h heq =>
        Or.inr (Option.some.inj heq ▸ .discovered c _)
  | begin d context slot =>
      rw [Coordinator.perform]
      apply hequipped.withHandle
      intro h _ hh
      refine ⟨World.Furnished.begin hequipped.furnished c d h, fun h' heq => ?_⟩
      obtain rfl := Option.some.inj heq
      exact Coordinator.begun_or_unbegun c d hh _
  | suspend context slot place =>
      exact hequipped.perform_suspend c context slot place
  | resume context place =>
      rw [Coordinator.perform]
      cases hplace : desk.suspended place with
      | none => exact hequipped
      | some id =>
          apply Equipped.stash
          rw [Coordinator.resume]
          cases hbind : (desk.state context).bind c.key id with
          | ok s' => exact hequipped.bound hbind
          | error occupied =>
              rw [put_state]
              exact hequipped
  | commit context slot =>
      rw [Coordinator.perform]
      apply hequipped.withHandle
      intro h _ hh
      exact ⟨World.Furnished.still hequipped.furnished
        (Coordinator.sameHolders_finish _ _ _ h _).still,
        fun h' heq => Option.some.inj heq ▸ hh⟩
  | rollback context slot =>
      rw [Coordinator.perform]
      apply hequipped.withHandle
      intro h _ hh
      exact ⟨World.Furnished.still hequipped.furnished
        (Coordinator.sameHolders_finish _ _ _ h _).still,
        fun h' heq => Option.some.inj heq ▸ hh⟩
  | markRollbackOnly context slot =>
      rw [Coordinator.perform]
      apply hequipped.withHandle
      intro h _ hh
      refine ⟨World.Furnished.marked hequipped.furnished h, fun h' heq => ?_⟩
      obtain rfl := Option.some.inj heq
      refine hh.imp (fun hbegan => ?_) fun hunbegun => hunbegun.marked _
      rw [Coordinator.began_markRollbackOnly, hbegan]
  | cleanup context slot =>
      rw [Coordinator.perform]
      apply hequipped.withHandle
      intro h hslot _
      exact ⟨World.Furnished.cleanup hequipped.furnished
        (hsound.handles slot h hslot),
        fun h' heq => by cases heq⟩
  | wrap context source =>
      exact hequipped.put (State.furnished_wrap hequipped.furnished source)
  | bind context key id =>
      rw [Coordinator.perform]
      split
      · cases hbind : (desk.state context).bind key id with
        | ok s' => exact hequipped.bound hbind
        | error occupied => exact hequipped
      · exact hequipped
  | unbind context key => exact hstill (Coordinator.still_unbind _ key)
  | call context conn request =>
      exact hstill (State.sameHolders_callDirectly _ conn request).still
  | setFault context source fault on => exact hequipped.put hequipped.furnished
  | rest context seconds => exact hequipped.put hequipped.furnished

theorem Equipped.performAll (hequipped : desk.Equipped) (hsound : desk.Sound c)
    (operations : List Operation) :
    (c.performAll desk operations).Equipped := by
  induction operations generalizing desk with
  | nil => exact hequipped
  | cons operation rest ih =>
      exact ih (hequipped.perform hsound operation)
        (hsound.perform operation).sound

end Desk

/-! ## Clean-ups -/

def State.withFaults (s : State) (faults : SourceId → Fault → Bool) : State :=
  { s with drivers := fun source =>
    { s.drivers source with faults := faults source } }

namespace Coordinator

variable {c : Coordinator} {h : Handle} {s s' : State} {id : HolderId}
variable {conn : Connection}

structure Cleaned (c : Coordinator) (h : Handle) (id : HolderId)
    (conn : Connection) (s s' : State) : Prop where
  calls : State.Makes (c.duties h conn) s s'
  /-- The holder is completed if the handle owns it, and unclaimed otherwise. -/
  holder : s'.holders id = if h.ownsHolder then .finished else .of conn
  others : ∀ other, other ≠ id → s'.holders other = s.holders other
  nextHolder : s'.nextHolder = s.nextHolder
  /-- A holder that the handle owns is not bound any more, and any other is if
  it was. -/
  bound : ∀ key, s'.boundHolder key =
    if h.ownsHolder = true ∧ key = c.key ∧ s.boundHolder c.key = some id then
      none
    else s.boundHolder key
  /-- The other connections hear nothing. -/
  quiet : ∀ other, other ≠ conn → State.Heard other [] [] s s'

/-- A handle that has begun, or has made its holder, is cleaned up on the
connection of the holder. -/
theorem cleaned_cleanup (hsound : h.Sound c s.toWorld)
    (hholder : h.holder = some id)
    (hduties : h.ownsHolder = true ∨ h.began = true)
    (hconn : (s.holders id).connection = some conn) :
    c.Cleaned h id conn s (c.cleanup h s) where
  calls := makes_cleanup hholder hconn
  holder := by
    rw [cleanup_holders hholder, if_pos rfl, settle]
    cases howns : h.ownsHolder with
    | true => rfl
    | false =>
        have hbegan :=
          hduties.resolve_left (by rw [howns]; exact Bool.false_ne_true)
        simp only [Bool.false_eq_true, if_false, hbegan, if_true,
          Holder.release, hconn]
        rfl
  others other hne := by rw [cleanup_holders hholder, if_neg hne]
  nextHolder := cleanup_nextHolder hholder
  bound := cleanup_boundHolder hholder
  quiet other hne := by
    have hsource : h.ownsHolder = true → conn.source = c.source.id := by
      intro howns
      obtain ⟨-, other, hother, hsource⟩ := hsound.owned id ⟨hholder, howns⟩
      rw [hconn] at hother
      rw [Option.some.inj hother, hsource]
    exact (confined_cleanup hholder hconn hsource).heard hne

/-- What a clean-up makes of the holders and of the context does not depend on
the faults. -/
theorem cleanup_regardless (c : Coordinator) (h : Handle) (s : State)
    (faults : SourceId → Fault → Bool) :
    (c.cleanup h (s.withFaults faults)).holders = (c.cleanup h s).holders ∧
      (c.cleanup h (s.withFaults faults)).nextHolder =
        (c.cleanup h s).nextHolder ∧
      ∀ key, (c.cleanup h (s.withFaults faults)).boundHolder key =
        (c.cleanup h s).boundHolder key := by
  cases hholder : h.holder with
  | none =>
      simp only [cleanup, hholder]
      exact ⟨rfl, rfl, fun _ => rfl⟩
  | some id =>
      refine ⟨funext fun other => ?_, ?_, fun key => ?_⟩
      · rw [cleanup_holders hholder, cleanup_holders hholder]
        rfl
      · rw [cleanup_nextHolder hholder, cleanup_nextHolder hholder]
        rfl
      · rw [cleanup_boundHolder hholder, cleanup_boundHolder hholder]
        rfl

/-- Whatever a coordinator was used for, and whichever faults are switched on,
cleaning up a handle makes every call that it owes, in order and once, settles
its holder, and touches nothing else.  A handle without a holder, and one that
has neither made its holder nor begun on it, is cleaned up by doing nothing. -/
theorem cleanup_does_its_duties (c : Coordinator)
    (initial : SourceId → Settings) (operations : List Operation)
    (context slot : Nat)
    (hslot : (c.performAll (.fresh initial) operations).handles slot = some h) :
    let s := (c.performAll (.fresh initial) operations).state context
    (∀ faults, h.holder = none ∨ h.ownsHolder = false ∧ h.began = false →
      c.cleanup h (s.withFaults faults) = s.withFaults faults) ∧
    (∀ id, h.holder = some id → h.ownsHolder = true ∨ h.began = true →
      ∃ conn, (s.holders id).connection = some conn ∧ ∀ faults,
        c.Cleaned h id conn (s.withFaults faults)
          (c.cleanup h (s.withFaults faults))) ∧
    ∀ faults faults',
      (c.cleanup h (s.withFaults faults)).holders =
        (c.cleanup h (s.withFaults faults')).holders ∧
      ∀ key, (c.cleanup h (s.withFaults faults)).boundHolder key =
        (c.cleanup h (s.withFaults faults')).boundHolder key := by
  intro s
  have hfresh := Desk.sound_fresh c initial
  have hsound := (hfresh.performAll operations).sound.handles slot h hslot
  have hequipped := (Desk.equipped_fresh initial).performAll hfresh operations
  refine ⟨fun faults hnothing => ?_, fun id hholder hduties => ?_,
    fun faults faults' => ?_⟩
  · rcases hnothing with hnone | ⟨-, hbegan⟩
    · rw [cleanup, hnone]
    · rcases hequipped.handles slot h hslot with hbegun | hunbegun
      · rw [hbegan] at hbegun
        cases hbegun
      · exact hunbegun.idle.cleanup c _
  · have hstage : (s.holders id).stage ≠ .completed := by
      cases howns : h.ownsHolder with
      | true =>
          have hactive : (s.holders id).stage = .active :=
            (hsound.owned id ⟨hholder, howns⟩).1
          rw [hactive]
          exact Stage.noConfusion
      | false =>
          have hbegan :=
            hduties.resolve_left (by rw [howns]; exact Bool.false_ne_true)
          exact hsound.borrowed id ⟨hholder, howns, hbegan⟩
    obtain ⟨conn, hconn⟩ := Option.isSome_iff_exists.mp
      (hequipped.furnished id (hsound.exist id hholder) hstage)
    exact ⟨conn, hconn, fun faults => cleaned_cleanup
      ⟨hsound.exist, hsound.owned, hsound.borrowed⟩ hholder hduties hconn⟩
  · obtain ⟨hholders, -, hbound⟩ := c.cleanup_regardless h s faults
    obtain ⟨hholders', -, hbound'⟩ := c.cleanup_regardless h s faults'
    exact ⟨hholders.trans hholders'.symm,
      fun key => (hbound key).trans (hbound' key).symm⟩

/-- A clean-up makes three calls though all of them fail. -/
theorem cleanup_does_failing_duties :
    let c : Coordinator := { source := ⟨0, ⟨"db"⟩⟩ }
    let conn : Connection := ⟨0, 1⟩
    let desk := c.performAll (.fresh fun _ => {})
      [.discover 0 0, .begin { isolation := .exactly .serializable } 0 0]
    let s := (desk.state 0).withFaults fun _ _ => true
    ∃ h, desk.handles 0 = some h ∧ h.holder = some 0 ∧
      c.duties h conn = [.call conn (.setAutoCommit true),
        .call conn (.setIsolation (.standard .readCommitted)),
        .release 0 conn] ∧
      c.Cleaned h 0 conn s (c.cleanup h s) := by
  intro c conn desk s
  have hslot : desk.handles 0 = some
      { holder := some 0, ownsHolder := true, began := true,
        previousIsolation :=
          some (.standard .readCommitted), restoresAutoCommit := true } := by
    decide +kernel
  refine ⟨_, hslot, rfl, rfl, ?_⟩
  obtain ⟨-, hcleaned, -⟩ := cleanup_does_its_duties c _ _ 0 0 hslot
  obtain ⟨other, hother, hall⟩ := hcleaned 0 rfl (Or.inl rfl)
  have hconn : ((desk.state 0).holders 0).connection = some conn := by
    decide +kernel
  obtain rfl : conn = other := Option.some.inj (hconn.symm.trans hother)
  exact hall fun _ _ => true

end Coordinator

end UnitOfWork
