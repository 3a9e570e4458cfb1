import UnitOfWork.Proofs.CleanupDuties

/-!
# Transactions that nobody ends

A running transaction is settled by the handle that owns its holder or has
borrowed it.  If no handle does, the transaction is stray: whatever is done
afterwards, it runs on, and its connection is never handed back.

A handle loses its transaction in this way when it begins again while the
transaction runs.  The holder is claimed already, so that a new connection is
asked for; if the source gives one, the handle has a new holder for it and knows
nothing more of the old one, and all that is done for it is done on the new
connection.  Only a source that refuses the connection saves the transaction:
then the handle stays as it was, and cleaning it up does all that it has to.
-/

namespace UnitOfWork

/-- Nothing was handed back in the first part. -/
theorem State.Returned.andThen {returned : Option Connection} {s s' s'' : State}
    (h : Returned none s s') (h' : Returned returned s' s'') :
    Returned returned s s'' where
  nextId source := Nat.le_trans (h.nextId source) (h'.nextId source)
  returns conn := by
    rw [h'.returns, h.returns, if_neg (Option.some_ne_none conn).symm,
      Nat.add_zero]
  closings conn := by
    have hfirst := h.closings conn
    rw [if_neg (Option.some_ne_none conn).symm, Nat.add_zero] at hfirst
    exact Nat.le_trans (h'.closings conn) (Nat.add_le_add_right hfirst _)

/-- A source gives a new connection unless its fault is switched on. -/
theorem State.create_cases (s : State) (source : SourceId) :
    (s.drivers source).faults .create = true ∧
    (∃ s₁, s.create source = (.error .create, s₁)) ∨
    (s.drivers source).faults .create = false ∧
      ∃ conn s₁, s.create source = (.ok conn, s₁) := by
  rw [State.create]
  cases hmade : (s.drivers source).create with
  | error fault =>
      obtain ⟨rfl, hfault⟩ := Driver.create_eq_error_iff.mp hmade
      exact Or.inl ⟨hfault, _, rfl⟩
  | ok made =>
      refine Or.inr ⟨Bool.eq_false_iff.mpr fun hfault => ?_, _, _, rfl⟩
      rw [Driver.create_eq_error_iff.mpr ⟨rfl, hfault⟩] at hmade
      cases hmade

/-! ## Stray transactions -/

namespace Desk

variable {c : Coordinator} {desk desk' : Desk} {context slot : Nat}
variable {used : Option Nat}
variable {h h' : Handle} {s' : State} {id : HolderId} {conn : Connection}

structure Stray (desk : Desk) (id : HolderId) (conn : Connection) : Prop where
  made : id < desk.world.nextHolder
  active : (desk.world.holders id).stage = .active
  connection : (desk.world.holders id).connection = some conn
  nobody : ∀ slot h, desk.handles slot = some h → ¬h.Owns id ∧ ¬h.Borrows id

/-- A stray transaction is not the business of the handle that is attended
to. -/
theorem Stray.not_given (hstray : desk.Stray id conn)
    (hattended : desk.Attended c context used h h' s' desk') :
    ¬h.Owns id ∧ ¬h.Borrows id := by
  rcases hattended.given with ⟨slot, -, hslot⟩ | rfl
  · exact hstray.nobody slot h hslot
  · exact ⟨Handle.not_owns_of_free rfl id, Handle.not_borrows_of_free rfl id⟩

theorem Stray.attended (hstray : desk.Stray id conn)
    (hattended : desk.Attended c context used h h' s' desk') :
    desk'.Stray id conn := by
  obtain ⟨hnot, hnot'⟩ := hstray.not_given hattended
  obtain ⟨hactive, hconnection⟩ :=
    hattended.attends.active id hstray.made hnot hnot' hstray.active
  constructor
  case made =>
    rw [hattended.world]
    exact Nat.lt_of_lt_of_le hstray.made hattended.attends.moves.nextHolder
  case active => rwa [hattended.world]
  case connection =>
    rw [hattended.world]
    exact hconnection.trans hstray.connection
  case nobody =>
    intro i other hother
    rcases hattended.handles i other hother with ⟨hold, -⟩ | ⟨-, rfl⟩
    · exact hstray.nobody i other hold
    · constructor
      · intro howns
        exact (hattended.attends.owns id howns).elim hnot
          (Nat.not_le.mpr hstray.made)
      · intro hborrows
        rcases hattended.attends.borrows id hborrows with hwas | ⟨-, hunbound⟩
        · exact hnot' hwas
        · have hstage : (desk.world.holders id).stage = .unbound := hunbound
          rw [hstray.active] at hstage
          cases hstage

/-- Whatever is done, a transaction that is stray stays so. -/
theorem Stray.performAll (hstray : desk.Stray id conn) (hsound : desk.Sound c)
    (operations : List Operation) :
    (c.performAll desk operations).Stray id conn := by
  induction operations generalizing desk with
  | nil => exact hstray
  | cons operation rest ih =>
      obtain ⟨_, _, _, hattended⟩ := hsound.proceeds operation
      exact ih (hstray.attended hattended) (hsound.perform operation).sound

/-! ## Borrowed holders -/

/-- On what the handles have borrowed transactions run, and no two have borrowed
the same holder. -/
structure Lends (desk : Desk) : Prop where
  running : ∀ slot h, desk.handles slot = some h → h.Running desk.world
  once : ∀ slot h other h' id, desk.handles slot = some h →
    desk.handles other = some h' →
    h.Borrows id → h'.Borrows id → slot = other

theorem lends_fresh (initial : SourceId → Settings) :
    (fresh initial).Lends where
  running _ _ h := by cases h
  once _ _ _ _ _ h := by cases h

namespace Lends

variable {i : Nat} {other : Handle}

theorem given (hlends : desk.Lends)
    (hattended : desk.Attended c context used h h' s' desk') :
    h.Running desk.world := by
  rcases hattended.given with ⟨slot, -, hslot⟩ | rfl
  · exact hlends.running slot h hslot
  · exact fun id hborrows => absurd hborrows (Handle.not_borrows_of_free rfl id)

/-- What a handle has borrowed that is left alone, the one that is attended to
has not borrowed. -/
theorem not_given (hlends : desk.Lends)
    (hattended : desk.Attended c context used h h' s' desk')
    (hother : desk.handles i = some other) (hleft : used ≠ some i)
    (hborrows : other.Borrows id) : ¬h.Borrows id := by
  intro hborrowed
  rcases hattended.given with ⟨slot, hused, hslot⟩ | rfl
  · exact hleft
      (hlends.once i other slot h id hother hslot hborrows hborrowed ▸ hused)
  · exact Handle.not_borrows_of_free rfl id hborrowed

/-- Nor does it borrow it. -/
theorem not_left (hlends : desk.Lends)
    (hattended : desk.Attended c context used h h' s' desk')
    (hother : desk.handles i = some other) (hleft : used ≠ some i)
    (hborrows : other.Borrows id) : ¬h'.Borrows id := by
  intro hborrowed
  rcases hattended.attends.borrows id hborrowed with hwas | ⟨-, hunbound⟩
  · exact hlends.not_given hattended hother hleft hborrows hwas
  · have hactive := hlends.running i other hother id hborrows
    have hstage : (desk.world.holders id).stage = .unbound := hunbound
    rw [hactive] at hstage
    cases hstage

theorem attended (hlends : desk.Lends) (hsound : desk.Sound c)
    (hattended : desk.Attended c context used h h' s' desk') : desk'.Lends := by
  constructor
  case running =>
    intro i other hother
    rw [hattended.world]
    rcases hattended.handles i other hother with ⟨hold, hleft⟩ | ⟨-, rfl⟩
    · intro id hborrows
      have hexists := (hsound.handles i other hold).exist id hborrows.1
      have hnot : ¬h.Owns id := fun howns =>
        ((hattended.apart hsound hold hleft id).1 howns).2 hborrows
      exact (hattended.attends.active id hexists hnot
        (hlends.not_given hattended hold hleft hborrows)
        (hlends.running i other hold id hborrows)).1
    · exact hattended.attends.running (hlends.given hattended)
  case once =>
    intro i first j second id hfirst hsecond hborrows hborrows'
    rcases hattended.handles i first hfirst with ⟨hold, hleft⟩ | ⟨hi, rfl⟩ <;>
      rcases hattended.handles j second hsecond with ⟨hold', hleft'⟩ | ⟨hj, rfl⟩
    · exact hlends.once i first j second id hold hold' hborrows hborrows'
    · exact absurd hborrows' (hlends.not_left hattended hold hleft hborrows)
    · exact absurd hborrows (hlends.not_left hattended hold' hleft' hborrows')
    · exact Option.some.inj (hi.symm.trans hj)

theorem performAll (hlends : desk.Lends) (hsound : desk.Sound c)
    (operations : List Operation) :
    (c.performAll desk operations).Lends := by
  induction operations generalizing desk with
  | nil => exact hlends
  | cons operation rest ih =>
      obtain ⟨_, _, _, hattended⟩ := hsound.proceeds operation
      exact ih (hlends.attended hsound hattended)
        (hsound.perform operation).sound

/-- A transaction runs on the holder of a handle that has begun. -/
theorem active_of_began (hlends : desk.Lends) (hsound : desk.Sound c)
    (hslot : desk.handles slot = some h) (hbegan : h.began = true)
    (hholder : h.holder = some id) :
    (desk.world.holders id).stage = .active := by
  cases howns : h.ownsHolder with
  | true => exact ((hsound.handles slot h hslot).owned id ⟨hholder, howns⟩).1
  | false => exact hlends.running slot h hslot id ⟨hholder, howns, hbegan⟩

/-- No other handle has to do with the holder of a handle that has begun. -/
theorem not_shared (hlends : desk.Lends) (hsound : desk.Sound c)
    (hslot : desk.handles slot = some h) (hbegan : h.began = true)
    (hholder : h.holder = some id) (hother : desk.handles i = some other)
    (hi : i ≠ slot) :
    ¬other.Owns id ∧ ¬other.Borrows id := by
  have hapart := hsound.apart slot h i other hslot hother (Ne.symm hi) id
  cases howns : h.ownsHolder with
  | true => exact hapart.1 ⟨hholder, howns⟩
  | false =>
      have hborrows : h.Borrows id := ⟨hholder, howns, hbegan⟩
      exact ⟨fun howned => hapart.2 howned hborrows,
        fun hborrowed =>
          hi (hlends.once i other slot h id hother hslot hborrowed hborrows)⟩

end Lends

end Desk

/-! ## Beginnings on a handle whose transaction runs -/

namespace Coordinator

variable {c : Coordinator} {d : Definition} {h : Handle} {s s₁ : State}
variable {conn : Connection} {id : HolderId}

/-- A holder on which a transaction runs is not begun on again. -/
theorem reusableHolder_of_active
    (hactive : ∀ id, h.holder = some id → (s.holders id).stage = .active) :
    reusableHolder h s = none := by
  rw [reusableHolder]
  cases hholder : h.holder with
  | none => rfl
  | some id => simp [Holder.isSynchronized, hactive id hholder]

theorem begin_of_createFailed {fault : Fault}
    (hreuse : reusableHolder h s = none)
    (hcreate : s.create c.source.id = (.error fault, s₁)) :
    c.begin d h s = (.error (.cannotCreate (.fault fault)), h, s₁) := by
  have hobtain : c.obtainConnection h s = (.error (.fault fault), h, s₁) := by
    rw [obtainConnection, hreuse]
    simp only [hcreate]
  rw [begin]
  rw [hobtain]

/-- The handle and the state when a new connection was got for a beginning. -/
theorem begin_of_created (hreuse : reusableHolder h s = none)
    (hcreate : s.create c.source.id = (.ok conn, s₁)) :
    ∃ h₂ s₂, c.Obtained h s conn s.nextHolder h₂ s₂ ∧ h₂.ownsHolder = true ∧
      c.Continuation d conn s.nextHolder h₂ s₂ (c.begin d h s) := by
  have hobtained := Obtained.created (h := h) hcreate
  have hnext : s₁.nextHolder = s.nextHolder := by
    simpa [hcreate] using (s.sameHolders_create c.source.id).nextHolder
  have hobtain : c.obtainConnection h s =
      (.ok conn, { h with holder := some s.nextHolder, ownsHolder := true },
        ((s₁.say (.acquired conn)).addHolder
          { Holder.of conn with stage := .claimed }).2) := by
    rw [obtainConnection, hreuse]
    simp only [hcreate, State.addHolder, State.nextHolder_say, hnext]
  rw [begin_of_obtained hobtain]
  exact ⟨_, _, hobtained, rfl, continuation d hobtained⟩

/-- A new connection was got and handed back again, and nothing is left of what
was done on it. -/
structure Passing (c : Coordinator) (conn : Connection) (s s' : State) :
    Prop where
  source : conn.source = c.source.id
  created : State.Created conn s s'
  returned : State.Returned (some conn) s s'
  holders : ∀ id < s.nextHolder, s'.holders id = s.holders id
  bound : ∀ key, s'.boundHolder key = s.boundHolder key
  confined : State.Confined (· = conn) s s'

namespace Passing

variable {s' : State}

theorem returns (hpassing : c.Passing conn s s') (hs : s.Orderly) :
    s'.returns conn = 1 := by
  rw [hpassing.returned.returns, hs.unborn conn hpassing.created.1, if_pos rfl]

/-- A connection that was there before hears nothing. -/
theorem quiet (hpassing : c.Passing conn s s') {other : Connection}
    (hknown : other.id < s.nextId other.source) :
    State.Heard other [] [] s s' := by
  apply hpassing.confined.heard
  rintro rfl
  exact Nat.not_le.mpr hknown hpassing.created.1

end Passing

/-- A beginning on a new connection that is abandoned. -/
theorem passing_of_abandoned {h₁ h₂ : Handle} {s₂ s₃ : State}
    {driverBegan : Bool} {calls : List (Call × Option Fault)}
    (hsound : h.Sound c s.toWorld)
    (hobtained : c.Obtained h s conn s.nextHolder h₁ s₁)
    (howns : h₁.ownsHolder = true) (hsame : h₁.SameAttempt h₂)
    (htalk : Talk conn calls s₁ s₂) (hactive : s₃ = s₂ ∨
      h₂.ownsHolder = true ∧
      s₃ = s₂.setHolder s.nextHolder (c.activeHolder d s₂ s.nextHolder)) :
    c.Passing conn s (c.abandon driverBegan conn h₂ s₃).2 := by
  have howns' : h₂.ownsHolder = true := hsame.ownsHolder.trans howns
  obtain ⟨hbound, hothers, -⟩ :=
    abandoned_cases driverBegan hobtained hsame htalk hactive
  obtain ⟨hsource, calls', fault, hfault, -, hdeals⟩ :=
    deals_abandoned driverBegan hsound.not_owns_of_unbound hobtained hsame
      htalk hactive
  have hreturned := returned_of_restitution _ hfault hsource
    (fun n hn k => not_returns_of_acquisition _ hn k) hdeals
  rw [howns', if_pos rfl] at hreturned
  rw [List.append_assoc] at hdeals
  constructor
  case source => exact hsource howns'
  case created => exact created_of_acquisition hdeals howns'
  case returned => exact hreturned
  case holders => exact fun id hid => hothers id (Nat.ne_of_lt hid)
  case bound => exact hbound
  case confined =>
    exact hobtained.confined.trans
      (confined_abandoned driverBegan (hsame.holder.trans hobtained.claimed.1)
        hsource htalk hactive)

/-- A beginning on a new connection that succeeds, and the clean-up after it. -/
theorem passing_of_begun {h₁ h₂ : Handle} {s₂ s₃ : State} (hs : s.Orderly)
    (hsound : h.Sound c s.toWorld)
    (hobtained : c.Obtained h s conn s.nextHolder h₁ s₁)
    (howns : h₁.ownsHolder = true) (hsame : h₁.SameAttempt h₂)
    (htalk : Talk conn [(.begin, none)] s₁ s₂) (hactive : if h₂.ownsHolder then
        (s₂.setHolder s.nextHolder (c.activeHolder d s₂ s.nextHolder)).bind
          c.key s.nextHolder = .ok s₃
      else s₃ = s₂.setHolder s.nextHolder (c.activeHolder d s₂ s.nextHolder)) :
    c.Passing conn s (c.cleanup { h₂ with began := true } s₃) := by
  have howns' : h₂.ownsHolder = true := hsame.ownsHolder.trans howns
  have hbegun := begun_holders hobtained hsame htalk hactive
  have hserves := serves_begun hs hsound hobtained hsame htalk hactive
  obtain ⟨hdeals, hsource⟩ :=
    deals_begun hsound.not_owns_of_unbound hobtained hsame htalk hactive
  have hcleaned := cleaned_cleanup hserves.sound hbegun.holder
    (Or.inl howns') hbegun.connection
  have hbefore : State.Returned none s s₃ := .of_none hdeals fun n hn k =>
    not_returns_of_acquisition [(.begin, none)] hn k
  have hafter : State.Returned (some conn) s₃
      (c.cleanup { h₂ with began := true } s₃) := by
    obtain ⟨fault, hfault, hback⟩ :=
      deals_cleanup (c := c) hbegun.holder hbegun.connection
    have hreturned :=
      returned_of_restitution [] hfault hsource (fun _ hn => by cases hn) hback
    rwa [if_pos howns'] at hreturned
  constructor
  case source => exact hsource howns'
  case created =>
    exact (created_of_acquisition hdeals howns').mono
      (fun _ => Nat.le_refl _) hafter.nextId
  case returned => exact hbefore.andThen hafter
  case holders =>
    intro id hid
    have hne := Nat.ne_of_lt hid
    exact (hcleaned.others id hne).trans (hbegun.others id hne)
  case bound =>
    intro key
    rw [hcleaned.bound, hbegun.bound, hbegun.bound]
    by_cases hkey : key = c.key
    · simp [howns', hkey, hbegun.free howns']
    · simp [hkey]
  case confined =>
    have hactivated : State.Confined (· = conn) s₁ s₃ := by
      rw [howns', if_pos rfl] at hactive
      have hheld := htalk.confined.hold
        (s₂.setHolder s.nextHolder (c.activeHolder d s₂ s.nextHolder)) rfl rfl
      exact hheld.trans (State.confined_bind hactive)
    exact (hobtained.confined.trans hactivated).trans
      (confined_cleanup hbegun.holder hbegun.connection hsource)

/-- A beginning on a handle that has a running transaction, and the clean-up
after it, if the source gives a connection. -/
theorem passing_begin_cleanup (d : Definition) (hs : s.Orderly)
    (hsound : h.Sound c s.toWorld) (hreuse : reusableHolder h s = none)
    (hcreate : s.create c.source.id = (.ok conn, s₁)) :
    c.Passing conn s (c.cleanup (c.begin d h s).2.1 (c.begin d h s).2.2) := by
  obtain ⟨h₂, s₂, hobtained, howns, hcontinuation⟩ :=
    begin_of_created (d := d) hreuse hcreate
  generalize c.begin d h s = result at hcontinuation ⊢
  have habandoned : ∀ {driverBegan h₃ s₃}, h₂.SameAttempt h₃ →
      c.Passing conn s (c.abandon driverBegan conn h₃ s₃).2 →
      c.Passing conn s (c.cleanup (c.abandon driverBegan conn h₃ s₃).1
        (c.abandon driverBegan conn h₃ s₃).2) := by
    intro driverBegan h₃ s₃ hsame hpassing
    have hgone :=
      (c.abandon_fst driverBegan conn h₃ s₃).1 (hsame.ownsHolder.trans howns)
    rwa [cleanup, hgone]
  cases hcontinuation with
  | early hsame hcalls htalk =>
      exact habandoned hsame
        (passing_of_abandoned (d := d) hsound hobtained howns hsame htalk
          (Or.inl rfl))
  | late hsame htalk hactive =>
      exact habandoned hsame
        (passing_of_abandoned hsound hobtained howns hsame htalk hactive)
  | begun hsame htalk hactive =>
      exact passing_of_begun hs hsound hobtained howns hsame htalk hactive

/-- The handle knows nothing more of its old holder. -/
theorem holder_of_created (d : Definition) (hreuse : reusableHolder h s = none)
    (hcreate : s.create c.source.id = (.ok conn, s₁))
    (hid : id < s.nextHolder) :
    (c.begin d h s).2.1.holder ≠ some id := by
  obtain ⟨h₂, s₂, hobtained, howns, hcontinuation⟩ :=
    begin_of_created (d := d) hreuse hcreate
  generalize c.begin d h s = result at hcontinuation ⊢
  have habandoned : ∀ {driverBegan h₃ s₃}, h₂.SameAttempt h₃ →
      (c.abandon driverBegan conn h₃ s₃).1.holder ≠ some id := by
    intro driverBegan h₃ s₃ hsame
    rw [(c.abandon_fst driverBegan conn h₃ s₃).1 (hsame.ownsHolder.trans howns)]
    exact (Option.some_ne_none id).symm
  cases hcontinuation with
  | early hsame hcalls htalk => exact habandoned hsame
  | late hsame htalk hactive => exact habandoned hsame
  | @begun h₃ s₃ s₄ hsame htalk hactive =>
      intro hholder
      have hnew : h₃.holder = some s.nextHolder :=
        hsame.holder.trans hobtained.claimed.1
      exact Nat.ne_of_lt hid (Option.some.inj (hholder.symm.trans hnew))

end Coordinator

/-! ## Beginning again -/

namespace Desk

variable {c : Coordinator} {desk : Desk} {context slot : Nat} {h : Handle}
variable {s₁ : State} {id : HolderId} {conn new : Connection}

/-- A handle that begins again, on a new connection, leaves its transaction to
nobody. -/
theorem stray_of_begun_again (hsound : desk.Sound c) (hlends : desk.Lends)
    (hslot : desk.handles slot = some h) (hbegan : h.began = true)
    (hholder : h.holder = some id)
    (hconn : (desk.world.holders id).connection = some conn) (d : Definition)
    (hreuse : Coordinator.reusableHolder h (desk.state context) = none)
    (hcreate : (desk.state context).create c.source.id = (.ok new, s₁)) :
    (c.perform desk (.begin d context slot)).Stray id conn := by
  have hid := (hsound.handles slot h hslot).exist id hholder
  have hactive := hlends.active_of_began hsound hslot hbegan hholder
  have hlost := Coordinator.holder_of_created d hreuse hcreate hid
  have hspared :=
    c.begin_holders_active (s := desk.state context) d h hid hactive
  have hmoves := (hsound.perform (.begin d context slot)).later.1
  have hperform : c.perform desk (.begin d context slot) =
      (desk.put context (c.begin d h (desk.state context)).2.2).keep slot
        (some (c.begin d h (desk.state context)).2.1) := by
    rw [Coordinator.perform, withHandle, hslot]
  constructor
  case made => exact Nat.lt_of_lt_of_le hid hmoves
  case active =>
    rw [hperform]
    exact (congrArg Holder.stage hspared).trans hactive
  case connection =>
    rw [hperform]
    exact (congrArg Holder.connection hspared).trans hconn
  case nobody =>
    intro i other hother
    rw [hperform, keep] at hother
    simp only at hother
    split at hother
    · obtain rfl := Option.some.inj hother
      exact ⟨fun howns => hlost howns.1, fun hborrows => hlost hborrows.1⟩
    · next hi => exact hlends.not_shared hsound hslot hbegan hholder hother hi

end Desk

namespace Coordinator

/-- A handle through which a transaction has begun, and which was not cleaned
up, begins again, and is cleaned up then.  If the source refuses a connection to
the further beginning, the clean-up does all its duties to the transaction.  If
the source gives one, only that is handed back: the transaction is stray, and
stays so whatever is done later. -/
theorem begin_again_abandons_transaction (c : Coordinator)
    (initial : SourceId → Settings) (operations : List Operation)
    (context slot : Nat) (d : Definition) {h : Handle}
    (hslot : (c.performAll (.fresh initial) operations).handles slot = some h)
    (hbegan : h.began = true) :
    let desk := c.performAll (.fresh initial) operations
    let s := desk.state context
    let again := c.begin d h s
    let s' := c.cleanup again.2.1 again.2.2
    ((s.drivers c.source.id).faults .create = true →
      again.1 = .error (.cannotCreate (.fault .create)) ∧ again.2.1 = h ∧
      State.SameHolders s again.2.2 ∧ (h.holder = none → s' = again.2.2) ∧
      ∀ id, h.holder = some id → ∃ conn, (s.holders id).connection = some conn ∧
        c.Cleaned h id conn again.2.2 s') ∧
    ((s.drivers c.source.id).faults .create = false →
      (∃ new, c.Passing new s s' ∧ s'.returns new = 1) ∧
      ∀ id, h.holder = some id → ∃ conn, (s.holders id).connection = some conn ∧
        State.Heard conn [] [] s s' ∧
        ∀ later,
          let desk' :=
            c.performAll (c.perform desk (.begin d context slot)) later
          desk'.Stray id conn ∧ desk'.world.returns conn = 0) := by
  intro desk s again s'
  have hfresh := Desk.sound_fresh c initial
  have hsound : desk.Sound c := (hfresh.performAll operations).sound
  have hlends : desk.Lends :=
    (Desk.lends_fresh initial).performAll hfresh operations
  have hequipped : desk.Equipped :=
    (Desk.equipped_fresh initial).performAll hfresh operations
  have hheld : h.Sound c s.toWorld := hsound.handles slot h hslot
  have hactive : ∀ id, h.holder = some id → (s.holders id).stage = .active :=
    fun id hholder => hlends.active_of_began hsound hslot hbegan hholder
  have hconnection : ∀ id, h.holder = some id →
      ∃ conn, (s.holders id).connection = some conn := by
    intro id hholder
    apply Option.isSome_iff_exists.mp
    apply hequipped.furnished id (hheld.exist id hholder)
    exact fun hcompleted =>
      Stage.noConfusion ((hactive id hholder).symm.trans hcompleted)
  have hreuse := reusableHolder_of_active hactive
  constructor
  · intro hfault
    rcases s.create_cases c.source.id with ⟨-, s₁, hcreate⟩ | ⟨hnone, -⟩
    · have hsame := s.sameHolders_create c.source.id
      rw [hcreate] at hsame
      have hagain : again = (.error (.cannotCreate (.fault .create)), h, s₁) :=
        begin_of_createFailed hreuse hcreate
      have hcleanup : s' = c.cleanup h s₁ := by simp only [s', hagain]
      rw [hcleanup, hagain]
      refine ⟨rfl, rfl, hsame,
        fun hnone => by rw [cleanup, hnone], fun id hholder => ?_⟩
      obtain ⟨conn, hconn⟩ := hconnection id hholder
      have hconn' : (s₁.holders id).connection = some conn := by
        rw [hsame.holders, hconn]
      exact ⟨conn, hconn,
        cleaned_cleanup (hheld.still hsame.still) hholder
          (Or.inr hbegan) hconn'⟩
    · rw [hfault] at hnone
      cases hnone
  · intro hfault
    rcases s.create_cases c.source.id with ⟨hon, -⟩ | ⟨-, new, s₁, hcreate⟩
    · rw [hfault] at hon
      cases hon
    · have hpassing : c.Passing new s s' :=
        passing_begin_cleanup d hsound.world hheld hreuse hcreate
      refine ⟨⟨new, hpassing, hpassing.returns hsound.world⟩,
        fun id hholder => ?_⟩
      obtain ⟨conn, hconn⟩ := hconnection id hholder
      refine ⟨conn, hconn, hpassing.quiet (hsound.world.known id conn hconn),
        fun later => ?_⟩
      have hbegun := (hsound.perform (.begin d context slot)).sound
      have hstray :=
        (Desk.stray_of_begun_again hsound hlends hslot hbegan hholder
          hconn d hreuse
        hcreate).performAll hbegun later
      exact ⟨hstray,
        (hbegun.performAll later).sound.world.kept id conn hstray.connection⟩

/-- A transaction that has changed the session of its connection is stray after
a further beginning on its handle, cleaned up or not. -/
theorem begin_again_abandons_bound_transaction :
    let c : Coordinator := { source := ⟨0, ⟨"mock"⟩⟩ }
    let desk := c.performAll (.fresh fun _ => {})
      [.discover 0 0, .begin { isolation := .exactly .serializable } 0 0]
    ∃ h, desk.handles 0 = some h ∧ h.began = true ∧
      ∀ later, (c.performAll (c.perform desk (.begin {} 0 0))
        (.cleanup 0 0 :: later)).Stray 0
        ⟨0, 1⟩ := by
  intro c desk
  have hslot : desk.handles 0 = some
      { holder := some 0, ownsHolder := true, began := true,
        previousIsolation :=
          some (.standard .readCommitted), restoresAutoCommit := true } := by
    decide +kernel
  refine ⟨_, hslot, rfl, fun later => ?_⟩
  have hfault : ((desk.state 0).drivers 0).faults .create = false := by
    decide +kernel
  obtain ⟨conn, hconn, -, hstray⟩ :=
    ((begin_again_abandons_transaction c _ _ 0 0 {} hslot rfl).2 hfault).2 0 rfl
  have hfirst : ((desk.state 0).holders 0).connection = some ⟨0, 1⟩ := by
    decide +kernel
  obtain rfl : ⟨0, 1⟩ = conn := Option.some.inj (hfirst.symm.trans hconn)
  exact (hstray (.cleanup 0 0 :: later)).1

/-- The handle of a transaction begins again, which fails, and is cleaned up.
The holder of the transaction is bound as before, its connection was not handed
back, and what was to be restored on that was restored on another connection. -/
theorem begin_again_restores_wrong_connection :
    let c : Coordinator := { source := ⟨0, ⟨"mock"⟩⟩ }
    let desk := c.performAll (.fresh fun _ => {})
      [.discover 0 0, .begin { isolation := .exactly .serializable } 0 0,
        .begin {} 0 0,
        .cleanup 0 0]
    desk.handles 0 = none ∧ (desk.state 0).boundHolder c.key = some 0 ∧
      (desk.world.holders 0).stage = .active ∧
      (desk.world.holders 0).connection = some ⟨0, 1⟩ ∧
      desk.world.returns ⟨0, 1⟩ = 0 ∧
      desk.world.session ⟨0, 1⟩ =
        some { autoCommit := false, isolation := .standard .serializable } ∧
      .called 2 (.setIsolation (.standard .readCommitted)) ∈ desk.world.eventsOf
        ⟨0, 2⟩ := by
  decide +kernel

end Coordinator

end UnitOfWork
