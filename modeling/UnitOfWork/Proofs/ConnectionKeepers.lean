import UnitOfWork.Proofs.ConnectionEvents
import UnitOfWork.Proofs.ConnectionLedger

/-!
# Who keeps a connection

A connection is kept by one holder at a time, from when the holder is made until
the connection is handed back.  A handle that has made a holder owns it, and has
to see that this happens; a handle that has begun on a holder that was there has
borrowed it.

`State.Moves` says what an operation does to the keeping of connections, and
`Coordinator.Serves` what it does besides to the handle that it is given.
Handles may be stale here, or used with a context that is not theirs: nothing is
assumed of a handle but that it is sound, which the operations preserve.
-/

namespace UnitOfWork

/-- How often a source was asked to take a connection back. -/
def World.returns (w : World) (conn : Connection) : Nat :=
  w.journal.countP (Note.returns conn)

/-- Connections are kept in order: each by one holder at most, none that was
handed back, and each was handed back at most once. -/
structure World.Orderly (w : World) : Prop where
  known : w.HeldKnown
  alone : ∀ id other conn, (w.holders id).connection = some conn →
    (w.holders other).connection = some conn → id = other
  kept : ∀ id conn, (w.holders id).connection = some conn → w.returns conn = 0
  unborn : ∀ conn, w.nextId conn.source ≤ conn.id → w.returns conn = 0
  returns : ∀ conn, w.returns conn ≤ 1
  closings : ∀ conn, w.closings conn ≤ w.returns conn
  completed : ∀ id, (w.holders id).stage = .completed →
    (w.holders id).connection = none

/-! ## What is handed back -/

structure State.Returned (returned : Option Connection) (s s' : State) :
    Prop where
  nextId : ∀ source, s.nextId source ≤ s'.nextId source
  returns : ∀ conn, s'.returns conn =
    s.returns conn + if returned = some conn then 1 else 0
  closings : ∀ conn, s'.closings conn ≤
    s.closings conn + if returned = some conn then 1 else 0

namespace State.Returned

variable {returned : Option Connection} {deals : List Note} {s s' : State}

theorem of_deals (h : Deals deals s s') (hproper : ∀ n ∈ deals, n.Proper)
    (hreturns : ∀ conn, deals.countP (Note.returns conn) =
      if returned = some conn then 1 else 0) : Returned returned s s' where
  nextId := h.nextId
  returns conn := by
    obtain ⟨notes, hnotes, hfiltered⟩ := h.journal
    have hcount : deals.countP (Note.returns conn) =
        notes.countP (Note.returns conn) := by
      rw [List.countP_eq_length_filter, List.countP_eq_length_filter,
        ← hfiltered, filter_filter_isDeal fun _ => Note.isDeal_of_returns]
    rw [World.returns, World.returns, hnotes,
      List.countP_append, ← hreturns conn, hcount]
  closings conn := by
    have hle : deals.countP (Note.closes conn) ≤
        deals.countP (Note.returns conn) :=
      List.countP_mono_left fun n hn => (hproper n hn).returns_of_closes
    rw [h.closings, ← hreturns conn]
    exact Nat.add_le_add_left hle _

/-- Nothing is handed back by deals of another kind. -/
theorem of_none (h : Deals deals s s')
    (hnone : ∀ n ∈ deals, ∀ conn, n.returns conn = false) :
    Returned none s s' := by
  apply of_deals h fun n hn => Note.proper_of_not_returns (hnone n hn)
  intro conn
  rw [if_neg (Option.some_ne_none conn).symm, List.countP_eq_zero]
  intro n hn
  rw [hnone n hn conn]
  exact Bool.false_ne_true

theorem of_nothing (h : Deals [] s s') : Returned none s s' :=
  of_none h fun _ hn => absurd hn List.not_mem_nil

end State.Returned

/-! ## Moves -/

/-- What an operation does to the keeping of connections.  A holder has the
connection that it had, or is new and has a new one; a connection that is handed
back is kept no more; and a holder that is completed stays so. -/
structure State.Moves (s s' : State) : Prop where
  nextHolder : s.nextHolder ≤ s'.nextHolder
  held : ∀ id conn, (s'.holders id).connection = some conn →
    (s.holders id).connection = some conn ∨ id = s.nextHolder ∧
    Created conn s s'
  given : ∃ returned, Returned returned s s' ∧ ∀ conn, returned = some conn →
    (∀ id, (s'.holders id).connection ≠ some conn) ∧
      ((∃ id, (s.holders id).connection = some conn) ∨ Created conn s s')
  stays : ∀ id < s.nextHolder, (s.holders id).stage = .completed →
    (s'.holders id).stage = .completed
  completed : ∀ id, (s'.holders id).stage = .completed →
    (s'.holders id).connection = none ∨
      (s.holders id).stage = .completed ∧
        (s'.holders id).connection = (s.holders id).connection

structure State.Still (s s' : State) : Prop where
  nextHolder : s'.nextHolder = s.nextHolder
  stage : ∀ id, (s'.holders id).stage = (s.holders id).stage
  connection : ∀ id, (s'.holders id).connection = (s.holders id).connection

theorem State.SameHolders.still {s s' : State} (h : SameHolders s s') :
    Still s s' where
  nextHolder := h.nextHolder
  stage id := by rw [h.holders]
  connection id := by rw [h.holders]

namespace World.Orderly

variable {s s' : State} {conn : Connection} {id other : HolderId}

/-- A connection that was not handed back before is one that is known to be
kept, or new. -/
theorem returns_eq_zero (h : s.Orderly)
    (hwas : (∃ id, (s.holders id).connection = some conn) ∨
      State.Created conn s s') :
    s.returns conn = 0 := by
  rcases hwas with ⟨id, hold⟩ | ⟨hnew, -⟩
  · exact h.kept id conn hold
  · exact h.unborn conn hnew

theorem known_of_moves (h : s.Orderly) (hmoves : State.Moves s s') :
    s'.HeldKnown := by
  intro id conn hconn
  obtain ⟨returned, hreturned, -⟩ := hmoves.given
  rcases hmoves.held id conn hconn with hold | ⟨-, -, hnew⟩
  · exact Nat.lt_of_lt_of_le (h.known id conn hold) (hreturned.nextId _)
  · exact hnew

theorem alone_of_moves (h : s.Orderly) (hmoves : State.Moves s s')
    (hconn : (s'.holders id).connection = some conn)
    (hother : (s'.holders other).connection = some conn) : id = other := by
  rcases hmoves.held id conn hconn with hold | ⟨rfl, hnew, -⟩ <;>
    rcases hmoves.held other conn hother with hold' | ⟨rfl, hnew', -⟩
  · exact h.alone id other conn hold hold'
  · exact absurd (h.known id conn hold) (Nat.not_lt.mpr hnew')
  · exact absurd (h.known other conn hold') (Nat.not_lt.mpr hnew)
  · rfl

theorem kept_of_moves (h : s.Orderly) (hmoves : State.Moves s s')
    (hconn : (s'.holders id).connection = some conn) : s'.returns conn = 0 := by
  obtain ⟨returned, hreturned, hgiven⟩ := hmoves.given
  have hwas : (∃ id, (s.holders id).connection = some conn) ∨
      State.Created conn s s' :=
    (hmoves.held id conn hconn).imp (fun hold => ⟨id, hold⟩) And.right
  have hnot : returned ≠ some conn :=
    fun hback => (hgiven conn hback).1 id hconn
  rw [hreturned.returns, h.returns_eq_zero hwas, if_neg hnot]

theorem unborn_of_moves (h : s.Orderly) (hmoves : State.Moves s s')
    (hnext : s'.nextId conn.source ≤ conn.id) : s'.returns conn = 0 := by
  obtain ⟨returned, hreturned, hgiven⟩ := hmoves.given
  have hgrown := hreturned.nextId conn.source
  have hnot : returned ≠ some conn := by
    intro hback
    rcases (hgiven conn hback).2 with ⟨id, hold⟩ | ⟨-, hnew⟩
    · exact Nat.not_lt.mpr (Nat.le_trans hgrown hnext) (h.known id conn hold)
    · exact Nat.not_lt.mpr hnext hnew
  rw [hreturned.returns, h.unborn conn (Nat.le_trans hgrown hnext), if_neg hnot]

theorem returns_of_moves (h : s.Orderly) (hmoves : State.Moves s s')
    (conn : Connection) :
    s'.returns conn ≤ 1 ∧ s'.closings conn ≤ s'.returns conn := by
  obtain ⟨returned, hreturned, hgiven⟩ := hmoves.given
  rw [hreturned.returns]
  constructor
  · split
    · next hback =>
        have hnone := h.returns_eq_zero (hgiven conn hback).2
        exact Nat.le_of_eq (congrArg (· + 1) hnone)
    · exact h.returns conn
  · exact Nat.le_trans (hreturned.closings conn)
      (Nat.add_le_add_right (h.closings conn) _)

/-- Order is preserved by everything that only moves connections. -/
theorem moves (h : s.Orderly) (hmoves : State.Moves s s') : s'.Orderly where
  known := h.known_of_moves hmoves
  alone _ _ _ := h.alone_of_moves hmoves
  kept _ _ := h.kept_of_moves hmoves
  unborn _ := h.unborn_of_moves hmoves
  returns conn := (h.returns_of_moves hmoves conn).1
  closings conn := (h.returns_of_moves hmoves conn).2
  completed id hstage := by
    rcases hmoves.completed id hstage with hnone | ⟨hold, hsame⟩
    · exact hnone
    · rw [hsame, h.completed id hold]

end World.Orderly

namespace State.Moves

variable {s s' : State}

theorem of_still (hstill : Still s s') (hreturned : Returned none s s') :
    Moves s s' where
  nextHolder := Nat.le_of_eq hstill.nextHolder.symm
  held id conn hconn := Or.inl (by rwa [hstill.connection] at hconn)
  given := ⟨none, hreturned, fun conn hnone =>
    absurd hnone.symm (Option.some_ne_none conn)⟩
  stays id _ hstage := (hstill.stage id).trans hstage
  completed id hstage :=
    Or.inr ⟨(hstill.stage id).symm.trans hstage, hstill.connection id⟩

end State.Moves

/-! ## Handles -/

namespace Handle

/-- The handle has made this holder, and has to finish it. -/
def Owns (h : Handle) (id : HolderId) : Prop :=
  h.holder = some id ∧ h.ownsHolder = true

/-- The handle has begun on this holder, which was there before. -/
def Borrows (h : Handle) (id : HolderId) : Prop :=
  h.holder = some id ∧ h.ownsHolder = false ∧ h.began = true

/-- On a holder that a handle owns a transaction runs, on a connection of the
coordinator's source; and one that it has borrowed is not completed. -/
structure Sound (c : Coordinator) (h : Handle) (w : World) : Prop where
  exist : ∀ id, h.holder = some id → id < w.nextHolder
  owned : ∀ id, h.Owns id → (w.holders id).stage = .active ∧
    ∃ conn, (w.holders id).connection = some conn ∧ conn.source = c.source.id
  borrowed : ∀ id, h.Borrows id → (w.holders id).stage ≠ .completed

/-- What one of two handles owns the other one neither owns nor has borrowed. -/
def Apart (h other : Handle) : Prop :=
  ∀ id, (h.Owns id → ¬other.Owns id ∧ ¬other.Borrows id) ∧
    (other.Owns id → ¬h.Borrows id)

theorem Apart.symm {h other : Handle} (hapart : h.Apart other) :
    other.Apart h :=
  fun id =>
    ⟨fun howns => ⟨fun howned => ((hapart id).1 howned).1 howns,
      (hapart id).2 howns⟩,
      fun howned => ((hapart id).1 howned).2⟩

variable {c : Coordinator} {h : Handle} {s s' : State}

theorem not_owns_of_free (hholder : h.holder = none) (id : HolderId) :
    ¬h.Owns id := by
  intro howns
  rw [Owns, hholder] at howns
  cases howns.1

theorem not_borrows_of_free (hholder : h.holder = none) (id : HolderId) :
    ¬h.Borrows id := by
  intro hborrows
  rw [Borrows, hholder] at hborrows
  cases hborrows.1

/-- A handle without a holder has to do with no other handle. -/
theorem apart_of_free (hholder : h.holder = none) (other : Handle) :
    h.Apart other :=
  fun id =>
    ⟨fun howns => absurd howns (not_owns_of_free hholder id),
      fun _ => not_borrows_of_free hholder id⟩

/-- A handle without a holder is sound. -/
theorem sound_of_free (hholder : h.holder = none) (w : World) :
    h.Sound c w where
  exist id hid := by
    rw [hholder] at hid
    cases hid
  owned id howns := absurd howns (not_owns_of_free hholder id)
  borrowed id hborrows := absurd hborrows (not_borrows_of_free hholder id)

theorem Sound.still (hsound : h.Sound c s.toWorld) (hstill : State.Still s s') :
    h.Sound c s'.toWorld where
  exist id hid := by
    rw [hstill.nextHolder]
    exact hsound.exist id hid
  owned id howns := by
    rw [hstill.stage, hstill.connection]
    exact hsound.owned id howns
  borrowed id hborrows := by
    rw [hstill.stage]
    exact hsound.borrowed id hborrows

/-- A handle owns no holder that it could begin on again. -/
theorem Sound.not_owns_of_unbound (hsound : h.Sound c s.toWorld) (id : HolderId)
    (hholder : h.holder = some id) (hstage : (s.holders id).stage = .unbound) :
    h.ownsHolder = false := by
  apply Bool.eq_false_iff.mpr
  intro howns
  have hactive := (hsound.owned id ⟨hholder, howns⟩).1
  rw [hstage] at hactive
  cases hactive

end Handle

structure Coordinator.Serves (c : Coordinator) (h h' : Handle) (s s' : State) :
    Prop where
  moves : State.Moves s s'
  exist : s.BoundExist → s'.BoundExist
  /-- A transaction that is not the handle's goes on. -/
  active : ∀ id < s.nextHolder, ¬h.Owns id → ¬h.Borrows id →
    (s.holders id).stage = .active →
    (s'.holders id).stage = .active ∧
    (s'.holders id).connection = (s.holders id).connection
  unfinished : ∀ id < s.nextHolder, ¬h.Owns id →
    (s.holders id).stage ≠ .completed →
    (s'.holders id).stage ≠ .completed
  sound : h'.Sound c s'.toWorld
  /-- Only a new holder comes to be owned, and only one that is unclaimed is
  borrowed. -/
  owns : ∀ id, h'.Owns id → h.Owns id ∨ s.nextHolder ≤ id
  borrows : ∀ id, h'.Borrows id →
    h.Borrows id ∨ id < s.nextHolder ∧ (s.holders id).stage = .unbound

namespace Coordinator

variable {c : Coordinator} {d : Definition} {h h' : Handle} {s s' : State}

namespace Serves

/-- The other handles stay sound. -/
theorem others {other : Handle} (hserves : c.Serves h h' s s')
    (hother : other.Sound c s.toWorld) (hapart : h.Apart other) :
    other.Sound c s'.toWorld where
  exist id hid :=
    Nat.lt_of_lt_of_le (hother.exist id hid) hserves.moves.nextHolder
  owned id howns := by
    obtain ⟨hactive, hconn⟩ := hother.owned id howns
    have hnot : ¬h.Owns id := ((hapart.symm id).1 howns).1
    obtain ⟨hactive', hsame⟩ :=
      hserves.active id (hother.exist id howns.1) hnot
        ((hapart id).2 howns) hactive
    rw [hsame]
    exact ⟨hactive', hconn⟩
  borrowed id hborrows := by
    have hnot : ¬h.Owns id := fun howns => ((hapart id).1 howns).2 hborrows
    exact hserves.unfinished id (hother.exist id hborrows.1) hnot
      (hother.borrowed id hborrows)

/-- They have nothing to do with the handle either. -/
theorem apart {other : Handle} (hserves : c.Serves h h' s s')
    (hother : other.Sound c s.toWorld) (hapart : h.Apart other) :
    h'.Apart other := by
  have hold : ∀ {id}, other.holder = some id → ¬s.nextHolder ≤ id := fun hid =>
    Nat.not_le.mpr (hother.exist _ hid)
  intro id
  constructor
  · intro howns
    rcases hserves.owns id howns with hwas | hnew
    · exact (hapart id).1 hwas
    · exact ⟨fun howned => hold howned.1 hnew,
        fun hborrows => hold hborrows.1 hnew⟩
  · intro howned hborrows
    rcases hserves.borrows id hborrows with hwas | ⟨-, hunbound⟩
    · exact (hapart id).2 howned hwas
    · have hactive := (hother.owned id howned).1
      rw [hunbound] at hactive
      cases hactive

/-- An operation that leaves the holders at their stages and with their
connections. -/
theorem of_still (hstill : State.Still s s')
    (hreturned : State.Returned none s s')
    (hexist : s.BoundExist → s'.BoundExist) (hsound : h'.Sound c s.toWorld)
    (howns : ∀ id, h'.Owns id → h.Owns id)
    (hborrows : ∀ id, h'.Borrows id → h.Borrows id) :
    c.Serves h h' s s' where
  moves := .of_still hstill hreturned
  exist := hexist
  active id _ _ _ hactive :=
    ⟨(hstill.stage id).trans hactive, hstill.connection id⟩
  unfinished id _ _ hstage := by rwa [hstill.stage]
  sound := hsound.still hstill
  owns id h := Or.inl (howns id h)
  borrows id h := Or.inl (hborrows id h)

/-- An operation on drivers, which has nothing to do with holders and
bindings. -/
theorem of_sameHolders (hsame : State.SameHolders s s')
    (hdeals : State.Deals [] s s') (hsound : h.Sound c s.toWorld) :
    c.Serves h h s s' :=
  .of_still hsame.still (.of_nothing hdeals)
    (fun hs key id hid => by
      rw [hsame.bound] at hid
      rw [hsame.nextHolder]
      exact hs key id hid)
    hsound (fun _ h => h) fun _ h => h

end Serves

end Coordinator

end UnitOfWork
