import UnitOfWork.Proofs.BeginObstacles
import UnitOfWork.Proofs.ConnectionLedger
import UnitOfWork.Proofs.Settlement

/-!
# A beginning that fails leaves nothing

A beginning that fails has put back whatever it did before it says so.  No
holder is bound that was not bound before, a connection that was acquired is
handed back, a transaction that the driver had begun is rolled back, and a
holder that was claimed is unclaimed again.  Nothing is left for the handle to
do either: through it no transaction has begun, and to clean it up changes
nothing.
-/

namespace UnitOfWork

def Note.rollsBack (conn : Connection) : Note → Bool
  | .driver (.call other .rollback) _ => other = conn
  | _ => false

theorem Note.isDeal_of_rollsBack {conn : Connection} {n : Note}
    (h : n.rollsBack conn = true) :
    n.isDeal = true := by
  unfold Note.rollsBack at h
  split at h
  · rfl
  · cases h

/-! ## Handles without a transaction -/

namespace Handle

/-- A handle through which no transaction has begun.  It was given out by a
coordinator, and all that was done with it since is that beginnings on it
failed, that it was marked, or that its holder was suspended. -/
inductive Unbegun : Handle → Prop
  | discovered (c : Coordinator) (s : State) : Unbegun (c.discover s)
  | refused {c : Coordinator} {d : Definition} {h h' : Handle} {s s' : State}
      {e : TransactionError} (hunbegun : Unbegun h)
      (herror : c.begin d h s = (.error e, h', s')) : Unbegun h'
  | marked {h : Handle} (hunbegun : Unbegun h) (s : State) :
      Unbegun (Coordinator.markRollbackOnly h s).2.1
  | suspended {h : Handle} (hunbegun : Unbegun h) (c : Coordinator)
      (s : State) : Unbegun (c.suspend h s).2.1

structure Idle (h : Handle) : Prop where
  ownsHolder : h.ownsHolder = false
  began : h.began = false
  previousIsolation : h.previousIsolation = none
  restoresAutoCommit : h.restoresAutoCommit = false

variable {h : Handle}

theorem Idle.owed (hidle : h.Idle) : h.owed = [] := by
  simp [Handle.owed, hidle.previousIsolation, hidle.restoresAutoCommit]

/-- An idle handle is cleaned up by doing nothing. -/
theorem Idle.cleanup (hidle : h.Idle) (c : Coordinator) (s : State) :
    c.cleanup h s = s := by
  have hsession : ∀ conn, (h.restoreSession conn s).2 = s := by
    intro conn
    simp [restoreSession, hidle.restoresAutoCommit, hidle.previousIsolation]
  cases hholder : h.holder with
  | none => rw [Coordinator.cleanup, hholder]
  | some id =>
      have hrestored : c.restored h id (c.released h id s) = s := by
        simp only [Coordinator.released, Coordinator.restored,
          Coordinator.restoreConnection, hidle.ownsHolder, Bool.false_eq_true,
          if_false, hsession]
        split <;> rfl
      have hsettled : Coordinator.settle h (s.holders id) = s.holders id := by
        simp [Coordinator.settle, hidle.ownsHolder, hidle.began]
      have hholders : (fun i => if i = id then s.holders id else s.holders i) =
          s.holders := by
        funext i
        split
        · next hi => rw [hi]
        · rfl
      rw [Coordinator.cleanup_eq hholder, hrestored, hsettled,
        State.setHolder, hholders]

end Handle

namespace Coordinator

variable {c : Coordinator} {d : Definition} {h h' : Handle} {s s' : State}
variable {e : TransactionError}

/-- A handle whose beginning is abandoned has nothing to restore any more, and
owns no holder. -/
theorem abandon_settles (c : Coordinator) (driverBegan : Bool)
    (conn : Connection) (h : Handle) (s : State) :
    (c.abandon driverBegan conn h s).1.ownsHolder = false ∧
      (c.abandon driverBegan conn h s).1.began = h.began ∧
      (c.abandon driverBegan conn h s).1.previousIsolation = none ∧
      (c.abandon driverBegan conn h s).1.restoresAutoCommit = false := by
  cases howns : h.ownsHolder with
  | true =>
      simp only [abandon, Handle.restoreSession, howns, if_true]
      exact ⟨rfl, rfl, rfl, rfl⟩
  | false =>
      simp only [abandon, Handle.restoreSession, howns,
        Bool.false_eq_true, if_false]
      cases h.holder <;> exact ⟨rfl, rfl, rfl, rfl⟩

/-- A beginning that fails leaves the handle as it was, or as one whose
beginning was abandoned. -/
theorem handle_of_error (herror : c.begin d h s = (.error e, h', s')) :
    h' = h ∨ h'.ownsHolder = false ∧ h'.began = h.began ∧
    h'.previousIsolation = none ∧
      h'.restoresAutoCommit = false := by
  have hbeginning := c.beginning d h s
  rw [herror] at hbeginning
  generalize hresult : (Except.error e, h', s') = result at hbeginning
  cases hbeginning with
  | refused hstate => exact Or.inl (Prod.mk.inj (Prod.mk.inj hresult).2).1
  | @early conn id h₁ h₂ s₁ s₂ cause calls hobtained hsame hcalls htalk =>
      obtain rfl : h' = (c.abandon false conn h₂ s₂).1 :=
        (Prod.mk.inj (Prod.mk.inj hresult).2).1
      have hsettled := c.abandon_settles false conn h₂ s₂
      rw [hsame.began.trans hobtained.holders.2.2.2.2.1] at hsettled
      exact Or.inr hsettled
  | @late conn id h₁ h₂ s₁ s₂ s₃ cause hobtained hsame htalk hactive =>
      obtain rfl : h' = (c.abandon true conn h₂ s₃).1 :=
        (Prod.mk.inj (Prod.mk.inj hresult).2).1
      have hsettled := c.abandon_settles true conn h₂ s₃
      rw [hsame.began.trans hobtained.holders.2.2.2.2.1] at hsettled
      exact Or.inr hsettled
  | begun => simp at hresult

/-- A beginning that fails leaves an idle handle idle. -/
theorem idle_of_error (hidle : h.Idle)
    (herror : c.begin d h s = (.error e, h', s')) :
    h'.Idle := by
  rcases handle_of_error herror with rfl | ⟨howns, hbegan, hlevel, hauto⟩
  · exact hidle
  · exact ⟨howns, hbegan.trans hidle.began, hlevel, hauto⟩

theorem began_of_error (herror : c.begin d h s = (.error e, h', s')) :
    h'.began = h.began := by
  rcases handle_of_error herror with rfl | ⟨-, hbegan, -⟩
  · rfl
  · exact hbegan

end Coordinator

/-- A handle through which no transaction has begun has nothing to do. -/
theorem Handle.Unbegun.idle {h : Handle} (hunbegun : h.Unbegun) : h.Idle := by
  induction hunbegun with
  | discovered c s => exact ⟨rfl, rfl, rfl, rfl⟩
  | refused _ herror ih => exact Coordinator.idle_of_error ih herror
  | @marked h _ s ih =>
      rw [Coordinator.markRollbackOnly]
      cases hholder : h.holder with
      | none => exact ih
      | some id =>
          exact ⟨ih.ownsHolder, ih.began, ih.previousIsolation,
            ih.restoresAutoCommit⟩
  | suspended _ c s ih =>
      exact ⟨ih.ownsHolder, ih.began, ih.previousIsolation,
        ih.restoresAutoCommit⟩

/-! ## What a failed beginning has dealt -/

namespace Coordinator

variable {c : Coordinator} {d : Definition} {h h' : Handle} {s s' : State}
variable {e : TransactionError} {deals : List Note}

/-- The driver was asked to roll back as often as it had begun. -/
theorem FailedDeals.rolledBack (h : c.FailedDeals h s s' deals)
    (k : Connection) :
    deals.countP (Note.rollsBack k) = deals.countP (Note.begins k) := by
  cases h with
  | refused => rfl
  | @abandoned conn id owns calls fault horigin hsource hcalls hfault =>
      have hcounts : (callsOn conn calls).countP (Note.rollsBack k) =
          (callsOn conn calls).countP (Note.begins k) := by
        rcases hcalls with hnot | ⟨f, rfl⟩
        · cases hnot <;> rfl
        · simp [callsOn, Note.rollsBack, Note.begins, List.countP_cons]
      rw [List.countP_append, List.countP_append, List.countP_append,
        List.countP_append, hcounts]
      cases owns <;> rfl

/-- What was new was handed back, once, and nothing else was. -/
theorem FailedDeals.handedBack (h : c.FailedDeals h s s' deals)
    (k : Connection) :
    deals.countP (Note.returns k) = deals.countP (Note.makes k) := by
  cases h with
  | refused => rfl
  | @abandoned conn id owns calls fault horigin hsource hcalls hfault =>
      have hcalls : (callsOn conn calls).countP (Note.returns k) = 0 ∧
          (callsOn conn calls).countP (Note.makes k) = 0 :=
        ⟨List.countP_eq_zero.mpr fun n hn => by
          simp [(callsOn_made conn calls n hn k).2.1],
          List.countP_eq_zero.mpr fun n hn => by
            simp [(callsOn_made conn calls n hn k).1]⟩
      rw [List.countP_append, List.countP_append, List.countP_append,
        List.countP_append, hcalls.1, hcalls.2]
      cases owns
      · rfl
      · simp [acquisition, restitution, Note.returns, Note.makes,
          Note.made?, Line.made?]

/-- A beginning claims the unclaimed holder of its handle, if that has a
connection. -/
def Claims (h : Handle) (s : State) (id : HolderId) : Prop :=
  h.holder = some id ∧ (s.holders id).stage = .unbound ∧
  (s.holders id).connection.isSome

structure Undone (h : Handle) (s : State) (h' : Handle) (s' : State) :
    Prop where
  bound : ∀ key, s'.boundHolder key = s.boundHolder key
  /-- The connection that was created was handed back once, and no other was;
  and the driver was rolled back once if it had begun, and otherwise not at
  all. -/
  dealt : ∃ notes, s'.journal = s.journal ++ notes ∧ ∀ conn,
    (State.Created conn s s' → notes.countP (Note.returns conn) = 1) ∧
    (¬State.Created conn s s' → notes.countP (Note.returns conn) = 0) ∧
    notes.countP (Note.rollsBack conn) = notes.countP (Note.begins conn)
  /-- The holder that was claimed is unclaimed again. -/
  claimed : ∀ id < s.nextHolder, Claims h s id →
    (s'.holders id).stage = .unbound ∧
    (s'.holders id).connection = (s.holders id).connection
  others : ∀ id < s.nextHolder, ¬Claims h s id → s'.holders id = s.holders id
  /-- A holder that was made is finished. -/
  made : ∀ id, s.nextHolder ≤ id → id < s'.nextHolder →
    s'.holders id = .finished
  handle : h'.Unbegun
  /-- Nothing is left to be cleaned up. -/
  cleanup : ∀ (c' : Coordinator) s'', c'.cleanup h' s'' = s''

theorem dealt_of_error (hidle : h.Idle)
    (herror : c.begin d h s = (.error e, h', s')) :
    ∃ notes, s'.journal = s.journal ++ notes ∧ ∀ conn,
      (State.Created conn s s' → notes.countP (Note.returns conn) = 1) ∧
      (¬State.Created conn s s' → notes.countP (Note.returns conn) = 0) ∧
      notes.countP (Note.rollsBack conn) = notes.countP (Note.begins conn) := by
  obtain ⟨deals, hdeals, hfailed⟩ := deals_of_error hidle.ownsHolder herror
  obtain ⟨notes, hnotes, hfiltered⟩ := hdeals.journal
  have hcount : ∀ p : Note → Bool, (∀ n, p n = true → n.isDeal = true) →
      notes.countP p = deals.countP p := by
    intro p hp
    rw [List.countP_eq_length_filter, List.countP_eq_length_filter, ← hfiltered,
      filter_filter_isDeal hp]
  refine ⟨notes, hnotes, fun conn => ?_⟩
  have hreturns : notes.countP (Note.returns conn) =
      if s.nextId conn.source ≤ conn.id ∧ conn.id < s'.nextId conn.source then 1
      else 0 := by
    rw [hcount _ fun _ => Note.isDeal_of_returns, hfailed.handedBack,
      hdeals.made]
  refine ⟨fun hnew => hreturns.trans (if_pos hnew),
    fun hold => hreturns.trans (if_neg hold), ?_⟩
  rw [hcount _ fun _ => Note.isDeal_of_rollsBack,
    hcount _ fun _ => Note.isDeal_of_begins, hfailed.rolledBack]

/-- The holders after a failed beginning: the one that was claimed is released,
one that was made is finished, and the others are as they were. -/
theorem NotBegun.cases_holder (hfailed : NotBegun h s s')
    (howns : h.ownsHolder = false) (id : HolderId) :
    s'.holders id = s.holders id ∨
    (Claims h s id ∧ s'.holders id = (s.holders id).release) ∨
      id = s.nextHolder ∧ s'.holders id = .finished := by
  rcases hfailed.holders with
      ⟨hsame, -⟩ | ⟨conn, other, owns, horigin, hothers, hleft⟩
  · exact Or.inl (congrFun hsame id)
  · by_cases hid : id = other
    · subst hid
      refine Or.inr ?_
      cases horigin with
      | reused hholder howns' hstage hconn =>
          rcases hleft with ⟨htrue, -⟩ | ⟨-, hreleased⟩
          · rw [howns', howns] at htrue
            cases htrue
          · exact Or.inl ⟨⟨hholder, hstage, by rw [hconn]; rfl⟩, hreleased⟩
      | created hnew howns' =>
          rcases hleft with ⟨-, hfinished⟩ | ⟨hfalse, -⟩
          · exact Or.inr ⟨hnew, hfinished⟩
          · rw [howns'] at hfalse
            cases hfalse
    · exact Or.inl (hothers id hid)

theorem NotBegun.made (hfailed : NotBegun h s s') {id : HolderId}
    (hold : s.nextHolder ≤ id) (hnew : id < s'.nextHolder) :
    s'.holders id = .finished := by
  rcases hfailed.holders with
      ⟨-, hnext⟩ | ⟨conn, other, owns, horigin, -, hleft⟩
  · rw [hnext] at hnew
    exact absurd hold (Nat.not_le.mpr hnew)
  · cases horigin with
    | reused _ _ _ _ hnext =>
        rw [hnext] at hnew
        exact absurd hold (Nat.not_le.mpr hnew)
    | created hother howns' hnext =>
        have hnow := Nat.le_of_lt_succ (Nat.lt_of_lt_of_eq hnew hnext)
        obtain rfl : id = other := (Nat.le_antisymm hnow hold).trans hother.symm
        rcases hleft with ⟨-, hfinished⟩ | ⟨hfalse, -⟩
        · exact hfinished
        · rw [howns'] at hfalse
          cases hfalse

/-- A beginning that fails on a handle through which none has succeeded says by
which of its own steps it failed, the first that did, and leaves nothing of what
it has done. -/
theorem begin_undoes_itself (c : Coordinator) (d : Definition)
    (hunbegun : h.Unbegun) (herror : c.begin d h s = (.error e, h', s')) :
    (∃ cause, e = .cannotCreate cause ∧
      (c.obstacles d h s).head? = some cause) ∧
      Undone h s h' s' := by
  have hidle := hunbegun.idle
  have houtcome := c.begin_outcome (s := s) d hidle.ownsHolder
  have hfailed := notBegun_of_error herror
  constructor
  · rw [herror] at houtcome
    cases hfirst : firstOf (c.obstacles d h s) with
    | ok _ =>
        rw [hfirst] at houtcome
        cases houtcome
    | error cause =>
        rw [hfirst] at houtcome
        exact ⟨cause, Except.error.inj houtcome, firstOf_eq_error_iff.mp hfirst⟩
  · have hunbegun' := hunbegun.refused herror
    constructor
    case bound => exact hfailed.bound
    case dealt => exact dealt_of_error hidle herror
    case claimed =>
      intro id hid hclaims
      rcases hfailed.cases_holder hidle.ownsHolder id with
          hsame | ⟨-, hreleased⟩ | ⟨rfl, -⟩
      · rw [hsame]
        exact ⟨hclaims.2.1, rfl⟩
      · rw [hreleased]
        exact ⟨rfl, rfl⟩
      · exact absurd hid (Nat.lt_irrefl _)
    case others =>
      intro id hid hclaims
      rcases hfailed.cases_holder hidle.ownsHolder id with
          hsame | ⟨hclaims', -⟩ | ⟨rfl, -⟩
      · exact hsame
      · exact absurd hclaims' hclaims
      · exact absurd hid (Nat.lt_irrefl _)
    case made => exact fun _ => hfailed.made
    case handle => exact hunbegun'
    case cleanup => exact fun c' s'' => hunbegun'.idle.cleanup c' s''

/-- A transaction that cannot be made read-only fails by that on a bound holder,
though the rollback after it fails too. -/
theorem begin_undoes_failed_marking :
    let c : Coordinator :=
      { source := ⟨0, ⟨"db"⟩⟩, config := { enforceReadOnly := true } }
    let s : State :=
      { drivers := fun _ =>
          { nextId := 2, faults := fun f => f = .execute || f = .rollback
            sessions := fun _ => some {} }
        holders := fun _ => { connection := some ⟨0, 1⟩ }
        nextHolder := 1, context := Bindings.empty.insert ⟨"db"⟩ 0 }
    (c.discover s).Unbegun ∧ ∃ h' s',
      c.begin { readOnly := true } (c.discover s) s =
        (.error (.cannotCreate (.fault .execute)), h', s') ∧
      Undone (c.discover s) s h' s' := by
  intro c s
  have hunbegun := Handle.Unbegun.discovered c s
  have herror : c.begin { readOnly := true } (c.discover s) s =
      (.error (.cannotCreate (.fault .execute)),
        (c.begin { readOnly := true } (c.discover s) s).2) :=
    Prod.ext rfl rfl
  exact ⟨hunbegun, _, _, herror, (begin_undoes_itself c _ hunbegun herror).2⟩

end Coordinator

end UnitOfWork
