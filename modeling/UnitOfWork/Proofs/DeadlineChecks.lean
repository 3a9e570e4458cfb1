import UnitOfWork.Proofs.RunningTransactions

/-!
# Watching over a deadline

A routine is a unit of work of a user who uses any number of coordinators, makes
calls on holders by hand, and executes other routines in between.
`Routine.glances` looks at its state after everything that it does, and tells
what the checks of one holder's deadline have answered.

Once such a check has told that the time is up, the transaction on the holder is
doomed: every later check tells the same, and the execution that the transaction
was begun for rolls it back.
-/

namespace UnitOfWork

/-! ## Routines -/

/-- A unit of work as the tree of what is done next, with coordinators and on
holders. -/
inductive Routine (ε α : Type) where
  | finish (result : Except (Failure ε) α)
  /-- Waits until the deadline of a transaction around it has passed. -/
  | pend (outer : Nat)
  | step (c : Coordinator) (first : Errand.Step) (next : Reply → Routine ε α)
  /-- Makes a call on a holder. -/
  | command (other : HolderId) (order : Holder.Command Connection)
      (next : Except TransactionError (Holder.Answer Connection) → Routine ε α)
  /-- Puts a connection into a holder of its own. -/
  | keep (conn : Connection) (next : HolderId → Routine ε α)
  /-- Finds the drivers in other states, and other holders bound. -/
  | meanwhile (drivers : SourceId → Driver) (context : Bindings HolderId)
      (next : Routine ε α)
  /-- Executes a routine and goes on with its result. -/
  | execute (c : Coordinator) (d : Definition) (body : Routine ε α)
      (next : Except (Failure ε) α → Routine ε α)

inductive Concern where
  | other
  /-- Its deadline was checked. -/
  | checked (answer : Except TransactionError (Holder.Answer Connection))
  /-- The transaction on it was ended, or was given another deadline by hand. -/
  | ended

namespace Concern

def ofEnds (ends : Bool) : Concern :=
  if ends then ended else other

def ofCommand (answer : Except TransactionError (Holder.Answer Connection)) :
    Holder.Command Connection → Concern
  | .checkDeadline => checked answer
  | command => ofEnds command.ends

def isEnd : Concern → Bool
  | ended => true
  | _ => false

/-- Whether the check of a deadline has told that the time is up. -/
def TimedOut (concern : Concern) : Prop :=
  ∃ overdue, concern = checked (.error (.timedOut overdue))

def IsCheck (concern : Concern) : Prop :=
  ∃ answer, concern = checked answer

@[simp]
theorem isEnd_ofEnds (ends : Bool) : (ofEnds ends).isEnd = ends := by
  cases ends <;> rfl

theorem isEnd_ofCommand (id other : HolderId)
    (answer : Except TransactionError (Holder.Answer Connection))
    (order : Holder.Command Connection) :
    (if other = id then ofCommand answer order else Concern.other).isEnd =
      (decide (other = id) && order.ends) := by
  split
  · next hsame =>
      rw [decide_eq_true hsame]
      cases order <;> rfl
  · next hother =>
      rw [decide_eq_false hother]
      rfl

theorem not_isCheck_ofEnds (ends : Bool) : ¬(ofEnds ends).IsCheck := by
  rintro ⟨answer, h⟩
  cases ends <;> cases h

end Concern

structure Glance where
  concern : Concern
  state : State

namespace Routine

variable {ε α : Type}

def run : Routine ε α → Work Pocket ε α
  | .finish result, scope, s, p => (scope, ⟨.finished result, s, p⟩)
  | .pend outer, scope, s, p => (scope, ⟨.overdue outer, s, p⟩)
  | .step c first next, scope, s, p =>
      match first.take c scope s p with
      | (scope', done) => (next done.reply).run scope' done.state done.pocket
  | .command other order next, scope, s, p =>
      match s.command other order with
      | (answer, s') => (next answer).run scope s' p
  | .keep conn next, scope, s, p =>
      match s.addHolder (.of conn) with
      | (id, s') => (next id).run scope s' p
  | .meanwhile drivers context next, scope, s, p =>
      next.run scope { s with drivers, context } p
  | .execute c d body next, scope, s, p =>
      let inner := c.execute d body.run s p
      match inner.ending with
      | .finished result => (next result).run scope inner.state inner.memory
      | .overdue outer => (scope, ⟨.overdue outer, inner.state, inner.memory⟩)

/-- What an execution is for a holder when its work has ended: it ends the
transaction that it has begun. -/
def closing (c : Coordinator) (d : Definition) (id : HolderId)
    (work : Work Pocket ε α) (s : State) (p : Pocket) : Concern :=
  .ofEnds <| (c.starts d work s p).any fun entry =>
    entry.1.endsAfter id entry.2 (work entry.1 entry.2 p).2.ending

/-- Looks at the state after each part of a routine.  An execution is looked at
when its work is started, in the course of its work, and when it has ended. -/
def glances (id : HolderId) : Routine ε α → Scope → State → Pocket → List Glance
  | .finish _, _, _, _ => []
  | .pend _, _, _, _ => []
  | .step c first next, scope, s, p =>
      match first.take c scope s p with
      | (scope', done) =>
          ⟨.ofEnds (first.ends id p), done.state⟩ ::
            (next done.reply).glances id scope' done.state done.pocket
  | .command other order next, scope, s, p =>
      match s.command other order with
      | (answer, s') =>
          ⟨if other = id then .ofCommand answer order else .other, s'⟩ ::
            (next answer).glances id scope s' p
  | .keep conn next, scope, s, p =>
      match s.addHolder (.of conn) with
      | (made, s') => ⟨.other, s'⟩ :: (next made).glances id scope s' p
  | .meanwhile drivers context next, scope, s, p =>
      ⟨.other, { s with drivers, context }⟩ ::
        next.glances id scope { s with drivers, context } p
  | .execute c d body next, scope, s, p =>
      let inner := c.execute d body.run s p
      ((c.starts d body.run s p).flatMap fun entry =>
        ⟨.other, entry.2⟩ :: body.glances id entry.1 entry.2 p) ++
      ⟨closing c d id body.run s p, inner.state⟩ ::
        match inner.ending with
        | .finished result =>
            (next result).glances id scope inner.state inner.memory
        | .overdue _ => []

end Routine

/-! ## What the glances show -/

/-- A glance after a check shows what the check has told, and what it has
left. -/
def Glance.Honest (id : HolderId) (g : Glance) : Prop :=
  g.concern.IsCheck →
    (g.concern.TimedOut ↔ (g.state.holders id).Overdue g.state.now) ∧
      ((g.state.holders id).Overdue g.state.now →
        (g.state.holders id).rollbackOnly = true)

/-- Between two states there were some glances, and a transaction on a holder
lasts from each of them to the next. -/
def Seen (id : HolderId) : State → List Glance → State → Prop
  | s, [], s' => State.Lasts id false s s'
  | s, g :: rest, s' =>
      State.Lasts id g.concern.isEnd s g.state ∧ g.Honest id ∧
      Seen id g.state rest s'

structure State.Doomed (id : HolderId) (s : State) : Prop where
  stage : (s.holders id).stage = .active
  rollbackOnly : (s.holders id).rollbackOnly = true
  overdue : (s.holders id).Overdue s.now

theorem State.Doomed.later {id : HolderId} {s s' : State} (h : s.Doomed id)
    (hlasts : Lasts id false s s') : s'.Doomed id := by
  obtain ⟨hstage, hdeadline, hmarked⟩ := hlasts.goesOn rfl h.stage
  obtain ⟨t, ht, hpassed⟩ := h.overdue
  exact ⟨hstage, hmarked h.rollbackOnly, t, hdeadline.trans ht,
    Nat.le_trans hpassed hlasts.now⟩

namespace Seen

variable {id : HolderId} {s s' s'' : State} {g : Glance}
variable {earlier later rest glances : List Glance}

theorem nextHolder (h : Seen id s glances s') :
    s.nextHolder ≤ s'.nextHolder := by
  induction glances generalizing s with
  | nil => exact State.Lasts.nextHolder h
  | cons g rest ih => exact Nat.le_trans h.1.nextHolder (ih h.2.2)

/-- A transaction lasts through a part that gave no glances. -/
theorem after (hlasts : State.Lasts id false s s')
    (h : Seen id s' glances s'') :
    Seen id s glances s'' := by
  cases glances with
  | nil => exact State.Lasts.andThen hlasts h
  | cons g rest =>
      have hboth := hlasts.trans h.1
      rw [Bool.false_or] at hboth
      exact ⟨hboth, h.2⟩

theorem append (h : Seen id s glances s') (h' : Seen id s' rest s'') :
    Seen id s (glances ++ rest) s'' := by
  induction glances generalizing s with
  | nil => exact h'.after h
  | cons g glances ih => exact ⟨h.1, h.2.1, ih h.2.2⟩

theorem from_glance (h : Seen id s (earlier ++ g :: rest) s') :
    g.Honest id ∧ Seen id g.state rest s' := by
  induction earlier generalizing s with
  | nil => exact h.2
  | cons first earlier ih => exact ih h.2.2

/-- Until the transaction is ended, it has the deadline that it had. -/
theorem deadline_until_end (h : Seen id s glances s')
    (hactive : (s.holders id).stage = .active) :
    ∀ g ∈ glances.takeWhile fun g => !g.concern.isEnd,
      (g.state.holders id).stage = .active ∧
        (g.state.holders id).deadline = (s.holders id).deadline ∧
        g.Honest id := by
  induction glances generalizing s with
  | nil => exact fun _ hmem => by cases hmem
  | cons first rest ih =>
      intro g hmem
      cases hend : first.concern.isEnd with
      | true => simp [hend] at hmem
      | false =>
          obtain ⟨hstage, hdeadline, -⟩ := h.1.goesOn hend hactive
          rw [List.takeWhile_cons_of_pos (by simp [hend]),
            List.mem_cons] at hmem
          rcases hmem with rfl | hmem
          · exact ⟨hstage, hdeadline, h.2.1⟩
          · obtain ⟨hstage', hdeadline', hhonest⟩ := ih h.2.2 hstage g hmem
            exact ⟨hstage', hdeadline'.trans hdeadline, hhonest⟩

/-- A doomed transaction is doomed at every later glance, until it is ended. -/
theorem doomed (h : Seen id s (later ++ rest) s') (hdoomed : s.Doomed id)
    (hgoes : ∀ g ∈ later, g.concern.isEnd = false) :
    (∀ g ∈ later, g.state.Doomed id ∧ g.Honest id) ∧
      ∃ s₁, s₁.Doomed id ∧ Seen id s₁ rest s' := by
  induction later generalizing s with
  | nil => exact ⟨fun _ hmem => (by cases hmem), s, hdoomed, h⟩
  | cons first later ih =>
      have hfirst : first.state.Doomed id := by
        have hlasts := h.1
        rw [hgoes first List.mem_cons_self] at hlasts
        exact hdoomed.later hlasts
      obtain ⟨hlater, hlast⟩ :=
        ih h.2.2 hfirst fun g hmem => hgoes g (List.mem_cons_of_mem _ hmem)
      refine ⟨fun g hmem => ?_, hlast⟩
      rcases List.mem_cons.mp hmem with rfl | hmem
      · exact ⟨hfirst, h.2.1⟩
      · exact hlater g hmem

/-- A transaction is doomed once a check has told that the time is up. -/
theorem doomed_of_timedOut (h : Seen id s (earlier ++ g :: rest) s')
    (hactive : (g.state.holders id).stage = .active)
    (htold : g.concern.TimedOut) :
    g.state.Doomed id ∧ Seen id g.state rest s' := by
  obtain ⟨hhonest, hrest⟩ := h.from_glance
  obtain ⟨htells, hmarked⟩ := hhonest ⟨_, htold.choose_spec⟩
  have hoverdue := htells.mp htold
  exact ⟨⟨hactive, hmarked hoverdue, hoverdue⟩, hrest⟩

end Seen

theorem Errand.Step.take_scope (c : Coordinator) (first : Step) (scope : Scope)
    (s : State) (p : Pocket) :
    ∃ mark, (first.take c scope s p).1 = scope.marked mark := by
  cases first with
  | act a => exact ⟨false, scope.marked_false.symm⟩
  | look => exact ⟨false, scope.marked_false.symm⟩
  | markRollbackOnly =>
      rw [take]
      rcases scope.markRollbackOnly_cases s with
          ⟨e, -, hmark⟩ | ⟨other, -, hmark⟩ <;> rw [hmark]
      · exact ⟨false, scope.marked_false.symm⟩
      · exact ⟨true, rfl⟩

namespace Routine

variable {ε α : Type} {id : HolderId}

/-- A routine gives its scope back, marked for rollback or as it was. -/
theorem run_scope (routine : Routine ε α) (scope : Scope) (s : State)
    (p : Pocket) :
    ∃ mark, (routine.run scope s p).1 = scope.marked mark := by
  induction routine generalizing scope s p with
  | finish result | pend outer => exact ⟨false, scope.marked_false.symm⟩
  | step c first next ih =>
      obtain ⟨mark, hfirst⟩ := first.take_scope c scope s p
      obtain ⟨mark', hnext⟩ := ih (first.take c scope s p).2.reply
        (first.take c scope s p).1 (first.take c scope s p).2.state
        (first.take c scope s p).2.pocket
      exact ⟨mark || mark', by rw [run, hnext, hfirst, Scope.marked_marked]⟩
  | command other order next ih => exact ih _ scope _ p
  | keep conn next ih => exact ih _ scope _ p
  | meanwhile drivers context next ih => exact ih scope _ p
  | execute c d body next _ ih =>
      rw [run]
      split
      · exact ih _ _ _ _
      · exact ⟨false, scope.marked_false.symm⟩

theorem honest_other (id : HolderId) (s : State) :
    Glance.Honest id ⟨.other, s⟩ := by
  rintro ⟨answer, h⟩
  cases h

theorem honest_ofEnds (id : HolderId) (ends : Bool) (s : State) :
    Glance.Honest id ⟨.ofEnds ends, s⟩ :=
  fun h => absurd h (Concern.not_isCheck_ofEnds ends)

/-- A glance after a call on a holder shows what the call has answered. -/
theorem honest_command (id other : HolderId) (s : State)
    (order : Holder.Command Connection) :
    Glance.Honest id
      ⟨if other = id then
        .ofCommand (s.command other order).1 order else .other,
        (s.command other order).2⟩ := by
  split
  · next hsame =>
      subst hsame
      cases order with
      | checkDeadline =>
          obtain ⟨hdeadline, -, htells, hmarked, -⟩ :=
            (s.holders other).perform_checkDeadline s.now
          intro _
          simp only [Holder.Overdue, State.command, State.holders_setHolder,
            if_true, State.now_setHolder, hdeadline]
          refine ⟨Iff.trans ?_ htells, hmarked⟩
          simp [Concern.TimedOut, Concern.ofCommand]
      | _ => exact honest_ofEnds _ _ _
  · exact honest_other _ _

/-- A transaction lasts from one glance at an execution to the next, if it does
so in its work, and on to what comes after the execution. -/
theorem seen_execution {s : State} {p : Pocket} (hid : id < s.nextHolder)
    (c : Coordinator) (d : Definition) (body : Routine ε α)
    (hbody : ∀ scope (s₀ : State), id < s₀.nextHolder →
      Seen id s₀ (body.glances id scope s₀ p) (body.run scope s₀ p).2.state) :
    s.nextHolder ≤ (c.execute d body.run s p).state.nextHolder ∧
      ∀ tail s', Seen id (c.execute d body.run s p).state tail s' →
        Seen id s (((c.starts d body.run s p).flatMap fun entry =>
            ⟨.other, entry.2⟩ :: body.glances id entry.1 entry.2 p) ++
          ⟨closing c d id body.run s p, (c.execute d body.run s p).state⟩ ::
            tail) s' := by
  rcases Coordinator.execute_lasts hid c d (m := p) fun scope s₀ =>
      body.run_scope scope s₀ p with
    ⟨hstarts, hlasts⟩ | ⟨scope, s₀, hstarts, hopened, hclosed⟩
  · refine ⟨hlasts.nextHolder, fun tail s' htail => ?_⟩
    rw [closing, hstarts]
    exact ⟨hlasts, honest_ofEnds id _ _, htail⟩
  · have hseen := hbody scope s₀ (Nat.lt_of_lt_of_le hid hopened.nextHolder)
    have hnext := Nat.le_trans hseen.nextHolder hclosed.nextHolder
    refine ⟨Nat.le_trans hopened.nextHolder hnext, fun tail s' htail => ?_⟩
    rw [closing, hstarts, List.flatMap_singleton]
    refine ⟨hopened, honest_other id _,
      hseen.append ⟨?_, honest_ofEnds id _ _, htail⟩⟩
    simpa using hclosed

/-- A transaction lasts from one glance at a routine to the next. -/
theorem run_seen (routine : Routine ε α) (scope : Scope) (s : State)
    (p : Pocket) (hid : id < s.nextHolder) :
    Seen id s (routine.glances id scope s p)
      (routine.run scope s p).2.state := by
  induction routine generalizing scope s p with
  | finish result | pend outer => exact State.Lasts.refl s
  | step c first next ih =>
      have hlasts := first.take_lasts (c := c) hid scope p
      refine ⟨?_, honest_ofEnds id _ _,
        ih _ _ _ _ (Nat.lt_of_lt_of_le hid hlasts.nextHolder)⟩
      rwa [Concern.isEnd_ofEnds]
  | command other order next ih =>
      have hlasts : State.Lasts id _ s (s.command other order).2 :=
        .command s other order
      refine ⟨?_, honest_command id other s order,
        ih _ _ _ _ (Nat.lt_of_lt_of_le hid hlasts.nextHolder)⟩
      rwa [Concern.isEnd_ofCommand]
  | keep conn next ih =>
      have hlasts : State.Lasts id false s (s.addHolder (.of conn)).2 :=
        .of_holder (Nat.le_succ _) (Nat.le_refl _) (if_neg (Nat.ne_of_lt hid))
      exact ⟨hlasts, honest_other id _,
        ih _ _ _ _ (Nat.lt_of_lt_of_le hid hlasts.nextHolder)⟩
  | meanwhile drivers context next ih =>
      exact ⟨.of_holder (Nat.le_refl _) (Nat.le_refl _) rfl, honest_other id _,
        ih _ _ _ hid⟩
  | execute c d body next ihBody ihNext =>
      obtain ⟨hnext, hseen⟩ :=
        seen_execution hid c d body fun scope s₀ => ihBody scope s₀ p
      rw [glances, run]
      cases hending : (c.execute d body.run s p).ending with
      | overdue outer => exact hseen _ _ (State.Lasts.refl _)
      | finished result =>
          exact hseen _ _ (ihNext _ _ _ _ (Nat.lt_of_lt_of_le hid hnext))

/-- Once a check has told that the time is up, all later ones do, and the holder
stays marked for rollback. -/
theorem timedOut_stays (routine : Routine ε α) {scope : Scope} {s : State}
    {p : Pocket} (hid : id < s.nextHolder) {earlier later rest : List Glance}
    {g : Glance}
    (hglances : routine.glances id scope s p = earlier ++ g :: (later ++ rest))
    (hactive : (g.state.holders id).stage = .active)
    (htold : g.concern.TimedOut)
    (hgoes : ∀ x ∈ later, x.concern.isEnd = false) :
    ∀ x ∈ g :: later, (x.state.holders id).rollbackOnly = true ∧
      (x.concern.IsCheck → x.concern.TimedOut) := by
  have hseen := routine.run_seen scope s p hid
  rw [hglances] at hseen
  obtain ⟨hdoomed, hrest⟩ := hseen.doomed_of_timedOut hactive htold
  obtain ⟨hlater, -⟩ := hrest.doomed hdoomed hgoes
  intro x hmem
  rcases List.mem_cons.mp hmem with rfl | hmem
  · exact ⟨hdoomed.rollbackOnly, fun _ => htold⟩
  · obtain ⟨hdoomed', hhonest⟩ := hlater x hmem
    exact ⟨hdoomed'.rollbackOnly,
      fun hcheck => (hhonest hcheck).1.mpr hdoomed'.overdue⟩

end Routine

/-! ## No commit -/

/-- Between two states no driver was asked to commit. -/
def State.CommitsNothing (s s' : State) : Prop :=
  ∃ notes, s'.journal = s.journal ++ notes ∧
    ∀ conn fault, .driver (.call conn .commit) fault ∉ notes

namespace State.CommitsNothing

variable {s s' s'' : State} {deals : List Note}

theorem of_deals (hdeals : State.Deals deals s s')
    (hno : ∀ conn fault, .driver (.call conn .commit) fault ∉ deals) :
    CommitsNothing s s' := by
  obtain ⟨notes, hnotes, rfl⟩ := hdeals.journal
  exact ⟨notes, hnotes, fun conn fault hmem =>
    hno conn fault (List.mem_filter.mpr ⟨hmem, rfl⟩)⟩

theorem of_nothing (hdeals : State.Deals [] s s') : CommitsNothing s s' :=
  of_deals hdeals fun _ _ => List.not_mem_nil

theorem refl (s : State) : CommitsNothing s s :=
  of_nothing (.refl s)

theorem trans (h : CommitsNothing s s') (h' : CommitsNothing s' s'') :
    CommitsNothing s s'' := by
  obtain ⟨notes, hnotes, hno⟩ := h
  obtain ⟨notes', hnotes', hno'⟩ := h'
  refine ⟨notes ++ notes',
    by rw [hnotes', hnotes, List.append_assoc], fun conn fault hmem => ?_⟩
  rcases List.mem_append.mp hmem with hmem | hmem
  · exact hno conn fault hmem
  · exact hno' conn fault hmem

/-- A talk that ends by a rollback. -/
theorem of_rollback {conn : Connection} {fault : Option Fault}
    (htalk : Talk conn [(.rollback, fault)] s s') : CommitsNothing s s' :=
  of_deals htalk.deals fun other fault' hmem => by
    cases List.mem_singleton.mp hmem

end State.CommitsNothing

namespace Coordinator

variable {σ ε α : Type} {c : Coordinator} {d : Definition} {id : HolderId}
variable {s : State} {h : Handle} {work : Work σ ε α} {m : σ}

theorem finish_of_error {reason : IllegalState}
    (hconn : h.connection s = .error reason) (task : String) (request : Call)
    (announcement : Connection → Line) :
    finish task request announcement h s = (.error (.illegal reason), s) := by
  rw [finish, hconn]

theorem rollbackAnyway_commitsNothing (line : TransactionError → Line)
    (hline : ∀ e, (line e).made? = none) (h : Handle) (s : State) :
    s.CommitsNothing (rollbackAnyway line h s) := by
  cases hconn : h.connection s with
  | ok conn =>
      obtain ⟨fault, htalk⟩ := rollbackAnyway_ended hconn line hline
      exact .of_rollback htalk
  | error reason =>
      rw [rollbackAnyway, rollback, finish_of_error hconn]
      exact .of_nothing (.say s (hline _))

/-- A transaction that has to be rolled back is not committed. -/
theorem complete_commitsNothing {result : Except (Failure ε) α}
    (hno : commits h result s = false) :
    s.CommitsNothing (complete h result s).2 := by
  cases hconn : h.connection s with
  | ok conn =>
      obtain ⟨fault, htalk, -⟩ := complete_ended hconn result
      rw [hno] at htalk
      exact .of_rollback htalk
  | error reason =>
      cases result with
      | error failure =>
          exact rollbackAnyway_commitsNothing .rollbackAfterFailureFailed
            (fun _ => rfl) h s
      | ok value =>
          have hsaid : ∀ line : Line, line.made? = none → s.CommitsNothing
              (finish "rollback" .rollback .rollingBack h (s.say line)).2 := by
            intro line hline
            have hlost : h.connection (s.say line) = .error reason := hconn
            rw [finish_of_error hlost]
            exact .of_nothing (.say s hline)
          unfold complete
          simp only
          split
          · rw [rollbackWith_snd]
            exact hsaid .rollbackRequested rfl
          · split
            · rw [rollbackWith_snd]
              exact hsaid .rollbackImposed rfl
            · next hlocal hshared =>
                simp [commits, Plan.failed, hlocal, hshared] at hno

theorem cleanup_commitsNothing (c : Coordinator) (h : Handle) (s : State) :
    s.CommitsNothing (c.cleanup h s) := by
  cases hholder : h.holder with
  | none =>
      rw [cleanup, hholder]
      exact .refl s
  | some id =>
      cases hconn : (s.holders id).connection with
      | none =>
          rw [cleanup_eq hholder]
          simp only [restored, holders_released, hconn]
          exact .of_nothing
            ((c.deals_released h id s).andThen (.setHolder _ id _))
      | some conn =>
          obtain ⟨fault, -, hdeals⟩ := deals_cleanup (c := c) hholder hconn
          refine .of_deals hdeals fun other fault' hmem => ?_
          rw [restitution] at hmem
          split at hmem <;> simp at hmem

theorem close_commitsNothing (suspended : Option HolderId) (h : Handle)
    {completed : Except (Failure ε) α × State}
    (hcompleted : s.CommitsNothing completed.2) (m : σ) :
    s.CommitsNothing (c.close suspended h completed m).state := by
  rw [close_state]
  exact (hcompleted.trans (c.cleanup_commitsNothing h _)).trans
    (.of_nothing (c.deals_resumed suspended _))

/-- An execution whose transaction is marked for rollback when its work has
ended does not commit it, however the work has ended. -/
theorem runBegun_commitsNothing (suspended : Option HolderId) {mark : Bool}
    (hscope : (work (.beginning c h) s m).1 = (Scope.beginning c h).marked mark)
    (hholder : h.holder = some id)
    (hmarked : ((work (.beginning c h) s m).2.state.holders id).rollbackOnly =
      true) :
    (work (.beginning c h) s m).2.state.CommitsNothing
      (c.runBegun suspended h work s m).state := by
  rcases hrun : work (.beginning c h) s m with ⟨scope, ending, s', m'⟩
  rw [hrun] at hscope hmarked
  obtain rfl : scope = _ := hscope
  rcases runBegun_cases suspended hrun with
    ⟨result, -, hclosed⟩ | ⟨deadline, -, -, hclosed⟩ | hstate
  · have hshared : (markedHandle h mark).isHolderRollbackOnly s' = true := by
      simp only [markedHandle, Handle.isHolderRollbackOnly, hholder]
      exact hmarked
    have hno : commits (markedHandle h mark) result s' = false := by
      simp [commits, hshared]
    rw [hclosed]
    exact close_commitsNothing suspended _ (complete_commitsNothing hno) m'
  · rw [hclosed]
    exact close_commitsNothing suspended _
      (rollbackAnyway_commitsNothing .rollbackAfterTimeoutFailed
        (fun _ => rfl) _ s') m'
  · rw [hstate]
    exact .refl s'

/-- An execution that has begun a transaction for a routine does not commit it,
if a check has told in the meantime that the time is up. -/
theorem execute_commitsNothing {routine : Routine ε α} {s₀ : State} {p : Pocket}
    {earlier later : List Glance} {g : Glance} (hholder : h.holder = some id)
    (hid : id < s₀.nextHolder)
    (hstart : c.starts d routine.run s p = [(.beginning c h, s₀)])
    (hglances : routine.glances id (.beginning c h) s₀ p =
      earlier ++ g :: later)
    (hactive : (g.state.holders id).stage = .active)
    (htold : g.concern.TimedOut)
    (hgoes : ∀ x ∈ later, x.concern.isEnd = false) :
    (routine.run (.beginning c h) s₀ p).2.state.CommitsNothing
      (c.execute d routine.run s p).state := by
  have hseen := routine.run_seen (.beginning c h) s₀ p hid
  rw [hglances] at hseen
  obtain ⟨hdoomed, hrest⟩ := hseen.doomed_of_timedOut hactive htold
  rw [← List.append_nil later] at hrest
  obtain ⟨-, s₁, hdoomed₁, hlasts⟩ := hrest.doomed hdoomed hgoes
  have hended := hdoomed₁.later hlasts
  -- The work was started in a scope of its own, so the execution has begun its
  -- transaction.
  obtain ⟨suspended, other, hsame, hcourse, hbegin⟩ :=
    opening_of_starts hstart rfl
  obtain rfl : h = other := by
    rw [Scope.beginning, Scope.beginning, Scope.mk.injEq] at hsame
    exact Option.some.inj hsame.2.1
  obtain ⟨mark, hscope⟩ := routine.run_scope (.beginning c h) s₀ p
  rw [execute_of_ok hcourse hbegin]
  exact runBegun_commitsNothing suspended hscope hholder hended.rollbackOnly

/-! ## The whole way of a deadline -/

theorem lt_nextHolder_of_begun {h' : Handle} {s' : State}
    (hknown : ∀ id, h.holder = some id → id < s.nextHolder)
    (hbegin : c.begin d h s = (.ok (), h', s'))
    (hholder : h'.holder = some id) :
    id < s'.nextHolder := by
  obtain ⟨conn, other, hbegun⟩ := begun_of_ok hbegin
  obtain rfl : other = id := Option.some.inj (hbegun.holder.symm.trans hholder)
  cases hbegun.origin with
  | reused hheld howns hstage hconn hnext =>
      rw [hnext]
      exact hknown other hheld
  | created hnew howns hnext =>
      rw [hnext, hnew]
      exact Nat.lt_succ_self _

/-- What a routine sees of a running transaction, from one state on. -/
structure Watches (routine : Routine ε α) (id : HolderId) (scope : Scope)
    (s : State) (p : Pocket) : Prop where
  /-- Until the transaction is ended, a check tells that the time is up exactly
  if the deadline has passed. -/
  honest : ∀ g ∈ (routine.glances id scope s p).takeWhile
    fun g => !g.concern.isEnd,
    (g.state.holders id).stage = .active ∧
      (g.state.holders id).deadline = (s.holders id).deadline ∧
      (g.concern.IsCheck →
        (g.concern.TimedOut ↔ (s.holders id).Overdue g.state.now))
  /-- Once a check has told so, all later ones do. -/
  lasting : ∀ earlier g later rest,
    routine.glances id scope s p = earlier ++ g :: (later ++ rest) →
    (g.state.holders id).stage = .active → g.concern.TimedOut →
    (∀ x ∈ later, x.concern.isEnd = false) →
    ∀ x ∈ g :: later, (x.state.holders id).rollbackOnly = true ∧
      (x.concern.IsCheck → x.concern.TimedOut)

/-- A transaction that was begun at a certain time, with a number of seconds. -/
structure Limits (ε α : Type) (c : Coordinator) (d : Definition) (count : Int64)
    (now : Instant) (h : Handle) (s : State) (id : HolderId) : Prop where
  holder : h.holder = some id
  active : (s.holders id).stage = .active
  deadline : ∀ t, (s.holders id).deadline = some t ↔
    ∃ seconds, c.config.effectiveSeconds count = some seconds ∧
      0 < seconds.toInt ∧
      (t : Int) = now + seconds.toInt ∧ t ≤ Instant.latest
  watched : ∀ (routine : Routine ε α) scope p, Watches routine id scope s p
  /-- The execution that has begun the transaction does not commit it after a
  check has told that the time is up. -/
  uncommitted : ∀ (routine : Routine ε α) p s₁ earlier g later,
    c.starts d routine.run s₁ p = [(.beginning c h, s)] →
    routine.glances id (.beginning c h) s p = earlier ++ g :: later →
    (g.state.holders id).stage = .active → g.concern.TimedOut →
    (∀ x ∈ later, x.concern.isEnd = false) →
    (routine.run (.beginning c h) s p).2.state.CommitsNothing
      (c.execute d routine.run s₁ p).state

/-- Whatever number of seconds a definition asks for and whatever the default
is, a transaction begins as it would with any other; it gets the deadline that
the effective number demands, and keeps it until it is ended.  A check tells
that the time is up exactly if the deadline has passed.  Once one has told so,
all later ones do, the holder stays marked for rollback, and the execution that
has begun the transaction does not commit it. -/
theorem deadline_until_rollback {ε α : Type} (c : Coordinator)
    (default : Option Int64) (d : Definition) (count : Int64) (h : Handle)
    (s : State) (hknown : ∀ id, h.holder = some id → id < s.nextHolder) :
    let limited := c.withDefaultTimeout default
    let asked := d.withTimeoutSeconds count
    (limited.begin asked h s).1 = (c.begin d h s).1 ∧
    (∀ seconds, limited.config.timeLimit asked = some seconds →
      (seconds : Int) ≤ Int64.maxValue.toInt) ∧
    ∀ h' s', limited.begin asked h s = (.ok (), h', s') →
      ∃ id, Limits ε α limited asked count s.now h' s' id := by
  intro limited asked
  refine ⟨c.begin_outcome_of_timeout d default _ h s,
    fun seconds => Config.timeLimit_le,
    fun h' s' hbegin => ?_⟩
  obtain ⟨id, hholder, hactive, hdeadline⟩ := deadline_of_begun hbegin
  have hid : id < s'.nextHolder := lt_nextHolder_of_begun hknown hbegin hholder
  refine ⟨id, hholder, hactive, fun t => ?_,
    fun routine scope p => ⟨?_, ?_⟩, ?_⟩
  · rw [hdeadline, deadline_eq_some_iff,
      Config.requestedSeconds_withTimeoutSeconds]
  · intro g hmem
    obtain ⟨hstage, hsame, hhonest⟩ :=
      (routine.run_seen scope s' p hid).deadline_until_end hactive g hmem
    refine ⟨hstage, hsame, fun hcheck => ?_⟩
    rw [(hhonest hcheck).1, Holder.Overdue, Holder.Overdue, hsame]
  · intro earlier g later rest hglances hrunning htold hgoes
    exact routine.timedOut_stays hid hglances hrunning htold hgoes
  · intro routine p s₁ earlier g later hstart hglances hrunning htold hgoes
    exact execute_commitsNothing hholder hid hstart hglances
      hrunning htold hgoes

/-- With a default of five seconds and the clock at one, the checks at eight and
at nine tell that the time is up. -/
theorem deadline_until_rollback_after_seven_seconds :
    let c : Coordinator := { source := ⟨0, ⟨"mock"⟩⟩ }
    let limited := c.withDefaultTimeout (some 5)
    let asked := Definition.withTimeoutSeconds {} (-1)
    let h := limited.blank none {}
    let s := limited.entrance asked none {}
    let opened := limited.begin asked h s
    let routine : Routine Unit Unit :=
      .step c (.act (.rest 7)) fun _ => .command 0 .checkDeadline fun _ =>
        .step c (.act (.rest 1)) fun _ => .command 0 .checkDeadline
          fun _ => .finish (.ok ())
    let scope := Scope.beginning limited opened.2.1
    let glances := routine.glances 0 scope opened.2.2 {}
    (∀ id, h.holder = some id → id < s.nextHolder) ∧
      opened.1 = .ok () ∧ (opened.2.2.holders 0).deadline = some 6 ∧
      limited.starts asked routine.run {} {} = [(scope, opened.2.2)] ∧
      (∀ g ∈ glances.drop 1, (g.state.holders 0).rollbackOnly = true ∧
        (g.concern.IsCheck → g.concern.TimedOut)) ∧
      (routine.run scope opened.2.2 {}).2.state.CommitsNothing
        (limited.execute asked routine.run {} {}).state := by
  intro c limited asked h s opened routine scope glances
  have hknown : ∀ id, h.holder = some id → id < s.nextHolder :=
    fun _ hheld => by cases hheld
  have hbegin : limited.begin asked h s = (.ok (), opened.2.1, opened.2.2) :=
    rfl
  have hstart : limited.starts asked routine.run {} {} =
      [(scope, opened.2.2)] := by
    rw [starts_eq]
    rfl
  obtain ⟨-, -, hbegun⟩ :=
    deadline_until_rollback (ε := Unit) (α := Unit) c (some 5) {}
      (-1) h s hknown
  obtain ⟨id, hlimits⟩ := hbegun _ _ hbegin
  obtain rfl : 0 = id := Option.some.inj hlimits.holder
  have hsplit : glances = glances.take 1 ++
      ⟨.checked (.error (.timedOut { seconds := 2 })), glances[1].state⟩ ::
        glances.drop 2 := rfl
  have hgoes : ∀ x ∈ glances.drop 2, x.concern.isEnd = false := fun x hmem => by
    have hall : (glances.drop 2).all (fun x => !x.concern.isEnd) = true := rfl
    simpa using List.all_eq_true.mp hall x hmem
  refine ⟨hknown, rfl,
    (hlimits.deadline 6).mpr ⟨5, rfl, by decide, rfl, by decide⟩, hstart,
    ?_, ?_⟩
  · exact (hlimits.watched routine scope {}).lasting _ _ _ []
      (by rw [List.append_nil]; exact hsplit) rfl ⟨_, rfl⟩ hgoes
  · exact hlimits.uncommitted routine {} {} _ _ _ hstart hsplit rfl
      ⟨_, rfl⟩ hgoes

end Coordinator

end UnitOfWork
