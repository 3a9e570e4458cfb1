import UnitOfWork.Proofs.Keeping
import UnitOfWork.Proofs.OperationDeals

/-!
# A connection of its own

As long as a transaction runs on a holder that alone has its connection, no
execution in the work of the transaction ends it: whatever is begun there is
begun on another connection, and ended there.  This holds wherever the work is
dropped.  Where no work is dropped, it is enough that no other holder that is
bound has the connection.
-/

namespace UnitOfWork

/-- Whether an entry is an attempt to end a transaction on a certain
connection. -/
def Note.ends (conn : Connection) : Note → Bool
  | .driver (.call other request) _ =>
      other = conn && (request = .commit || request = .rollback)
  | _ => false

theorem Note.isDeal_of_ends {conn : Connection} {n : Note}
    (h : n.ends conn = true) :
    n.isDeal = true := by
  cases n with
  | line l => simp [Note.ends] at h
  | driver call fault =>
      cases call with
      | create | release => simp [Note.ends] at h
      | call other request =>
          cases request <;> simp_all [Note.ends, Note.isDeal, Call.isControl]

/-- Every connection that is held was created by its source. -/
def World.HeldKnown (w : World) : Prop :=
  ∀ id conn, (w.holders id).connection = some conn →
    conn.id < w.nextId conn.source

theorem World.HeldKnown.later {s s' : State} (h : s.HeldKnown)
    (hheld : Coordinator.HeldBefore s s')
    (hnext : ∀ source, s.nextId source ≤ s'.nextId source) : s'.HeldKnown :=
  fun id conn hconn =>
    Nat.lt_of_lt_of_le (h id conn (hheld id conn hconn)) (hnext _)

structure State.Runs (holder : HolderId) (s : State) : Prop where
  exist : holder < s.nextHolder
  active : (s.holders holder).stage = .active

theorem State.Runs.later {holder : HolderId} {s s' : State} (h : s.Runs holder)
    (hsteady : Steady s s') : s'.Runs holder where
  exist := Nat.lt_of_lt_of_le h.exist hsteady.nextHolder
  active := (hsteady.active holder h.exist h.active).1

/-- Of the holders that are bound, only this one has the connection. -/
def State.Sole (holder : HolderId) (conn : Connection) (s : State) : Prop :=
  ∀ key id, s.boundHolder key = some id →
    (s.holders id).connection = some conn → id = holder

/-- Work during which no deadline passes binds no other holder, and gives none
another connection. -/
theorem State.Sole.later {holder : HolderId} {conn : Connection} {s s' : State}
    (h : s.Sole holder conn) (hkeeps : Keeps (fun _ => False) s s')
    (hs : s.BoundExist) :
    s'.Sole holder conn := by
  intro key id hbound hconn
  have hbefore := hkeeps.bound key id hbound
  rw [hkeeps.connection id (hs key id hbefore)] at hconn
  exact h key id hbefore hconn

/-- A transaction runs on a holder, and no other holder has the connection. -/
structure State.Exclusive (id : HolderId) (conn : Connection) (s : State) :
    Prop where
  exist : id < s.nextHolder
  active : (s.holders id).stage = .active
  alone : ∀ other, other ≠ id → (s.holders other).connection ≠ some conn
  known : conn.id < s.nextId conn.source

namespace State.Exclusive

variable {id : HolderId} {conn : Connection} {s s' : State} {deals : List Note}

theorem of_alone (h : s.Exclusive id conn) (hsteady : Steady s s')
    (hdeals : Deals deals s s')
    (halone : ∀ other, other ≠ id → (s'.holders other).connection ≠ some conn) :
    s'.Exclusive id conn where
  exist := Nat.lt_of_lt_of_le h.exist hsteady.nextHolder
  active := (hsteady.active id h.exist h.active).1
  alone := halone
  known := Nat.lt_of_lt_of_le h.known (hdeals.nextId conn.source)

theorem of_heldBefore (h : s.Exclusive id conn) (hsteady : Steady s s')
    (hheld : Coordinator.HeldBefore s s') (hdeals : Deals deals s s') :
    s'.Exclusive id conn :=
  h.of_alone hsteady hdeals fun other hne hconn =>
    h.alone other hne (hheld other conn hconn)

end State.Exclusive

/-- Between two states, no transaction is ended on a connection. -/
def State.EndsNone (conn : Connection) (s s' : State) : Prop :=
  ∃ deals, Deals deals s s' ∧ ∀ n ∈ deals, n.ends conn = false

namespace State.EndsNone

variable {conn : Connection} {s s₁ s' : State} {deals : List Note}

theorem refl (conn : Connection) (s : State) : EndsNone conn s s :=
  ⟨[], .refl s, by simp⟩

theorem trans (h : EndsNone conn s s₁) (h' : EndsNone conn s₁ s') :
    EndsNone conn s s' := by
  obtain ⟨deals, hdeals, hends⟩ := h
  obtain ⟨rest, hrest, hends'⟩ := h'
  refine ⟨deals ++ rest, hdeals.trans hrest, fun n hn => ?_⟩
  exact (List.mem_append.mp hn).elim (hends n) (hends' n)

/-- Deals with nobody. -/
theorem of_nothing (h : Deals [] s s') : EndsNone conn s s' :=
  ⟨[], h, by simp⟩

theorem before (hends : ∀ n ∈ deals, n.ends conn = false)
    (hdeals : Deals deals s s₁) (h : EndsNone conn s₁ s') :
    EndsNone conn s s' :=
  trans ⟨deals, hdeals, hends⟩ h

end State.EndsNone

theorem acquisition_ends (owns : Bool) (conn other : Connection) :
    ∀ n ∈ acquisition owns other, n.ends conn = false := by
  cases owns <;> simp [acquisition, Note.ends]

theorem Coordinator.restitution_ends (c : Coordinator) (owns : Bool)
    (conn other : Connection) (fault : Option Fault) :
    ∀ n ∈ c.restitution owns other fault, n.ends conn = false := by
  cases owns <;> simp [restitution, Note.ends]

theorem callsOn_ends {conn other : Connection} (hne : other ≠ conn)
    (calls : List (Call × Option Fault)) :
    ∀ n ∈ callsOn other calls, n.ends conn = false := by
  intro n hn
  obtain ⟨request, -, rfl⟩ := List.mem_map.mp hn
  simp [Note.ends, hne]

namespace Coordinator

variable {σ ε α : Type} {c : Coordinator} {d : Definition} {s s' : State}
variable {id : HolderId} {conn : Connection}

theorem exclusive_entrance (hexclusive : s.Exclusive id conn)
    (suspended : Option HolderId) :
    (c.entrance d suspended s).Exclusive id conn :=
  hexclusive.of_heldBefore (c.steady_entrance d suspended s)
    (fun _ _ h => by rwa [entrance, State.holders_say, holders_setAside] at h)
    (c.deals_entrance d suspended s)

/-- The coordinator finds no holder on which it could begin a transaction on a
certain connection. -/
def Barred (c : Coordinator) (conn : Connection) (s : State) : Prop :=
  ∀ id, s.boundHolder c.key = some id → (s.holders id).stage = .unbound →
    (s.holders id).connection ≠ some conn

theorem barred_of_sole (hruns : s.Runs id) (hsole : s.Sole id conn)
    (c : Coordinator) :
    c.Barred conn s := by
  intro other hbound hstage hconn
  rw [hsole c.key other hbound hconn, hruns.active] at hstage
  cases hstage

theorem barred_of_exclusive (hexclusive : s.Exclusive id conn)
    (c : Coordinator) :
    c.Barred conn s :=
  barred_of_sole ⟨hexclusive.exist, hexclusive.active⟩
    (fun _ other _ hconn => Classical.byContradiction fun hne =>
      hexclusive.alone other hne hconn) c

/-- A known connection is not the one that a coordinator begins on, if it is
barred from it. -/
theorem Origin.connection_ne {suspended : Option HolderId} {other : Connection}
    {id' : HolderId} {owns : Bool} {s₁ s₂ : State} {deals : List Note}
    (horigin : Origin (c.blank suspended s)
      (c.entrance d suspended s) other id' owns s')
    (hbarred : c.Barred conn s) (hdeals : State.Deals deals s₁ s₂)
    (hknown : conn.id < s₁.nextId conn.source)
    (hacquired : owns = true → .line (.acquired other) ∈ deals) :
    other ≠ conn := by
  have hholders : (c.entrance d suspended s).holders = s.holders := by
    simp [entrance]
  rintro rfl
  cases horigin with
  | reused hholder howns hstage hconn =>
      rw [hholders] at hstage hconn
      exact hbarred id' (boundHolder_of_aside hholder) hstage hconn
  | created hid howns hnext =>
      -- A new connection is not one that was known before.
      have hnew := (hdeals.new_of_acquired (hacquired howns)).1
      exact Nat.not_lt.mpr hnew hknown

theorem Begun.connection_ne {suspended : Option HolderId} {other : Connection}
    {id' : HolderId} {h : Handle} {s₁ : State} {deals : List Note}
    (hbegun : c.Begun (c.blank suspended s)
      (c.entrance d suspended s) other id' h s₁)
    (hbarred : c.Barred conn s) (hknown : conn.id < s.nextId conn.source)
    (hdeals : State.Deals (acquisition h.ownsHolder other ++ deals) s s₁) :
    other ≠ conn :=
  hbegun.origin.connection_ne hbarred hdeals hknown fun howns => by
    simp [acquisition, howns]

/-- A transaction that has made its holder has the connection of it for itself.
One that was begun on a holder that was there has it if no other holder has
it. -/
theorem Begun.exclusive {h h' : Handle} {s₁ : State} {deals : List Note}
    (hbegun : c.Begun h s conn id h' s₁) (hid : id < s₁.nextHolder)
    (hknown : s.HeldKnown)
    (hdeals : State.Deals (acquisition h'.ownsHolder conn ++ deals) s s₁)
    (halone : h'.ownsHolder = true ∨
      ∀ other, other ≠ id → (s₁.holders other).connection ≠ some conn) :
    s₁.Exclusive id conn := by
  have hnew : h'.ownsHolder = true →
      s.nextId conn.source ≤ conn.id ∧ conn.id < s₁.nextId conn.source := by
    intro howns
    rw [howns] at hdeals
    exact hdeals.new_of_acquired
      (List.mem_append_left _ (List.mem_singleton_self _))
  refine ⟨hid, hbegun.stage, fun other hne hconn => ?_, ?_⟩
  · apply halone.elim
    · intro howns
      rw [hbegun.others other hne] at hconn
      exact Nat.not_lt.mpr (hnew howns).1 (hknown other conn hconn)
    · intro honly
      exact honly other hne hconn
  · cases hbegun.origin with
    | reused hreused howns hstage hconn hnext =>
        exact Nat.lt_of_lt_of_le (hknown id conn hconn)
          (hdeals.nextId conn.source)
    | created hcreated howns hnext => exact (hnew howns).2

/-- No other holder has a connection that was created for a transaction. -/
theorem Begun.sole_of_new {suspended : Option HolderId} {h : Handle}
    (hbegun : c.Begun (c.blank suspended s)
      (c.entrance d suspended s) conn id h s')
    (hheld : s.HeldKnown) (hnew : s.nextId conn.source ≤ conn.id) :
    s'.Sole id conn := by
  intro key other _ hconn
  apply Decidable.byContradiction
  intro hne
  rw [hbegun.others other hne, entrance, State.holders_say,
    holders_setAside] at hconn
  exact Nat.not_lt.mpr hnew (hheld other conn hconn)

/-- Where work is entered, the transaction still has its connection for
itself. -/
theorem Entered.exclusive {scope : Scope} (hentered : c.Entered d s scope s')
    (hexclusive : s.Exclusive id conn) : s'.Exclusive id conn := by
  have hsteady := hentered.steady
  cases hentered with
  | joining =>
      exact hexclusive.of_heldBefore hsteady (fun _ _ hconn => hconn)
        (.say s rfl)
  | @alone suspended =>
      exact hexclusive.of_heldBefore hsteady
        (fun _ _ hconn => by rwa [holders_setAside] at hconn)
        (c.deals_setAside suspended s)
  | @begun suspended h s₁ hcourse hbegin =>
      obtain ⟨other, id', hbegun, hdeals, -⟩ := deals_of_ok rfl hbegin
      have hbefore := (c.deals_entrance d suspended s).trans hdeals
      have hne := hbegun.connection_ne (barred_of_exclusive hexclusive c)
        hexclusive.known hbefore
      have hentrance : (c.entrance d suspended s).Exclusive id conn :=
        exclusive_entrance hexclusive suspended
      refine hexclusive.of_alone hsteady hbefore fun holder hholder hconn => ?_
      by_cases heq : holder = id'
      · rw [heq, hbegun.connection] at hconn
        exact hne (Option.some.inj hconn)
      · rw [hbegun.others holder heq] at hconn
        exact hentrance.alone holder hholder hconn

/-- Where work is entered, no other bound holder has a known connection. -/
theorem Entered.sole {scope : Scope} (hentered : c.Entered d s scope s')
    (hknown : conn.id < s.nextId conn.source) (hsole : s.Sole id conn) :
    s'.Sole id conn := by
  cases hentered with
  | joining => exact hsole
  | @alone suspended hcourse =>
      intro key other hbound hconn
      rw [holders_setAside] at hconn
      exact hsole key other (boundHolder_of_aside hbound) hconn
  | @begun suspended h s₁ hcourse hbegin =>
      obtain ⟨conn', id', hbegun, hdeals, -⟩ := deals_of_ok rfl hbegin
      have hbefore := (c.deals_entrance d suspended s).trans hdeals
      have hholders : (c.entrance d suspended s).holders = s.holders := by
        simp [entrance]
      intro key other hbound hconn
      by_cases heq : other = id'
      · subst heq
        obtain rfl := Option.some.inj (hbegun.connection.symm.trans hconn)
        cases hbegun.origin with
        | reused hholder howns hstage hheld hnext =>
            rw [hholders] at hheld
            exact hsole c.key other (boundHolder_of_aside hholder) hheld
        | created hid howns hnext =>
            have hnew :=
              (hbefore.new_of_acquired
                (c := conn') (by simp [acquisition, howns])).1
            exact absurd hknown (Nat.not_lt.mpr hnew)
      · rw [hbegun.others other heq, hholders] at hconn
        rw [hbegun.bound] at hbound
        split at hbound
        · exact absurd (Option.some.inj hbound).symm heq
        · exact hsole key other (boundHolder_of_aside hbound) hconn

variable {body : Plan σ ε α} {m : Diary σ} {run : Run (Diary σ) ε α}

theorem opening_ends (owns : Bool) (conn other : Connection) :
    ∀ n ∈ acquisition owns other ++ [.driver (.call other .begin) none],
      n.ends conn = false := by
  intro n hn
  rcases List.mem_append.mp hn with hn | hn
  · exact acquisition_ends owns conn other n hn
  · rw [List.mem_singleton.mp hn]
    simp [Note.ends]

/-- A beginning that fails ends nothing on a known connection that it is barred
from. -/
theorem FailedDeals.endsNone {suspended : Option HolderId} {deals : List Note}
    {s₁ : State}
    (hfailed : c.FailedDeals (c.blank suspended s)
      (c.entrance d suspended s) s' deals)
    (hbarred : c.Barred conn s) (hknown : conn.id < s.nextId conn.source)
    (hdeals : State.Deals deals s s₁) : State.EndsNone conn s s₁ := by
  cases hfailed with
  | refused => exact .of_nothing hdeals
  | @abandoned other id' owns calls fault horigin hsource hcalls hfault =>
      have hne := horigin.connection_ne hbarred hdeals hknown fun howns => by
        simp [acquisition, howns]
      refine ⟨_, hdeals, fun n hn => ?_⟩
      rcases List.mem_append.mp hn with hn | hn
      · rcases List.mem_append.mp hn with hn | hn
        · exact acquisition_ends owns conn other n hn
        · exact callsOn_ends hne calls n hn
      · exact c.restitution_ends owns conn other fault n hn

/-- An execution ends no transaction on a known connection, if its work ends
none on it and its coordinator is barred from it. -/
theorem Execution.endsNone (hrun : c.Execution d body s m run)
    (hs : s.BoundExist) (hknown : conn.id < s.nextId conn.source)
    (hbarred : c.Barred conn s) (hbody : ∀ scope s', c.Entered d s scope s' →
      State.EndsNone conn s' (body.run scope s' m).2.state) :
    State.EndsNone conn s run.state := by
  cases hrun.passage hs with
  | idle hstate =>
      rw [hstate]
      exact .refl conn s
  | through hentered hheld hbefore hheld' hafter =>
      exact (State.EndsNone.of_nothing hbefore).trans
        ((hbody _ _ hentered).trans (.of_nothing hafter))
  | notBegun hfailed hheld hdeals =>
      exact hfailed.endsNone hbarred hknown hdeals
  | @within suspended other id' h s₁ request fault fault' hentered hbegun
      hsource hbefore hrequest hfault hheld hafter =>
      have hne := hbegun.connection_ne hbarred hknown hbefore
      refine .before (opening_ends _ conn other) hbefore
        ((hbody _ _ hentered).trans ⟨_, hafter, fun n hn => ?_⟩)
      rcases List.mem_cons.mp hn with rfl | hn
      · simp [Note.ends, hne]
      · exact c.restitution_ends _ conn other fault' n hn
  | dropped hcourse hentered hbegun hbefore hending hstate =>
      rw [hstate]
      exact .before (opening_ends _ conn _) hbefore (hbody _ _ hentered)

/-- After an execution, the transaction still has its connection for itself. -/
theorem Execution.exclusive (hrun : c.Execution d body s m run)
    (hs : s.BoundExist) (hexclusive : s.Exclusive id conn)
    (hbody : ∀ scope s', c.Entered d s scope s' →
      (body.run scope s' m).2.state.Exclusive id conn) :
    run.state.Exclusive id conn := by
  have hsteady := hrun.steady hs fun scope _ hs' => body.run_steady scope m hs'
  obtain ⟨deals, hdeals⟩ :=
    hrun.dealt hs fun scope _ hs' => body.run_dealt scope m hs'
  cases hrun.passage hs with
  | idle hstate =>
      rw [hstate]
      exact hexclusive
  | through hentered hheld hbefore hheld' =>
      exact hexclusive.of_alone hsteady hdeals fun other hne hconn =>
        (hbody _ _ hentered).alone other hne (hheld' other conn hconn)
  | notBegun hfailed hheld =>
      exact hexclusive.of_heldBefore hsteady hheld hdeals
  | within request fault hentered hbegun hsource hbefore hrequest
      hfault hheld =>
      exact hexclusive.of_alone hsteady hdeals fun other hne hconn =>
        (hbody _ _ hentered).alone other hne (hheld other conn hconn)
  | dropped hcourse hentered hbegun hbefore hending hstate =>
      rw [hstate]
      exact hbody _ _ hentered

/-- If the work leaves a connection alone, the call that ends the transaction on
it afterwards is the only one in the journal. -/
theorem ends_of_closing {owns : Bool} {request : Call}
    {fault fault' : Option Fault} {s₂ : State}
    (hwork : State.EndsNone conn s s₂)
    (hrequest : request = .commit ∨ request = .rollback)
    (hafter : State.Deals (callsOn conn [(request, fault)] ++
      c.restitution owns conn fault') s₂ s') :
    ∃ notes, s'.journal = s.journal ++ notes ∧
      notes.filter (Note.ends conn) = [.driver (.call conn request) fault] := by
  obtain ⟨deals, hdeals, hends⟩ := hwork
  obtain ⟨notes, hnotes, hfiltered⟩ := (hdeals.trans hafter).journal
  have hnone : ∀ {l : List Note}, (∀ n ∈ l, n.ends conn = false) →
      l.filter (Note.ends conn) = [] := fun h => by
    rw [List.filter_eq_nil_iff]
    exact fun n hn => by simp [h n hn]
  refine ⟨notes, hnotes, ?_⟩
  rw [← filter_filter_isDeal (fun _ => Note.isDeal_of_ends), hfiltered,
    List.filter_append, List.filter_append, hnone hends,
    hnone (c.restitution_ends owns conn conn fault')]
  rcases hrequest with rfl | rfl <;> simp [callsOn, Note.ends]

/-- Setting a transaction aside for another one creates no connection. -/
theorem heldKnown_entrance (hknown : s.HeldKnown)
    (suspended : Option HolderId) :
    (c.entrance d suspended s).HeldKnown := by
  intro id conn hconn
  rw [entrance, State.holders_say, holders_setAside] at hconn
  exact Nat.lt_of_lt_of_le (hknown id conn hconn)
    ((c.deals_entrance d suspended s).nextId conn.source)

/-- When a transaction was begun, its holder has a connection that was
created. -/
theorem Begun.heldKnown {h h' : Handle} (hbegun : c.Begun h s conn id h' s')
    (hknown : s.HeldKnown)
    (hnext : ∀ source, s.nextId source ≤ s'.nextId source)
    (hcreated : h'.ownsHolder = true → conn.id < s'.nextId conn.source) :
    s'.HeldKnown := by
  intro other held hconn
  by_cases heq : other = id
  · rw [heq, hbegun.connection] at hconn
    obtain rfl := Option.some.inj hconn
    cases hbegun.origin with
    | reused _ _ _ hreused _ =>
        exact Nat.lt_of_lt_of_le (hknown id conn hreused) (hnext _)
    | created _ howns _ => exact hcreated howns
  · rw [hbegun.others other heq] at hconn
    exact Nat.lt_of_lt_of_le (hknown other held hconn) (hnext _)

end Coordinator

namespace Plan

variable {σ ε α : Type} {id : HolderId} {conn : Connection}

theorem Step.take_endsNone (step : Step σ) (conn : Connection) (scope : Scope)
    (s : State) (m : Diary σ) :
    State.EndsNone conn s (step.take scope s m).state := by
  rcases step.take_deals scope s m with h | ⟨_, h⟩ | ⟨_, _, h⟩ <;>
    exact ⟨_, h, by simp [Note.ends]⟩

/-- Over the run of a plan, nothing ends the transaction on a connection that
its holder has for itself. -/
theorem run_exclusive (plan : Plan σ ε α) (scope : Scope) {s : State}
    (m : Diary σ) (hs : s.BoundExist) (hexclusive : s.Exclusive id conn) :
    State.EndsNone conn s (plan.run scope s m).2.state ∧
      (plan.run scope s m).2.state.Exclusive id conn := by
  have hrun := run_induction
    (R := fun s _ s' => s.Exclusive id conn →
      State.EndsNone conn s s' ∧ s'.Exclusive id conn)
    (fun s hexclusive => ⟨.refl conn s, hexclusive⟩)
    (fun {s s₁ s' new new'} _ _ hfirst hsecond hexclusive => by
      obtain ⟨hends, hstill⟩ := hfirst hexclusive
      obtain ⟨hends', hstill'⟩ := hsecond hstill
      exact ⟨hends.trans hends', hstill'⟩)
    (fun step scope s m _ => by
      obtain ⟨new, hnew⟩ := step.take_deeds scope s m
      obtain ⟨deals, hdeals⟩ := step.take_dealt scope s m
      exact ⟨new, hnew.symm, fun hexclusive =>
        ⟨step.take_endsNone conn scope s m,
        hexclusive.of_heldBefore (step.take_steady scope s m)
          (step.take_heldBefore scope s m) hdeals⟩⟩)
    (fun {c d body s m run} hrun hs hbody => by
      obtain ⟨new, hnew⟩ := hrun.deeds
      refine ⟨new, hnew.symm, fun hexclusive => ?_⟩
      have hwork : ∀ scope' s', c.Entered d s scope' s' →
          State.EndsNone conn s' (body.run scope' s' m).2.state ∧
            (body.run scope' s' m).2.state.Exclusive id conn := by
        intro scope' s' hentered
        obtain ⟨-, -, hwork⟩ := hbody scope' s' (hentered.steady.boundExist hs)
        exact hwork (hentered.exclusive hexclusive)
      exact ⟨hrun.endsNone hs hexclusive.known
        (Coordinator.barred_of_exclusive hexclusive c)
          fun scope' s' hentered => (hwork scope' s' hentered).1,
        hrun.exclusive hs hexclusive fun scope' s' hentered =>
          (hwork scope' s' hentered).2⟩)
    plan scope m hs
  obtain ⟨-, -, hrun⟩ := hrun
  exact hrun hexclusive

/-- Over the run of a plan during which no deadline passes, nothing ends the
transaction on a known connection that no other bound holder has. -/
theorem Prompt.run_endsNone {plan : Plan σ ε α} (hprompt : plan.Prompt)
    (scope : Scope) {s : State} (m : Diary σ) (hs : s.BoundExist)
    (hknown : conn.id < s.nextId conn.source) (hruns : s.Runs id)
    (hsole : s.Sole id conn) :
    State.EndsNone conn s (plan.run scope s m).2.state := by
  induction plan generalizing scope s m with
  | finish result => exact .refl conn s
  | pend outer => exact hprompt.elim
  | step first next ih =>
      have hkeeps :
          State.Keeps (fun _ => False) s (first.take scope s m).state :=
        first.take_keeps scope s m
      exact (first.take_endsNone conn scope s m).trans (ih _ (hprompt _) _ _
        (hkeeps.boundExist hs)
        (Nat.lt_of_lt_of_le hknown (first.take_nextId scope s m _))
        (hruns.later (first.take_steady scope s m)) (hsole.later hkeeps hs))
  | execute c d body next ihbody ihnext =>
      obtain ⟨hkeeps, result, hresult⟩ := c.execute_returns d m hprompt.1 hs
      obtain ⟨deals, hdeals⟩ := c.execute_dealt d body m hs
      have hinner := (c.execution d body s m).endsNone hs hknown
        (Coordinator.barred_of_sole hruns hsole c) fun scope' s' hentered =>
          ihbody hprompt.1 scope' m (hentered.steady.boundExist hs)
            (Nat.lt_of_lt_of_le hknown (hentered.nextId _))
            (hruns.later hentered.steady) (hentered.sole hknown hsole)
      rw [run_execute_of_finished hresult]
      exact hinner.trans
        (ihnext result (hprompt.2 result) scope _ (hkeeps.boundExist hs)
        (Nat.lt_of_lt_of_le hknown (hdeals.nextId _))
        (hruns.later (c.execute_steady d body m hs)) (hsole.later hkeeps hs))

end Plan

end UnitOfWork
