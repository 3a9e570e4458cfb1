import UnitOfWork.Proofs.ConnectionAccounts
import UnitOfWork.Proofs.ConnectionLifetime

/-!
# How connections are used

Executions follow one another, on whatever contexts, and each of them may have
others in its work.  All of them keep to the protocol: a connection that is
acquired for a transaction has the life of one attempt, and a connection that
was there before carries traffic, if in no context two holders have it.
-/

namespace UnitOfWork

def Job.plan {σ ε α : Type} (job : Job σ ε α) : Plan σ ε α :=
  .execute job.coordinator job.definition job.work .finish

/-- Nothing that is new was both acquired and fetched. -/
theorem State.Deals.not_fetched_of_acquired {deals : List Note} {s s' : State}
    {conn : Connection} (h : Deals deals s s')
    (hacquired : .line (.acquired conn) ∈ deals) :
    .line (.fetched conn) ∉ deals := by
  intro hfetched
  have hone : deals.countP (Note.makes conn) ≤ 1 := by
    rw [h.made]
    split <;> omega
  rw [List.countP_eq_length_filter] at hone
  have hin : ∀ {n : Note}, n ∈ deals → n.makes conn = true →
      n ∈ deals.filter (Note.makes conn) :=
    fun hn hmakes => List.mem_filter.mpr ⟨hn, hmakes⟩
  have hfirst := hin hacquired (Note.makes_acquired conn)
  have hsecond := hin hfetched (Note.makes_fetched conn)
  obtain ⟨only, honly⟩ := List.length_eq_one_iff.mp
    (Nat.le_antisymm hone (List.length_pos_of_mem hfirst))
  rw [honly, List.mem_singleton] at hfirst hsecond
  rw [← hsecond] at hfirst
  cases hfirst

namespace Site

variable {σ ε α : Type} {asked : Coordinator → Definition → Prop}
variable {conn : Connection}
variable {site : Site σ} {job : Job σ ε α} {jobs : List (Job σ ε α)}

/-- What is bound in the contexts exists, what is held was created, and no
commit and no rollback fails. -/
structure Orderly (site : Site σ) : Prop where
  bound : ∀ i, (site.state i).BoundExist
  held : site.world.HeldKnown
  lenient : site.world.Lenient

/-- In each context there is at most one bound holder that has the
connection. -/
def Unshared (conn : Connection) (site : Site σ) : Prop :=
  ∀ i, ∃ holder, (site.state i).Sole holder conn

def Unheld (conn : Connection) (site : Site σ) : Prop :=
  ∀ id, (site.world.holders id).connection ≠ some conn

/-- Whether the executions in a sequence are asked for and no deadline passes in
them, and all work does nothing but speak. -/
def Speaks (asked : Coordinator → Definition → Prop) :
    Site σ → List (Job σ ε α) → Prop
  | _, [] => True
  | site, job :: rest =>
      (job.plan.Prompt ∧
        job.plan.Heeds (.speaking asked) [] [] (.without job.coordinator)
        (site.state job.context) site.diary) ∧
        (site.execute job).Speaks asked rest

/-! ## One execution -/

theorem plan_run (hprompt : job.plan.Prompt) (scope : Scope) :
    (job.plan.run scope (site.state job.context) site.diary).2.state =
      (site.execute job).state job.context := by
  obtain ⟨⟨result, hresult⟩, -⟩ := Coordinator.execute_completes
    (c := job.coordinator) (d := job.definition) (s := site.state job.context)
    (m := site.diary) hprompt.1
  rw [Job.plan, Plan.run_execute_of_finished hresult, state_execute]
  rfl

/-- The contexts see one world, so that it does not matter in which of them
something was heard. -/
theorem heard_state (conn : Connection) (site : Site σ) (i j : Nat) :
    State.Heard conn [] [] (site.state i) (site.state j) :=
  .of_drivers rfl rfl

theorem deals_execute (hprompt : job.plan.Prompt) (h : site.Orderly) :
    ∃ deals, State.Deals deals (site.state job.context)
      ((site.execute job).state job.context) := by
  rw [← plan_run hprompt (.without job.coordinator)]
  exact job.plan.run_dealt (.without job.coordinator) site.diary
    (h.bound job.context)

theorem keeps_execute (hprompt : job.plan.Prompt) (h : site.Orderly) :
    State.Keeps (fun _ => False) (site.state job.context)
      ((site.execute job).state job.context) := by
  rw [state_execute]
  exact Coordinator.execute_keeps hprompt.1 (h.bound job.context)

namespace Orderly

theorem execute (h : site.Orderly) (hjob : site.Speaks asked [job]) :
    (site.execute job).Orderly := by
  obtain ⟨⟨hprompt, hheeds⟩, -⟩ := hjob
  obtain ⟨deals, hdeals⟩ := deals_execute hprompt h
  have hkeeps := keeps_execute hprompt h
  have hlenient := hprompt.run_lenient hheeds (h.bound job.context) h.lenient
  rw [plan_run hprompt] at hlenient
  exact ⟨fun i key id hid => Nat.lt_of_lt_of_le
      (h.bound i key id (bound_execute hprompt.1 (h.bound _) i hid))
      hkeeps.nextHolder,
    h.held.later hkeeps.held hdeals.nextId, hlenient⟩

/-- On a known connection an execution makes traffic. -/
theorem traffic (h : site.Orderly) (hjob : site.Speaks asked [job])
    (hknown : conn.id < site.world.nextId conn.source)
    (hunshared : site.Unshared conn) :
    ∃ made calls, Traffic asked (site.world.session conn) made calls ∧
      State.Said conn made calls (site.state job.context)
        ((site.execute job).state job.context) := by
  obtain ⟨⟨hprompt, hheeds⟩, -⟩ := hjob
  obtain ⟨holder, hsole⟩ := hunshared job.context
  have hcarries := hprompt.run_carries hheeds (h.bound job.context) h.lenient
    (.nil _ _) (fun hmem => by cases hmem) hknown hsole
  rw [plan_run hprompt] at hcarries
  obtain ⟨made, calls, htraffic, hsaid, -⟩ := hcarries
  exact ⟨made, calls, htraffic, hsaid⟩

/-- What an execution creates is accounted for. -/
theorem accounted (h : site.Orderly) (hjob : site.Speaks asked [job])
    (hcreated : State.Created conn (site.state job.context)
      ((site.execute job).state job.context)) :
    State.Accounted asked conn (site.state job.context)
      ((site.execute job).state job.context) := by
  obtain ⟨⟨hprompt, hheeds⟩, -⟩ := hjob
  rw [← plan_run hprompt (.without job.coordinator)] at hcreated ⊢
  exact hprompt.run_accounted hheeds (h.bound job.context) h.lenient h.held
    (fun id hid => by cases hid) (.nil _ _) (by simp) hcreated

/-- Nobody can reach a connection that no holder has. -/
theorem quiet (h : site.Orderly) (hjob : site.Speaks asked [job])
    (hunheld : site.Unheld conn)
    (hnew : ¬ State.Created conn (site.state job.context)
      ((site.execute job).state job.context)) :
    State.Heard conn [] [] (site.state job.context)
      ((site.execute job).state job.context) := by
  obtain ⟨⟨hprompt, hheeds⟩, -⟩ := hjob
  rw [← plan_run hprompt (.without job.coordinator)] at hnew ⊢
  exact (hprompt.run_untouched hheeds.handling_of_speaking
    (h.bound job.context) trivial
    (fun id hid => by cases hid) (.nil _ _)
    (fun _ id _ _ => hunheld id) (by simp) hnew).1.heard

theorem unheld (h : site.Orderly) (hprompt : job.plan.Prompt)
    (hunheld : site.Unheld conn) :
    (site.execute job).Unheld conn :=
  fun id hconn => hunheld id ((keeps_execute hprompt h).held id conn hconn)

theorem unheld_of_unknown (h : site.Orderly)
    (hunknown : site.world.nextId conn.source ≤ conn.id) : site.Unheld conn :=
  fun id hconn => Nat.not_lt.mpr hunknown (h.held id conn hconn)

theorem unshared (h : site.Orderly) (hprompt : job.plan.Prompt)
    (hunshared : site.Unshared conn) : (site.execute job).Unshared conn := by
  intro i
  obtain ⟨holder, hsole⟩ := hunshared i
  refine ⟨holder, fun key id hbound hconn => ?_⟩
  have hbefore := bound_execute hprompt.1 (h.bound _) i hbound
  have hkept : ((site.execute job).world.holders id).connection =
      (site.world.holders id).connection :=
    (keeps_execute hprompt h).connection id (h.bound i key id hbefore)
  exact hsole key id hbefore (hkept.symm.trans hconn)

/-! ## Many executions -/

theorem executeAll_deals (h : site.Orderly) (hjobs : site.Speaks asked jobs)
    (i : Nat) :
    ∃ deals, State.Deals deals (site.state i)
      ((site.executeAll jobs).state i) := by
  induction jobs generalizing site with
  | nil => exact ⟨[], .refl _⟩
  | cons job rest ih =>
      obtain ⟨deals, hdeals⟩ := deals_execute hjobs.1.1 h
      obtain ⟨deals', hdeals'⟩ := ih (h.execute ⟨hjobs.1, trivial⟩) hjobs.2
      have hbefore : State.Deals [] (site.state i) (site.state job.context) :=
        .of_drivers rfl rfl
      have hafter : State.Deals [] ((site.execute job).state job.context)
          ((site.execute job).state i) := .of_drivers rfl rfl
      exact ⟨_, ((hbefore.trans hdeals).trans hafter).trans hdeals'⟩

theorem executeAll_quiet (h : site.Orderly) (hjobs : site.Speaks asked jobs)
    (hknown : conn.id < site.world.nextId conn.source)
    (hunheld : site.Unheld conn) (i : Nat) :
    State.Heard conn [] [] (site.state i) ((site.executeAll jobs).state i) := by
  induction jobs generalizing site with
  | nil => exact .refl conn _
  | cons job rest ih =>
      have hjob : site.Speaks asked [job] := ⟨hjobs.1, trivial⟩
      obtain ⟨deals, hdeals⟩ := deals_execute hjobs.1.1 h
      have hfirst := h.quiet hjob hunheld (State.not_created_of_known hknown _)
      have hrest := ih (h.execute hjob) hjobs.2
        (Nat.lt_of_lt_of_le hknown (hdeals.nextId _))
        (h.unheld hjobs.1.1 hunheld)
      exact (((heard_state conn site i _).after hfirst).andThen
        (heard_state conn _ _ i)).trans hrest

/-- On a known connection a sequence of executions makes traffic. -/
theorem executeAll_traffic (h : site.Orderly) (hjobs : site.Speaks asked jobs)
    (hknown : conn.id < site.world.nextId conn.source)
    (hunshared : site.Unshared conn) (i : Nat) :
    ∃ made calls, Traffic asked (site.world.session conn) made calls ∧
      State.Said conn made calls (site.state i)
        ((site.executeAll jobs).state i) := by
  induction jobs generalizing site with
  | nil => exact ⟨[], [], .silent _, .silent (.refl conn _)⟩
  | cons job rest ih =>
      have hjob : site.Speaks asked [job] := ⟨hjobs.1, trivial⟩
      obtain ⟨deals, hdeals⟩ := deals_execute hjobs.1.1 h
      obtain ⟨made, calls, htraffic, hsaid⟩ := h.traffic hjob hknown hunshared
      obtain ⟨made', calls', htraffic', hsaid'⟩ := ih (h.execute hjob) hjobs.2
        (Nat.lt_of_lt_of_le hknown (hdeals.nextId _))
        (h.unshared hjobs.1.1 hunshared)
      have hsession : (site.execute job).world.session conn =
          Settings.after (site.world.session conn) calls := hsaid.session
      rw [hsession] at htraffic'
      have hfirst :=
        ((State.Said.silent (heard_state conn site i _)).trans hsaid).andThen
          (heard_state conn (site.execute job) _ i)
      exact ⟨_, _, htraffic.trans htraffic', hfirst.trans hsaid'⟩

/-- What a sequence of executions creates is accounted for. -/
theorem executeAll_accounted (h : site.Orderly) (hjobs : site.Speaks asked jobs)
    (i : Nat)
    (hcreated : State.Created conn (site.state i)
      ((site.executeAll jobs).state i)) :
    State.Accounted asked conn (site.state i)
      ((site.executeAll jobs).state i) := by
  induction jobs generalizing site with
  | nil => exact absurd hcreated.2 (Nat.not_lt.mpr hcreated.1)
  | cons job rest ih =>
      have hjob : site.Speaks asked [job] := ⟨hjobs.1, trivial⟩
      have hnext := h.execute hjob
      obtain ⟨deals, hdeals⟩ := deals_execute hjobs.1.1 h
      rcases hcreated.split ((site.execute job).state i) with hfirst | hrest
      · -- It was handed back at the end of the execution that has created it.
        have haccounted := h.accounted hjob hfirst
        have hunheld := h.unheld hjobs.1.1 (h.unheld_of_unknown hfirst.1)
        exact haccounted.around (heard_state conn site i _)
          ((heard_state conn _ _ i).after
            (hnext.executeAll_quiet hjobs.2 hfirst.2 hunheld i))
      · obtain ⟨hunknown, hnew⟩ := hrest.not_before hdeals.nextId
        have hquiet := h.quiet hjob (h.unheld_of_unknown hunknown) hnew
        exact (ih hnext hjobs.2 hrest).around
          (((heard_state conn site i _).after hquiet).andThen
            (heard_state conn _ _ i))
          (.refl conn _)

end Orderly

/-- Connections are used by the protocol.  In a sequence of executions that are
nested to any depth, with any definitions and any coordinators, during which no
deadline passes and no commit and no rollback fails, and whose work makes
nothing but statements, on connections that scopes around it have given: each
connection that is acquired for a transaction has the life of one attempt, which
ends with its release; and what is said on a connection that was there before
are attempts, one after the other, and statements between them, if in each
context at most one bound holder has it. -/
theorem executeAll_keeps_protocol (hsite : site.Orderly)
    (hjobs : site.Speaks asked jobs) (i : Nat) :
    ∃ notes,
      (site.executeAll jobs).world.journal = site.world.journal ++ notes ∧
      (∀ conn, .line (.acquired conn) ∈ notes →
        State.Lived asked conn (site.state i)
          ((site.executeAll jobs).state i)) ∧
      ∀ conn, conn.id < site.world.nextId conn.source → site.Unshared conn →
        ∃ made calls, Traffic asked (site.world.session conn) made calls ∧
          State.Said conn made calls (site.state i)
            ((site.executeAll jobs).state i) := by
  obtain ⟨deals, hdeals⟩ := hsite.executeAll_deals hjobs i
  obtain ⟨notes, hnotes, hfiltered⟩ := hdeals.journal
  have hmem : ∀ {n : Note}, n.isDeal = true → n ∈ notes → n ∈ deals :=
    fun hdeal hn => by
      rw [← hfiltered]
      exact List.mem_filter.mpr ⟨hn, hdeal⟩
  refine ⟨notes, hnotes, fun conn hacquired => ?_, fun conn hknown hunshared =>
    hsite.executeAll_traffic hjobs hknown hunshared i⟩
  have hcreated :
      State.Created conn (site.state i) ((site.executeAll jobs).state i) :=
    hdeals.new_of_acquired (hmem rfl hacquired)
  rcases hsite.executeAll_accounted hjobs i hcreated with
      hlived | ⟨notes', hnotes', hfetched⟩
  · exact hlived
  · obtain rfl : notes = notes' :=
      List.append_cancel_left (hnotes.symm.trans hnotes')
    exact absurd (hmem rfl hfetched)
      (hdeals.not_fetched_of_acquired (hmem rfl hacquired))

/-- Work makes a statement in a transaction on the connection of a holder that
was bound before, and executes other work in a transaction of its own. -/
theorem executeAll_keeps_protocol_on_bound :
    let c : Coordinator := { source := ⟨0, ⟨"db"⟩⟩ }
    let conn : Connection := ⟨0, 1⟩
    let work : Plan Unit Unit Unit := .step .connection fun answer =>
      match answer with
      | .ok given => .step (.call given (.execute "SELECT 1")) fun _ =>
          .execute c { propagation := .requiresNew } (.finish (.ok ()))
            fun _ => .finish (.ok ())
      | .error e => .finish (.error (.transaction e))
    let site : Site Unit :=
      { world :=
          { drivers := fun _ => { nextId := 2, sessions := fun _ => some {} }
            holders := fun id => if id = 0 then .of conn else .finished,
            nextHolder := 1 }
        contexts := fun _ => Bindings.empty.insert ⟨"db"⟩ 0, diary := ⟨(), []⟩ }
    let job : Job Unit Unit Unit := ⟨0, c, {}, work⟩
    let site' := site.executeAll [job]
    (site.Orderly ∧ site.Speaks (fun _ _ => True) [job]) ∧
      State.Lived (fun _ _ => True) ⟨0, 2⟩ (site.state 0) (site'.state 0) ∧
      (∃ made calls, Traffic (fun _ _ => True) (some {}) made calls ∧
        State.Said conn made calls (site.state 0) (site'.state 0)) ∧
      site'.world.eventsOf conn = [.called 1 (.setAutoCommit false),
        .called 1 .begin,
        .called 1 (.execute "SELECT 1"), .called 1 .commit,
        .called 1 (.setAutoCommit true)] := by
  intro c conn work site job site'
  have hbound : ∀ i key id, (site.state i).boundHolder key = some id →
      id = 0 := by
    intro i key id hid
    rw [State.boundHolder, state, Bindings.get?_insert] at hid
    split at hid
    · exact (Option.some.inj hid).symm
    · simp at hid
  have hheld : ∀ id other, (site.world.holders id).connection = some other →
      other = conn := by
    intro id other hother
    simp only [site] at hother
    split at hother
    · exact (Option.some.inj hother).symm
    · cases hother
  have hsite : site.Orderly := by
    refine ⟨fun i key id hid => ?_, fun id other hother => ?_,
      fun _ => ⟨rfl, rfl⟩⟩
    · rw [hbound i key id hid]
      exact Nat.one_pos
    · rw [hheld id other hother]
      exact Nat.one_lt_two
  have hprompt : work.Prompt := by
    intro answer
    cases answer with
    | ok given => exact fun _ => ⟨trivial, fun _ => trivial⟩
    | error e => trivial
  have hheeds : ∀ scope s m,
      work.Heeds (.speaking fun _ _ => True) [] [] scope s m := by
    intro scope s m
    refine ⟨trivial, ?_⟩
    generalize Plan.Step.take scope s m .connection = taken
    obtain ⟨answer, scope', s', m'⟩ := taken
    cases answer with
    | ok given =>
        exact ⟨⟨List.mem_singleton_self given, _, rfl⟩, trivial,
          fun _ _ _ => trivial,
          fun _ _ => trivial⟩
    | error e => trivial
  have hjobs : site.Speaks (fun _ _ => True) [job] :=
    ⟨⟨⟨hprompt, fun _ => trivial⟩, trivial, fun scope s' _ => hheeds scope s' _,
      fun _ _ => trivial⟩, trivial⟩
  have hunshared : site.Unshared conn :=
    fun i => ⟨0, fun key id hid _ => hbound i key id hid⟩
  obtain ⟨notes, hnotes, hlived, htraffic⟩ :=
    executeAll_keeps_protocol hsite hjobs 0
  have hacquired : .line (.acquired ⟨0, 2⟩) ∈ notes := by
    have hjournal : site'.world.journal = notes := hnotes
    rw [← hjournal]
    decide +kernel
  exact ⟨⟨hsite, hjobs⟩, hlived _ hacquired,
    htraffic conn Nat.one_lt_two hunshared,
    by decide +kernel⟩

/-- Two holders have one connection, and are bound under the keys of two
coordinators.  Work in a transaction on the first one executes work by the
second coordinator, which begins a transaction on the other holder: the driver
is asked to begin while it is in a transaction. -/
theorem execute_begins_twice_on_shared :
    let c : Coordinator := { source := ⟨0, ⟨"db"⟩⟩ }
    let second : Coordinator := { source := ⟨1, ⟨"store"⟩⟩ }
    let conn : Connection := ⟨0, 1⟩
    let work : Plan Unit Unit Unit :=
      .execute second {} (.finish (.ok ())) fun _ => .finish (.ok ())
    let site : Site Unit :=
      { world :=
          { drivers := fun _ => { nextId := 2, sessions := fun _ => some {} }
            holders := fun id => if id < 2 then .of conn else .finished,
            nextHolder := 2 }
        contexts := fun _ => (Bindings.empty.insert ⟨"db"⟩ 0).insert ⟨"store"⟩ 1
        diary := ⟨(), []⟩ }
    let job : Job Unit Unit Unit := ⟨0, c, {}, work⟩
    site.Orderly ∧ site.Speaks (fun _ _ => True) [job] ∧
      conn.id < site.world.nextId conn.source ∧
      (site.state 0).boundHolder c.key = some 0 ∧
      (site.world.holders 0).connection = some conn ∧
      ¬ ∃ made calls,
      Traffic (fun _ _ => True) (site.world.session conn) made calls ∧
        State.Said conn made calls (site.state 0)
          ((site.executeAll [job]).state 0) := by
  intro c second conn work site job
  have hsite : site.Orderly := by
    refine ⟨fun i key id hid => ?_, fun id other hother => ?_,
      fun _ => ⟨rfl, rfl⟩⟩
    · rw [State.boundHolder, state, Bindings.get?_insert,
        Bindings.get?_insert] at hid
      split at hid
      · obtain rfl := Option.some.inj hid
        exact Nat.one_lt_two
      · split at hid
        · obtain rfl := Option.some.inj hid
          exact Nat.two_pos
        · simp at hid
    · simp only [site] at hother
      split at hother
      · obtain rfl := Option.some.inj hother
        exact Nat.one_lt_two
      · cases hother
  refine ⟨hsite,
      ⟨⟨⟨⟨trivial, fun _ => trivial⟩, fun _ => trivial⟩, trivial, fun _ _ _ =>
      ⟨trivial, fun _ _ _ => trivial, fun _ _ => trivial⟩,
      fun _ _ => trivial⟩, trivial⟩,
    Nat.one_lt_two,
    by simp [site, c, state, State.boundHolder, Coordinator.key], rfl, ?_⟩
  rintro ⟨made, calls, htraffic, hsaid⟩
  have hevents := State.Heard.eventsOf hsaid
  have hcalls : ((site.executeAll [job]).state 0).eventsOf conn =
      [.setAutoCommit false, .begin, .begin, .commit, .commit,
        .setAutoCommit true].map (.called conn.id) := by
    decide +kernel
  rw [hcalls] at hevents
  obtain rfl :=
    (List.map_inj_right fun _ _ h => (Event.called.inj h).2).mp hevents
  cases htraffic.running

end Site

end UnitOfWork
