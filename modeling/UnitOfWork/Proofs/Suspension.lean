import UnitOfWork.Proofs.HiddenConnections

/-!
# Suspended transactions

While a transaction is suspended, the work that it was suspended for cannot
reach it: its holder is bound nowhere where the work could find it, and no scope
of the work gives its connection.  The work leaves it alone, then, however it
goes, and the key of the holder is free when it is to be resumed.

This is so unless the holder, or another one with the same connection, is bound
to a second key by hand, and a coordinator with that key executes work in the
meantime.
-/

namespace UnitOfWork

/-- Nothing was done to a holder and to its connection between two states: no
call was made on the connection, nothing was recorded about it, its session has
the same settings, and the holder is as it was. -/
structure State.Isolated (id : HolderId) (conn : Connection) (s s' : State) :
    Prop where
  calls : ∃ notes, s'.journal = s.journal ++ notes ∧
    ∀ n ∈ notes, n.concerns conn = false
  events : s'.eventsOf conn = s.eventsOf conn
  session : s'.session conn = s.session conn
  holder : s'.holders id = s.holders id

theorem State.Untouched.isolated {id : HolderId} {conn : Connection}
    {s s' : State} (h : Untouched conn s s') (hid : id < s.nextHolder)
    (hconn : (s.holders id).connection = some conn) :
    Isolated id conn s s' where
  calls := by
    obtain ⟨notes, hnotes, hnone⟩ := h.heard.journal
    refine ⟨notes, hnotes, fun n hn => ?_⟩
    simpa using List.filter_eq_nil_iff.mp hnone n hn
  events := h.heard.eventsOf.trans (List.append_nil _)
  session := h.heard.session
  holder := h.holders id hid hconn

namespace Coordinator

variable {σ ε α : Type} {c : Coordinator} {d : Definition} {s : State}
variable {id : HolderId}

/-- What runs is suspended by an execution that wants to run in a transaction of
its own or in none. -/
theorem suspended_of_running (hrunning : c.running s = some id)
    (hpropagation : d.propagation = .requiresNew ∨
      d.propagation = .notSupported) :
    (c.course d s).suspended = some id := by
  rcases hpropagation with h | h <;>
    simp [course, hrunning, h, Course.suspended]

/-- A suspended transaction is left alone by the work that it is suspended for.
The work uses its own scope, the connections that scopes inside it have given,
and executions by coordinators under whose keys no holder with the connection of
the transaction is bound, apart from the key of the transaction itself.  From
the suspension on, whatever the work does and however the execution ends,
nothing is done to the connection and to the holder of the transaction; then the
holder is resumed, and that does not fail. -/
theorem execute_isolates_suspended (c : Coordinator) (d : Definition)
    (plan : Plan σ ε α) (s : State) (m : Diary σ) (keys : Key → Prop)
    {id : HolderId} {conn : Connection} (hprompt : plan.Prompt)
    (hs : s.BoundExist) (hrunning : c.running s = some id)
    (hpropagation : d.propagation = .requiresNew ∨
      d.propagation = .notSupported)
    (hconn : (s.holders id).connection = some conn)
    (hknown : conn.id < s.nextId conn.source)
    (hwork : ∀ scope s₀, c.Entered d s scope s₀ →
      plan.Heeds (.handling keys) [] [] scope s₀ m)
    (hothers : ∀ key other, keys key → key ≠ c.key →
      s.boundHolder key = some other →
      (s.holders other).connection ≠ some conn) :
    let suspended := (s.unbind c.key).2
    (∀ scope s₀, c.Entered d s scope s₀ →
      suspended.Isolated id conn s₀ ∧
        plan.Heeds (.sparing conn (suspended.Isolated id conn)) [] []
          scope s₀ m) ∧
    ∃ s', suspended.Isolated id conn s' ∧ (s'.holders id).stage = .active ∧
      c.resume id s' = (.ok (), (c.execute d plan.run s m).state) ∧
      (c.execute d plan.run s m).state.boundHolder c.key = some id := by
  intro suspended
  obtain ⟨hbound, hactive⟩ := running_eq_some_iff.mp hrunning
  have hcourse := suspended_of_running hrunning hpropagation
  have haside : c.setAside (c.course d s).suspended s = suspended := by
    rw [hcourse]; rfl
  have hid : id < suspended.nextHolder := by
    simpa [suspended] using hs c.key id hbound
  have hheld : (suspended.holders id).connection = some conn := by
    simpa [suspended] using hconn
  have hnew := State.not_created_of_known hknown
  -- The key of the transaction may be used, since its holder is not bound to it
  -- any more.
  let used : Key → Prop := fun key => keys key ∨ key = c.key
  have hkey : used c.key := Or.inr rfl
  have hhidden : (c.setAside (c.course d s).suspended s).Hidden used conn := by
    intro key other hused hother
    rw [hcourse, boundHolder_setAside] at hother
    rw [holders_setAside]
    split at hother
    · cases hother
    · next hne =>
        have hdifferent : key ≠ c.key := fun heq => hne ⟨rfl, heq⟩
        exact hothers key other (hused.resolve_right hdifferent)
          hdifferent hother
  have hhandling : ∀ scope s₀, c.Entered d s scope s₀ →
      plan.Heeds (.handling used) [] [] scope s₀ m := fun scope s₀ hentered =>
    (hwork scope s₀ hentered).handling_mono fun _ => Or.inl
  have hinner := fun scope s₀ (hentered : c.Entered d s scope s₀)
      (hhidden' : s₀.Hidden used conn)
      (hnew' : ¬ State.Created conn s₀ (plan.run scope s₀ m).2.state) =>
    hprompt.run_untouched (hhandling scope s₀ hentered)
      (hentered.steady.boundExist hs)
      (by rw [hentered.coordinator]; exact hkey) hentered.inForce
      (.nil _ s₀) hhidden' (by simp) hnew'
  constructor
  · intro scope s₀ hentered
    have hbefore := hentered.untouched hkey hhidden (hnew s₀)
    have hspared := Plan.heeds_of_entered hentered hkey hhidden hknown
      fun hhidden' hknown' => (hinner scope s₀ hentered hhidden'
        (State.not_created_of_known hknown' _)).2 hknown'
    rw [haside] at hbefore hspared
    exact ⟨hbefore.isolated hid hheld,
      hspared.sparing_mono fun s' hs' => hs'.isolated hid hheld⟩
  · obtain ⟨s', huntouched, hresumable, hstate⟩ :=
      (c.execution d plan s m).untouched hprompt hs
        hkey hhidden (hnew _) fun scope s₀ hentered hhidden' hnew' =>
          (hinner scope s₀ hentered hhidden' hnew').1
    rw [haside] at huntouched
    have hisolated := huntouched.isolated hid hheld
    rw [hcourse] at hresumable hstate
    refine ⟨s', hisolated, ?_, ?_, ?_⟩
    · rw [hisolated.holder]
      simpa [suspended] using hactive
    · have hok := resume_of_free (hresumable.resolve_left (by simp)) id
      rw [hstate, resumed]
      exact Prod.ext hok rfl
    · rw [hstate, (resumed_holders hresumable).2.2, if_pos rfl]
      rfl

/-- A transaction is left alone by work that is given a connection of its own,
makes a call on it and fails. -/
theorem execute_isolates_from_failing_work :
    let c : Coordinator := { source := ⟨0, ⟨"db"⟩⟩ }
    let conn : Connection := ⟨0, 1⟩
    let plan : Plan Unit Unit Unit := .step .connection fun answer =>
      match answer with
      | .ok given =>
          .step (.call given .commit) fun _ => .finish (.error (.own ()))
      | .error e => .finish (.error (.transaction e))
    let s : State :=
      { drivers := fun _ => { nextId := 2 }
        holders := fun _ => { connection := some conn, stage := .active }
        nextHolder := 1, context := Bindings.empty.insert ⟨"db"⟩ 0 }
    (plan.Prompt ∧ s.BoundExist ∧ c.running s = some 0 ∧
      conn.id < s.nextId conn.source ∧
      ∀ scope s₀, plan.Heeds (.handling (· = c.key)) [] [] scope s₀ ⟨(), []⟩) ∧
    ∃ s', (s.unbind c.key).2.Isolated 0 conn s' ∧
      c.resume 0 s' =
        (.ok (), (c.execute { propagation := .requiresNew } plan.run s
          ⟨(), []⟩).state) := by
  intro c conn plan s
  have hprompt : plan.Prompt := by
    intro answer
    cases answer with
    | ok given => exact fun _ => trivial
    | error e => trivial
  have hs : s.BoundExist := by
    intro key id hkey
    rw [State.boundHolder, Bindings.get?_insert] at hkey
    split at hkey
    · obtain rfl := Option.some.inj hkey
      exact Nat.one_pos
    · simp at hkey
  have hrunning : c.running s = some 0 := by
    rw [running_eq_some_iff]
    exact ⟨by simp [s, c, State.boundHolder, key], rfl⟩
  have hknown : conn.id < s.nextId conn.source := by decide
  have hwork : ∀ scope s₀,
      plan.Heeds (.handling (· = c.key)) [] [] scope s₀ ⟨(), []⟩ := by
    intro scope s₀
    refine ⟨trivial, ?_⟩
    generalize Plan.Step.take scope s₀ (⟨(), []⟩ : Diary Unit)
      .connection = taken
    obtain ⟨answer, scope', s', m'⟩ := taken
    cases answer with
    | ok given => exact ⟨List.mem_singleton_self given, trivial⟩
    | error e => trivial
  refine ⟨⟨hprompt, hs, hrunning, hknown, hwork⟩, ?_⟩
  obtain ⟨-, s', hisolated, -, hresumed, -⟩ := execute_isolates_suspended c
    { propagation := .requiresNew } plan s ⟨(), []⟩
      (· = c.key) hprompt hs hrunning (Or.inl rfl)
    rfl hknown (fun scope s₀ _ => hwork scope s₀)
      fun key other hkey hne => absurd hkey hne
  exact ⟨s', hisolated, hresumed⟩

/-- A holder that is bound to two keys is reached through the second one while
it is suspended from the first: work that is executed there joins its
transaction, fails, and marks it for rollback. -/
theorem execute_marks_suspended :
    let c : Coordinator := { source := ⟨0, ⟨"db"⟩⟩ }
    let second : Coordinator := { source := ⟨1, ⟨"store"⟩⟩ }
    let conn : Connection := ⟨0, 1⟩
    let plan : Plan Unit Unit Unit :=
      .execute second {} (.finish (.error (.own ()))) fun _ => .finish (.ok ())
    let s : State :=
      { drivers := fun _ => { nextId := 2 }
        holders := fun _ => { connection := some conn, stage := .active }
        nextHolder := 1
        context := (Bindings.empty.insert ⟨"db"⟩ 0).insert ⟨"store"⟩ 0 }
    let run := c.execute { propagation := .requiresNew } plan.run s ⟨(), []⟩
    plan.Prompt ∧ s.BoundExist ∧ c.running s = some 0 ∧
      (s.holders 0).connection = some conn ∧ conn.id < s.nextId conn.source ∧
      (∀ scope s₀, plan.Heeds (.handling fun _ => True) []
        [] scope s₀ ⟨(), []⟩) ∧
      (s.holders 0).rollbackOnly = false ∧
      (run.state.holders 0).rollbackOnly = true := by
  intro c second conn plan s run
  refine ⟨⟨trivial, fun _ => trivial⟩, ?_, ?_, rfl,
    by decide, fun _ _ => ?_, rfl, ?_⟩
  · intro key id hkey
    rw [State.boundHolder, Bindings.get?_insert, Bindings.get?_insert] at hkey
    split at hkey
    · obtain rfl := Option.some.inj hkey
      exact Nat.one_pos
    · split at hkey
      · obtain rfl := Option.some.inj hkey
        exact Nat.one_pos
      · simp at hkey
  · rw [running_eq_some_iff]
    exact ⟨by simp [s, c, State.boundHolder, key], rfl⟩
  · exact ⟨trivial, fun _ _ _ => trivial, fun _ _ => trivial⟩
  · decide +kernel

end Coordinator

end UnitOfWork
