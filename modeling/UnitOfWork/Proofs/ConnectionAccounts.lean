import UnitOfWork.Proofs.FetchedConnections
import UnitOfWork.Proofs.HonestWork

/-!
# Accounts of connections

Executions of honest work settle their accounts: what one of them acquires it
hands back once before it ends, and what was there before it never hands back.
This holds of every execution, and so of each execution in a sequence, on
whatever contexts they run.
-/

namespace UnitOfWork

namespace State.Ledger

variable {deals : List Note} {s s' : State} {c : Connection}

/-- Only what is new is handed back, and only once. -/
theorem returns_le_makes (h : Ledger [] [] deals s s') (c : Connection) :
    deals.countP (Note.returns c) ≤ deals.countP (Note.makes c) ∧
      deals.countP (Note.makes c) ≤ 1 := by
  constructor
  · have hbalance := h.balance c
    rw [List.count_nil] at hbalance
    omega
  · rw [h.dealt.made]
    split <;> omega

/-- What is handed back is new. -/
theorem any_makes (h : Ledger [] [] deals s s') {n : Note} (hn : n ∈ deals)
    (hreturns : n.returns c = true) : deals.any (Note.makes c) = true := by
  have hreturned : 0 < deals.countP (Note.returns c) :=
    List.countP_pos_iff.mpr ⟨n, hn, hreturns⟩
  have hmade := Nat.lt_of_lt_of_le hreturned (h.returns_le_makes c).1
  exact List.any_eq_true.mpr (List.countP_pos_iff.mp hmade)

theorem returned_le_one (h : Ledger [] [] deals s s') (c : Connection) :
    deals.countP (Note.returns c) ≤ 1 :=
  Nat.le_trans (h.returns_le_makes c).1 (h.returns_le_makes c).2

/-- What was there before is not handed back. -/
theorem not_returned (h : Ledger [] [] deals s s')
    (hknown : c.id < s.nextId c.source) :
    ∀ n ∈ deals, n.returns c = false := by
  intro n hn
  apply Bool.eq_false_iff.mpr
  intro hreturns
  obtain ⟨n', hn', hmakes⟩ := List.any_eq_true.mp (h.any_makes hn hreturns)
  exact Nat.not_lt.mpr (h.dealt.new_of_makes hn' hmakes).1 hknown

theorem isOpen_eq {pending pending' : List Connection}
    (h : Ledger pending pending' deals s s') (c : Connection) :
    s'.isOpen c = ((s.isOpen c || deals.any (Note.makes c)) &&
      !deals.any (Note.closes c)) := by
  rw [h.dealt.isOpen]
  exact switched_of_ordered (h.ordered c) (fun _ => Note.not_closes_of_makes) _

/-- What was there before is open or closed as it was. -/
theorem older (h : Ledger [] [] deals s s')
    (hknown : c.id < s.nextId c.source) :
    s'.isOpen c = s.isOpen c ∧ s'.closings c = s.closings c := by
  have hmakes : deals.any (Note.makes c) = false := by
    apply List.any_eq_false.mpr
    intro n hn hmakes
    exact Nat.not_lt.mpr (h.dealt.new_of_makes hn hmakes).1 hknown
  have hcloses : ∀ n ∈ deals, ¬n.closes c = true := by
    intro n hn hcloses
    have hreturns := (h.proper n hn).returns_of_closes hcloses
    rw [h.not_returned hknown n hn] at hreturns
    cases hreturns
  constructor
  · rw [h.isOpen_eq, hmakes, List.any_eq_false.mpr hcloses, Bool.or_false,
      Bool.not_false, Bool.and_true]
  · rw [h.dealt.closings, List.countP_eq_zero.mpr hcloses, Nat.add_zero]

/-- A connection that is handed back at all is handed back by one attempt. -/
theorem filter_returns (h : Ledger [] [] deals s s') {n : Note} (hn : n ∈ deals)
    (hreturns : n.returns c = true) :
    ∃ fault, ReleaseOutcome fault ∧
      deals.filter (Note.returns c) =
        [.driver (.release c.source c) fault] := by
  have hmem : n ∈ deals.filter (Note.returns c) :=
    List.mem_filter.mpr ⟨hn, hreturns⟩
  have hlength : (deals.filter (Note.returns c)).length = 1 := by
    have hle := h.returned_le_one c
    have hpos := List.length_pos_of_mem hmem
    rw [List.countP_eq_length_filter] at hle
    omega
  obtain ⟨only, honly⟩ := List.length_eq_one_iff.mp hlength
  obtain ⟨fault, hfault, heq⟩ := (h.proper n hn).of_returns hreturns
  rw [honly, List.mem_singleton] at hmem
  exact ⟨fault, hfault, by rw [honly, ← hmem, heq]⟩

/-- A connection that was acquired is handed back by one attempt. -/
theorem acquired_returned (h : Ledger [] [] deals s s')
    (hacquired : .line (.acquired c) ∈ deals) :
    ∃ fault, ReleaseOutcome fault ∧
      deals.filter (Note.returns c) =
        [.driver (.release c.source c) fault] := by
  have hcount : 0 < deals.countP (Note.acquires c) :=
    List.countP_pos_iff.mpr ⟨_, hacquired, by simp [Note.acquires]⟩
  obtain ⟨n, hn, hreturns⟩ :=
    List.countP_pos_iff.mp (Nat.lt_of_lt_of_le hcount (h.repaid c))
  exact h.filter_returns hn hreturns

/-- A connection is closed by the attempt to hand it back, if that succeeds. -/
theorem any_closes (h : Ledger [] [] deals s s') {fault : Option Fault}
    (hreturned : deals.filter (Note.returns c) =
      [.driver (.release c.source c) fault]) :
    deals.any (Note.closes c) = fault.isNone := by
  have hin : .driver (.release c.source c) fault ∈ deals.filter
      (Note.returns c) := by
    rw [hreturned]
    exact List.mem_singleton_self _
  cases fault with
  | none =>
      refine List.any_eq_true.mpr ⟨_, (List.mem_filter.mp hin).1, ?_⟩
      simp [Note.closes]
  | some f =>
      refine List.any_eq_false.mpr fun n hn hcloses => ?_
      have honly : n ∈ deals.filter (Note.returns c) :=
        List.mem_filter.mpr ⟨hn, (h.proper n hn).returns_of_closes hcloses⟩
      rw [hreturned, List.mem_singleton] at honly
      rw [honly] at hcloses
      cases hcloses

theorem countP_closes (h : Ledger [] [] deals s s') {fault : Option Fault}
    (hreturned : deals.filter (Note.returns c) =
      [.driver (.release c.source c) fault]) :
    deals.countP (Note.closes c) = if fault = none then 1 else 0 := by
  have hany := h.any_closes hreturned
  have hle : deals.countP (Note.closes c) ≤ deals.countP (Note.returns c) :=
    List.countP_mono_left fun n hn => (h.proper n hn).returns_of_closes
  have hone := Nat.le_trans hle (h.returned_le_one c)
  cases fault with
  | none =>
      have hpos := List.countP_pos_iff.mpr (List.any_eq_true.mp hany)
      rw [if_pos rfl]
      omega
  | some f =>
      rw [if_neg (by simp)]
      exact List.countP_eq_zero.mpr fun n hn hcloses => by
        have hnot := List.any_eq_false.mp hany n hn
        exact hnot hcloses

end State.Ledger

/-! ## One execution -/

/-- The connections that are created in a run are those that it acquires for a
transaction and those that scopes fetch. -/
theorem State.Ledger.created_iff {deals : List Note} {s s' : State}
    {c : Connection} (h : Ledger [] [] deals s s') :
    s.nextId c.source ≤ c.id ∧ c.id < s'.nextId c.source ↔
      .line (.acquired c) ∈ deals ∨ .line (.fetched c) ∈ deals := by
  constructor
  · intro hnew
    have hcount : 0 < deals.countP (Note.makes c) := by
      rw [h.dealt.made, if_pos hnew]
      exact Nat.one_pos
    obtain ⟨n, hn, hmakes⟩ := List.countP_pos_iff.mp hcount
    rcases Note.acquired_or_fetched hmakes with rfl | rfl
    · exact Or.inl hn
    · exact Or.inr hn
  · rintro (hacquired | hfetched)
    · exact h.dealt.new_of_acquired hacquired
    · exact h.dealt.new_of_fetched hfetched

/-- What was fetched and not handed back, or was refused when it was handed
back, is open. -/
theorem State.Ledger.isOpen_iff {deals : List Note} {s s' : State}
    {c : Connection} (h : Ledger [] [] deals s s')
    (hknown : s.isOpen c = true → c.id < s.nextId c.source) :
    s'.isOpen c = true ↔ s.isOpen c = true ∨ refusal c ∈ deals ∨
      .line (.fetched c) ∈ deals ∧ ∀ n ∈ deals, n.returns c = false := by
  have hkept : (∀ n ∈ deals, n.returns c = false) →
      deals.any (Note.closes c) = false := by
    intro hnone
    apply List.any_eq_false.mpr
    intro n hn hcloses
    have hreturns := (h.proper n hn).returns_of_closes hcloses
    rw [hnone n hn] at hreturns
    cases hreturns
  have hrefused : ∀ {n}, n ∈ deals → n.returns c = true →
      deals.any (Note.closes c) = false → refusal c ∈ deals := by
    intro n hn hreturns hopen
    obtain ⟨fault, hfault, hreturned⟩ := h.filter_returns hn hreturns
    rw [h.any_closes hreturned] at hopen
    have hin : .driver (.release c.source c) fault ∈ deals.filter
        (Note.returns c) := by
      rw [hreturned]
      exact List.mem_singleton_self _
    rcases hfault with rfl | rfl
    · cases hopen
    · exact (List.mem_filter.mp hin).1
  rw [h.isOpen_eq, Bool.and_eq_true, Bool.or_eq_true, Bool.not_eq_true']
  constructor
  · rintro ⟨hopen | hmade, hclosed⟩
    · exact Or.inl hopen
    · obtain ⟨n, hn, hmakes⟩ := List.any_eq_true.mp hmade
      cases hreturned : deals.any (Note.returns c) with
      | false =>
          have hnone : ∀ n ∈ deals, n.returns c = false := fun n hn =>
            Bool.eq_false_iff.mpr (List.any_eq_false.mp hreturned n hn)
          refine Or.inr (Or.inr ⟨?_, hnone⟩)
          rcases Note.acquired_or_fetched hmakes with rfl | rfl
          · -- What was acquired was handed back.
            obtain ⟨fault, -, hback⟩ := h.acquired_returned hn
            rw [List.filter_eq_nil_iff.mpr fun n hn => by
              simp [hnone n hn]] at hback
            cases hback
          · exact hn
      | true =>
          obtain ⟨n', hn', hreturns⟩ := List.any_eq_true.mp hreturned
          exact Or.inr (Or.inl (hrefused hn' hreturns hclosed))
  · rintro (hopen | hrefusal | ⟨hfetched, hnone⟩)
    · exact ⟨Or.inl hopen, hkept (h.not_returned (hknown hopen))⟩
    · have hreturns : (refusal c).returns c = true := by
        simp [refusal, Note.returns]
      obtain ⟨fault, hfault, hreturned⟩ := h.filter_returns hrefusal hreturns
      have hmem : refusal c ∈ deals.filter (Note.returns c) :=
        List.mem_filter.mpr ⟨hrefusal, hreturns⟩
      rw [hreturned, List.mem_singleton] at hmem
      obtain rfl : some .release = fault := by injection hmem
      exact ⟨Or.inr (h.any_makes hrefusal hreturns), h.any_closes hreturned⟩
    · exact ⟨Or.inr (List.any_eq_true.mpr ⟨_, hfetched, Note.makes_fetched c⟩),
        hkept hnone⟩

/-- What is held or open came from its source, which has not closed what it has
still to create. -/
structure World.Sound (w : World) : Prop where
  held : w.HeldKnown
  isOpen : ∀ c, w.isOpen c = true → c.id < w.nextId c.source
  closings : ∀ c, w.nextId c.source ≤ c.id → w.closings c = 0

theorem World.Sound.later {deals : List Note} {s s' : State} (hsound : s.Sound)
    (h : State.Ledger [] [] deals s s') (hheld : Coordinator.HeldBefore s s') :
    s'.Sound where
  held id c hconn :=
    Nat.lt_of_lt_of_le (hsound.held id c (hheld id c hconn))
      (h.dealt.nextId c.source)
  isOpen c hopen := by
    rw [h.isOpen_eq, Bool.and_eq_true, Bool.or_eq_true] at hopen
    rcases hopen.1 with hopen | hmade
    · exact Nat.lt_of_lt_of_le (hsound.isOpen c hopen) (h.dealt.nextId c.source)
    · obtain ⟨n, hn, hmakes⟩ := List.any_eq_true.mp hmade
      exact (h.dealt.new_of_makes hn hmakes).2
  closings c hunknown := by
    have hnone : deals.countP (Note.closes c) = 0 := by
      apply List.countP_eq_zero.mpr
      intro n hn hcloses
      have hknown :=
        h.known_of_returns hn ((h.proper n hn).returns_of_closes hcloses)
      exact Nat.not_lt.mpr hunknown hknown
    rw [h.dealt.closings, hnone]
    exact hsound.closings c (Nat.le_trans (h.dealt.nextId c.source) hunknown)

/-- The accounts of a run that has written some entries to the journal and some
deeds to the diary. -/
structure State.Accounts (notes : List Note) (new : List Deed) (s s' : State) :
    Prop where
  journal : s'.journal = s.journal ++ notes
  nextId : ∀ source, s.nextId source ≤ s'.nextId source
  /-- What was created was acquired for a transaction or fetched by a scope. -/
  created : ∀ c, s.nextId c.source ≤ c.id ∧ c.id < s'.nextId c.source ↔
    .line (.acquired c) ∈ notes ∨ .line (.fetched c) ∈ notes
  /-- What was acquired was handed back by one attempt, and its source has
  recorded once that it was closed, or has refused it. -/
  acquired : ∀ c, .line (.acquired c) ∈ notes →
    ∃ fault, ReleaseOutcome fault ∧
      notes.filter (Note.returns c) = [.driver (.release c.source c) fault] ∧
      s'.closings c = (if fault = none then 1 else 0) ∧
      s'.isOpen c = fault.isSome
  /-- What is open was so before, was refused, or was fetched and not handed
  back. -/
  isOpen : ∀ c, s'.isOpen c = true ↔ s.isOpen c = true ∨ refusal c ∈ notes ∨
    .line (.fetched c) ∈ notes ∧ ∀ n ∈ notes, n.returns c = false
  /-- A scope fetches a connection if it runs without a transaction, or in one
  whose holder was made active without a connection. -/
  fetched : ∀ c, .line (.fetched c) ∈ notes →
    .fetched c none ∈ new ∨ ∃ id, .fetched c (some id) ∈ new ∧ s.Lonely id
  /-- What was there before was not handed back, and it is as it was. -/
  older : ∀ c, c.id < s.nextId c.source → (∀ n ∈ notes, n.returns c = false) ∧
    s'.isOpen c = s.isOpen c ∧ s'.closings c = s.closings c
  held : ∀ id c, (s.holders id).connection = some c →
    ∀ n ∈ notes, n.returns c = false

theorem State.Ledger.accounts {deals notes : List Note} {new : List Deed}
    {s s' : State} (h : Ledger [] [] deals s s') (hsound : s.Sound)
    (hnotes : s'.journal = s.journal ++ notes)
    (hdeals : notes.filter Note.isDeal = deals) (hreported : Reported new deals)
    (hexcused : Excused s new) :
    Accounts notes new s s' := by
  have hmem : ∀ {n : Note}, n.isDeal = true → (n ∈ notes ↔ n ∈ deals) := by
    intro n hn
    rw [← hdeals, List.mem_filter, and_iff_left hn]
  have hback : ∀ c, deals.filter (Note.returns c) =
      notes.filter (Note.returns c) := by
    intro c
    rw [← hdeals]
    exact filter_filter_isDeal (fun _ => Note.isDeal_of_returns) notes
  have hnone : ∀ c, (∀ n ∈ notes, n.returns c = false) ↔
      ∀ n ∈ deals, n.returns c = false := by
    intro c
    have hiff := List.filter_eq_nil_iff (p := Note.returns c) (l := notes)
    rw [← hback, List.filter_eq_nil_iff] at hiff
    simpa using hiff.symm
  refine ⟨hnotes, h.dealt.nextId, fun c => ?_, fun c hacquired => ?_,
    fun c => ?_,
    fun c hfetched => ?_, fun c hknown => ?_, fun id c hconn => ?_⟩
  · rw [h.created_iff, hmem rfl, hmem rfl]
  · rw [hmem rfl] at hacquired
    obtain ⟨fault, hfault, hreturned⟩ := h.acquired_returned hacquired
    have hmade : deals.any (Note.makes c) = true :=
      List.any_eq_true.mpr ⟨_, hacquired, Note.makes_acquired c⟩
    have hnew := (h.created_iff.mpr (Or.inl hacquired)).1
    refine ⟨fault, hfault, (hback c).symm.trans hreturned, ?_, ?_⟩
    · rw [h.dealt.closings, hsound.closings c hnew, h.countP_closes hreturned,
        Nat.zero_add]
    · rw [h.isOpen_eq, hmade, h.any_closes hreturned, Bool.or_true,
        Bool.true_and]
      cases fault <;> rfl
  · rw [h.isOpen_iff (hsound.isOpen c), hmem rfl, hmem rfl, hnone]
  · rw [hmem rfl] at hfetched
    obtain ⟨holder, hdeed⟩ := hreported c hfetched
    cases holder with
    | none => exact Or.inl hdeed
    | some id => exact Or.inr ⟨id, hdeed, hexcused c id hdeed⟩
  · rw [hnone]
    exact ⟨h.not_returned hknown, h.older hknown⟩
  · rw [hnone]
    exact h.not_returned (hsound.held id c hconn)

namespace Coordinator

variable {σ ε α : Type} {plan : Plan σ ε α} {s : State}

/-- An execution of honest work settles its accounts, if no deadline passes. -/
theorem execute_accounts (c : Coordinator) (d : Definition)
    (hprompt : plan.Prompt) (hhonest : plan.Honest) (m : Diary σ)
    (hs : s.BoundExist) (hsound : s.Sound) :
    ∃ notes new, (c.execute d plan.run s m).memory.deeds = m.deeds ++ new ∧
      State.Accounts notes new s (c.execute d plan.run s m).state := by
  obtain ⟨deals, hledger⟩ := execute_ledger c d hprompt hhonest m hs
  obtain ⟨new, hnew, deals', hdeals, hreported⟩ :=
    (c.execution d plan s m).reported hs fun scope _ hs' =>
      plan.run_reported scope m hs'
  obtain ⟨new', hnew', hexcused⟩ := (c.execution d plan s m).excused hs
    fun scope _ hs' hforce => hprompt.run_excused scope m hs' hforce
  obtain rfl : deals' = deals := hdeals.unique hledger.dealt
  obtain rfl : new = new' := List.append_cancel_left (hnew.symm.trans hnew')
  obtain ⟨notes, hnotes, hfiltered⟩ := hledger.dealt.journal
  exact ⟨notes, new, hnew,
    hledger.accounts hsound hnotes hfiltered hreported hexcused⟩

end Coordinator

/-! ## Many executions -/

structure Site (σ : Type) where
  world : World
  contexts : Nat → Bindings HolderId
  diary : Diary σ

structure Job (σ ε α : Type) where
  context : Nat
  coordinator : Coordinator
  definition : Definition
  work : Plan σ ε α

namespace Site

variable {σ ε α : Type}

def state (site : Site σ) (i : Nat) : State where
  toWorld := site.world
  context := site.contexts i

def execute (site : Site σ) (job : Job σ ε α) : Site σ :=
  let run := job.coordinator.execute job.definition job.work.run
    (site.state job.context) site.diary
  { world := run.state.toWorld
    contexts := fun i => if i = job.context then
      run.state.context else site.contexts i
    diary := run.memory }

def executeAll (site : Site σ) (jobs : List (Job σ ε α)) : Site σ :=
  jobs.foldl execute site

theorem executeAll_append (site : Site σ) (jobs rest : List (Job σ ε α)) :
    site.executeAll (jobs ++ rest) = (site.executeAll jobs).executeAll rest :=
  List.foldl_append

/-- The state after an execution, on its own context. -/
theorem state_execute (site : Site σ) (job : Job σ ε α) :
    (site.execute job).state job.context =
      (job.coordinator.execute job.definition
      job.work.run (site.state job.context) site.diary).state := by
  simp [state, execute]

/-- An execution during which no deadline passes binds no holder in any
context. -/
theorem bound_execute {site : Site σ} {job : Job σ ε α}
    (hprompt : job.work.Prompt) (hs : (site.state job.context).BoundExist)
    (i : Nat) {key : Key} {id : HolderId}
    (hbound : ((site.execute job).state i).boundHolder key = some id) :
    (site.state i).boundHolder key = some id := by
  by_cases hi : i = job.context
  · rw [hi, state_execute] at hbound
    rw [hi]
    exact (Coordinator.execute_keeps (c := job.coordinator)
      (d := job.definition) (m := site.diary) hprompt hs).bound key id hbound
  · have hsame : ((site.execute job).state i).context =
        (site.state i).context := by
      simp [state, Site.execute, hi]
    rwa [State.boundHolder, hsame] at hbound

structure Sound (site : Site σ) : Prop where
  bound : ∀ i, (site.state i).BoundExist
  world : site.world.Sound

theorem Sound.execute {site : Site σ} {job : Job σ ε α} (h : site.Sound)
    (hprompt : job.work.Prompt) (hhonest : job.work.Honest) :
    (site.execute job).Sound := by
  have hbound := h.bound job.context
  have hkeeps := Coordinator.execute_keeps (c := job.coordinator)
    (d := job.definition) (m := site.diary) hprompt hbound
  obtain ⟨deals, hledger⟩ := Coordinator.execute_ledger job.coordinator
    job.definition hprompt hhonest site.diary hbound
  exact ⟨fun i key id hid => Nat.lt_of_lt_of_le
      (h.bound i key id (bound_execute hprompt hbound i hid)) hkeeps.nextHolder,
    World.Sound.later h.world hledger hkeeps.held⟩

theorem Sound.executeAll {site : Site σ} {jobs : List (Job σ ε α)}
    (h : site.Sound) (hjobs : ∀ job ∈ jobs, job.work.Prompt ∧ job.work.Honest) :
    (site.executeAll jobs).Sound := by
  induction jobs generalizing site with
  | nil => exact h
  | cons job rest ih =>
      obtain ⟨hprompt, hhonest⟩ := hjobs job List.mem_cons_self
      exact ih (h.execute hprompt hhonest) fun job' hjob' =>
        hjobs job' (List.mem_cons_of_mem job hjob')

theorem Sound.execute_accounts {site : Site σ} {job : Job σ ε α}
    (h : site.Sound) (hprompt : job.work.Prompt) (hhonest : job.work.Honest) :
    ∃ notes new, (site.execute job).diary.deeds = site.diary.deeds ++ new ∧
      State.Accounts notes new (site.state job.context)
        ((site.execute job).state job.context) := by
  rw [state_execute]
  exact Coordinator.execute_accounts job.coordinator job.definition hprompt
    hhonest site.diary (h.bound job.context) h.world

/-- What was there before a sequence of executions is not handed back by any of
them. -/
theorem Sound.executeAll_older {site : Site σ} {jobs : List (Job σ ε α)}
    (h : site.Sound) (hjobs : ∀ job ∈ jobs, job.work.Prompt ∧ job.work.Honest) :
    ∃ later, (site.executeAll jobs).world.journal =
      site.world.journal ++ later ∧
      ∀ c, c.id < site.world.nextId c.source →
        (∀ n ∈ later, n.returns c = false) ∧
        (site.executeAll jobs).world.isOpen c = site.world.isOpen c ∧
        (site.executeAll jobs).world.closings c = site.world.closings c := by
  induction jobs generalizing site with
  | nil => exact ⟨[], (List.append_nil _).symm, fun c _ => ⟨by simp, rfl, rfl⟩⟩
  | cons job rest ih =>
      obtain ⟨hprompt, hhonest⟩ := hjobs job List.mem_cons_self
      obtain ⟨notes, _, -, haccounts⟩ := h.execute_accounts hprompt hhonest
      obtain ⟨later, hlater, holder⟩ :=
        ih (h.execute hprompt hhonest) fun job' hjob' =>
        hjobs job' (List.mem_cons_of_mem job hjob')
      refine ⟨notes ++ later, ?_, fun c hknown => ?_⟩
      · have hjournal : (site.execute job).world.journal =
            site.world.journal ++ notes :=
          haccounts.journal
        exact hlater.trans (by rw [hjournal, List.append_assoc])
      · obtain ⟨hnone, hopen, hclosings⟩ := haccounts.older c hknown
        obtain ⟨hnone', hopen', hclosings'⟩ :=
          holder c (Nat.lt_of_lt_of_le hknown (haccounts.nextId c.source))
        refine ⟨fun n hn => ?_, hopen'.trans hopen, hclosings'.trans hclosings⟩
        exact (List.mem_append.mp hn).elim (hnone n) (hnone' n)

/-- In a sequence of executions of honest work during which no deadline passes,
each one settles its accounts: a connection that it acquires for a transaction
is handed back by one attempt, which closes it unless its source refuses it;
what is open afterwards was open before, was refused, or was fetched by a scope
and not handed back; and a scope fetches a connection only if it runs without a
transaction, or if someone has made a holder active without one.  What some
holder held before is not handed back, and the rest of the sequence does not
hand back again what the execution has acquired.  An execution inside the work
of another one has handed back what it has acquired when it ends. -/
theorem executeAll_settles_accounts {site : Site σ} (hsite : site.Sound)
    (jobs : List (Job σ ε α)) (job : Job σ ε α) (rest : List (Job σ ε α))
    (hjobs : ∀ j ∈ jobs ++ job :: rest, j.work.Prompt ∧ j.work.Honest) :
    (∃ notes new later,
      ((site.executeAll jobs).execute job).diary.deeds =
        (site.executeAll jobs).diary.deeds ++ new ∧
      State.Accounts notes new ((site.executeAll jobs).state job.context)
        (((site.executeAll jobs).execute job).state job.context) ∧
      (site.executeAll (jobs ++ job :: rest)).world.journal =
        ((site.executeAll jobs).execute job).world.journal ++ later ∧
      ∀ c, .line (.acquired c) ∈ notes → (∀ n ∈ later, n.returns c = false) ∧
        (site.executeAll (jobs ++ job :: rest)).world.isOpen c =
          ((site.executeAll jobs).execute job).world.isOpen c ∧
        (site.executeAll (jobs ++ job :: rest)).world.closings c =
          ((site.executeAll jobs).execute job).world.closings c) ∧
    ∀ (c : Coordinator) (d : Definition) (inner : Plan σ ε α) (s : State)
      (m : Diary σ), inner.Prompt → inner.Honest → s.BoundExist →
      ∃ notes, (c.execute d inner.run s m).state.journal = s.journal ++ notes ∧
        ∀ conn, .line (.acquired conn) ∈ notes → ∃ fault, ReleaseOutcome fault ∧
          notes.filter (Note.returns conn) =
            [.driver (.release conn.source conn) fault] := by
  constructor
  · have hbefore : (site.executeAll jobs).Sound :=
      hsite.executeAll fun j hj => hjobs j (List.mem_append_left _ hj)
    obtain ⟨hprompt, hhonest⟩ :=
      hjobs job (List.mem_append_right _ List.mem_cons_self)
    obtain ⟨notes, new, hnew, haccounts⟩ :=
      hbefore.execute_accounts hprompt hhonest
    have hrest : ∀ j ∈ rest, j.work.Prompt ∧ j.work.Honest := fun j hj =>
      hjobs j (List.mem_append_right _ (List.mem_cons_of_mem job hj))
    obtain ⟨later, hlater, holder⟩ :=
      (hbefore.execute hprompt hhonest).executeAll_older hrest
    have hall : site.executeAll (jobs ++ job :: rest) =
        ((site.executeAll jobs).execute job).executeAll rest := by
      rw [executeAll_append]
      rfl
    rw [hall]
    exact ⟨notes, new, later, hnew, haccounts, hlater, fun c hacquired =>
      holder c ((haccounts.created c).mpr (Or.inl hacquired)).2⟩
  · intro c d inner s m hprompt hhonest hs
    obtain ⟨deals, hledger⟩ :=
      Coordinator.execute_ledger c d hprompt hhonest m hs
    obtain ⟨notes, hnotes, hfiltered⟩ := hledger.dealt.journal
    refine ⟨notes, hnotes, fun conn hacquired => ?_⟩
    have hdeal : .line (.acquired conn) ∈ deals := by
      rw [← hfiltered]
      exact List.mem_filter.mpr ⟨hacquired, rfl⟩
    rw [← filter_filter_isDeal (fun _ => Note.isDeal_of_returns)
      notes, hfiltered]
    exact hledger.acquired_returned hdeal

/-- The connection of a transaction for work that fails is handed back once,
although other work fetches one of its own and hands that back in the
meantime. -/
theorem executeAll_settles_failed_work :
    let c : Coordinator := { source := ⟨0, ⟨"db"⟩⟩ }
    let borrowing : Plan Unit Unit Unit := .step .connection fun answer =>
      match answer with
      | .ok conn => .step (.handBack conn) fun _ => .finish (.ok ())
      | .error e => .finish (.error (.transaction e))
    let work : Plan Unit Unit Unit :=
      .execute c { propagation := .notSupported } borrowing fun _ =>
        .finish (.error (.own ()))
    let site : Site Unit :=
      { world := {}, contexts := fun _ => Bindings.empty, diary := ⟨(), []⟩ }
    let job : Job Unit Unit Unit := ⟨0, c, {}, work⟩
    work.Prompt ∧ work.Honest ∧ ∃ fault, ReleaseOutcome fault ∧
      (site.execute job).world.journal.filter (Note.returns ⟨0, 1⟩) =
        [.driver (.release 0 ⟨0, 1⟩) fault] := by
  intro c borrowing work site job
  have hborrowing : borrowing.Prompt := by
    intro answer
    cases answer with
    | ok conn => exact fun _ => trivial
    | error e => trivial
  have hprompt : work.Prompt := ⟨hborrowing, fun _ => trivial⟩
  have hreturns : borrowing.Honest := by
    intro scope s m
    refine ⟨trivial, ?_⟩
    generalize Plan.Step.take scope s m .connection = taken
    obtain ⟨answer, scope', s', m'⟩ := taken
    cases answer with
    | ok conn => exact ⟨List.mem_singleton_self conn, trivial⟩
    | error e => trivial
  have hhonest : work.Honest := fun _ _ _ => ⟨hreturns, fun _ _ => trivial⟩
  have hsite : site.Sound := by
    refine ⟨fun i key id hid => ?_, fun id conn hconn => ?_,
      fun conn hopen => ?_,
      fun conn _ => rfl⟩
    · cases hid
    · cases hconn
    · cases hopen
  obtain ⟨⟨notes, new, later, -, haccounts, -⟩, -⟩ :=
    executeAll_settles_accounts hsite [] job [] fun j hj => by
      rw [List.mem_singleton.mp hj]
      exact ⟨hprompt, hhonest⟩
  have hjournal : (site.execute job).world.journal = notes := haccounts.journal
  have hacquired : .line (.acquired ⟨0, 1⟩) ∈ notes := by
    rw [← hjournal]
    decide +kernel
  obtain ⟨fault, hfault, hreturned, -⟩ := haccounts.acquired ⟨0, 1⟩ hacquired
  rw [hjournal]
  exact ⟨hprompt, hhonest, fault, hfault, hreturned⟩

/-- Work that joins the transaction of a holder without a connection leaves the
connection open that it has fetched.  So what is open after an execution need
not have been open before, refused, or fetched by a scope without a
transaction. -/
theorem execute_leaves_fetched_open :
    let c : Coordinator := { source := ⟨0, ⟨"db"⟩⟩ }
    let site : Site Unit :=
      { world :=
          { holders := fun _ => { connection := none, stage := .active },
            nextHolder := 1 }
        contexts := fun _ => Bindings.empty.insert ⟨"db"⟩ 0, diary := ⟨(), []⟩ }
    let job : Job Unit Unit Unit :=
      ⟨0, c, {}, .step .connection fun _ => .finish (.ok ())⟩
    site.Sound ∧ job.work.Prompt ∧ job.work.Honest ∧
      (site.execute job).diary.deeds = [.fetched ⟨0, 1⟩ (some 0)] ∧
      ¬ ∀ conn, (site.execute job).world.isOpen conn = true ↔
        site.world.isOpen conn = true ∨
        refusal conn ∈ (site.execute job).world.journal ∨
          .fetched conn none ∈ (site.execute job).diary.deeds ∧
            ∀ n ∈ (site.execute job).world.journal, n.returns conn = false := by
  intro c site job
  have hdeeds : (site.execute job).diary.deeds =
      [.fetched ⟨0, 1⟩ (some 0)] := by
    decide +kernel
  refine ⟨⟨fun i key id hid => ?_, fun id conn hconn => ?_,
    fun conn hopen => ?_,
    fun conn _ => rfl⟩, fun _ => trivial,
    fun _ _ _ => ⟨trivial, trivial⟩, hdeeds,
    fun hall => ?_⟩
  · rw [State.boundHolder, state, Bindings.get?_insert] at hid
    split at hid
    · obtain rfl := Option.some.inj hid
      exact Nat.one_pos
    · simp at hid
  · cases hconn
  · cases hopen
  · have hopen : (site.execute job).world.isOpen ⟨0, 1⟩ = true := by
      decide +kernel
    have hrefused : refusal ⟨0, 1⟩ ∉ (site.execute job).world.journal := by
      decide +kernel
    rcases (hall ⟨0, 1⟩).mp hopen with hbefore | hrefusal | ⟨hfetched, -⟩
    · cases hbefore
    · exact hrefused hrefusal
    · rw [hdeeds] at hfetched
      simp at hfetched

end Site

end UnitOfWork
