import UnitOfWork.Proofs.ExclusiveConnection
import UnitOfWork.Proofs.Keeping

/-!
# The ledger of a run

A ledger relates two states by the deals between them and balances, for every
connection, the attempts to hand it back against what gave the right to them:
that the connection was new in the run, or that it was pending before.  A
connection is pending when a scope has given it and its work has still to hand
it back.  Work is honest if it hands back only what its scope has given it, once
for each time that it was given.
-/

namespace UnitOfWork

/-- Whether by an entry some source was asked to take a certain connection
back. -/
def Note.returns (c : Connection) : Note → Bool
  | .driver (.release _ other) _ => other = c
  | _ => false

/-- Whether by an entry a certain connection was acquired for a transaction. -/
def Note.acquires (c : Connection) : Note → Bool
  | .line (.acquired other) => other = c
  | _ => false

/-- A connection is handed back to its own source, which takes it or refuses
to. -/
def Note.Proper (n : Note) : Prop :=
  ∀ source c fault, n = .driver (.release source c) fault →
    source = c.source ∧ ReleaseOutcome fault

namespace Note

variable {c : Connection} {n : Note}

theorem Proper.of_returns (h : n.Proper) (hreturns : n.returns c = true) :
    ∃ fault, ReleaseOutcome fault ∧
      n = .driver (.release c.source c) fault := by
  unfold returns at hreturns
  split at hreturns
  · next source other fault =>
      obtain rfl : other = c := of_decide_eq_true hreturns
      obtain ⟨rfl, hfault⟩ := h source other fault rfl
      exact ⟨fault, hfault, rfl⟩
  · cases hreturns

theorem Proper.returns_of_closes (h : n.Proper) (hcloses : n.closes c = true) :
    n.returns c = true := by
  unfold closes at hcloses
  split at hcloses
  · next source other =>
      obtain ⟨rfl, -⟩ := h source other none rfl
      obtain ⟨hsource, hid⟩ := by simpa using hcloses
      apply decide_eq_true
      cases other
      cases c
      simp_all
  · cases hcloses

theorem proper_of_not_returns (h : ∀ c, n.returns c = false) : n.Proper := by
  intro source c fault hn
  have hreturns := h c
  rw [hn] at hreturns
  exact absurd hreturns (by simp [returns])

theorem makes_of_acquires (h : n.acquires c = true) : n.makes c = true := by
  unfold acquires at h
  split at h
  · obtain rfl := of_decide_eq_true h
    simp [makes, made?, Line.made?]
  · cases h

/-- A new connection was acquired for a transaction or fetched by a scope. -/
theorem acquired_or_fetched (h : n.makes c = true) :
    n = .line (.acquired c) ∨ n = .line (.fetched c) := by
  have hmade : n.made? = some c := of_decide_eq_true h
  unfold made? at hmade
  split at hmade
  · unfold Line.made? at hmade
    split at hmade
    · exact Or.inl (congrArg _ (congrArg _ (Option.some.inj hmade)))
    · exact Or.inr (congrArg _ (congrArg _ (Option.some.inj hmade)))
    · cases hmade
  · cases hmade

theorem isDeal_of_returns (h : n.returns c = true) : n.isDeal = true := by
  unfold returns at h
  split at h
  · rfl
  · cases h

end Note

/-- The connections of a run are in balance, where some connections were pending
before and some are afterwards. -/
structure State.Ledger (pending pending' : List Connection) (deals : List Note)
    (s s' : State) : Prop where
  dealt : Deals deals s s'
  known : ∀ c ∈ pending, c.id < s.nextId c.source
  balance : ∀ c, deals.countP (Note.returns c) + pending'.count c ≤
    pending.count c + deals.countP (Note.makes c)
  repaid : ∀ c, deals.countP (Note.acquires c) ≤ deals.countP (Note.returns c)
  proper : ∀ n ∈ deals, n.Proper
  ordered : ∀ c, deals.Pairwise fun n n' => n.closes c = true →
    n'.makes c = false

namespace State.Ledger

variable {pending pending' pending'' : List Connection}
variable {deals deals' : List Note} {s s' s'' : State}

/-- What was handed back in a run was known by its end. -/
theorem known_of_returns (h : Ledger pending pending' deals s s')
    {c : Connection} {n : Note} (hn : n ∈ deals)
    (hreturns : n.returns c = true) : c.id < s'.nextId c.source := by
  have hcount : 0 < deals.countP (Note.returns c) :=
    List.countP_pos_iff.mpr ⟨n, hn, hreturns⟩
  have hbalance := h.balance c
  rcases Nat.eq_zero_or_pos (deals.countP (Note.makes c)) with hnone | hmade
  · have hpending : c ∈ pending := List.count_pos_iff.mp (by omega)
    exact Nat.lt_of_lt_of_le (h.known c hpending) (h.dealt.nextId c.source)
  · obtain ⟨n', hn', hmakes⟩ := List.countP_pos_iff.mp hmade
    exact (h.dealt.new_of_makes hn' hmakes).2

theorem nothing (hknown : ∀ c ∈ pending, c.id < s.nextId c.source)
    (h : Deals [] s s') :
    Ledger pending pending [] s s' where
  dealt := h
  known := hknown
  balance c := by simp
  repaid _ := Nat.le_refl _
  proper _ hn := by cases hn
  ordered _ := .nil

theorem trans (h : Ledger pending pending' deals s s')
    (h' : Ledger pending' pending'' deals' s' s'') :
    Ledger pending pending'' (deals ++ deals') s s'' where
  dealt := h.dealt.trans h'.dealt
  known := h.known
  balance c := by
    have hfirst := h.balance c
    have hsecond := h'.balance c
    rw [List.countP_append, List.countP_append]
    omega
  repaid c := by
    rw [List.countP_append, List.countP_append]
    exact Nat.add_le_add (h.repaid c) (h'.repaid c)
  proper n hn := (List.mem_append.mp hn).elim (h.proper n) (h'.proper n)
  ordered c := by
    refine List.pairwise_append.mpr ⟨h.ordered c, h'.ordered c,
      fun n hn n' hn' hcloses => ?_⟩
    -- What was handed back in the first part is not new in the second.
    have hknown :=
      h.known_of_returns hn ((h.proper n hn).returns_of_closes hcloses)
    apply Bool.eq_false_iff.mpr
    intro hmakes
    exact Nat.not_lt.mpr (h'.dealt.new_of_makes hn' hmakes).1 hknown

/-- What happens elsewhere leaves alone what is pending here. -/
theorem frame (h : Ledger [] pending' deals s s')
    (hknown : ∀ c ∈ pending, c.id < s.nextId c.source) :
    Ledger pending pending deals s s' where
  dealt := h.dealt
  known := hknown
  balance c := by
    have hbalance := h.balance c
    rw [List.count_nil] at hbalance
    omega
  repaid := h.repaid
  proper := h.proper
  ordered := h.ordered

/-- What is still pending need not be handed back. -/
theorem forget (h : Ledger pending pending' deals s s') :
    Ledger pending [] deals s s' where
  dealt := h.dealt
  known := h.known
  balance c := by
    have hbalance := h.balance c
    rw [List.count_nil]
    omega
  repaid := h.repaid
  proper := h.proper
  ordered := h.ordered

/-- A part of a run is in balance, and so is what is dealt before and after it:
the connections that are acquired before are the ones that are handed back
after. -/
theorem enclose {s₁ s₂ : State} {before after : List Note}
    (h : Ledger [] pending' deals s₁ s₂)
    (hall : Deals (before ++ deals ++ after) s s')
    (hbefore : ∀ n ∈ before, ∀ c, n.returns c = false)
    (hafter : ∀ n ∈ after, ∀ c, n.makes c = false)
    (hmade : ∀ c, before.countP (Note.makes c) = after.countP (Note.returns c))
    (hacquired : ∀ c, before.countP (Note.acquires c) =
      after.countP (Note.returns c))
    (hproper : ∀ n ∈ after, n.Proper) :
    Ledger [] [] (before ++ deals ++ after) s s' := by
  have hnoneBack : ∀ c, before.countP (Note.returns c) = 0 := fun c =>
    List.countP_eq_zero.mpr fun n hn => by simp [hbefore n hn c]
  have hnoneMade : ∀ c, after.countP (Note.makes c) = 0 := fun c =>
    List.countP_eq_zero.mpr fun n hn => by simp [hafter n hn c]
  have hnoneAcquired : ∀ c, after.countP (Note.acquires c) = 0 := fun c =>
    List.countP_eq_zero.mpr fun n hn hacquires => by
      simpa [hafter n hn c] using Note.makes_of_acquires hacquires
  have hproper' : ∀ n ∈ before ++ deals ++ after, n.Proper := by
    intro n hn
    rcases List.mem_append.mp hn with hn | hn
    · rcases List.mem_append.mp hn with hn | hn
      · exact Note.proper_of_not_returns (hbefore n hn)
      · exact h.proper n hn
    · exact hproper n hn
  refine ⟨hall, by simp, fun c => ?_, fun c => ?_, hproper', fun c => ?_⟩
  · have hbalance := h.balance c
    rw [List.count_nil] at hbalance
    rw [List.countP_append, List.countP_append, List.countP_append,
      List.countP_append, hnoneBack, hnoneMade, hmade, List.count_nil]
    omega
  · have hrepaid := h.repaid c
    rw [List.countP_append, List.countP_append, List.countP_append,
      List.countP_append, hnoneBack, hnoneAcquired, hacquired]
    omega
  · have hfirst : ∀ n ∈ before, n.closes c = false := by
      intro n hn
      apply Bool.eq_false_iff.mpr
      intro hcloses
      have hreturns :=
        (Note.proper_of_not_returns (hbefore n hn)).returns_of_closes hcloses
      rw [hbefore n hn c] at hreturns
      cases hreturns
    refine List.pairwise_append.mpr
      ⟨List.pairwise_append.mpr ⟨?_, h.ordered c, ?_⟩, ?_, ?_⟩
    · refine List.pairwise_of_forall_mem_list fun n hn n' _ hcloses => ?_
      rw [hfirst n hn] at hcloses
      cases hcloses
    · intro n hn n' _ hcloses
      rw [hfirst n hn] at hcloses
      cases hcloses
    · exact List.pairwise_of_forall_mem_list fun n _ n' hn' _ => hafter n' hn' c
    · exact fun n _ n' hn' _ => hafter n' hn' c

end State.Ledger

/-! ## Executions -/

namespace Coordinator

variable {σ ε α : Type} {c : Coordinator} {d : Definition} {s s' : State}

theorem callsOn_made (conn : Connection) (calls : List (Call × Option Fault)) :
    ∀ n ∈ callsOn conn calls, ∀ k, n.makes k = false ∧ n.returns k = false ∧
      n.acquires k = false := by
  intro n hn k
  obtain ⟨request, -, rfl⟩ := List.mem_map.mp hn
  exact ⟨rfl, rfl, rfl⟩

/-- The bracket of an attempt at a transaction, which talks to its connection
between what it does to get it and to hand it back. -/
theorem ledger_bracket {owns : Bool} {conn : Connection} {fault : Option Fault}
    (calls calls' : List (Call × Option Fault)) {pending' : List Connection}
    {deals : List Note} {s₁ s₂ : State}
    (h : State.Ledger [] pending' deals s₁ s₂)
    (hsource : owns = true → conn.source = c.source.id)
    (hfault : ReleaseOutcome fault)
    (hall : State.Deals
      ((acquisition owns conn ++ callsOn conn calls) ++ deals ++
      (callsOn conn calls' ++ c.restitution owns conn fault)) s s') :
    State.Ledger [] []
      ((acquisition owns conn ++ callsOn conn calls) ++ deals ++
      (callsOn conn calls' ++ c.restitution owns conn fault)) s s' := by
  have hcalls : ∀ (calls : List (Call × Option Fault))
      (p : Connection → Note → Bool) k,
      (∀ n ∈ callsOn conn calls, p k n = false) →
      (callsOn conn calls).countP (p k) = 0 :=
    fun calls p k hp => List.countP_eq_zero.mpr fun n hn => by simp [hp n hn]
  have hreturned : ∀ k,
      (callsOn conn calls' ++ c.restitution owns conn fault).countP
      (Note.returns k) = if owns = true ∧ conn = k then 1 else 0 := by
    intro k
    rw [List.countP_append, hcalls calls' Note.returns k fun n hn =>
      (callsOn_made conn calls' n hn k).2.1]
    cases owns <;> simp [restitution, Note.returns]
  refine h.enclose hall (fun n hn k => ?_) (fun n hn k => ?_) (fun k => ?_)
    (fun k => ?_)
    fun n hn => ?_
  · rcases List.mem_append.mp hn with hn | hn
    · cases owns with
      | false => cases hn
      | true =>
          rw [List.mem_singleton.mp hn]
          rfl
    · exact (callsOn_made conn calls n hn k).2.1
  · rcases List.mem_append.mp hn with hn | hn
    · exact (callsOn_made conn calls' n hn k).1
    · cases owns with
      | false => cases hn
      | true =>
          rw [List.mem_singleton.mp hn]
          rfl
  · rw [hreturned, List.countP_append, hcalls calls Note.makes k fun n hn =>
      (callsOn_made conn calls n hn k).1]
    cases owns <;> simp [acquisition, Note.makes, Note.made?, Line.made?]
  · rw [hreturned, List.countP_append, hcalls calls Note.acquires k fun n hn =>
      (callsOn_made conn calls n hn k).2.2]
    cases owns <;> simp [acquisition, Note.acquires]
  · rcases List.mem_append.mp hn with hn | hn
    · exact Note.proper_of_not_returns fun k =>
        (callsOn_made conn calls' n hn k).2.1
    · cases owns with
      | false => cases hn
      | true =>
          intro source k fault' hn'
          rw [List.mem_singleton.mp hn] at hn'
          injection hn' with hrelease hsame
          injection hrelease with hsource' hconn
          rw [← hsource', ← hconn, ← hsame]
          exact ⟨(hsource rfl).symm, hfault⟩

/-- An execution that is not dropped is in balance if its work is. -/
theorem Execution.ledger {body : Plan σ ε α} {m : Diary σ}
    {run : Run (Diary σ) ε α} (hrun : c.Execution d body s m run)
    (hs : s.BoundExist) (hfinished : ∃ result, run.ending = .finished result)
    (hbody : ∀ scope s', s'.BoundExist → ∃ deals pending',
      State.Ledger [] pending' deals s' (body.run scope s' m).2.state) :
    ∃ deals, State.Ledger [] [] deals s run.state := by
  have hnone : ∀ {s : State}, ∀ k ∈ ([] : List Connection),
      k.id < s.nextId k.source := by simp
  cases hrun.passage hs with
  | idle hstate =>
      rw [hstate]
      exact ⟨[], .nothing hnone (.refl s)⟩
  | @through scope s₀ hentered hheld hbefore hheld' hafter hmemory =>
      obtain ⟨deals, pending', hledger⟩ :=
        hbody scope s₀ (hentered.steady.boundExist hs)
      have hboth := (State.Ledger.nothing hnone hbefore).trans hledger.forget
      exact ⟨_, hboth.trans (.nothing hnone hafter)⟩
  | @notBegun suspended s' deals hfailed hheld hdeals =>
      cases hfailed with
      | refused => exact ⟨[], .nothing hnone hdeals⟩
      | @abandoned conn id owns calls fault horigin hsource hcalls hfault =>
          have hnothing : State.Ledger [] [] [] s s := .nothing hnone (.refl s)
          refine ⟨_, ledger_bracket calls [] hnothing hsource hfault ?_⟩
          rw [List.append_nil]
          exact hdeals
  | @within suspended conn id h s₁ request fault fault' hentered hbegun hsource
      hbefore hrequest hfault hheld hafter hmemory =>
      obtain ⟨deals, pending', hledger⟩ := hbody (.beginning c h) s₁
        (hbegun.boundExist hs)
      have hall := (hbefore.trans hledger.dealt).trans hafter
      exact ⟨_, ledger_bracket [(.begin, none)]
        [(request, fault)] hledger hsource hfault hall⟩
  | dropped hcourse hentered hbegun hbefore hending =>
      obtain ⟨result, hresult⟩ := hfinished
      rw [hending] at hresult
      cases hresult

end Coordinator

end UnitOfWork
