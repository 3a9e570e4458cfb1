import UnitOfWork.Proofs.ExclusiveConnection
import UnitOfWork.Proofs.Keeping

/-!
# What is settled with the drivers

The deals of a run are settled when every transaction that was begun in it has
been ended by a call on its connection, and every connection that was acquired
in it has been handed back, or its source has refused to take it.  A run is
settled if no execution was dropped in a transaction that had been begun for it.
-/

namespace UnitOfWork

/-- Whether by an entry the driver began a transaction on a certain
connection. -/
def Note.begins (conn : Connection) : Note → Bool
  | .driver (.call other .begin) none => other = conn
  | _ => false

theorem Note.isDeal_of_begins {conn : Connection} {n : Note}
    (h : n.begins conn = true) :
    n.isDeal = true := by
  unfold Note.begins at h
  split at h
  · rfl
  · cases h

/-- Whether a transaction that was begun on a connection has still to be ended
after some entries, of which an attempt to end it is one whatever became of
it. -/
def ongoing (conn : Connection) (notes : List Note) : Bool :=
  switched (Note.begins conn) (Note.ends conn) false notes

theorem ongoing_filter_isDeal (conn : Connection) (notes : List Note) :
    ongoing conn (notes.filter Note.isDeal) = ongoing conn notes :=
  switched_filter (fun _ => Note.isDeal_of_begins)
    (fun _ => Note.isDeal_of_ends) false notes

/-- After some notes no transaction is ongoing that was begun in them, and no
connection that was acquired in them is open, unless its source has refused to
take it back. -/
structure State.Settled (notes : List Note) (s : State) : Prop where
  ended : ∀ conn, ongoing conn notes = false
  handedBack : ∀ conn, .line (.acquired conn) ∈ notes →
    s.isOpen conn = false ∨ refusal conn ∈ notes

namespace State.Settled

variable {deals deals' : List Note} {s s' s'' : State}

/-- Where nothing was dealt, everything is settled. -/
theorem nil (s : State) : Settled [] s where
  ended _ := rfl
  handedBack _ h := by cases h

theorem trans (hfirst : Deals deals s s') (h : Settled deals s')
    (hsecond : Deals deals' s' s'') (h' : Settled deals' s'') :
    Settled (deals ++ deals') s'' where
  ended conn := by
    have hbefore := h.ended conn
    rw [ongoing] at hbefore ⊢
    rw [switched_append, hbefore]
    exact h'.ended conn
  handedBack conn hconn := by
    apply (List.mem_append.mp hconn).elim
    · intro hacquired
      have hknown := (hfirst.new_of_acquired hacquired).2
      apply (h.handedBack conn hacquired).imp
      · exact hsecond.closed hknown
      · exact List.mem_append_left _
    · intro hacquired
      exact (h'.handedBack conn hacquired).imp_right (List.mem_append_right _)

/-- Nothing was dealt before and after. -/
theorem around {s₀ : State} (hbefore : Deals [] s₀ s)
    (hdeals : Deals deals s s') (h : Settled deals s')
    (hafter : Deals [] s' s'') :
    Deals deals s₀ s'' ∧ Settled deals s'' := by
  have hdeals' : Deals deals s₀ s' := hbefore.trans hdeals
  have hsettled := trans hdeals' h hafter (.nil s'')
  rw [List.append_nil] at hsettled
  exact ⟨hdeals'.andThen hafter, hsettled⟩

end State.Settled

namespace Coordinator

variable {σ ε α : Type} {c : Coordinator} {d : Definition} {s s' : State}
variable {conn : Connection}

/-- A connection that was handed back last is not open, unless its source has
refused to take it. -/
theorem closed_of_restitution {deals : List Note} {fault : Option Fault}
    {owns : Bool}
    (hdeals : State.Deals (deals ++ c.restitution owns conn fault) s s')
    (howns : owns = true) (hsource : conn.source = c.source.id)
    (hfault : ReleaseOutcome fault) :
    s'.isOpen conn = false ∨
    refusal conn ∈ deals ++ c.restitution owns conn fault := by
  subst howns
  rcases hfault with rfl | rfl
  · apply Or.inl
    rw [hdeals.isOpen, restitution, if_pos rfl]
    simp [Note.makes, Note.made?, Note.closes, hsource]
  · refine Or.inr (List.mem_append_right _ ?_)
    simp [restitution, refusal, hsource]

theorem mem_acquisition {owns : Bool} {other : Connection}
    (h : .line (.acquired other) ∈ acquisition owns conn) :
    owns = true ∧ other = conn := by
  cases owns with
  | false => cases h
  | true => simpa [acquisition] using h

theorem not_acquired_of_restitution {owns : Bool} {other : Connection}
    {fault : Option Fault} :
    .line (.acquired other) ∉ c.restitution owns conn fault := by
  cases owns <;> simp [restitution]

theorem restitution_begins (c : Coordinator) (owns : Bool)
    (conn other : Connection) (fault : Option Fault) :
    ∀ n ∈ c.restitution owns other fault, n.begins conn = false := by
  cases owns <;> simp [restitution, Note.begins]

theorem acquisition_begins (owns : Bool) (conn other : Connection) :
    ∀ n ∈ acquisition owns other, n.begins conn = false := by
  cases owns <;> simp [acquisition, Note.begins]

theorem ongoing_acquisition (owns : Bool) (conn other : Connection)
    (notes : List Note) :
    ongoing conn (acquisition owns other ++ notes) = ongoing conn notes := by
  unfold ongoing
  rw [switched_append, switched_same (acquisition_begins owns conn other)
    (acquisition_ends owns conn other)]

theorem ongoing_restitution (c : Coordinator) (owns : Bool)
    (conn other : Connection) (fault : Option Fault) (notes : List Note) :
    ongoing conn (notes ++ c.restitution owns other fault) =
      ongoing conn notes := by
  unfold ongoing
  rw [switched_append,
    switched_same (c.restitution_begins owns conn other fault)
      (c.restitution_ends owns conn other fault)]

/-- A beginning that fails leaves nothing to be settled. -/
theorem settled_of_failedDeals {h : Handle} {s₀ s₁ : State} {deals : List Note}
    (hfailed : c.FailedDeals h s₀ s₁ deals) (hdeals : State.Deals deals s s') :
    State.Settled deals s' := by
  cases hfailed with
  | refused => exact .nil s'
  | @abandoned conn id owns calls fault horigin hsource hcalls hfault =>
      refine ⟨fun other => ?_, fun other hother => ?_⟩
      · rw [ongoing_restitution, ongoing_acquisition]
        rcases hcalls with hnot | ⟨f, rfl⟩
        · cases hnot with
          | untried => rfl
          | refused f => simp [ongoing, callsOn, Note.begins]
        · by_cases heq : conn = other <;>
            simp [ongoing, callsOn, Note.begins, Note.ends, heq]
      · have hacquired : .line (.acquired other) ∈ acquisition owns conn := by
          rcases List.mem_append.mp hother with hleft | hright
          · rcases List.mem_append.mp hleft with hfirst | hcall
            · exact hfirst
            · obtain ⟨request, -, hrequest⟩ := List.mem_map.mp hcall
              cases hrequest
          · exact (not_acquired_of_restitution hright).elim
        obtain ⟨howns, rfl⟩ := mem_acquisition hacquired
        exact closed_of_restitution hdeals howns (hsource howns) hfault

/-- The bracket of a transaction is settled if the run between its beginning and
its end is. -/
theorem settled_within {owns : Bool} {request : Call}
    {fault fault' : Option Fault} {deals : List Note} {s₁ s₂ : State}
    (hsource : owns = true → conn.source = c.source.id)
    (hbefore : State.Deals
      (acquisition owns conn ++ [.driver (.call conn .begin) none]) s s₁)
    (hdeals : State.Deals deals s₁ s₂) (hsettled : State.Settled deals s₂)
    (hrequest : request = .commit ∨ request = .rollback)
    (hfault : ReleaseOutcome fault') (hafter : State.Deals
      (.driver (.call conn request) fault ::
        c.restitution owns conn fault') s₂ s') :
    State.Settled
      ((acquisition owns conn ++ [.driver (.call conn .begin) none] ++ deals) ++
      (.driver (.call conn request) fault :: c.restitution owns conn fault'))
        s' := by
  have hall := (hbefore.trans hdeals).trans hafter
  have hshape :
      (acquisition owns conn ++ [.driver (.call conn .begin) none] ++ deals) ++
      (.driver (.call conn request) fault :: c.restitution owns conn fault') =
      (acquisition owns conn ++
        (([.driver (.call conn .begin) none] ++ deals) ++
        [.driver (.call conn request) fault])) ++
        c.restitution owns conn fault' := by
    simp only [List.append_assoc, List.cons_append, List.nil_append]
  rw [hshape] at hall ⊢
  refine ⟨fun other => ?_, fun other hother => ?_⟩
  · have hbody := hsettled.ended other
    rw [ongoing_restitution, ongoing_acquisition]
    rw [ongoing] at hbody ⊢
    rw [switched_append, switched_append]
    by_cases heq : conn = other
    · -- The last call ends whatever was begun on the connection.
      rcases hrequest with rfl | rfl <;> simp [Note.begins, Note.ends, heq]
    · have hbegin : switched (Note.begins other) (Note.ends other) false
          [.driver (.call conn .begin) none] = false := by
        simp [Note.begins, heq]
      rw [hbegin, hbody]
      rcases hrequest with rfl | rfl <;> simp [Note.begins]
  · have hwhere : .line (.acquired other) ∈ acquisition owns conn ∨
        .line (.acquired other) ∈ deals := by
      have hnot : .line (.acquired other) ∉ c.restitution owns conn fault' :=
        not_acquired_of_restitution
      simpa [hnot] using hother
    apply hwhere.elim
    · intro hacquired
      obtain ⟨howns, rfl⟩ := mem_acquisition hacquired
      exact closed_of_restitution hall howns (hsource howns) hfault
    · intro hinner
      have hknown := (hdeals.new_of_acquired hinner).2
      apply (hsettled.handedBack other hinner).imp
      · exact hafter.closed hknown
      · intro hrefused
        simp [hrefused]

/-- An execution is settled if its work is and no transaction that was begun for
it is left. -/
theorem Execution.settled {body : Plan σ ε α} {m : Diary σ}
    {run : Run (Diary σ) ε α} (hrun : c.Execution d body s m run)
    (hs : s.BoundExist) (hcut : ∀ outer suspended, run.ending = .overdue outer →
      c.course d s ≠ .begins suspended)
    (hbody : ∀ scope s', s'.BoundExist →
      run.memory = (body.run scope s' m).2.memory →
      ∃ deals, State.Deals deals s' (body.run scope s' m).2.state ∧
        State.Settled deals (body.run scope s' m).2.state) :
    ∃ deals, State.Deals deals s run.state ∧ State.Settled deals run.state := by
  cases hrun.passage hs with
  | idle hstate =>
      rw [hstate]
      exact ⟨[], .refl s, .nil s⟩
  | @through scope s₀ hentered hheld hbefore hheld' hafter hmemory =>
      obtain ⟨deals, hdeals, hsettled⟩ :=
        hbody scope s₀ (hentered.steady.boundExist hs) hmemory
      exact ⟨deals, hsettled.around hbefore hdeals hafter⟩
  | notBegun hfailed hheld hdeals =>
      exact ⟨_, hdeals, settled_of_failedDeals hfailed hdeals⟩
  | @within suspended conn id h s₁ request fault fault' hentered hbegun hsource
      hbefore hrequest hfault hheld hafter hmemory =>
      obtain ⟨deals, hdeals, hsettled⟩ := hbody (.beginning c h) s₁
        (hbegun.boundExist hs) hmemory
      exact ⟨_, (hbefore.trans hdeals).trans hafter,
        settled_within hsource hbefore hdeals hsettled hrequest hfault hafter⟩
  | dropped hcourse hentered hbegun hbefore hending =>
      exact (hcut _ _ hending hcourse).elim

end Coordinator

namespace Plan

variable {σ ε α : Type} {Lost : HolderId → Prop}

theorem Step.take_settled (step : Step σ) (scope : Scope) (s : State)
    (m : Diary σ) :
    ∃ deals, State.Deals deals s (step.take scope s m).state ∧
      State.Settled deals (step.take scope s m).state := by
  rcases step.take_deals scope s m with h | ⟨conn, h⟩ | ⟨conn, fault, h⟩
  · exact ⟨[], h, .nil _⟩
  · exact ⟨_, h, fun _ => rfl, fun other hother => by simp at hother⟩
  · exact ⟨_, h, fun _ => rfl, fun other hother => by simp at hother⟩

/-- The run of a plan is settled if what is done in it is harmless. -/
theorem run_settled (plan : Plan σ ε α) {scope : Scope} {s : State}
    {m : Diary σ} (hs : s.BoundExist)
    (hdone : Diary.AllNew (Deed.Harmless Lost) m
      (plan.run scope s m).2.memory) :
    ∃ deals, State.Deals deals s (plan.run scope s m).2.state ∧
      State.Settled deals (plan.run scope s m).2.state := by
  have hrun := run_induction
    (R := fun s new s' => (∀ deed ∈ new, deed.Harmless Lost) →
      ∃ deals, State.Deals deals s s' ∧ State.Settled deals s')
    (fun s _ => ⟨[], .refl s, .nil s⟩)
    (fun _ _ hfirst hsecond hdone => by
      obtain ⟨deals, hdeals, hsettled⟩ :=
        hfirst fun deed hdeed => hdone deed (List.mem_append_left _ hdeed)
      obtain ⟨rest, hrest, hsettled'⟩ :=
        hsecond fun deed hdeed => hdone deed (List.mem_append_right _ hdeed)
      exact ⟨_, hdeals.trans hrest, hsettled.trans hdeals hrest hsettled'⟩)
    (fun step scope s m _ => by
      obtain ⟨new, hnew⟩ := step.take_deeds scope s m
      exact ⟨new, hnew.symm, fun _ => step.take_settled scope s m⟩)
    (fun {c d body s m run} hrun hs hbody => by
      obtain ⟨new, hnew⟩ := hrun.deeds
      refine ⟨new, hnew.symm, fun hdone => ?_⟩
      apply hrun.settled hs
      · intro outer suspended hending hcourse
        have hdropped := hdone (.abandoned c.key (.begins suspended))
          (by simp [deedOf, hending, hcourse])
        exact hdropped
      · intro scope' s' hs' hmemory
        obtain ⟨new', hnew', hsettled⟩ := hbody scope' s' hs'
        rw [← hmemory, ← hnew] at hnew'
        apply hsettled
        intro deed hdeed
        rw [← List.append_cancel_left hnew'] at hdeed
        exact hdone deed (List.mem_append_left _ hdeed))
    plan scope m hs
  obtain ⟨new, hnew, hsettled⟩ := hrun
  exact hsettled (hdone.of_deeds hnew)

end Plan

end UnitOfWork
