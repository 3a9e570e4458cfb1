import UnitOfWork.Proofs.ConnectionTraffic

/-!
# The lives of connections

A connection that is created in a run was fetched by a scope, or it was acquired
for one attempt at a transaction.  In the second case its events are a word of
the protocol from its first to its last: the attempt has its connection to
itself from the moment when it is created until it is handed back, and nobody
can reach it before or after.
-/

namespace UnitOfWork

def State.Fetched (conn : Connection) (s s' : State) : Prop :=
  ∃ more, s'.journal = s.journal ++ more ∧ .line (.fetched conn) ∈ more

/-- A connection was acquired for an attempt and has lived for it, or a scope
has fetched it. -/
def State.Accounted (asked : Coordinator → Definition → Prop)
    (conn : Connection) (s s' : State) : Prop :=
  Lived asked conn s s' ∨ Fetched conn s s'

namespace State

variable {asked : Coordinator → Definition → Prop} {conn : Connection}
variable {s s₁ s₂ s' : State}

/-! ## New connections -/

/-- What is created over two parts is created in one of them. -/
theorem Created.split (h : Created conn s s') (s₁ : State) :
    Created conn s s₁ ∨ Created conn s₁ s' :=
  (Nat.lt_or_ge conn.id (s₁.nextId conn.source)).imp (fun hlt => ⟨h.1, hlt⟩)
    fun hge => ⟨hge, h.2⟩

/-- What is created later was not there before. -/
theorem Created.not_before (h : Created conn s₁ s')
    (hnext : ∀ source, s.nextId source ≤ s₁.nextId source) :
    s.nextId conn.source ≤ conn.id ∧ ¬ Created conn s s₁ :=
  ⟨Nat.le_trans (hnext _) h.1, fun hfirst => Nat.not_lt.mpr h.1 hfirst.2⟩

/-- What is created is reported as new. -/
theorem Deals.makes_of_created {deals : List Note} (h : Deals deals s s')
    (hcreated : Created conn s s') : ∃ n ∈ deals, n.makes conn = true := by
  have hmade : deals.countP (Note.makes conn) = 1 :=
    (h.made conn).trans (if_pos hcreated)
  exact List.countP_pos_iff.mp (hmade ▸ Nat.one_pos)

theorem Deals.fetched {deals : List Note} (h : Deals deals s s')
    (hmem : .line (.fetched conn) ∈ deals) : Fetched conn s s' := by
  obtain ⟨notes, hnotes, hfiltered⟩ := h.journal
  rw [← hfiltered] at hmem
  exact ⟨notes, hnotes, (List.mem_filter.mp hmem).1⟩

theorem Deals.journal_grows {deals : List Note} (h : Deals deals s s') :
    s.journal <+: s'.journal := by
  obtain ⟨notes, hnotes, -⟩ := h.journal
  exact ⟨notes, hnotes.symm⟩

theorem Deals.not_created {deals : List Note} (h : Deals deals s s')
    (hnone : ∀ n ∈ deals, n.makes conn = false) : ¬ Created conn s s' := by
  intro hcreated
  obtain ⟨n, hn, hmakes⟩ := h.makes_of_created hcreated
  rw [hnone n hn] at hmakes
  cases hmakes

/-- No other connections are created than those on which calls are made. -/
theorem Confined.created {on : Connection → Prop} (h : Confined on s s')
    (hcreated : Created conn s s') : on conn := by
  induction h with
  | refl => exact absurd hcreated.2 (Nat.not_lt.mpr hcreated.1)
  | say _ line ih => exact ih hcreated
  | @call s₁ _ other _ request ih =>
      refine ih ((hcreated.split s₁).resolve_right
        ((Deals.call s₁ other request).not_created ?_))
      intro n hn
      rw [Deals.ofCall] at hn
      split at hn
      · rw [List.mem_singleton.mp hn]
        rfl
      · cases hn
  | @create s₁ s₂ _ place outcome hcreate hon ih =>
      rcases hcreated.split s₁ with hfirst | hsecond
      · exact ih hfirst
      · cases outcome with
        | error fault =>
            exact ((Deals.createFailed hcreate).not_created (by simp)
              hsecond).elim
        | ok other =>
            obtain ⟨n, hn, hmakes⟩ :=
              (Deals.create hcreate (.fetched other)
                rfl).1.makes_of_created hsecond
            rw [List.mem_singleton.mp hn] at hmakes
            exact hon conn (by rw [Note.makes_fetched_iff.mp hmakes])
  | @release s₁ _ place other _ ih =>
      refine ih ((hcreated.split s₁).resolve_right
        ((Deals.release s₁ place other).not_created ?_))
      intro n hn
      rw [List.mem_singleton.mp hn]
      rfl
  | @hold s₁ _ s₂ hjournal hdrivers ih =>
      have hdeals : Deals [] s₁ s₂ := .of_drivers hjournal hdrivers
      exact ih ((hcreated.split s₁).resolve_right
        (hdeals.not_created (by simp)))

/-! ## Accounts of one connection -/

/-- What was fetched in some part was fetched. -/
theorem Fetched.around (h : Fetched conn s₁ s₂)
    (hbefore : s.journal <+: s₁.journal) (hafter : s₂.journal <+: s'.journal) :
    Fetched conn s s' := by
  obtain ⟨more, hmore, hmem⟩ := h
  obtain ⟨before, hbefore⟩ := hbefore
  obtain ⟨after, hafter⟩ := hafter
  refine ⟨before ++ more ++ after, ?_, by simp [hmem]⟩
  rw [← hafter, hmore, ← hbefore]
  simp

/-- Nothing happens to the connection before it is created and after it was
handed back. -/
theorem Lived.around (h : Lived asked conn s₁ s₂)
    (hbefore : Heard conn [] [] s s₁) (hafter : Heard conn [] [] s₂ s') :
    Lived asked conn s s' := by
  obtain ⟨c, d, made, calls, fault, hasked, hsource, hattempt, hfault,
      hheard⟩ := h
  rw [hbefore.initial] at hattempt
  exact ⟨c, d, made, calls, fault, hasked, hsource, hattempt, hfault,
    (hbefore.after hheard).andThen hafter⟩

theorem Accounted.around (h : Accounted asked conn s₁ s₂)
    (hbefore : Heard conn [] [] s s₁) (hafter : Heard conn [] [] s₂ s') :
    Accounted asked conn s s' := by
  have hgrows : ∀ {s s' : State}, Heard conn [] [] s s' →
      s.journal <+: s'.journal := by
    intro s s' hheard
    obtain ⟨more, hmore, -⟩ := hheard.journal
    exact ⟨more, hmore.symm⟩
  apply Or.imp ?_ ?_ h
  · exact fun hlived => hlived.around hbefore hafter
  · exact fun hfetched => hfetched.around (hgrows hbefore) (hgrows hafter)

/-- A connection that is created, on which one attempt is made, and which is
handed back then. -/
theorem lived_of_attempt {c : Coordinator} {d : Definition}
    {made : List (Call × Option Fault)} {calls : List Call} (hasked : asked c d)
    (hsource : conn.source = c.source.id)
    (hcreated : Heard conn [] [.created conn.id] s s₁)
    (hattempt : Attempt c d (.reported (s₁.session conn)) made calls)
    (hsaid : Said conn made calls s₁ s₂) (hparted : Parted true conn s₂ s') :
    Lived asked conn s s' := by
  obtain ⟨fault, hfault, hheard⟩ := hparted
  have hsession : s₁.session conn = some (s.initial conn) := hcreated.session
  rw [hsession] at hattempt
  refine ⟨c, d, made, calls, fault, hasked, hsource, hattempt, hfault, ?_⟩
  have hwhole := (hcreated.trans hsaid).trans hheard
  simpa using hwhole

end State

/-- No holder has a connection that its source has still to create, nor has one
afterwards what no holder had before. -/
theorem State.hidden_of_unknown {conn : Connection} {s s' : State}
    (hheld : s.HeldKnown) (hunknown : s.nextId conn.source ≤ conn.id)
    (hbefore : Coordinator.HeldBefore s s') (keys : Key → Prop) :
    s'.Hidden keys conn := by
  intro key id _ _ hconn
  exact Nat.not_lt.mpr hunknown (hheld id conn (hbefore id conn hconn))

/-! ## Attempts on new connections -/

namespace Coordinator

variable {σ ε α : Type} {asked : Coordinator → Definition → Prop}
variable {c : Coordinator} {d : Definition} {body : Plan σ ε α}
variable {conn : Connection}
variable {s s' : State} {m : Diary σ} {run : Run (Diary σ) ε α}

/-- An attempt that gets a new connection has acquired it. -/
theorem Obtained.of_new {suspended : Option HolderId} {id : HolderId}
    {h₁ : Handle} {s₁ : State}
    (hobtained : c.Obtained (c.blank suspended s)
      (c.entrance d suspended s) conn id h₁ s₁)
    (hheld : s.HeldKnown) (hnew : s.nextId conn.source ≤ conn.id) :
    h₁.ownsHolder = true ∧ conn.source = c.source.id ∧
      State.Heard conn [] [.created conn.id] s s₁ := by
  have hheard := hobtained.heard rfl
  have hsource := hobtained.created_of_owns fun _ _ _ => rfl
  cases hobtained with
  | reused hholder hstage hconn =>
      have hholders : (c.entrance d suspended s).holders = s.holders := by
        simp [entrance]
      rw [hholders] at hconn
      exact absurd (hheld id conn hconn) (Nat.not_lt.mpr hnew)
  | created =>
      exact ⟨rfl, (hsource rfl).1,
        ((confined_entrance (fun _ => False) c d suspended s).heard
          not_false).after hheard⟩

/-- Where work is entered, every connection that is held was created. -/
theorem Entered.heldKnown {scope : Scope} (hentered : c.Entered d s scope s')
    (hheld : s.HeldKnown) : s'.HeldKnown := by
  cases hentered with
  | joining => exact hheld
  | alone =>
      exact hheld.later (fun _ _ hconn => by simpa using hconn)
        (c.deals_setAside _ s).nextId
  | @begun suspended h s₁ hcourse hbegin =>
      obtain ⟨conn, id, hbegun, hconfined, hcreated⟩ :=
        confined_of_ok rfl hbegin
      exact hbegun.heldKnown (heldKnown_entrance hheld suspended)
        hconfined.nextId
        fun howns => (hcreated howns).2.2

/-- What an execution creates it has acquired for its own attempt, or it was
created in its work. -/
theorem Handled.accounted (h : c.Handled d body s m run) (hs : s.BoundExist)
    (hheld : s.HeldKnown) (hasked : asked c d)
    (hcreated : State.Created conn s run.state)
    (hbody : ∀ scope s', c.Entered d s scope s' →
      State.Created conn s' (body.run scope s' m).2.state →
      State.Accounted asked conn s' (body.run scope s' m).2.state)
    (hcarries : ∀ holder scope s', c.Entered d s scope s' →
      conn.id < s'.nextId conn.source → s'.Sole holder conn →
      State.Carries asked holder conn s' (body.run scope s' m).2.state) :
    State.Accounted asked conn s run.state := by
  cases h with
  | idle hconfined => exact (hconfined.created hcreated).elim
  | @through scope s₀ hentered hbefore hafter =>
      rcases hcreated.split s₀ with hfirst | hrest
      · exact (hbefore.created hfirst).elim
      · rcases hrest.split (body.run scope s₀ m).2.state with hduring | hlast
        · exact (hbody _ _ hentered hduring).around (hbefore.heard not_false)
            (hafter.heard not_false)
        · exact (hafter.created hlast).elim
  | abandoned hobtained hattempt hsaid hparted hconfined =>
      obtain rfl := hconfined.created hcreated
      obtain ⟨howns, hsource, hheard⟩ := hobtained.of_new hheld hcreated.1
      rw [howns] at hparted
      exact Or.inl
        (State.lived_of_attempt hasked hsource hheard hattempt hsaid hparted)
  | @within suspended other id h h₁ s₁ s₂ hentered hobtained hbegun hbefore
      hafter hattempt =>
      have hknown : other.id < s₂.nextId other.source :=
        hentered.heldKnown hheld id other hbegun.connection
      rcases hcreated.split s₂ with hfirst | hrest
      · -- It is the connection of the transaction, which has it to itself.
        obtain rfl := hbefore.created hfirst
        obtain ⟨howns, hsource, hheard⟩ := hobtained.of_new hheld hcreated.1
        obtain ⟨made, calls, htraffic, hsaid, hbusy⟩ :=
          hcarries id _ _ hentered hknown (hbegun.sole_of_new hheld hcreated.1)
        obtain rfl := hbusy ⟨hbegun.holder_lt hs, hbegun.stage⟩
        obtain ⟨made', calls', s₃, hwhole, hsaid', hparted⟩ :=
          hattempt calls htraffic.statements hsaid
        rw [howns] at hparted
        exact Or.inl
          (State.lived_of_attempt hasked hsource hheard hwhole hsaid' hparted)
      · have hne : conn ≠ other := by
          rintro rfl
          exact State.not_created_of_known hknown _ hrest
        rcases hrest.split (body.run (.beginning c h) s₂ m).2.state with
            hduring | hlast
        · exact (hbody _ _ hentered hduring).around (hbefore.heard hne)
            (hafter.heard hne)
        · exact absurd (hafter.created hlast) hne

end Coordinator

/-! ## Connections that are created in a run -/

namespace Plan

variable {σ ε α : Type} {asked : Coordinator → Definition → Prop}
variable {conn : Connection} {around given : List Connection} {scope : Scope}
variable {s : State} {m : Diary σ}

/-- What a step creates its scope has fetched. -/
theorem Step.fetched (step : Step σ) (m : Diary σ)
    (hcreated : State.Created conn s (step.take scope s m).state) :
    State.Fetched conn s (step.take scope s m).state := by
  rcases step.take_deals scope s m with
      hdeals | ⟨other, hdeals⟩ | ⟨other, fault, hdeals⟩
  · exact (hdeals.not_created (by simp) hcreated).elim
  · obtain ⟨n, hn, hmakes⟩ := hdeals.makes_of_created hcreated
    rw [List.mem_singleton.mp hn] at hmakes
    obtain rfl := Note.makes_fetched_iff.mp hmakes
    exact hdeals.fetched (List.mem_singleton_self _)
  · refine (hdeals.not_created (fun n hn => ?_) hcreated).elim
    rw [List.mem_singleton.mp hn]
    rfl

/-- An execution of work that speaks leaves a hidden connection alone that was
not given by a scope around it. -/
theorem Prompt.execute_untouched {c : Coordinator} {d : Definition}
    {body : Plan σ ε α} (hprompt : body.Prompt)
    (hbody : ∀ scope' s', c.Entered d s scope' s' →
      body.Heeds (.speaking asked) around [] scope' s' m)
    (hs : s.BoundExist) (hhidden : s.Hidden (fun _ => True) conn)
    (hnot : conn ∉ around)
    (hnew : ¬ State.Created conn s (c.execute d body.run s m).state) :
    State.Untouched conn s (c.execute d body.run s m).state :=
  (c.execution d body s m).untouched_whole hprompt hs trivial
    (Coordinator.hidden_setAside hhidden _) hnew
    fun scope' s' hentered hhidden' hnew' =>
      (hprompt.run_untouched (hbody scope' s' hentered).handling_of_speaking
        (hentered.steady.boundExist hs) trivial hentered.inForce
        (.nil _ s') hhidden' (by simpa using hnot) hnew').1

/-- Over the run of work that speaks and during which no deadline passes, every
connection that is created is fetched by a scope, or it lives for one
attempt. -/
theorem Prompt.run_accounted {plan : Plan σ ε α} (hprompt : plan.Prompt)
    (hheeds : plan.Heeds (.speaking asked) around given scope s m)
    (hs : s.BoundExist) (hlenient : s.Lenient) (hheld : s.HeldKnown)
    (hforce : scope.InForce s) (hgave : scope.coordinator.source.Gave given s)
    (hnot : conn ∉ around ++ given)
    (hcreated : State.Created conn s (plan.run scope s m).2.state) :
    State.Accounted asked conn s (plan.run scope s m).2.state := by
  induction plan generalizing around given scope s m with
  | finish result => exact absurd hcreated.2 (Nat.not_lt.mpr hcreated.1)
  | pend outer => exact hprompt.elim
  | step first next ih =>
      have hcoordinator := first.take_coordinator scope s m
      have hexist := first.take_boundExist scope m hs
      have hnext := first.take_nextId scope s m
      rcases hcreated.split (first.take scope s m).state with hfirst | hrest
      · obtain ⟨deals, hdeals⟩ := (next (first.take scope s m).answer).run_dealt
          (first.take scope s m).scope (first.take scope s m).diary hexist
        exact Or.inr
          ((first.fetched m hfirst).around List.prefix_rfl hdeals.journal_grows)
      · -- Nobody can reach the connection during the step.
        obtain ⟨hunknown, hnew⟩ := hrest.not_before hnext
        have hhidden := State.hidden_of_unknown hheld hunknown
          (fun _ _ hconn => hconn)
          fun _ => True
        have huntouched := Step.untouched m hheeds.handling_of_speaking.1
          trivial hforce hgave hhidden hnot hnew
        have hgave' := first.gave m hs hgave
        rw [← hcoordinator] at hgave'
        have haccounted := ih _ (hprompt _) hheeds.2 hexist
          (Step.lenient m hheeds.1 hlenient)
          (hheld.later (first.take_heldBefore scope s m) hnext)
          (first.inForce m hs hforce) hgave'
          (first.not_lent m trivial hhidden hnot hnew) hrest
        exact haccounted.around huntouched.heard (.refl conn _)
  | execute c d body next ihbody ihnext =>
      obtain ⟨hkeeps, result, hresult⟩ := c.execute_returns d m hprompt.1 hs
      obtain ⟨deals, hdeals⟩ := c.execute_dealt d body m hs
      have hexist := hkeeps.boundExist hs
      obtain ⟨hhandled, hlenient'⟩ :=
        hprompt.1.execute_handled hheeds.2.1 hs hlenient
      have hlater := hforce.kept hkeeps hs
      have hgave' := hgave.later (hkeeps.boundConnection hs _) hdeals
      rw [run_execute_of_finished hresult] at hcreated ⊢
      rcases hcreated.split (c.execute d body.run s m).state with hfirst | hrest
      · have hinner := hhandled.accounted hs hheld hheeds.1 hfirst
          (fun scope' s' hentered hcreated' =>
            ihbody hprompt.1 (hheeds.2.1 scope' s' hentered)
              (hentered.steady.boundExist hs)
              (hentered.lenient hlenient) (hentered.heldKnown hheld)
              hentered.inForce (.nil _ s') (by simpa using hnot) hcreated')
          fun holder scope' s' hentered hknown hsole =>
            hprompt.1.run_carries (hheeds.2.1 scope' s' hentered)
              (hentered.steady.boundExist hs)
              (hentered.lenient hlenient) (.nil _ s')
              (fun hmem => by cases hmem) hknown hsole
        -- It was handed back, and nobody can reach it afterwards.
        have huntouched := ((hprompt.2 result).run_untouched
          (hheeds.2.2 result hresult).handling_of_speaking hexist trivial
            hlater hgave'
          (State.hidden_of_unknown hheld hfirst.1 hkeeps.held
            fun _ => True) hnot
          (State.not_created_of_known hfirst.2 _)).1
        exact hinner.around (.refl conn s) huntouched.heard
      · obtain ⟨hunknown, hnew⟩ := hrest.not_before hdeals.nextId
        have hhidden := State.hidden_of_unknown hheld hunknown
          (fun _ _ hconn => hconn)
          fun _ => True
        have hinner :=
          hprompt.1.execute_untouched hheeds.2.1 hs hhidden hnot hnew
        have haccounted := ihnext result (hprompt.2 result)
          (hheeds.2.2 result hresult) hexist hlenient'
          (hheld.later hkeeps.held hdeals.nextId) hlater hgave' hnot hrest
        exact haccounted.around hinner.heard (.refl conn _)

end Plan

end UnitOfWork
