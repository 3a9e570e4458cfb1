import UnitOfWork.Proofs.MirroredStates

/-!
# Two runs side by side

`InStep` takes two states that mirror each other to two others that do so again.
New holders and new connections are matched in the order in which they were
made, and on each side everything that the renaming does not know is left alone.
Each operation on a state is such a step, if it is done on both sides with what
stands for the same.
-/

namespace UnitOfWork

def World.created (source : SourceId) (w w' : World) : List Connection :=
  (List.range' (w.nextId source) (w'.nextId source - w.nextId source)).map
    (Connection.mk source)

theorem World.created_of_eq {source : SourceId} {w w' : World}
    (h : w'.nextId source = w.nextId source) : w.created source w' = [] := by
  simp [created, h]

theorem World.created_of_succ {source : SourceId} {w w' : World}
    (h : w'.nextId source = w.nextId source + 1) :
    w.created source w' = [⟨source, w.nextId source⟩] := by
  simp [created, h]

theorem World.created_append {source : SourceId} {w w₁ w₂ : World}
    (h : w.nextId source ≤ w₁.nextId source)
    (h' : w₁.nextId source ≤ w₂.nextId source) :
    w.created source w₁ ++ w₁.created source w₂ = w.created source w₂ := by
  have hstart : w₁.nextId source =
      w.nextId source + 1 * (w₁.nextId source - w.nextId source) := by
    rw [Nat.one_mul, Nat.add_sub_cancel' h]
  have hlength : w₁.nextId source - w.nextId source +
      (w₂.nextId source - w₁.nextId source) =
      w₂.nextId source - w.nextId source := by
    rw [Nat.add_comm, Nat.sub_add_sub_cancel h' h]
  rw [created, created,
    created, ← List.map_append, ← hlength, ← List.range'_append, ← hstart]

/-- Two states that mirror each other were taken to two others that do so
again. -/
structure InStep (source : SourceId) (period : Period) (ρ ρ₁ : Renaming)
    (s s' s₁ s₁' : State) : Prop where
  mirrors : s₁.Mirrors source period ρ₁ s₁'
  holders : ∀ id id', ρ.holders id id' → ρ₁.holders id id'
  connections : ∀ conn conn', ρ.connections conn conn' →
    ρ₁.connections conn conn'
  newHolders : ∀ id id', ρ₁.holders id id' →
    ρ.holders id id' ∨ s.nextHolder ≤ id ∧ s'.nextHolder ≤ id'
  newConnections : ∀ conn conn', ρ₁.connections conn conn' →
    ρ.connections conn conn' ∨ s.nextId source ≤ conn.id ∧
    s'.nextId source ≤ conn'.id
  created : List.Forall₂ ρ₁.connections (s.created source s₁.toWorld)
    (s'.created source s₁'.toWorld)
  spares : s.Spares source ρ.fromHolder ρ.fromConnection s₁.toWorld
  spares' : s'.Spares source ρ.toHolder ρ.toConnection s₁'.toWorld

namespace InStep

variable {source : SourceId} {period : Period} {ρ ρ₁ ρ₂ : Renaming}
variable {s s' s₁ s₁' s₂ s₂' : State}

/-- Nothing new has come up. -/
theorem of_spares (hmirrors : s₁.Mirrors source period ρ s₁')
    (hspares : s.Spares source ρ.fromHolder ρ.fromConnection s₁.toWorld)
    (hspares' : s'.Spares source ρ.toHolder ρ.toConnection s₁'.toWorld)
    (hnext : s₁.nextId source = s.nextId source)
    (hnext' : s₁'.nextId source = s'.nextId source) :
    InStep source period ρ ρ s s' s₁ s₁' where
  mirrors := hmirrors
  holders _ _ h := h
  connections _ _ h := h
  newHolders _ _ h := Or.inl h
  newConnections _ _ h := Or.inl h
  created := by
    rw [World.created_of_eq hnext, World.created_of_eq hnext']
    exact .nil
  spares := hspares
  spares' := hspares'

theorem refl (hs : s.Mirrors source period ρ s') :
    InStep source period ρ ρ s s' s s' :=
  of_spares hs (.refl _) (.refl _) rfl rfl

/-- What is known afterwards was known before, or is new. -/
theorem fromHolder (h : InStep source period ρ ρ₁ s s' s₁ s₁') {id : HolderId}
    (hid : ρ₁.fromHolder id) : ρ.fromHolder id ∨ s.nextHolder ≤ id := by
  obtain ⟨id', hid⟩ := hid
  exact (h.newHolders id id' hid).imp (fun hid => ⟨id', hid⟩) And.left

theorem toHolder (h : InStep source period ρ ρ₁ s s' s₁ s₁') {id' : HolderId}
    (hid : ρ₁.toHolder id') : ρ.toHolder id' ∨ s'.nextHolder ≤ id' := by
  obtain ⟨id, hid⟩ := hid
  exact (h.newHolders id id' hid).imp (fun hid => ⟨id, hid⟩) And.right

theorem fromConnection (h : InStep source period ρ ρ₁ s s' s₁ s₁')
    {conn : Connection} (hconn : ρ₁.fromConnection conn) :
    ρ.fromConnection conn ∨ s.nextId source ≤ conn.id := by
  obtain ⟨conn', hconn⟩ := hconn
  exact (h.newConnections conn conn' hconn).imp
    (fun hconn => ⟨conn', hconn⟩) And.left

theorem toConnection (h : InStep source period ρ ρ₁ s s' s₁ s₁')
    {conn' : Connection} (hconn : ρ₁.toConnection conn') :
    ρ.toConnection conn' ∨ s'.nextId source ≤ conn'.id := by
  obtain ⟨conn, hconn⟩ := hconn
  exact (h.newConnections conn conn' hconn).imp
    (fun hconn => ⟨conn, hconn⟩) And.right

theorem trans (h : InStep source period ρ ρ₁ s s' s₁ s₁')
    (h' : InStep source period ρ₁ ρ₂ s₁ s₁' s₂ s₂') :
    InStep source period ρ ρ₂ s s' s₂ s₂' where
  mirrors := h'.mirrors
  holders id id' hid := h'.holders id id' (h.holders id id' hid)
  connections conn conn' hconn :=
    h'.connections conn conn' (h.connections conn conn' hconn)
  newHolders id id' hid := by
    rcases h'.newHolders id id' hid with hid | ⟨hnew, hnew'⟩
    · exact h.newHolders id id' hid
    · exact Or.inr ⟨Nat.le_trans h.spares.nextHolder hnew,
        Nat.le_trans h.spares'.nextHolder hnew'⟩
  newConnections conn conn' hconn := by
    rcases h'.newConnections conn conn' hconn with hconn | ⟨hnew, hnew'⟩
    · exact h.newConnections conn conn' hconn
    · exact Or.inr ⟨Nat.le_trans h.spares.nextId hnew,
        Nat.le_trans h.spares'.nextId hnew'⟩
  created := by
    rw [← World.created_append h.spares.nextId h'.spares.nextId,
      ← World.created_append h.spares'.nextId h'.spares'.nextId]
    exact List.rel_append (h.created.imp h'.connections) h'.created
  spares := h.spares.trans h'.spares (fun _ => h.fromHolder)
    fun _ => h.fromConnection
  spares' := h.spares'.trans h'.spares' (fun _ => h.toHolder)
    fun _ => h.toConnection

/-! ## The journal and the clock -/

/-- Nothing that can be seen has changed. -/
theorem of_same {w w' : World} (hs : s.Mirrors source period ρ s')
    (h : s.Spares source (fun _ => False) (fun _ => False) w)
    (h' : s'.Spares source (fun _ => False) (fun _ => False) w')
    (hnext : w.nextId source = s.nextId source)
    (hnext' : w'.nextId source = s'.nextId source) (hnow : w.now ≤ w'.now) :
    InStep source period ρ ρ s s' { w with context := s.context }
      { w' with context := s'.context } :=
  of_spares (h.mirrors hs h' (fun _ _ _ => ⟨id, id⟩)
    (fun _ _ _ => ⟨id, id⟩) hnow)
    (h.mono (fun _ => False.elim) fun _ => False.elim)
    (h'.mono (fun _ => False.elim) fun _ => False.elim) hnext hnext'

theorem note (hs : s.Mirrors source period ρ s') (n n' : Note) :
    InStep source period ρ ρ s s' (s.note n) (s'.note n') :=
  of_same hs (.of_same rfl rfl rfl (Nat.le_refl _))
    (.of_same rfl rfl rfl (Nat.le_refl _))
    rfl rfl hs.clock.2

theorem say (hs : s.Mirrors source period ρ s') (line line' : Line) :
    InStep source period ρ ρ s s' (s.say line) (s'.say line') :=
  note hs (.line line) (.line line')

theorem rest (hs : s.Mirrors source period ρ s') (seconds : Nat) :
    InStep source period ρ ρ s s' { s with now := s.now + seconds }
      { s' with now := s'.now + seconds } :=
  of_same hs (.of_same rfl rfl rfl (Nat.le_add_right _ _))
    (.of_same rfl rfl rfl (Nat.le_add_right _ _)) rfl rfl
    (Nat.add_le_add_right hs.clock.2 seconds)

/-! ## Holders and bindings -/

theorem setHolder (hs : s.Mirrors source period ρ s') {id id' : HolderId}
    (hid : ρ.holders id id') {x x' : Holder Connection}
    (hx : x.Mirrors ρ.connections (s'.now < period.stop) x') :
    InStep source period ρ ρ s s' (s.setHolder id x) (s'.setHolder id' x') := by
  refine of_spares { hs with holders := fun i i' hi => ?_ }
    ((World.Spares.setHolder s id x).mono ?_ fun _ => False.elim)
    ((World.Spares.setHolder s' id' x').mono ?_ fun _ => False.elim) rfl rfl
  · rw [State.holders_setHolder, State.holders_setHolder]
    by_cases heq : i = id
    · have heq' : i' = id' := hs.oneHolder.2 (heq ▸ hi) hid
      rwa [if_pos heq, if_pos heq']
    · have hne' : i' ≠ id' := fun heq' => heq (hs.oneHolder.1 (heq' ▸ hi) hid)
      rw [if_neg heq, if_neg hne']
      exact hs.holders i i' hi
  · rintro _ rfl
    exact ⟨id', hid⟩
  · rintro _ rfl
    exact ⟨id, hid⟩

/-- Each side gets a holder. -/
theorem addHolder (hs : s.Mirrors source period ρ s') {x x' : Holder Connection}
    (hx : x.Mirrors ρ.connections (s'.now < period.stop) x') :
    InStep source period ρ (ρ.withHolder s.nextHolder s'.nextHolder) s s'
      (s.addHolder x).2 (s'.addHolder x').2 where
  mirrors :=
    { hs with
      bound := fun key => rel_imp (fun _ _ => Or.inl) (hs.bound key)
      holders := by
        rintro id id' (hid | ⟨rfl, rfl⟩)
        · obtain ⟨hmade, hmade'⟩ := hs.madeHolders id id' hid
          rw [State.holders_addHolder, State.holders_addHolder,
            if_neg (Nat.ne_of_lt hmade), if_neg (Nat.ne_of_lt hmade')]
          exact hs.holders id id' hid
        · rw [State.holders_addHolder, State.holders_addHolder,
            if_pos rfl, if_pos rfl]
          exact hx
      madeHolders := by
        rintro id id' (hid | ⟨rfl, rfl⟩)
        · exact (hs.madeHolders id id' hid).imp (Nat.lt_succ_of_lt)
            (Nat.lt_succ_of_lt)
        · exact ⟨Nat.lt_succ_self _, Nat.lt_succ_self _⟩
      oneHolder := biUnique_insert hs.oneHolder
        (fun id' hid => Nat.lt_irrefl _ (hs.madeHolders _ id' hid).1)
        (fun id hid => Nat.lt_irrefl _ (hs.madeHolders id _ hid).2) }
  holders _ _ := Or.inl
  connections _ _ h := h
  newHolders _ _ := Or.imp_right fun ⟨hid, hid'⟩ =>
    ⟨Nat.le_of_eq hid.symm, Nat.le_of_eq hid'.symm⟩
  newConnections _ _ := Or.inl
  created := by
    have hnone : ∀ (t : State) (y : Holder Connection),
        t.created source (t.addHolder y).2.toWorld = [] :=
          fun _ _ => World.created_of_eq rfl
    rw [hnone, hnone]
    exact .nil
  spares := (World.Spares.addHolder s x).mono (fun _ => False.elim)
    fun _ => False.elim
  spares' := (World.Spares.addHolder s' x').mono (fun _ => False.elim)
    fun _ => False.elim

/-- Another holder is bound to a key, or none. -/
theorem setContext (hs : s.Mirrors source period ρ s')
    (context context' : Bindings HolderId)
    (hcontext : ∀ key,
      Option.Rel ρ.holders (context.get? key) (context'.get? key)) :
    InStep source period ρ ρ s s' { s with context }
      { s' with context := context' } :=
  of_spares { hs with bound := hcontext } (.refl _) (.refl _) rfl rfl

/-- A key is taken on both sides or on neither. -/
theorem bind (hs : s.Mirrors source period ρ s') (key : Key) {id id' : HolderId}
    (hid : ρ.holders id id') :
    (∃ s₁ s₁', s.bind key id = .ok s₁ ∧ s'.bind key id' = .ok s₁' ∧
      InStep source period ρ ρ s s' s₁ s₁') ∨
    s.bind key id = .error ⟨key⟩ ∧ s'.bind key id' = .error ⟨key⟩ := by
  rcases rel_cases (hs.bound key) with
      ⟨hfree, hfree'⟩ | ⟨_, _, htaken, htaken', _⟩
  · refine Or.inl ⟨_, _, s.bind_of_free hfree id,
      s'.bind_of_free hfree' id', ?_⟩
    have hset := setContext hs (s.context.insert key id)
      (s'.context.insert key id')
      fun other => by
        rw [Bindings.get?_insert, Bindings.get?_insert]
        split
        · exact .some hid
        · exact hs.bound other
    exact hset.trans (say hset.mirrors _ _)
  · exact Or.inr ⟨s.bind_of_taken htaken id, s'.bind_of_taken htaken' id'⟩

theorem unbind (hs : s.Mirrors source period ρ s') (key : Key) :
    InStep source period ρ ρ s s' (s.unbind key).2 (s'.unbind key).2 := by
  rw [State.unbind, State.unbind, Bindings.unbind, Bindings.unbind]
  rcases rel_cases (hs.bound key) with
      ⟨hfree, hfree'⟩ | ⟨id, id', htaken, htaken', _⟩
  · rw [State.boundHolder] at hfree hfree'
    rw [hfree, hfree']
    exact refl hs
  · rw [State.boundHolder] at htaken htaken'
    rw [htaken, htaken']
    have hset := setContext hs (s.context.erase key) (s'.context.erase key)
      fun other => by
        rw [Bindings.get?_erase, Bindings.get?_erase]
        split
        · exact .none
        · exact hs.bound other
    exact hset.trans (say hset.mirrors _ _)

/-! ## Calls on connections -/

/-- What is recorded about a connection is recorded about the other one, too. -/
theorem touching (hs : s.Mirrors source period ρ s') {conn conn' : Connection}
    (hconn : ρ.connections conn conn') {events : List Event}
    (h : State.Touches conn events s s₁)
    (h' : State.Touches conn' (events.map (Event.about conn'.id)) s' s₁')
    (hnext : s₁.nextId source = s.nextId source)
    (hnext' : s₁'.nextId source = s'.nextId source) :
    InStep source period ρ ρ s s' s₁ s₁' := by
  obtain ⟨hsource, hsource'⟩ := hs.ofSource conn conn' hconn
  obtain ⟨hmade, hmade'⟩ := hs.madeConnections conn conn' hconn
  have hspares :=
    h.spares source (by rwa [hsource, hnext]) (Nat.le_of_eq hnext.symm)
  have hspares' :=
    h'.spares source (by rwa [hsource', hnext']) (Nat.le_of_eq hnext'.symm)
  -- A connection that is not the one is not matched with the other one.
  have hother : ∀ x x', ρ.connections x x' →
      x = conn ∧ x' = conn' ∨ x ≠ conn ∧ x' ≠ conn' := by
    intro x x' hx
    by_cases heq : x = conn
    · exact Or.inl ⟨heq, hs.oneConnection.2 (heq ▸ hx) hconn⟩
    · exact Or.inr ⟨heq, fun heq' => heq (hs.oneConnection.1 (heq' ▸ hx) hconn)⟩
  refine of_spares ?_ (hspares.mono (fun _ => False.elim) ?_)
    (hspares'.mono (fun _ => False.elim) ?_) hnext hnext'
  · exact
      { hs with
        bound := fun key => by
          rw [h.sameHolders.bound, h'.sameHolders.bound]
          exact hs.bound key
        holders := by
          rw [h.sameHolders.holders, h'.sameHolders.holders, h'.now]
          exact hs.holders
        session := by
          intro x x' hx
          obtain ⟨_, hheard⟩ := h.heard
          obtain ⟨_, hheard'⟩ := h'.heard
          rcases hother x x' hx with ⟨rfl, rfl⟩ | ⟨hne, hne'⟩
          · have hinitial : s'.initial x' = s.initial x := by
              rw [World.initial, World.initial, hsource, hsource', hs.initial]
            rw [hheard.session, hheard'.session, replay_about, hinitial,
              hs.session x x' hx]
          · exact (hspares.seen hs hspares' hx hne hne').1
        events := by
          intro x x' hx
          obtain ⟨_, hheard⟩ := h.heard
          obtain ⟨_, hheard'⟩ := h'.heard
          rcases hother x x' hx with ⟨rfl, rfl⟩ | ⟨hne, hne'⟩
          · rw [hheard.eventsOf, hheard'.eventsOf, hs.events x x' hx,
              List.map_append]
          · exact (hspares.seen hs hspares' hx hne hne').2
        madeHolders := by
          rw [h.sameHolders.nextHolder, h'.sameHolders.nextHolder]
          exact hs.madeHolders
        madeConnections := by
          rw [hnext, hnext']
          exact hs.madeConnections
        faults := hspares'.faults.trans (hs.faults.trans hspares.faults.symm)
        initial := hspares'.initial.trans
          (hs.initial.trans hspares.initial.symm)
        blank := hs.blank.imp hspares.blank hspares'.blank
        clock := by
          rw [h.now, h'.now]
          exact hs.clock }
  · rintro _ rfl
    exact ⟨conn', hconn⟩
  · rintro _ rfl
    exact ⟨conn, hconn⟩

/-- A call is answered in the same way on both sides. -/
theorem callDirectly (hs : s.Mirrors source period ρ s')
    {conn conn' : Connection} (hconn : ρ.connections conn conn')
    (request : Call) :
    (s'.callDirectly conn' request).1 = (s.callDirectly conn request).1 ∧
      InStep source period ρ ρ s s' (s.callDirectly conn request).2
        (s'.callDirectly conn' request).2 := by
  have hanswer : (s'.callDirectly conn' request).1 =
      (s.callDirectly conn request).1 := by
    obtain ⟨hsource, hsource'⟩ := hs.ofSource conn conn' hconn
    simp only [State.callDirectly, Driver.call, Driver.check, hsource,
      hsource', hs.faults]
    cases (s.drivers source).faults request.fault <;> rfl
  refine ⟨hanswer, touching hs hconn (.callDirectly s conn request) ?_
    (s.nextId_callDirectly conn request source)
    (s'.nextId_callDirectly conn' request source)⟩
  have htouches := State.Touches.callDirectly s' conn' request
  rw [hanswer] at htouches
  have hevents : ∀ fault,
      (State.Heard.ofCall conn request fault).map (Event.about conn'.id) =
      State.Heard.ofCall conn' request fault := by
    intro fault
    cases fault <;> rfl
  rwa [hevents]

theorem call (hs : s.Mirrors source period ρ s') {conn conn' : Connection}
    (hconn : ρ.connections conn conn') (request : Call) :
    (s'.call conn' request).1 = (s.call conn request).1 ∧
      InStep source period ρ ρ s s' (s.call conn request).2
        (s'.call conn' request).2 := by
  obtain ⟨hanswer, hstep⟩ := callDirectly hs hconn request
  rw [State.call, State.call]
  cases hdirect : s.callDirectly conn request with
  | mk answer s₁ =>
      cases hdirect' : s'.callDirectly conn' request with
      | mk answer' s₁' =>
          rw [hdirect, hdirect'] at hanswer hstep
          obtain rfl : answer' = answer := hanswer
          cases answer' <;> exact ⟨rfl, hstep.trans (note hstep.mirrors _ _)⟩

theorem release (hs : s.Mirrors source period ρ s') {conn conn' : Connection}
    (hconn : ρ.connections conn conn') :
    (s'.release source conn').1 = (s.release source conn).1 ∧
      InStep source period ρ ρ s s' (s.release source conn).2
        (s'.release source conn').2 := by
  obtain ⟨hsource, hsource'⟩ := hs.ofSource conn conn' hconn
  have hanswer : (s'.release source conn').1 = (s.release source conn).1 := by
    simp only [State.release, Driver.release, Driver.check, hs.faults]
    cases (s.drivers source).faults .release <;> rfl
  refine ⟨hanswer, ?_⟩
  have htouches := State.Touches.release s conn
  have htouches' := State.Touches.release s' conn'
  rw [hsource] at htouches
  rw [hsource', hanswer] at htouches'
  refine touching hs hconn htouches ?_ (s.nextId_release source conn source)
    (s'.nextId_release source conn' source)
  cases hfault : faultOf (s.release source conn).1 with
  | none => rwa [hfault] at htouches'
  | some fault => rwa [hfault] at htouches'

/-- A failure of a restoring step is ignored on both sides. -/
theorem restoring {r r' : Except Fault Unit × State} (hanswer : r'.1 = r.1)
    (h : InStep source period ρ ρ s s' r.2 r'.2) (step : RestoringStep) :
    InStep source period ρ ρ s s' (State.restoring step r)
      (State.restoring step r') := by
  obtain ⟨answer, s₁⟩ := r
  obtain ⟨answer', s₁'⟩ := r'
  obtain rfl : answer' = answer := hanswer
  cases answer' with
  | ok _ => exact h
  | error fault => exact h.trans (say h.mirrors _ _)

/-- Creating a connection changes nothing about the others. -/
theorem spares_creating {conn : Connection}
    (h : s.create source = (.ok conn, s₁)) :
    s.Spares source (fun _ => False) (· = conn) s₁.toWorld := by
  obtain ⟨rfl, hnext⟩ := State.create_of_ok h
  exact (State.Touches.created h).spares source (hnext ▸ Nat.lt_succ_self _)
    (hnext ▸ Nat.le_succ _)

/-- A connection that is known is not the next one. -/
theorem ne_next (hs : s.Mirrors source period ρ s') {x x' : Connection}
    (hx : ρ.connections x x') :
    x ≠ ⟨source, s.nextId source⟩ ∧ x' ≠ ⟨source, s'.nextId source⟩ := by
  obtain ⟨hmade, hmade'⟩ := hs.madeConnections x x' hx
  constructor
  · rintro rfl
    exact Nat.lt_irrefl _ hmade
  · rintro rfl
    exact Nat.lt_irrefl _ hmade'

/-- What is recorded about a connection that was matched with another one
because both are new. -/
theorem mirrors_creating (hs : s.Mirrors source period ρ s')
    {conn conn' : Connection} (h : s.create source = (.ok conn, s₁))
    (h' : s'.create source = (.ok conn', s₁')) :
    s₁.Mirrors source period (ρ.withConnection conn conn') s₁' := by
  have hspares := spares_creating h
  have hspares' := spares_creating h'
  obtain ⟨rfl, hnext⟩ := State.create_of_ok h
  obtain ⟨rfl, hnext'⟩ := State.create_of_ok h'
  have htouches : State.Touches ⟨source, s.nextId source⟩ _ s s₁ := .created h
  have htouches' : State.Touches ⟨source, s'.nextId source⟩ _ s' s₁' :=
    .created h'
  obtain ⟨_, hheard⟩ := htouches.heard
  obtain ⟨_, hheard'⟩ := htouches'.heard
  have hseen : ∀ x x', ρ.connections x x' → _ := fun x x' hx =>
    hspares.seen hs hspares' hx (ne_next hs hx).1 (ne_next hs hx).2
  exact
    { bound := fun key => by
        rw [htouches.sameHolders.bound, htouches'.sameHolders.bound]
        exact hs.bound key
      holders := by
        intro id id' hid
        rw [htouches.sameHolders.holders, htouches'.sameHolders.holders,
          htouches'.now]
        exact (hs.holders id id' hid).mono (fun _ _ => Or.inl) fun hnow => hnow
      session := by
        rintro x x' (hx | ⟨rfl, rfl⟩)
        · exact (hseen x x' hx).1
        · rw [hheard.session, hheard'.session]
          exact congrArg some hs.initial
      events := by
        rintro x x' (hx | ⟨rfl, rfl⟩)
        · exact (hseen x x' hx).2
        · rw [hheard.eventsOf, hheard'.eventsOf,
            hs.blank.1 _ rfl (Nat.le_refl _), hs.blank.2 _ rfl (Nat.le_refl _)]
          rfl
      ofSource := by
        rintro x x' (hx | ⟨rfl, rfl⟩)
        · exact hs.ofSource x x' hx
        · exact ⟨rfl, rfl⟩
      madeHolders := by
        rw [htouches.sameHolders.nextHolder, htouches'.sameHolders.nextHolder]
        exact hs.madeHolders
      madeConnections := by
        rw [hnext, hnext']
        rintro x x' (hx | ⟨rfl, rfl⟩)
        · exact (hs.madeConnections x x' hx).imp Nat.lt_succ_of_lt
            Nat.lt_succ_of_lt
        · exact ⟨Nat.lt_succ_self _, Nat.lt_succ_self _⟩
      oneHolder := hs.oneHolder
      oneConnection := biUnique_insert hs.oneConnection
        (fun x' hx => (ne_next hs hx).1 rfl) fun x hx => (ne_next hs hx).2 rfl
      faults := hspares'.faults.trans (hs.faults.trans hspares.faults.symm)
      initial := hspares'.initial.trans (hs.initial.trans hspares.initial.symm)
      blank := hs.blank.imp hspares.blank hspares'.blank
      clock := by
        rw [htouches.now, htouches'.now]
        exact hs.clock }

theorem creating (hs : s.Mirrors source period ρ s') {conn conn' : Connection}
    (h : s.create source = (.ok conn, s₁))
    (h' : s'.create source = (.ok conn', s₁')) :
    InStep source period ρ (ρ.withConnection conn conn') s s' s₁ s₁' := by
  have hmirrors := mirrors_creating hs h h'
  have hspares := spares_creating h
  have hspares' := spares_creating h'
  obtain ⟨rfl, hnext⟩ := State.create_of_ok h
  obtain ⟨rfl, hnext'⟩ := State.create_of_ok h'
  exact
    { mirrors := hmirrors
      holders := fun _ _ hid => hid
      connections := fun _ _ => Or.inl
      newHolders := fun _ _ => Or.inl
      newConnections := fun _ _ => Or.imp_right fun ⟨hx, hx'⟩ =>
        ⟨Nat.le_of_eq (congrArg Connection.id hx).symm,
          Nat.le_of_eq (congrArg Connection.id hx').symm⟩
      created := by
        rw [World.created_of_succ hnext, World.created_of_succ hnext']
        exact .cons (Or.inr ⟨rfl, rfl⟩) .nil
      spares := World.Spares.of_new hspares
        fun conn heq => Nat.le_of_eq (heq ▸ rfl)
      spares' := World.Spares.of_new hspares' fun conn heq =>
        Nat.le_of_eq (heq ▸ rfl) }

/-- Each side gets a connection, or neither does. -/
theorem create (hs : s.Mirrors source period ρ s') :
    (∃ fault s₁ s₁', s.create source = (.error fault, s₁) ∧
      s'.create source = (.error fault, s₁') ∧
      InStep source period ρ ρ s s' s₁ s₁') ∨
    ∃ conn conn' s₁ s₁', s.create source = (.ok conn, s₁) ∧
      s'.create source = (.ok conn', s₁') ∧
      InStep source period ρ (ρ.withConnection conn conn') s s' s₁ s₁' := by
  by_cases hfault : (s.drivers source).faults .create = true
  · have hfails : ∀ t : State, (t.drivers source).faults .create = true →
        t.create source =
          (.error .create, t.note (.driver (.create ⟨source, t.nextId source⟩)
            (some .create))) := by
      intro t ht
      rw [State.create, Driver.create_eq_error_iff.mpr ⟨rfl, ht⟩]
      rfl
    exact Or.inl ⟨_, _, _, hfails s hfault,
      hfails s' (by rw [hs.faults, hfault]),
      note hs _ _⟩
  · have hgives : ∀ t : State, (t.drivers source).faults .create ≠ true →
        ∃ conn t₁, t.create source = (.ok conn, t₁) := by
      intro t ht
      rw [State.create, Driver.create, Driver.check, if_neg ht]
      exact ⟨_, _, rfl⟩
    obtain ⟨conn, s₁, hcreate⟩ := hgives s hfault
    obtain ⟨conn', s₁', hcreate'⟩ := hgives s' (by rwa [hs.faults])
    exact Or.inr ⟨conn, conn', s₁, s₁', hcreate, hcreate',
      creating hs hcreate hcreate'⟩

end InStep

end UnitOfWork
