import UnitOfWork.Proofs.MirroredExecutions

/-!
# Two contexts of one coordinator

Two parties work with one coordinator and one source, each on a context of its
own, and take turns: a turn is an operation of the coordinator or a whole
execution, during which the other party does nothing.  A party has a pocket, and
a record of what it was told and of the connections that it has, those that were
created in its turns included.

If the two have no holder and no connection in common, then neither notices the
other.  All that is left of the turns of the other party are the numbers of new
holders and new connections.
-/

namespace UnitOfWork

variable {ε α : Type}

inductive Turn (ε α : Type) where
  | act (act : Act)
  | execute (d : Definition) (errand : Errand ε α)

inductive Answer (ε α : Type) where
  | reply (reply : Reply)
  | ended (ending : Ending ε α)

structure Party (ε α : Type) where
  context : Bindings HolderId := .empty
  pocket : Pocket := {}
  /-- The connections that it had at first and those that were created in its
  turns, in this order. -/
  connections : List Connection := []
  answers : List (Answer ε α) := []

namespace Party

def state (party : Party ε α) (w : World) : State where
  toWorld := w
  context := party.context

/-- The party after a turn. -/
def turned (party : Party ε α) (source : SourceId) (w : World) (s : State)
    (p : Pocket) (answer : Answer ε α) : Party ε α where
  context := s.context
  pocket := p
  connections := party.connections ++ w.created source s.toWorld
  answers := party.answers ++ [answer]

/-- A party can get at a holder: it is bound in its context, or it is the holder
of a handle in its pocket or suspended there. -/
def Holds (party : Party ε α) (id : HolderId) : Prop :=
  (∃ key, party.context.get? key = some id) ∨
    (∃ slot h, party.pocket.handles slot = some h ∧ h.holder = some id) ∨
      ∃ slot, party.pocket.suspended slot = some id

end Party

namespace Turn

def take (c : Coordinator) (w : World) (party : Party ε α) :
    Turn ε α → World × Party ε α
  | act a =>
      let done := a.perform c (party.state w) party.pocket
      (done.state.toWorld,
        party.turned c.source.id w done.state done.pocket (.reply done.reply))
  | execute d errand =>
      let run := c.execute d (errand.run c) (party.state w) party.pocket
      (run.state.toWorld,
        party.turned c.source.id w run.state run.memory (.ended run.ending))

def Asks (P : Definition → Prop) : Turn ε α → Prop
  | act a => ∀ d, a.definition? = some d → P d
  | execute d errand => P d ∧ errand.Asks P

theorem asks_of_forall {P : Definition → Prop} (h : ∀ d, P d)
    (turn : Turn ε α) :
    turn.Asks P := by
  cases turn with
  | act a => exact fun d _ => h d
  | execute d errand => exact ⟨h d, errand.asks_of_forall h⟩

theorem take_connections (c : Coordinator) (w : World) (party : Party ε α)
    (turn : Turn ε α) :
    (turn.take c w party).2.connections =
      party.connections ++ w.created c.source.id (turn.take c w party).1 := by
  cases turn <;> rfl

/-- The same turn on both sides. -/
theorem take_inStep {c : Coordinator} {period : Period} {ρ : Renaming}
    {w w' : World} {party party' : Party ε α} {turn : Turn ε α}
    (hsteady : turn.Asks (c.SteadyIn period))
    (hs : (party.state w).Mirrors c.source.id period ρ (party'.state w'))
    (hp : party.pocket.Mirrors ρ party'.pocket)
    (hanswers : party'.answers = party.answers) :
    ∃ ρ₁, InStep c.source.id period ρ ρ₁ (party.state w) (party'.state w')
        ((turn.take c w party).2.state (turn.take c w party).1)
        ((turn.take c w' party').2.state (turn.take c w' party').1) ∧
      (turn.take c w party).2.pocket.Mirrors ρ₁
        (turn.take c w' party').2.pocket ∧
      (turn.take c w' party').2.answers = (turn.take c w party).2.answers := by
  cases turn with
  | act a =>
      obtain ⟨ρ₁, hdone⟩ := Act.perform_inStep hsteady hs hp
      refine ⟨ρ₁, hdone.state, hdone.pocket, ?_⟩
      simp only [take, Party.turned, hanswers, hdone.reply]
  | execute d errand =>
      obtain ⟨ρ₁, hrun⟩ :=
        Coordinator.execute_inStep (Errand.discreet hsteady.2) hsteady.1 hs hp
      obtain ⟨result, hending, hending'⟩ := hrun.finished
      refine ⟨ρ₁, hrun.state, hrun.memory, ?_⟩
      simp only [take, Party.turned, hanswers, hending, hending']

end Turn

structure Neighbours (ε α : Type) where
  world : World
  one : Party ε α
  other : Party ε α

namespace Neighbours

def take (c : Coordinator) (n : Neighbours ε α) :
    Turn ε α ⊕ Turn ε α → Neighbours ε α
  | .inl turn =>
      let taken := turn.take c n.world n.one
      { n with world := taken.1, one := taken.2 }
  | .inr turn =>
      let taken := turn.take c n.world n.other
      { n with world := taken.1, other := taken.2 }

def takeAll (c : Coordinator) (n : Neighbours ε α)
    (turns : List (Turn ε α ⊕ Turn ε α)) :
    Neighbours ε α :=
  turns.foldl (take c) n

end Neighbours

/-- What a party has: holders that exist, with connections that it has, too, and
connections that the source has given. -/
structure Party.Sound (source : SourceId) (w : World) (party : Party ε α) :
    Prop where
  holders : ∀ id, party.Holds id → id < w.nextHolder
  held : ∀ id, party.Holds id → ∀ conn, (w.holders id).connection = some conn →
    conn ∈ party.connections
  kept : ∀ slot conn, party.pocket.connections slot = some conn →
    conn ∈ party.connections
  connections : ∀ conn ∈ party.connections,
    conn.source = source ∧ conn.id < w.nextId source

/-- The two parties have nothing in common but the source and its faults. -/
structure Neighbours.Separate (source : SourceId) (n : Neighbours ε α) :
    Prop where
  one : n.one.Sound source n.world
  other : n.other.Sound source n.world
  holders : ∀ id, n.one.Holds id → ¬ n.other.Holds id
  connections : ∀ conn ∈ n.one.connections, conn ∉ n.other.connections
  blank : n.world.Blank source

/-- Apart from the numbers of its holders and connections, the first party finds
the same in both worlds, and it was told the same. -/
structure Neighbours.SameForOne (ρ : Renaming) (n n' : Neighbours ε α) :
    Prop where
  answers : n'.one.answers = n.one.answers
  bound : ∀ key, Option.Rel ρ.holders (n.one.context.get? key)
    (n'.one.context.get? key)
  holders : ∀ id id', ρ.holders id id' →
    (n.world.holders id).Mirrors ρ.connections True (n'.world.holders id')
  pocket : n.one.pocket.Mirrors ρ n'.one.pocket
  connections : List.Forall₂ ρ.connections n.one.connections n'.one.connections
  session : ∀ conn conn', ρ.connections conn conn' →
    n'.world.session conn' = n.world.session conn
  events : ∀ conn conn', ρ.connections conn conn' →
    n'.world.eventsOf conn' = (n.world.eventsOf conn).map (Event.about conn'.id)
  oneHolder : Relator.BiUnique ρ.holders
  oneConnection : Relator.BiUnique ρ.connections

/-! ## The renaming at the start -/

namespace Party

variable {source : SourceId} {period : Period} {w : World} {party : Party ε α}

/-- What a party has stands for itself. -/
def itself (party : Party ε α) : Renaming where
  holders id id' := id' = id ∧ party.Holds id
  connections conn conn' := conn' = conn ∧ conn ∈ party.connections

theorem rel_itself {β : Type} {P : β → Prop} {o : Option β}
    (h : ∀ a, o = some a → P a) :
    Option.Rel (fun a a' => a' = a ∧ P a) o o := by
  cases o with
  | none => exact .none
  | some a => exact .some ⟨rfl, h a rfl⟩

theorem Sound.mirrors (hparty : party.Sound source w) (hblank : w.Blank source)
    (hstart : period.start ≤ w.now) :
    (party.state w).Mirrors source period party.itself (party.state w) where
  bound key := rel_itself fun id hid => Or.inl ⟨key, hid⟩
  holders := by
    rintro _ id ⟨rfl, hid⟩
    exact ⟨rel_itself fun conn hconn => hparty.held id hid conn hconn, rfl, rfl,
      fun _ => rfl⟩
  session := by
    rintro _ conn ⟨rfl, -⟩
    rfl
  events := by
    rintro _ conn ⟨rfl, -⟩
    exact (w.eventsOf_about conn).symm
  ofSource := by
    rintro _ conn ⟨rfl, hconn⟩
    exact ⟨(hparty.connections conn hconn).1, (hparty.connections conn hconn).1⟩
  madeHolders := by
    rintro _ id ⟨rfl, hid⟩
    exact ⟨hparty.holders id hid, hparty.holders id hid⟩
  madeConnections := by
    rintro _ conn ⟨rfl, hconn⟩
    exact ⟨(hparty.connections conn hconn).2, (hparty.connections conn hconn).2⟩
  oneHolder := ⟨fun _ _ _ h h' => h.1.symm.trans h'.1,
    fun _ _ _ h h' => h.1.trans h'.1.symm⟩
  oneConnection :=
    ⟨fun _ _ _ h h' => h.1.symm.trans h'.1,
      fun _ _ _ h h' => h.1.trans h'.1.symm⟩
  faults := rfl
  initial := rfl
  blank := ⟨hblank, hblank⟩
  clock := ⟨hstart, Nat.le_refl _⟩

theorem Sound.pocket (hparty : party.Sound source w) :
    party.pocket.Mirrors party.itself party.pocket where
  handles slot := by
    cases hslot : party.pocket.handles slot with
    | none => exact .none
    | some h =>
        exact .some ⟨rel_itself fun id hid =>
          Or.inr (Or.inl ⟨slot, h, hslot, hid⟩),
          rfl, rfl, rfl, rfl, rfl⟩
  suspended slot := rel_itself fun id hid => Or.inr (Or.inr ⟨slot, hid⟩)
  connections slot := rel_itself fun conn hconn => hparty.kept slot conn hconn

end Party

/-! ## Turn by turn -/

/-- A run of the first party alone beside one of both.  The first party finds
the same in the two worlds, and in the second one it has nothing in common with
the other party. -/
structure Neighbours.Undisturbed (c : Coordinator) (period : Period)
    (ρ τ : Renaming) (n n' : Neighbours ε α) : Prop where
  one : (n.one.state n.world).Mirrors c.source.id period ρ
    (n'.one.state n'.world)
  onePocket : n.one.pocket.Mirrors ρ n'.one.pocket
  connections : List.Forall₂ ρ.connections n.one.connections n'.one.connections
  answers : n'.one.answers = n.one.answers
  -- What the other party has is known as what stands for itself; its deadlines
  -- do not matter.
  other : (n'.other.state n'.world).Mirrors c.source.id ⟨0, 0⟩ τ
    (n'.other.state n'.world)
  otherPocket : n'.other.pocket.Mirrors τ n'.other.pocket
  apartHolders : ∀ id, ρ.toHolder id → ¬ τ.fromHolder id ∧ ¬ τ.toHolder id
  apartConnections : ∀ conn, ρ.toConnection conn →
    ¬ τ.fromConnection conn ∧ ¬ τ.toConnection conn

namespace Neighbours

variable {c : Coordinator} {period : Period} {ρ τ : Renaming}
variable {n n' : Neighbours ε α} {turn : Turn ε α}

/-- The other party does not notice a turn of the first one. -/
theorem Undisturbed.takeOne (h : Undisturbed c period ρ τ n n')
    (hsteady : turn.Asks (c.SteadyIn period)) :
    ∃ ρ₁, Undisturbed c period ρ₁ τ (n.take c (.inl turn))
      (n'.take c (.inl turn)) := by
  obtain ⟨ρ₁, hstep, hp, hanswers⟩ :=
    Turn.take_inStep hsteady h.one h.onePocket h.answers
  exact ⟨ρ₁,
    { one := hstep.mirrors
      onePocket := hp
      connections := by
        rw [take, take, Turn.take_connections, Turn.take_connections]
        exact List.rel_append (h.connections.imp hstep.connections)
          hstep.created
      answers := hanswers
      other := World.Spares.mirrors h.other hstep.spares' hstep.spares'
        (fun id id' hid =>
          ⟨fun hin => (h.apartHolders id hin).1 ⟨id', hid⟩,
            fun hin => (h.apartHolders id' hin).2 ⟨id, hid⟩⟩)
        (fun conn conn' hconn =>
          ⟨fun hin => (h.apartConnections conn hin).1 ⟨conn', hconn⟩,
            fun hin => (h.apartConnections conn' hin).2 ⟨conn, hconn⟩⟩)
        (Nat.le_refl _)
      otherPocket := h.otherPocket
      apartHolders := by
        intro id hid
        rcases hstep.toHolder hid with hid | hnew
        · exact h.apartHolders id hid
        · exact ⟨fun hother =>
            Nat.not_lt.mpr hnew (h.other.fromHolder_lt hother),
            fun hother => Nat.not_lt.mpr hnew (h.other.toHolder_lt hother)⟩
      apartConnections := by
        intro conn hconn
        rcases hstep.toConnection hconn with hconn | hnew
        · exact h.apartConnections conn hconn
        · exact ⟨fun hother =>
            Nat.not_lt.mpr hnew (h.other.fromConnection_lt hother),
            fun hother =>
              Nat.not_lt.mpr hnew (h.other.toConnection_lt hother)⟩ }⟩

/-- The first party does not notice a turn of the other one. -/
theorem Undisturbed.takeOther (h : Undisturbed c period ρ τ n n')
    (turn : Turn ε α) :
    ∃ τ₁, Undisturbed c period ρ τ₁ n (n'.take c (.inr turn)) := by
  have hsteady : turn.Asks (c.SteadyIn ⟨0, 0⟩) :=
    turn.asks_of_forall fun d now _ hnow => absurd hnow (Nat.not_lt_zero now)
  obtain ⟨τ₁, hstep, hp, -⟩ :=
    Turn.take_inStep hsteady h.other h.otherPocket rfl
  exact ⟨τ₁,
    { one := World.Spares.mirrors h.one (.refl n.world) hstep.spares'
        (fun id id' hid => ⟨not_false, (h.apartHolders id' ⟨id, hid⟩).2⟩)
        (fun conn conn' hconn =>
          ⟨not_false, (h.apartConnections conn' ⟨conn, hconn⟩).2⟩)
        (Nat.le_trans h.one.clock.2 hstep.spares'.now)
      onePocket := h.onePocket
      connections := h.connections
      answers := h.answers
      other := hstep.mirrors
      otherPocket := hp
      apartHolders := by
        intro id hid
        have hmade := h.one.toHolder_lt hid
        obtain ⟨hnot, hnot'⟩ := h.apartHolders id hid
        exact ⟨fun hother =>
          (hstep.fromHolder hother).elim hnot (Nat.not_le.mpr hmade),
          fun hother => (hstep.toHolder hother).elim hnot'
            (Nat.not_le.mpr hmade)⟩
      apartConnections := by
        intro conn hconn
        have hmade := h.one.toConnection_lt hconn
        obtain ⟨hnot, hnot'⟩ := h.apartConnections conn hconn
        exact ⟨fun hother =>
          (hstep.fromConnection hother).elim hnot (Nat.not_le.mpr hmade),
          fun hother => (hstep.toConnection hother).elim hnot'
            (Nat.not_le.mpr hmade)⟩ }⟩

/-- The turns of the first party lead to the same with those of the other one in
between. -/
theorem Undisturbed.takeAll {turns : List (Turn ε α ⊕ Turn ε α)}
    (h : Undisturbed c period ρ τ n n')
    (hsteady : ∀ turn, .inl turn ∈ turns → turn.Asks (c.SteadyIn period)) :
    ∃ ρ₁ τ₁, Undisturbed c period ρ₁ τ₁ (n.takeAll c (turns.filter Sum.isLeft))
      (n'.takeAll c turns) := by
  induction turns generalizing n n' ρ τ with
  | nil => exact ⟨ρ, τ, h⟩
  | cons turn rest ih =>
      have hrest : ∀ turn, .inl turn ∈ rest → turn.Asks (c.SteadyIn period) :=
        fun turn hmem => hsteady turn (List.mem_cons_of_mem _ hmem)
      cases turn with
      | inl turn =>
          obtain ⟨ρ₁, htaken⟩ := h.takeOne (hsteady turn List.mem_cons_self)
          exact ih htaken hrest
      | inr turn =>
          obtain ⟨τ₁, htaken⟩ := h.takeOther turn
          exact ih htaken hrest

theorem Separate.undisturbed (h : n.Separate c.source.id)
    (hstart : period.start ≤ n.world.now) :
    Undisturbed c period n.one.itself n.other.itself n n where
  one := h.one.mirrors h.blank hstart
  onePocket := h.one.pocket
  connections := List.forall₂_same.mpr fun conn hconn => ⟨rfl, hconn⟩
  answers := rfl
  other := h.other.mirrors h.blank (Nat.zero_le _)
  otherPocket := h.other.pocket
  apartHolders := by
    rintro id ⟨_, rfl, hone⟩
    exact ⟨fun ⟨_, _, hother⟩ => h.holders id hone hother,
      fun ⟨_, heq, hother⟩ => h.holders id hone (heq ▸ hother)⟩
  apartConnections := by
    rintro conn ⟨_, rfl, hone⟩
    exact ⟨fun ⟨_, _, hother⟩ => h.connections conn hone hother,
      fun ⟨_, heq, hother⟩ => h.connections conn hone (heq ▸ hother)⟩

end Neighbours

/-! ## Two parties with bound holders -/

/-- Two parties that have bound a holder each, under the same key and for
certain connections. -/
def Neighbours.sideBySide (now : Instant) (first second : Connection) :
    Neighbours Empty Unit where
  world :=
    { drivers := fun _ =>
      { nextId := 3, sessions := fun id => if id < 3 then some {} else none }
      holders := fun id => .of (if id = 0 then first else second)
      nextHolder := 2
      now }
  one := { context := Bindings.empty.insert ⟨"mock"⟩ 0, connections := [first] }
  other := { context := Bindings.empty.insert ⟨"mock"⟩ 1, connections :=
    [second] }

theorem Party.holds_bound {key : Key} {bound id : HolderId}
      {connections : List Connection}
    (h : ({ context := Bindings.empty.insert key bound, connections } :
      Party ε α).Holds id) :
    id = bound := by
  rcases h with ⟨other, hbound⟩ | ⟨_, _, hnone, -⟩ | ⟨_, hnone⟩
  · rw [Bindings.get?_insert] at hbound
    split at hbound
    · exact (Option.some.inj hbound).symm
    · cases hbound
  · cases hnone
  · cases hnone

theorem Party.sound_bound {source : SourceId} {w : World} {conn : Connection}
    {bound : HolderId} (key : Key) (hsource : conn.source = source)
    (hgiven : conn.id < w.nextId source) (hmade : bound < w.nextHolder)
    (hheld : (w.holders bound).connection = some conn) :
    ({ context := Bindings.empty.insert key bound, connections := [conn] } :
      Party ε α).Sound source w where
  holders id h := Party.holds_bound h ▸ hmade
  held id h other hother := by
    rw [Party.holds_bound h, hheld] at hother
    exact List.mem_singleton.mpr (Option.some.inj hother).symm
  kept _ _ h := by cases h
  connections other hmem := by
    rw [List.mem_singleton.mp hmem]
    exact ⟨hsource, hgiven⟩

/-- They have nothing in common unless their connections are the same. -/
theorem Neighbours.sound_sideBySide (now : Instant) (first second : Connection)
    (hfirst : first.source = 0 ∧ first.id < 3) (hsecond : second.source = 0 ∧
      second.id < 3) :
    let n := sideBySide now first second
    n.one.Sound 0 n.world ∧ n.other.Sound 0 n.world ∧
      (∀ id, n.one.Holds id → ¬ n.other.Holds id) ∧ n.world.Blank 0 := by
  refine ⟨Party.sound_bound _ hfirst.1 hfirst.2 Nat.zero_lt_two rfl,
    Party.sound_bound _ hsecond.1 hsecond.2
      Nat.one_lt_two rfl, ?_, fun _ _ _ => rfl⟩
  intro id hone hother
  exact Nat.zero_ne_one
    ((Party.holds_bound hone).symm.trans (Party.holds_bound hother))

/-- Two parties that share a coordinator and its source, but no holder and no
connection, do not interfere.  However the turns of the other party come between
those of the first one, the first one is told the same as if it were alone, and
in the end it finds the same, up to the numbers of the holders and connections
that were made in the meantime.  As to the deadlines, it must not depend on the
time that passes whether one that the first party asks for is within the reach
of the clock. -/
theorem Neighbours.takeAll_undisturbed (c : Coordinator) (n : Neighbours ε α)
    (turns : List (Turn ε α ⊕ Turn ε α)) (hseparate : n.Separate c.source.id)
    (hsteady : ∀ turn, .inl turn ∈ turns →
      turn.Asks (c.SteadyIn ⟨n.world.now, (n.takeAll c turns).world.now + 1⟩)) :
    ∃ ρ, Neighbours.SameForOne ρ (n.takeAll c (turns.filter Sum.isLeft))
      (n.takeAll c turns) := by
  obtain ⟨ρ, τ, h⟩ := (hseparate.undisturbed (Nat.le_refl _)).takeAll hsteady
  exact ⟨ρ,
    { answers := h.answers
      bound := h.one.bound
      holders := fun id id' hid =>
        (h.one.holders id id' hid).mono (fun _ _ hconn => hconn)
          fun _ => Nat.lt_succ_self _
      pocket := h.onePocket
      connections := h.connections
      session := h.one.session
      events := h.one.events
      oneHolder := h.one.oneHolder
      oneConnection := h.one.oneConnection }⟩

/-- The other party opens a connection inside of its transaction before the
first one does, and waits, so that the first one gets another number than if it
were alone. -/
theorem Neighbours.takeAll_undisturbed_beside_nested :
    let c : Coordinator := { source := ⟨0, ⟨"mock"⟩⟩ }
    let n := Neighbours.sideBySide 1 ⟨0, 1⟩ ⟨0, 2⟩
    let nested : Errand Empty Unit := .execute { propagation := .requiresNew }
      (.step (.act (.getConnection 0)) fun _ =>
          .step (.act (.call 0 (.execute "query")))
        fun _ => .finish (.ok ())) .finish
    let turns : List (Turn Empty Unit ⊕ Turn Empty Unit) :=
      [.inr (.execute {} nested), .inr (.act (.rest 3)),
        .inl (.execute
          { isolation := .exactly .serializable, timeout := .seconds 5 }
          nested)]
    let alone := n.takeAll c (turns.filter Sum.isLeft)
    let together := n.takeAll c turns
    (∃ ρ, Neighbours.SameForOne ρ alone together) ∧
      alone.one.connections = [⟨0, 1⟩, ⟨0, 3⟩] ∧
      together.one.connections = [⟨0, 1⟩, ⟨0, 4⟩] := by
  intro c n nested turns alone together
  obtain ⟨hone, hother, hholders, hblank⟩ :=
    Neighbours.sound_sideBySide 1 ⟨0, 1⟩ ⟨0, 2⟩ ⟨rfl, by decide⟩
        ⟨rfl, by decide⟩
  have hend : together.world.now = 4 := by decide +kernel
  have hlimited : c.config.timeLimit
      { isolation := .exactly .serializable, timeout := .seconds 5 } =
        some 5 := by
    decide +kernel
  have hunlimited : c.config.timeLimit { propagation := .requiresNew } =
    none := by decide
  have hsteady : ∀ turn, .inl turn ∈ turns →
      turn.Asks (c.SteadyIn ⟨n.world.now, together.world.now + 1⟩) := by
    intro turn hturn
    obtain rfl : turn =
        .execute { isolation := .exactly .serializable, timeout := .seconds 5 }
        nested := by
      simpa [turns] using hturn
    refine ⟨Coordinator.steadyIn_of_limit fun seconds h => Or.inl ?_,
      Coordinator.steadyIn_of_limit fun seconds h => ?_, ?_, fun _ => trivial⟩
    · rw [← Option.some.inj (hlimited.symm.trans h), hend]
      decide
    · cases hunlimited.symm.trans h
    · exact ⟨fun d h => (by cases h),
        fun _ => ⟨fun d h => (by cases h), fun _ => trivial⟩⟩
  exact ⟨Neighbours.takeAll_undisturbed c n turns
    ⟨hone, hother, hholders, by decide, hblank⟩ hsteady,
    by decide +kernel, by decide +kernel⟩

/-- The parties do interfere if their holders have one connection: the first one
finds the level that the other one has set, and so it has nothing to restore in
the end.  And if the other party waits, a limit may get out of the reach of the
clock that was within it. -/
theorem Neighbours.takeAll_disturbed_by_shared :
    let c : Coordinator := { source := ⟨0, ⟨"mock"⟩⟩ }
    let begins (d : Definition) : List (Turn Empty Unit) :=
      [.act (.discover 0), .act (.begin d 0)]
    let ends : List (Turn Empty Unit) := [.act (.commit 0), .act (.cleanup 0)]
    let shared := Neighbours.sideBySide 1 ⟨0, 1⟩ ⟨0, 1⟩
    let d : Definition := { isolation := .exactly .serializable }
    let turns := (begins d).map .inr ++ (begins d ++ ends).map .inl
    let late := Neighbours.sideBySide (Instant.latest - 3) ⟨0, 1⟩ ⟨0, 2⟩
    let turns' :=
      .inr (.act (.rest 2)) :: (begins { timeout := .seconds 2 }).map .inl
    (shared.one.Sound 0 shared.world ∧ shared.other.Sound 0 shared.world ∧
      (∀ id, shared.one.Holds id → ¬ shared.other.Holds id) ∧
      shared.world.Blank 0) ∧
    (¬ ∃ ρ, Neighbours.SameForOne ρ (shared.takeAll c (turns.filter Sum.isLeft))
      (shared.takeAll c turns)) ∧
    late.Separate 0 ∧
    ¬ ∃ ρ, Neighbours.SameForOne ρ (late.takeAll c (turns'.filter Sum.isLeft))
      (late.takeAll c turns') := by
  intro c begins ends shared d turns late turns'
  refine ⟨Neighbours.sound_sideBySide 1 ⟨0, 1⟩ ⟨0,
    1⟩ ⟨rfl, by decide⟩ ⟨rfl, by decide⟩,
    ?_, ?_, ?_⟩
  · rintro ⟨ρ, hsame⟩
    have halone : (shared.takeAll c (turns.filter Sum.isLeft)).one.connections =
        [⟨0, 1⟩] := by
      decide +kernel
    have htogether : (shared.takeAll c turns).one.connections = [⟨0, 1⟩] := by
      decide +kernel
    have hconnections := hsame.connections
    rw [halone, htogether] at hconnections
    obtain ⟨hconn, -⟩ := List.forall₂_cons.mp hconnections
    have hrestored : (shared.takeAll
        c (turns.filter Sum.isLeft)).world.session ⟨0, 1⟩ = some {} := by
      decide +kernel
    have hkept : (shared.takeAll c turns).world.session ⟨0, 1⟩ =
        some { autoCommit := false, isolation := .standard .serializable } := by
      decide +kernel
    have hsession := hsame.session _ _ hconn
    rw [hrestored, hkept] at hsession
    exact absurd hsession (by decide)
  · obtain ⟨hone, hother, hholders, hblank⟩ := Neighbours.sound_sideBySide
      (Instant.latest - 3) ⟨0, 1⟩ ⟨0, 2⟩ ⟨rfl, by decide⟩ ⟨rfl, by decide⟩
    exact ⟨hone, hother, hholders, by decide, hblank⟩
  · rintro ⟨ρ, hsame⟩
    have halone :
        (late.takeAll c (turns'.filter Sum.isLeft)).one.context.get? ⟨"mock"⟩ =
          some 0 := by
      decide +kernel
    have htogether :
        (late.takeAll c turns').one.context.get? ⟨"mock"⟩ = some 0 := by
      decide +kernel
    have hbound := hsame.bound ⟨"mock"⟩
    rw [halone, htogether] at hbound
    cases hbound with
    | some hid =>
        have hdeadline := (hsame.holders 0 0 hid).deadline trivial
        have hthere : ((late.takeAll c (turns'.filter Sum.isLeft)).world.holders
            0).deadline.isSome = true := by
          decide +kernel
        have hgone :
            ((late.takeAll c turns').world.holders 0).deadline.isSome =
              false := by
          decide +kernel
        rw [hthere, hgone] at hdeadline
        exact Bool.false_ne_true hdeadline

end UnitOfWork
