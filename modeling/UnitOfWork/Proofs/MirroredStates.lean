import Mathlib.Data.List.Forall2
import Mathlib.Logic.Relator
import UnitOfWork.Proofs.AttemptCalls

/-!
# Two states that mirror each other

Of two runs of the same operations one may be disturbed by what others do with
the same source in between.  Then connections and holders get other numbers in
the one than in the other, and time may have gone on further.  `State.Mirrors`
says that apart from this the two states show the same: through a renaming, the
context binds the same holders, these are in the same stage, and connections
have the same sessions and the same events.

Whoever is disturbed by others sees the same as before if they touch other
holders and other connections only, which is what `World.Spares` says of two
worlds.
-/

namespace UnitOfWork

/-! ## What stands for what -/

/-- An event, told of another connection. -/
def Event.about (id : ConnectionId) : Event → Event
  | created _ => .created id
  | released _ => .released id
  | called _ request => .called id request

@[simp]
theorem Event.about_self (e : Event) : e.about e.connection = e := by
  cases e <;> rfl

/-- The events about a connection are told of it already. -/
theorem World.eventsOf_about (w : World) (conn : Connection) :
    (w.eventsOf conn).map (Event.about conn.id) = w.eventsOf conn := by
  refine (List.map_congr_left fun e he => ?_).trans (List.map_id _)
  have hconn : e.connection = conn.id :=
    of_decide_eq_true (List.mem_filter.mp he).2
  rw [← hconn, Event.about_self]
  rfl

/-- Which holders and connections of one state stand for which of another. -/
structure Renaming where
  holders : HolderId → HolderId → Prop
  connections : Connection → Connection → Prop

structure Period where
  start : Instant
  stop : Instant

theorem rel_imp {α : Type} {r t : α → α → Prop} (himp : ∀ a b, r a b → t a b)
    {o o' : Option α} (h : Option.Rel r o o') : Option.Rel t o o' := by
  cases h with
  | none => exact .none
  | some h => exact .some (himp _ _ h)

theorem rel_cases {α : Type} {r : α → α → Prop} {o o' : Option α}
    (h : Option.Rel r o o') :
    (o = none ∧ o' = none) ∨ ∃ a a', o = some a ∧ o' = some a' ∧ r a a' := by
  cases h with
  | none => exact Or.inl ⟨rfl, rfl⟩
  | some h => exact Or.inr ⟨_, _, rfl, rfl, h⟩

theorem rel_isSome {α : Type} {r : α → α → Prop} {o o' : Option α}
    (h : Option.Rel r o o') :
    o'.isSome = o.isSome := by
  cases h <;> rfl

/-- What is matched one to one is the same as something on both sides or on
neither. -/
theorem rel_eq_some {α : Type} {r : α → α → Prop} (hunique : Relator.BiUnique r)
    {o o' : Option α} (h : Option.Rel r o o') {a a' : α} (ha : r a a') :
    o' = some a' ↔ o = some a := by
  rcases rel_cases h with ⟨hnone, hnone'⟩ | ⟨b, b', hsome, hsome', hb⟩
  · simp [hnone, hnone']
  · rw [hsome, hsome', Option.some_inj, Option.some_inj]
    constructor
    · rintro rfl
      exact hunique.1 hb ha
    · rintro rfl
      exact hunique.2 hb ha

/-- A relation that matches one to one still does so with a pair of which
neither side was matched. -/
theorem biUnique_insert {α : Type} {r : α → α → Prop} {a a' : α}
    (h : Relator.BiUnique r) (hleft : ∀ b, ¬ r a b) (hright : ∀ b, ¬ r b a') :
    Relator.BiUnique fun x y => r x y ∨ x = a ∧ y = a' := by
  constructor
  · rintro x y z (hx | ⟨rfl, rfl⟩) (hy | ⟨rfl, hz⟩)
    · exact h.1 hx hy
    · exact absurd (hz ▸ hx) (hright x)
    · exact absurd hy (hright y)
    · rfl
  · rintro x y z (hy | ⟨rfl, rfl⟩) (hz | ⟨hx, rfl⟩)
    · exact h.2 hy hz
    · exact absurd (hx ▸ hy) (hleft y)
    · exact absurd hz (hleft z)
    · rfl

namespace Renaming

def fromHolder (ρ : Renaming) (id : HolderId) : Prop :=
  ∃ id', ρ.holders id id'

def toHolder (ρ : Renaming) (id' : HolderId) : Prop :=
  ∃ id, ρ.holders id id'

def fromConnection (ρ : Renaming) (conn : Connection) : Prop :=
  ∃ conn', ρ.connections conn conn'

def toConnection (ρ : Renaming) (conn' : Connection) : Prop :=
  ∃ conn, ρ.connections conn conn'

/-- One more holder on each side. -/
def withHolder (ρ : Renaming) (id id' : HolderId) : Renaming :=
  { ρ with holders := fun i i' => ρ.holders i i' ∨ i = id ∧ i' = id' }

def withConnection (ρ : Renaming) (conn conn' : Connection) : Renaming :=
  { ρ with connections := fun i i' => ρ.connections i i' ∨
    i = conn ∧ i' = conn' }

end Renaming

/-- Two holders in the same stage, with the same mark, whose connections stand
for each other.  Whether there is a deadline is compared only while there is
time to do so. -/
structure Holder.Mirrors (connections : Connection → Connection → Prop)
    (timely : Prop) (x x' : Holder Connection) : Prop where
  connection : Option.Rel connections x.connection x'.connection
  stage : x'.stage = x.stage
  rollbackOnly : x'.rollbackOnly = x.rollbackOnly
  deadline : timely → x'.deadline.isSome = x.deadline.isSome

structure Handle.Mirrors (holders : HolderId → HolderId → Prop)
    (h h' : Handle) : Prop where
  holder : Option.Rel holders h.holder h'.holder
  ownsHolder : h'.ownsHolder = h.ownsHolder
  began : h'.began = h.began
  previousIsolation : h'.previousIsolation = h.previousIsolation
  restoresAutoCommit : h'.restoresAutoCommit = h.restoresAutoCommit
  rollbackOnly : h'.rollbackOnly = h.rollbackOnly

theorem Holder.Mirrors.mono {r t : Connection → Connection → Prop}
    {timely timely' : Prop} {x x' : Holder Connection}
    (h : x.Mirrors r timely x')
    (himp : ∀ conn conn', r conn conn' → t conn conn')
    (htimely : timely' → timely) :
    x.Mirrors t timely' x' :=
  { h with
    connection := rel_imp himp h.connection
    deadline := fun hnow => h.deadline (htimely hnow) }

theorem Handle.Mirrors.mono {r t : HolderId → HolderId → Prop} {h h' : Handle}
    (hh : h.Mirrors r h') (himp : ∀ id id', r id id' → t id id') :
    h.Mirrors t h' :=
  { hh with holder := rel_imp himp hh.holder }

/-- Nothing was recorded about connections of a source that are still to
come. -/
def World.Blank (source : SourceId) (w : World) : Prop :=
  ∀ conn : Connection, conn.source = source → w.nextId source ≤ conn.id →
    w.eventsOf conn = []

/-- Two states that show the same to whoever sees only what a renaming knows. -/
structure State.Mirrors (source : SourceId) (period : Period) (ρ : Renaming)
    (s s' : State) : Prop where
  bound : ∀ key, Option.Rel ρ.holders (s.boundHolder key) (s'.boundHolder key)
  holders : ∀ id id', ρ.holders id id' →
    (s.holders id).Mirrors ρ.connections (s'.now < period.stop) (s'.holders id')
  session : ∀ conn conn', ρ.connections conn conn' →
    s'.session conn' = s.session conn
  events : ∀ conn conn', ρ.connections conn conn' →
    s'.eventsOf conn' = (s.eventsOf conn).map (Event.about conn'.id)
  ofSource : ∀ conn conn', ρ.connections conn conn' →
    conn.source = source ∧ conn'.source = source
  madeHolders : ∀ id id', ρ.holders id id' →
    id < s.nextHolder ∧ id' < s'.nextHolder
  madeConnections : ∀ conn conn', ρ.connections conn conn' →
    conn.id < s.nextId source ∧ conn'.id < s'.nextId source
  oneHolder : Relator.BiUnique ρ.holders
  oneConnection : Relator.BiUnique ρ.connections
  faults : (s'.drivers source).faults = (s.drivers source).faults
  initial : (s'.drivers source).initial = (s.drivers source).initial
  blank : s.Blank source ∧ s'.Blank source
  clock : period.start ≤ s.now ∧ s.now ≤ s'.now

namespace State.Mirrors

variable {source : SourceId} {period : Period} {ρ : Renaming} {s s' : State}
variable {id : HolderId} {conn : Connection}

theorem fromHolder_lt (hs : s.Mirrors source period ρ s')
    (h : ρ.fromHolder id) :
    id < s.nextHolder := by
  obtain ⟨id', hid⟩ := h
  exact (hs.madeHolders id id' hid).1

theorem toHolder_lt (hs : s.Mirrors source period ρ s') (h : ρ.toHolder id) :
    id < s'.nextHolder := by
  obtain ⟨id', hid⟩ := h
  exact (hs.madeHolders id' id hid).2

theorem fromConnection_lt (hs : s.Mirrors source period ρ s')
    (h : ρ.fromConnection conn) :
    conn.id < s.nextId source := by
  obtain ⟨conn', hconn⟩ := h
  exact (hs.madeConnections conn conn' hconn).1

theorem toConnection_lt (hs : s.Mirrors source period ρ s')
    (h : ρ.toConnection conn) :
    conn.id < s'.nextId source := by
  obtain ⟨conn', hconn⟩ := h
  exact (hs.madeConnections conn' conn hconn).2

end State.Mirrors

/-! ## What is left alone -/

/-- Of the holders and the connections of a source that there were, those
without a property are as before, and no fault was switched on or off. -/
structure World.Spares (source : SourceId) (holders : HolderId → Prop)
    (connections : Connection → Prop) (w w' : World) : Prop where
  nextHolder : w.nextHolder ≤ w'.nextHolder
  nextId : w.nextId source ≤ w'.nextId source
  now : w.now ≤ w'.now
  faults : (w'.drivers source).faults = (w.drivers source).faults
  initial : (w'.drivers source).initial = (w.drivers source).initial
  blank : w.Blank source → w'.Blank source
  holder : ∀ id < w.nextHolder, ¬ holders id → w'.holders id = w.holders id
  session : ∀ conn : Connection, conn.source = source →
    conn.id < w.nextId source →
    ¬ connections conn → w'.session conn = w.session conn
  events : ∀ conn : Connection, conn.source = source →
    conn.id < w.nextId source →
    ¬ connections conn → w'.eventsOf conn = w.eventsOf conn

namespace World.Spares

variable {source : SourceId} {holders holders' : HolderId → Prop}
variable {connections connections' : Connection → Prop} {w w₁ w₂ : World}

theorem refl (w : World) : w.Spares source holders connections w where
  nextHolder := Nat.le_refl _
  nextId := Nat.le_refl _
  now := Nat.le_refl _
  faults := rfl
  initial := rfl
  blank h := h
  holder _ _ _ := rfl
  session _ _ _ _ := rfl
  events _ _ _ _ := rfl

theorem of_same (hdrivers : w₁.drivers = w.drivers)
    (hholders : w₁.holders = w.holders) (hnext : w₁.nextHolder = w.nextHolder)
    (hnow : w.now ≤ w₁.now) :
    w.Spares source holders connections w₁ where
  nextHolder := Nat.le_of_eq hnext.symm
  nextId := Nat.le_of_eq (by rw [World.nextId, World.nextId, hdrivers])
  now := hnow
  faults := by rw [hdrivers]
  initial := by rw [hdrivers]
  blank h conn hsource hnew := by
    rw [World.nextId, hdrivers] at hnew
    rw [World.eventsOf, hdrivers]
    exact h conn hsource hnew
  holder _ _ _ := by rw [hholders]
  session _ _ _ _ := by rw [World.session, World.session, hdrivers]
  events _ _ _ _ := by rw [World.eventsOf, World.eventsOf, hdrivers]

theorem mono (h : w.Spares source holders connections w₁)
    (hholders : ∀ id, holders id → holders' id)
    (hconnections : ∀ conn, connections conn → connections' conn) :
    w.Spares source holders' connections' w₁ :=
  { h with
    holder := fun id hid hnot => h.holder id hid
      fun hin => hnot (hholders id hin)
    session := fun conn hsource hid hnot =>
      h.session conn hsource hid fun hin => hnot (hconnections conn hin)
    events := fun conn hsource hid hnot =>
      h.events conn hsource hid fun hin => hnot (hconnections conn hin) }

/-- Only what is new has changed. -/
theorem of_new (h : w.Spares source (fun _ => False) connections' w₁)
    (hnew : ∀ conn, connections' conn → w.nextId source ≤ conn.id) :
    w.Spares source holders connections w₁ :=
  { h with
    holder := fun id hid _ => h.holder id hid not_false
    session := fun conn hsource hid _ =>
      h.session conn hsource hid fun hin => Nat.not_le.mpr hid (hnew conn hin)
    events := fun conn hsource hid _ =>
      h.events conn hsource hid fun hin => Nat.not_le.mpr hid (hnew conn hin) }

/-- What is changed later was changed before, or did not exist then. -/
theorem trans (h : w.Spares source holders connections w₁)
    (h' : w₁.Spares source holders' connections' w₂)
    (hholders : ∀ id, holders' id → holders id ∨ w.nextHolder ≤ id)
    (hconnections : ∀ conn, connections' conn →
      connections conn ∨ w.nextId source ≤ conn.id) :
    w.Spares source holders connections w₂ where
  nextHolder := Nat.le_trans h.nextHolder h'.nextHolder
  nextId := Nat.le_trans h.nextId h'.nextId
  now := Nat.le_trans h.now h'.now
  faults := h'.faults.trans h.faults
  initial := h'.initial.trans h.initial
  blank hblank := h'.blank (h.blank hblank)
  holder id hid hnot := by
    have hnot' : ¬ holders' id := fun hin =>
      (hholders id hin).elim hnot (Nat.not_le.mpr hid)
    rw [h'.holder id (Nat.lt_of_lt_of_le hid h.nextHolder) hnot',
      h.holder id hid hnot]
  session conn hsource hid hnot := by
    have hnot' : ¬ connections' conn := fun hin =>
      (hconnections conn hin).elim hnot (Nat.not_le.mpr hid)
    rw [h'.session conn hsource (Nat.lt_of_lt_of_le hid h.nextId) hnot',
      h.session conn hsource hid hnot]
  events conn hsource hid hnot := by
    have hnot' : ¬ connections' conn := fun hin =>
      (hconnections conn hin).elim hnot (Nat.not_le.mpr hid)
    rw [h'.events conn hsource (Nat.lt_of_lt_of_le hid h.nextId) hnot',
      h.events conn hsource hid hnot]

theorem setHolder (s : State) (id : HolderId) (x : Holder Connection) :
    s.Spares source (· = id) (fun _ => False) (s.setHolder id x).toWorld :=
  { (refl s.toWorld : s.Spares source (· = id) (fun _ => False) s.toWorld) with
    holder := fun _ _ hne => if_neg hne }

theorem addHolder (s : State) (x : Holder Connection) :
    s.Spares source (fun _ => False) (fun _ => False)
      (s.addHolder x).2.toWorld :=
  { (refl s.toWorld : s.Spares source (fun _ => False)
    (fun _ => False) s.toWorld) with
    nextHolder := Nat.le_succ _
    holder := fun _ hid _ => if_neg (Nat.ne_of_lt hid) }

/-- Connections that were left alone on both sides still show the same. -/
theorem seen {period : Period} {ρ : Renaming} {s s' : State} {w w' : World}
    (hs : s.Mirrors source period ρ s')
    (h : s.Spares source holders connections w)
    (h' : s'.Spares source holders' connections' w') {conn conn' : Connection}
    (hconn : ρ.connections conn conn') (hnot : ¬ connections conn)
    (hnot' : ¬ connections' conn') :
    w'.session conn' = w.session conn ∧
      w'.eventsOf conn' = (w.eventsOf conn).map (Event.about conn'.id) := by
  obtain ⟨hsource, hsource'⟩ := hs.ofSource conn conn' hconn
  obtain ⟨hmade, hmade'⟩ := hs.madeConnections conn conn' hconn
  constructor
  · rw [h.session conn hsource hmade hnot,
      h'.session conn' hsource' hmade' hnot']
    exact hs.session conn conn' hconn
  · rw [h.events conn hsource hmade hnot, h'.events conn' hsource' hmade' hnot']
    exact hs.events conn conn' hconn

/-- Whoever sees only what was left alone on both sides still sees the same. -/
theorem mirrors {period : Period} {ρ : Renaming} {s s' : State} {w w' : World}
    (hs : s.Mirrors source period ρ s')
    (h : s.Spares source holders connections w)
    (h' : s'.Spares source holders' connections' w')
    (hholders : ∀ id id', ρ.holders id id' → ¬ holders id ∧ ¬ holders' id')
    (hconnections : ∀ conn conn', ρ.connections conn conn' →
      ¬ connections conn ∧ ¬ connections' conn') (hnow : w.now ≤ w'.now) :
    State.Mirrors source period ρ { w with context := s.context }
      { w' with context := s'.context } where
  bound := hs.bound
  holders id id' hid := by
    obtain ⟨hmade, hmade'⟩ := hs.madeHolders id id' hid
    obtain ⟨hnot, hnot'⟩ := hholders id id' hid
    show (w.holders id).Mirrors ρ.connections (w'.now < period.stop)
        (w'.holders id')
    rw [h.holder id hmade hnot, h'.holder id' hmade' hnot']
    exact (hs.holders id id' hid).mono (fun _ _ hconn => hconn)
      (Nat.lt_of_le_of_lt h'.now)
  session conn conn' hconn :=
    (h.seen hs h' hconn (hconnections conn conn' hconn).1
      (hconnections conn conn' hconn).2).1
  events conn conn' hconn :=
    (h.seen hs h' hconn (hconnections conn conn' hconn).1
      (hconnections conn conn' hconn).2).2
  ofSource := hs.ofSource
  madeHolders id id' hid :=
    (hs.madeHolders id id' hid).imp (Nat.lt_of_lt_of_le · h.nextHolder)
      (Nat.lt_of_lt_of_le · h'.nextHolder)
  madeConnections conn conn' hconn :=
    (hs.madeConnections conn conn' hconn).imp (Nat.lt_of_lt_of_le · h.nextId)
      (Nat.lt_of_lt_of_le · h'.nextId)
  oneHolder := hs.oneHolder
  oneConnection := hs.oneConnection
  faults := h'.faults.trans (hs.faults.trans h.faults.symm)
  initial := h'.initial.trans (hs.initial.trans h.initial.symm)
  blank := hs.blank.imp h.blank h'.blank
  clock := ⟨Nat.le_trans hs.clock.1 h.now, hnow⟩

end World.Spares

/-! ## Calls on one connection -/

/-- The one that was told of another connection has the same effect. -/
theorem replay_about (initial : Settings) (session : Option Settings)
    (id : ConnectionId) (events : List Event) :
    replay initial session (events.map (Event.about id)) =
      replay initial session events := by
  have heffect : ∀ (session : Option Settings) (e : Event),
      Event.effect initial session (e.about id) =
        Event.effect initial session e := by
    intro session e
    cases e with
    | created | released => rfl
    | called other request => simp [Event.about, Event.effect_called]
  rw [replay, List.foldl_map]
  simp only [heffect]
  rfl

/-- Something was recorded about one connection, and nothing else has changed
that concerns connections or holders. -/
structure State.Touches (conn : Connection) (events : List Event)
    (s s' : State) : Prop where
  sameHolders : SameHolders s s'
  now : s'.now = s.now
  faults : ∀ source, (s'.drivers source).faults = (s.drivers source).faults
  heard : ∃ notes, Heard conn notes events s s'
  others : ∀ other, other ≠ conn → Heard other [] [] s s'

namespace State.Touches

variable {conn : Connection} {events : List Event} {s s' : State}

theorem callDirectly (s : State) (conn : Connection) (request : Call) :
    Touches conn
      (Heard.ofCall conn request (faultOf (s.callDirectly conn request).1)) s
      (s.callDirectly conn request).2 where
  sameHolders := sameHolders_callDirectly s conn request
  now := by
    rw [State.callDirectly]
    cases (s.drivers conn.source).call conn.id request <;> rfl
  faults := faults_callDirectly s conn request
  heard := ⟨_, .callDirectly s conn request⟩
  others _ hne := .callDirectly_other (Ne.symm hne) s request

theorem release (s : State) (conn : Connection) :
    Touches conn
      (if faultOf (s.release conn.source conn).1 = none then
        [.released conn.id] else []) s
      (s.release conn.source conn).2 where
  sameHolders := sameHolders_release s conn.source conn
  now := by
    rw [State.release]
    cases (s.drivers conn.source).release conn.id <;> rfl
  faults := faults_release s conn.source conn
  heard := ⟨_, .released s conn⟩
  others _ hne := .release_other (Ne.symm hne) s

theorem created {s' : State} (h : s.create conn.source = (.ok conn, s')) :
    Touches conn [.created conn.id] s s' := by
  have hsame := sameHolders_create s conn.source
  have hfaults := faults_create s conn.source
  have hnow : (s.create conn.source).2.now = s.now := by
    rw [State.create]
    cases (s.drivers conn.source).create <;> rfl
  rw [h] at hsame hfaults hnow
  exact ⟨hsame, hnow, hfaults, ⟨_, (Heard.created h).2⟩,
    fun other hne => Heard.create_other h fun heq =>
      hne (Except.ok.inj heq).symm⟩

theorem initial (h : Touches conn events s s') (source : SourceId) :
    (s'.drivers source).initial = (s.drivers source).initial := by
  obtain ⟨notes, hheard⟩ := h.heard
  by_cases heq : (⟨source, 0⟩ : Connection) = conn
  · subst heq
    exact hheard.initial
  · exact (h.others _ heq).initial

theorem spares (h : Touches conn events s s') (source : SourceId)
    (hmade : conn.id < s'.nextId conn.source)
    (hnext : s.nextId source ≤ s'.nextId source) :
    s.Spares source (fun _ => False) (· = conn) s'.toWorld where
  nextHolder := Nat.le_of_eq h.sameHolders.nextHolder.symm
  nextId := hnext
  now := Nat.le_of_eq h.now.symm
  faults := h.faults source
  initial := h.initial source
  blank hblank other hsource hnew := by
    have hne : other ≠ conn := by
      rintro rfl
      exact Nat.not_lt.mpr (hsource ▸ hnew) hmade
    rw [(h.others other hne).eventsOf, List.append_nil]
    exact hblank other hsource (Nat.le_trans hnext hnew)
  holder id _ _ := by rw [h.sameHolders.holders]
  session other _ _ hne := (h.others other hne).session
  events other _ _ hne := by rw [(h.others other hne).eventsOf, List.append_nil]

end State.Touches

theorem State.nextId_callDirectly (s : State) (conn : Connection)
    (request : Call) (source : SourceId) :
    (s.callDirectly conn request).2.nextId source = s.nextId source := by
  rw [callDirectly]
  cases hcall : (s.drivers conn.source).call conn.id request with
  | error fault => rfl
  | ok driver =>
      rw [World.nextId, World.nextId, drivers_setDriver,
        Driver.call_eq_ok hcall]
      split
      · next heq => rw [heq]; rfl
      · rfl

theorem State.nextId_release (s : State) (place : SourceId) (conn : Connection)
    (source : SourceId) :
    (s.release place conn).2.nextId source = s.nextId source := by
  rw [State.release]
  cases hrelease : (s.drivers place).release conn.id with
  | error fault => rfl
  | ok driver =>
      have hdriver : driver.nextId = (s.drivers place).nextId := by
        rw [Driver.release] at hrelease
        split at hrelease
        · cases hrelease
        · rw [← Except.ok.inj hrelease]
          rfl
      rw [World.nextId, World.nextId, drivers_note, drivers_setDriver]
      split
      · next heq => rw [heq, hdriver]
      · rfl

/-- A source gives its numbers in their order. -/
theorem State.create_of_ok {s s' : State} {source : SourceId}
    {conn : Connection} (h : s.create source = (.ok conn, s')) :
    conn = ⟨source, s.nextId source⟩ ∧
    s'.nextId source = s.nextId source + 1 := by
  rw [create, Driver.create] at h
  cases hcheck : (s.drivers source).check .create with
  | error fault => simp [hcheck] at h
  | ok _ =>
      simp only [hcheck, Prod.mk.injEq, Except.ok.injEq] at h
      obtain ⟨rfl, rfl⟩ := h
      exact ⟨rfl, by
        rw [World.nextId, drivers_note, drivers_setDriver, if_pos rfl]; rfl⟩

end UnitOfWork
