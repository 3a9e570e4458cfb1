import UnitOfWork.Proofs.BorrowedHolders

/-!
# Coordinators by hand

Whoever uses a coordinator without executing work has contexts, handles and
suspended holders, and may use them in any order: begin twice on a handle, clean
up on another context than the one of the beginning, resume what was suspended
elsewhere.  `Desk` is where such a user works, and `Operation` lists what there
is to do.  Beside the operations of the coordinator, a user makes holders, each
for a new connection, binds and unbinds holders, and makes calls on connections;
connections are not released by hand.

Whatever is done, every connection is kept by one holder and handed back once at
most.
-/

namespace UnitOfWork

/-- A world with contexts, and with slots for handles and suspended holders. -/
structure Desk where
  world : World := {}
  contexts : Nat → Bindings HolderId := fun _ => .empty
  handles : Nat → Option Handle := fun _ => none
  suspended : Nat → Option HolderId := fun _ => none

/-- What is done at a desk.  Contexts, handles and suspended holders are given
by their slots, holders by their numbers. -/
inductive Operation where
  | discover (context handle : Nat)
  | begin (d : Definition) (context handle : Nat)
  | suspend (context handle place : Nat)
  | resume (context place : Nat)
  | commit (context handle : Nat)
  | rollback (context handle : Nat)
  | markRollbackOnly (context handle : Nat)
  | cleanup (context handle : Nat)
  /-- Makes a holder for a connection that a source is asked for. -/
  | wrap (context : Nat) (source : SourceId)
  | bind (context : Nat) (key : Key) (holder : HolderId)
  | unbind (context : Nat) (key : Key)
  | call (context : Nat) (connection : Connection) (call : Call)
  | setFault (context : Nat) (source : SourceId) (fault : Fault) (on : Bool)
  /-- Lets some seconds pass. -/
  | rest (context : Nat) (seconds : Nat)

/-- The context on which something is done. -/
def Operation.context : Operation → Nat
  | .discover context _ | .begin _ context _ | .suspend context
      _ _ | .resume context _
  | .commit context _ | .rollback context _ | .markRollbackOnly context
      _ | .cleanup context _
  | .wrap context _ | .bind context _ _ | .unbind context _ | .call context _ _
  | .setFault context _ _ _ | .rest context _ => context

def Operation.slot : Operation → Option Nat
  | .discover _ slot | .begin _ _ slot | .suspend _ slot _ | .commit
      _ slot | .rollback _ slot
  | .markRollbackOnly _ slot | .cleanup _ slot => some slot
  | .resume .. | .wrap .. | .bind .. | .unbind .. | .call .. | .setFault
      .. | .rest .. => none

/-- A holder for a new connection of a source, if the source gives one. -/
def State.wrap (s : State) (source : SourceId) : State :=
  match s.create source with
  | (.ok conn, s') => ((s'.say (.fetched conn)).addHolder (.of conn)).2
  | (.error _, s') => s'

namespace Desk

/-- A desk at which nothing was done.  The sources open their connections with
certain settings. -/
def fresh (initial : SourceId → Settings) : Desk where
  world := { drivers := fun source => { initial := initial source } }

def state (desk : Desk) (context : Nat) : State where
  toWorld := desk.world
  context := desk.contexts context

/-- The desk after something was done on one of the contexts. -/
def put (desk : Desk) (context : Nat) (s : State) : Desk :=
  { desk with
    world := s.toWorld
    contexts := fun i => if i = context then s.context else desk.contexts i }

def keep (desk : Desk) (slot : Nat) (h : Option Handle) : Desk :=
  { desk with handles := fun i => if i = slot then h else desk.handles i }

/-- The desk with another suspended holder in a slot, or with none. -/
def stash (desk : Desk) (slot : Nat) (id : Option HolderId) : Desk :=
  { desk with suspended := fun i => if i = slot then id else desk.suspended i }

def withHandle (desk : Desk) (context slot : Nat)
    (use : Handle → State → Option Handle × State) : Desk :=
  match desk.handles slot with
  | none => desk
  | some h =>
      match use h (desk.state context) with
      | (h', s') => (desk.put context s').keep slot h'

end Desk

namespace Coordinator

def perform (c : Coordinator) (desk : Desk) : Operation → Desk
  | .discover context slot =>
      desk.keep slot (some (c.discover (desk.state context)))
  | .begin d context slot =>
      desk.withHandle context slot fun h s =>
        match c.begin d h s with
        | (_, h', s') => (some h', s')
  | .suspend context slot place =>
      match desk.handles slot with
      | none => desk
      | some h =>
          match c.suspend h (desk.state context) with
          | (none, h', s') => (desk.put context s').keep slot (some h')
          | (some id, h', s') =>
              ((desk.put context s').keep slot (some h')).stash place (some id)
  | .resume context place =>
      match desk.suspended place with
      | none => desk
      | some id =>
          (desk.put context
            (c.resume id (desk.state context)).2).stash place none
  | .commit context slot =>
      desk.withHandle context slot fun h s => (some h, (commit h s).2)
  | .rollback context slot =>
      desk.withHandle context slot fun h s => (some h, (rollback h s).2)
  | .markRollbackOnly context slot =>
      desk.withHandle context slot fun h s =>
        match markRollbackOnly h s with
        | (_, h', s') => (some h', s')
  | .cleanup context slot =>
      desk.withHandle context slot fun h s => (none, c.cleanup h s)
  | .wrap context source => desk.put context ((desk.state context).wrap source)
  | .bind context key id =>
      if id < desk.world.nextHolder then
        match (desk.state context).bind key id with
        | .ok s' => desk.put context s'
        | .error _ => desk
      else desk
  | .unbind context key => desk.put context ((desk.state context).unbind key).2
  | .call context conn request =>
      desk.put context ((desk.state context).callDirectly conn request).2
  | .setFault context source fault on =>
      let s := desk.state context
      desk.put context
        (s.setDriver source ((s.drivers source).setFault fault on))
  | .rest context seconds =>
      let s := desk.state context
      desk.put context { s with now := s.now + seconds }

def performAll (c : Coordinator) (desk : Desk) (operations : List Operation) :
    Desk :=
  operations.foldl c.perform desk

end Coordinator

namespace Desk

variable {c : Coordinator} {desk : Desk} {context slot : Nat}
variable {used : Option Nat} {h h' : Handle} {s' : State}

/-- At a desk everything that is used exists, handles are sound and have nothing
to do with each other, and connections are kept in order. -/
structure Sound (c : Coordinator) (desk : Desk) : Prop where
  world : desk.world.Orderly
  contexts : ∀ context, (desk.state context).BoundExist
  suspended : ∀ slot id, desk.suspended slot = some id →
    id < desk.world.nextHolder
  handles : ∀ slot h, desk.handles slot = some h → h.Sound c desk.world
  apart : ∀ slot h other h', desk.handles slot = some h →
    desk.handles other = some h' →
    slot ≠ other → h.Apart h'

theorem orderly_fresh (initial : SourceId → Settings) :
    (fresh initial).world.Orderly := by
  have hnothing : ∀ id conn, ((fresh initial).world.holders id).connection ≠
      some conn := by
    intro id conn
    exact Option.some_ne_none conn |>.symm
  constructor
  case known => exact fun id conn h => absurd h (hnothing id conn)
  case alone => exact fun id other conn h => absurd h (hnothing id conn)
  case kept => exact fun id conn h => absurd h (hnothing id conn)
  case unborn => exact fun _ _ => rfl
  case returns => exact fun _ => Nat.zero_le 1
  case closings => exact fun _ => Nat.le_refl 0
  case completed => exact fun _ _ => rfl

theorem sound_fresh (c : Coordinator) (initial : SourceId → Settings) :
    (fresh initial).Sound c where
  world := orderly_fresh initial
  contexts _ _ _ h := by cases h
  suspended _ _ h := by cases h
  handles _ _ h := by cases h
  apart _ _ _ _ h := by cases h

/-- What was completed stays completed. -/
def Later (desk desk' : Desk) : Prop :=
  desk.world.nextHolder ≤ desk'.world.nextHolder ∧
    ∀ id < desk.world.nextHolder, (desk.world.holders id).stage = .completed →
      (desk'.world.holders id).stage = .completed

theorem Later.refl (desk : Desk) : desk.Later desk :=
  ⟨Nat.le_refl _, fun _ _ h => h⟩

theorem Later.trans {desk' desk'' : Desk} (h : desk.Later desk')
    (h' : desk'.Later desk'') :
    desk.Later desk'' :=
  ⟨Nat.le_trans h.1 h'.1, fun id hid hstage =>
    h'.2 id (Nat.lt_of_lt_of_le hid h.1) (h.2 id hid hstage)⟩

structure Advances (c : Coordinator) (desk desk' : Desk) : Prop where
  sound : desk'.Sound c
  later : desk.Later desk'

/-- What comes of a desk by an operation on one of the contexts that attends to
a handle: that of the slot that is used, or one without a holder.  The slot has
what is left of the handle, or nothing, and the other handles are where they
were. -/
structure Attended (c : Coordinator) (desk : Desk) (context : Nat)
    (used : Option Nat) (h h' : Handle) (s' : State) (desk' : Desk) : Prop where
  given : (∃ slot, used = some slot ∧ desk.handles slot = some h) ∨ h = {}
  attends : c.Attends h h' (desk.state context) s'
  world : desk'.world = s'.toWorld
  contexts : ∀ i, desk'.contexts i = if i = context then
    s'.context else desk.contexts i
  /-- Only what is bound in the context is suspended. -/
  suspended : ∀ place id, desk'.suspended place = some id →
    desk.suspended place = some id ∨
    (desk.state context).boundHolder c.key = some id
  handles : ∀ i other, desk'.handles i = some other →
    desk.handles i = some other ∧ used ≠ some i ∨ used = some i ∧ other = h'

def Proceeds (c : Coordinator) (desk : Desk) (context : Nat) (used : Option Nat)
    (desk' : Desk) : Prop :=
  ∃ h h' s', desk.Attended c context used h h' s' desk'

namespace Attended

variable {desk' : Desk}

/-- A handle that was left alone had nothing to do with the one that was
attended to. -/
theorem apart {i : Nat} {other : Handle}
    (hattended : desk.Attended c context used h h' s' desk')
    (hsound : desk.Sound c) (hother : desk.handles i = some other)
    (hleft : used ≠ some i) : h.Apart other := by
  rcases hattended.given with ⟨slot, rfl, hslot⟩ | rfl
  · exact hsound.apart slot h i other hslot hother fun heq =>
      hleft (congrArg some heq)
  · exact Handle.apart_of_free rfl other

theorem contexts_exist (hattended : desk.Attended c context used h h' s' desk')
    (hsound : desk.Sound c) (other : Nat) : (desk'.state other).BoundExist := by
  intro key id hid
  have hcontext : (desk'.state other).boundHolder key =
      (desk'.contexts other).get? key := rfl
  rw [hcontext, hattended.contexts] at hid
  show id < desk'.world.nextHolder
  rw [hattended.world]
  split at hid
  · exact hattended.attends.exist (hsound.contexts context) key id hid
  · exact Nat.lt_of_lt_of_le (hsound.contexts other key id hid)
      hattended.attends.moves.nextHolder

theorem sound (hattended : desk.Attended c context used h h' s' desk')
    (hsound : desk.Sound c) :
    desk'.Sound c := by
  have hserves := hattended.attends.toServes
  constructor
  case world =>
    rw [hattended.world]
    exact hsound.world.moves hserves.moves
  case contexts => exact hattended.contexts_exist hsound
  case suspended =>
    intro place id hid
    rw [hattended.world]
    apply Nat.lt_of_lt_of_le _ hserves.moves.nextHolder
    exact (hattended.suspended place id hid).elim (hsound.suspended place id)
      (hsound.contexts context c.key id)
  case handles =>
    intro i other hother
    rw [hattended.world]
    rcases hattended.handles i other hother with ⟨hold, hleft⟩ | ⟨-, rfl⟩
    · exact hserves.others (hsound.handles i other hold)
        (hattended.apart hsound hold hleft)
    · exact hserves.sound
  case apart =>
    intro i first j second hfirst hsecond hne
    rcases hattended.handles i first hfirst with ⟨hold, hleft⟩ | ⟨hi, rfl⟩ <;>
      rcases hattended.handles j second hsecond with ⟨hold', hleft'⟩ | ⟨hj, rfl⟩
    · exact hsound.apart i first j second hold hold' hne
    · exact (hserves.apart (hsound.handles i first hold)
        (hattended.apart hsound hold hleft)).symm
    · exact hserves.apart (hsound.handles j second hold')
        (hattended.apart hsound hold' hleft')
    · exact absurd (Option.some.inj (hi.symm.trans hj)) hne

theorem later (hattended : desk.Attended c context used h h' s' desk') :
    desk.Later desk' := by
  rw [Later, hattended.world]
  exact ⟨hattended.attends.moves.nextHolder, hattended.attends.moves.stays⟩

/-- What was bound is suspended. -/
theorem stash {place : Nat} {id : Option HolderId}
    (hattended : desk.Attended c context used h h' s' desk')
    (hid : ∀ other, id = some other →
      (desk.state context).boundHolder c.key = some other) :
    desk.Attended c context used h h' s' (desk'.stash place id) where
  given := hattended.given
  attends := hattended.attends
  world := hattended.world
  contexts := hattended.contexts
  suspended i other hother := by
    rw [Desk.stash] at hother
    simp only at hother
    split at hother
    · exact Or.inr (hid other hother)
    · exact hattended.suspended i other hother
  handles := hattended.handles

end Attended

/-- Nothing is done, for there is no handle to do it with. -/
theorem attended_refl (c : Coordinator) (desk : Desk) (context : Nat)
    (hnone : ∀ slot, used = some slot → desk.handles slot = none) :
    desk.Attended c context used {} {} (desk.state context) desk where
  given := Or.inr rfl
  attends := (Coordinator.Serves.of_sameHolders (.refl _) (.refl _)
    (Handle.sound_of_free rfl _)).attends (Handle.not_borrows_of_free rfl)
  world := rfl
  contexts i := by
    split
    · next hi => rw [hi]; rfl
    · rfl
  suspended _ _ h := Or.inl h
  handles i other hother := Or.inl ⟨hother, fun hused => by
    rw [hnone i hused] at hother
    cases hother⟩

theorem proceeds_refl (c : Coordinator) (desk : Desk) (context : Nat)
    (hnone : ∀ slot, used = some slot → desk.handles slot = none) :
    desk.Proceeds c context used desk :=
  ⟨_, _, _, desk.attended_refl c context hnone⟩

theorem proceeds_none (c : Coordinator) (desk : Desk) (context : Nat) :
    desk.Proceeds c context none desk :=
  desk.proceeds_refl c context fun _ hnone => by cases hnone

/-- An operation that is given no handle. -/
theorem attended_put (hserves : c.Serves {} {} (desk.state context) s') :
    desk.Attended c context none {} {} s' (desk.put context s') where
  given := Or.inr rfl
  attends := hserves.attends (Handle.not_borrows_of_free rfl)
  world := rfl
  contexts _ := rfl
  suspended _ _ h := Or.inl h
  handles _ _ h := Or.inl ⟨h, fun hused => by cases hused⟩

theorem proceeds_put (hserves : c.Serves {} {} (desk.state context) s') :
    desk.Proceeds c context none (desk.put context s') :=
  ⟨_, _, s', attended_put hserves⟩

/-- An operation on a handle, of which the slot has what is left of it. -/
theorem attended_keep (slot : Nat)
    (hgiven : desk.handles slot = some h ∨ h = {})
    (hattends : c.Attends h h' (desk.state context) s') {kept : Option Handle}
    (hkept : ∀ other, kept = some other → other = h') :
    desk.Attended c context (some slot) h h' s'
      ((desk.put context s').keep slot kept) where
  given := hgiven.imp_left fun hslot => ⟨slot, rfl, hslot⟩
  attends := hattends
  world := rfl
  contexts _ := rfl
  suspended _ _ h := Or.inl h
  handles i other hother := by
    rw [keep] at hother
    simp only at hother
    split at hother
    · next hi => exact Or.inr ⟨congrArg some hi.symm, hkept other hother⟩
    · next hi => exact Or.inl ⟨hother, fun heq => hi (Option.some.inj heq).symm⟩

theorem proceeds_withHandle {use : Handle → State → Option Handle × State}
    (huse : ∀ h, desk.handles slot = some h → ∃ h',
      (∀ other, (use h (desk.state context)).1 = some other → other = h') ∧
      c.Attends h h' (desk.state context) (use h (desk.state context)).2) :
    desk.Proceeds c context (some slot) (desk.withHandle context slot use) := by
  rw [withHandle]
  cases hslot : desk.handles slot with
  | none => exact desk.proceeds_refl c context fun _ hused =>
      Option.some.inj hused ▸ hslot
  | some h =>
      obtain ⟨h', hkept, hattends⟩ := huse h hslot
      exact ⟨h, h', _, attended_keep slot (Or.inl hslot) hattends hkept⟩

theorem put_state (desk : Desk) (context : Nat) :
    desk.put context (desk.state context) = desk := by
  have hcontexts : (fun i => if i = context then
    desk.contexts context else desk.contexts i) =
      desk.contexts := by
    funext i
    split
    · next hi => rw [hi]
    · rfl
  rw [put]
  exact congrArg (fun contexts => { desk with contexts }) hcontexts

end Desk

/-! ## Operations -/

namespace State

variable {s s' s₁ : State} {source : SourceId} {conn : Connection}

theorem wrap_of_ok (hcreate : s.create source = (.ok conn, s₁)) :
    s.wrap source = ((s₁.say (.fetched conn)).addHolder (.of conn)).2 := by
  rw [wrap, hcreate]

theorem holders_wrap (hcreate : s.create source = (.ok conn, s₁))
    (id : HolderId) :
    (s.wrap source).holders id = if id = s.nextHolder then
      .of conn else s.holders id := by
  have hsame := s.sameHolders_create source
  rw [hcreate] at hsame
  rw [wrap_of_ok hcreate, holders_addHolder, nextHolder_say, holders_say,
    hsame.nextHolder, hsame.holders]

theorem nextHolder_wrap (hcreate : s.create source = (.ok conn, s₁)) :
    (s.wrap source).nextHolder = s.nextHolder + 1 := by
  have hsame := s.sameHolders_create source
  rw [hcreate] at hsame
  rw [wrap_of_ok hcreate, nextHolder_addHolder, nextHolder_say,
    hsame.nextHolder]

theorem deals_wrap (hcreate : s.create source = (.ok conn, s₁)) :
    Deals [.line (.fetched conn)] s (s.wrap source) := by
  have hdeals := (Deals.create hcreate (.fetched conn) rfl).1
  rw [wrap_of_ok hcreate]
  exact hdeals.andThen (.of_drivers rfl rfl)

/-- A holder that is made by hand has a new connection. -/
theorem moves_wrap (hcreate : s.create source = (.ok conn, s₁)) :
    Moves s (s.wrap source) where
  nextHolder := by
    rw [nextHolder_wrap hcreate]
    exact Nat.le_succ _
  held id k hk := by
    rw [holders_wrap hcreate] at hk
    split at hk
    · next hid =>
        obtain rfl := Option.some.inj hk
        exact Or.inr ⟨hid,
          (deals_wrap hcreate).new_of_fetched (List.mem_singleton_self _)⟩
    · exact Or.inl hk
  given := by
    refine ⟨none, .of_none (deals_wrap hcreate) fun n hn k => ?_,
      fun k hnone => ?_⟩
    · rw [List.mem_singleton.mp hn]
      rfl
    · cases hnone
  stays id hid hstage := by
    rw [holders_wrap hcreate, if_neg (Nat.ne_of_lt hid)]
    exact hstage
  completed id hstage := by
    rw [holders_wrap hcreate] at hstage ⊢
    split at hstage
    · cases hstage
    · next hne => exact Or.inr ⟨hstage, by rw [if_neg hne]⟩

end State

theorem Coordinator.serves_wrap (c : Coordinator) (s : State)
    (source : SourceId) :
    c.Serves {} {} s (s.wrap source) := by
  have hfree : ({} : Handle).holder = none := rfl
  cases hcreate : s.create source with
  | mk outcome s₁ =>
  cases outcome with
  | error fault =>
      have hsame := s.sameHolders_create source
      have hstate : s.wrap source = s₁ := by rw [State.wrap, hcreate]
      rw [hcreate] at hsame
      rw [hstate]
      exact .of_sameHolders hsame (.createFailed hcreate)
        (Handle.sound_of_free hfree _)
  | ok conn =>
      constructor
      case moves => exact State.moves_wrap hcreate
      case exist =>
        intro hs key id hid
        have hold : s.boundHolder key = some id := by
          have hsame := s.sameHolders_create source
          rw [hcreate] at hsame
          rwa [State.wrap_of_ok hcreate, State.boundHolder_addHolder,
            State.boundHolder_say, hsame.bound] at hid
        rw [State.nextHolder_wrap hcreate]
        exact Nat.lt_succ_of_lt (hs key id hold)
      case active =>
        intro id hid _ _ hactive
        rw [State.holders_wrap hcreate, if_neg (Nat.ne_of_lt hid)]
        exact ⟨hactive, rfl⟩
      case unfinished =>
        intro id hid _ hstage
        rwa [State.holders_wrap hcreate, if_neg (Nat.ne_of_lt hid)]
      case sound => exact Handle.sound_of_free hfree _
      case owns => exact fun id howns => Or.inl howns
      case borrows => exact fun id hborrows => Or.inl hborrows

namespace Desk

variable {c : Coordinator} {desk : Desk}

theorem proceeds_suspend (c : Coordinator) (desk : Desk)
    (context slot place : Nat) :
    desk.Proceeds c context (some slot)
      (c.perform desk (.suspend context slot place)) := by
  rw [Coordinator.perform]
  cases hslot : desk.handles slot with
  | none => exact desk.proceeds_refl c context fun _ hused =>
      Option.some.inj hused ▸ hslot
  | some h =>
      have hserves : c.Serves h { h with holder := none } (desk.state context)
          ((desk.state context).unbind c.key).2 :=
            Coordinator.serves_unbind h rfl c.key
      have hattended := attended_keep slot (Or.inl hslot)
        (hserves.attends (Handle.not_borrows_of_free rfl))
        fun _ hkept => (Option.some.inj hkept).symm
      have hsuspend : c.suspend h (desk.state context) =
          ((desk.state context).boundHolder c.key, { h with holder := none },
            ((desk.state context).unbind c.key).2) := by
        rw [← State.unbind_fst]
        rfl
      simp only [hsuspend]
      cases hbound : (desk.state context).boundHolder c.key with
      | none => exact ⟨_, _, _, hattended⟩
      | some id =>
          refine ⟨_, _, _, hattended.stash fun other hother => ?_⟩
          rw [hbound, hother]

theorem Sound.proceeds_resume (hsound : desk.Sound c) (context place : Nat) :
    desk.Proceeds c context none (c.perform desk (.resume context place)) := by
  rw [Coordinator.perform]
  cases hplace : desk.suspended place with
  | none => exact desk.proceeds_none c context
  | some id =>
      have hnone : ∀ other, (none : Option HolderId) = some other →
          (desk.state context).boundHolder c.key = some other :=
            fun _ h => by cases h
      have hid := hsound.suspended place id hplace
      show desk.Proceeds c context none
        ((desk.put context
          (c.resume id (desk.state context)).2).stash place none)
      rw [Coordinator.resume]
      cases hbind : (desk.state context).bind c.key id with
      | ok s' =>
          have hserves : c.Serves {} {} (desk.state context) s' :=
            Coordinator.serves_bind hid hbind
          exact ⟨_, _, _, (attended_put hserves).stash hnone⟩
      | error occupied =>
          rw [put_state]
          have hattended :
              desk.Attended c context none {} {} (desk.state context) desk :=
            desk.attended_refl c context fun _ h => by cases h
          exact ⟨_, _, _, hattended.stash hnone⟩

theorem proceeds_bind (c : Coordinator) (desk : Desk) (context : Nat)
    (key : Key) (id : HolderId) :
    desk.Proceeds c context none (c.perform desk (.bind context key id)) := by
  rw [Coordinator.perform]
  split
  · next hid =>
      cases hbind : (desk.state context).bind key id with
      | ok s' => exact proceeds_put (Coordinator.serves_bind hid hbind)
      | error occupied => exact desk.proceeds_none c context
  · exact desk.proceeds_none c context

/-- Whatever is done at a sound desk attends to one handle. -/
theorem Sound.proceeds (hsound : desk.Sound c) (operation : Operation) :
    desk.Proceeds c operation.context operation.slot
      (c.perform desk operation) := by
  cases operation with
  | discover context slot =>
      have hnone : ∀ id, ¬(c.discover (desk.state context)).Borrows id :=
        fun id hborrows => Bool.false_ne_true hborrows.2.2
      have hserves :=
        Coordinator.serves_discover (c := c) {} (hsound.contexts context)
      have hattended := attended_keep slot (Or.inr rfl) (hserves.attends hnone)
        fun _ hkept => (Option.some.inj hkept).symm
      rw [put_state] at hattended
      exact ⟨_, _, _, hattended⟩
  | begin d context slot =>
      rw [Coordinator.perform]
      apply proceeds_withHandle
      intro h hslot
      exact ⟨_, fun _ hkept => (Option.some.inj hkept).symm,
        Coordinator.attends_begin hsound.world (hsound.handles slot h hslot)⟩
  | suspend context slot place =>
      exact desk.proceeds_suspend c context slot place
  | resume context place => exact hsound.proceeds_resume context place
  | commit context slot =>
      rw [Coordinator.perform]
      apply proceeds_withHandle
      intro h hslot
      have hsame := Coordinator.sameHolders_finish "commit" .commit .committing
        h (desk.state context)
      have hserves := Coordinator.serves_finish (s := desk.state context)
        (hsound.handles slot h hslot) "commit" .commit rfl .committing
          fun _ => rfl
      exact ⟨h, fun _ hkept => (Option.some.inj hkept).symm,
        hserves.attends_of_stages hsame.still.stage fun _ h => h⟩
  | rollback context slot =>
      rw [Coordinator.perform]
      apply proceeds_withHandle
      intro h hslot
      have hsame := Coordinator.sameHolders_finish "rollback" .rollback
        .rollingBack h (desk.state context)
      have hserves := Coordinator.serves_finish (s := desk.state context)
        (hsound.handles slot h hslot) "rollback" .rollback rfl .rollingBack
          fun _ => rfl
      exact ⟨h, fun _ hkept => (Option.some.inj hkept).symm,
        hserves.attends_of_stages hsame.still.stage fun _ h => h⟩
  | markRollbackOnly context slot =>
      rw [Coordinator.perform]
      apply proceeds_withHandle
      intro h hslot
      exact ⟨_, fun _ hkept => (Option.some.inj hkept).symm,
        Coordinator.attends_markRollbackOnly (hsound.handles slot h hslot)⟩
  | cleanup context slot =>
      rw [Coordinator.perform]
      apply proceeds_withHandle
      intro h hslot
      have hserves := Coordinator.serves_cleanup (s := desk.state context)
        hsound.world (hsound.handles slot h hslot)
      exact ⟨{}, (fun _ hkept => by cases hkept),
        hserves.attends (Handle.not_borrows_of_free rfl)⟩
  | wrap context source => exact proceeds_put (c.serves_wrap _ source)
  | bind context key id => exact desk.proceeds_bind c context key id
  | unbind context key =>
      exact proceeds_put (Coordinator.serves_unbind {} rfl key)
  | call context conn request =>
      exact proceeds_put
        (.of_sameHolders (State.sameHolders_callDirectly _ conn request)
        (.callDirectly _ conn request) (Handle.sound_of_free rfl _))
  | setFault context source fault on =>
      exact proceeds_put (.of_sameHolders ⟨rfl, rfl, fun _ => rfl⟩
        (.setFault _ source fault on) (Handle.sound_of_free rfl _))
  | rest context seconds =>
      exact proceeds_put (.of_sameHolders ⟨rfl, rfl, fun _ => rfl⟩
        (.of_drivers rfl rfl) (Handle.sound_of_free rfl _))

/-- Whatever is done at a sound desk, it is sound afterwards. -/
theorem Sound.perform (hsound : desk.Sound c) (operation : Operation) :
    desk.Advances c (c.perform desk operation) := by
  obtain ⟨h, h', s', hattended⟩ := hsound.proceeds operation
  exact ⟨hattended.sound hsound, hattended.later⟩

theorem Sound.performAll (hsound : desk.Sound c) (operations : List Operation) :
    desk.Advances c (c.performAll desk operations) := by
  induction operations generalizing desk with
  | nil => exact ⟨hsound, .refl desk⟩
  | cons operation rest ih =>
      have hfirst := hsound.perform operation
      have hrest := ih hfirst.sound
      exact ⟨hrest.sound, hfirst.later.trans hrest.later⟩

structure Orderly (desk : Desk) : Prop where
  /-- No two holders have the same connection. -/
  alone : ∀ id other conn, (desk.world.holders id).connection = some conn →
    (desk.world.holders other).connection = some conn → id = other
  /-- No two handles own the same holder. -/
  owner : ∀ slot h other h' id, desk.handles slot = some h →
    desk.handles other = some h' →
    h.Owns id → h'.Owns id → slot = other
  /-- A source was asked once at most to take a connection back, and has
  recorded at most once that it was closed. -/
  returned : ∀ conn, desk.world.returns conn ≤ 1 ∧ desk.world.closings conn ≤ 1
  /-- No holder has a connection that its source was asked to take back. -/
  kept : ∀ id conn, (desk.world.holders id).connection = some conn →
    desk.world.returns conn = 0 ∧ desk.world.closings conn = 0

theorem Sound.orderly (hsound : desk.Sound c) : desk.Orderly where
  alone := hsound.world.alone
  owner slot h other h' id hslot hother howns howns' := by
    apply Decidable.byContradiction
    intro hne
    exact ((hsound.apart slot h other h' hslot hother hne id).1 howns).1 howns'
  returned conn := ⟨hsound.world.returns conn,
    Nat.le_trans (hsound.world.closings conn) (hsound.world.returns conn)⟩
  kept id conn hconn := by
    have hnone := hsound.world.kept id conn hconn
    exact ⟨hnone, Nat.le_zero.mp (hnone ▸ hsound.world.closings conn)⟩

end Desk

/-- Whatever operations a coordinator is used for, on whatever contexts and
handles and in whatever order, connections are kept in order at every moment;
and a holder that is completed stays completed, and without a connection,
whatever is done later. -/
theorem Coordinator.performAll_keeps_order (c : Coordinator)
    (initial : SourceId → Settings) (operations later : List Operation) :
    (c.performAll (.fresh initial) operations).Orderly ∧
    ∀ id < (c.performAll (.fresh initial) operations).world.nextHolder,
      ((c.performAll (.fresh initial) operations).world.holders id).stage =
        .completed →
      ((c.performAll (.fresh initial)
          (operations ++ later)).world.holders id).stage = .completed ∧
        ((c.performAll (.fresh initial)
          (operations ++ later)).world.holders id).connection = none := by
  have hsound := ((Desk.sound_fresh c initial).performAll operations).sound
  have hlater := hsound.performAll later
  have happend : c.performAll (.fresh initial) (operations ++ later) =
      c.performAll (c.performAll (.fresh initial) operations) later :=
        List.foldl_append
  rw [happend]
  refine ⟨hsound.orderly, fun id hid hstage => ?_⟩
  have hstays := hlater.later.2 id hid hstage
  exact ⟨hstays, hlater.sound.world.completed id hstays⟩

end UnitOfWork
