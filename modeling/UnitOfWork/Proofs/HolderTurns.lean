import UnitOfWork.Proofs.StrayTransactions

/-!
# What a coordinator does to holders

If only coordinators make and bind holders, every holder is made for a
transaction: it is active from the moment it can be seen, and completed when its
transaction was cleaned up.  None is lent to a handle then, and there are not
many things that an operation can do to the holders and to where they are.
`Desk.Turn` lists them, and `Desk.SelfMade.turn` says that there are no others.
-/

namespace UnitOfWork

def Operation.byHand : Operation → Bool
  | .wrap .. | .bind .. | .unbind .. => true
  | _ => false

/-- The contexts that handles and suspended holders came from, by their
slots. -/
structure Homes where
  handles : Nat → Nat := fun _ => 0
  suspended : Nat → Nat := fun _ => 0

def Homes.after (c : Coordinator) (desk : Desk) (homes : Homes) :
    Operation → Homes
  | .discover context slot =>
      { homes with handles := fun i => if i = slot then
        context else homes.handles i }
  | .suspend context slot place =>
      if (desk.handles slot).isSome &&
          ((desk.state context).boundHolder c.key).isSome then
        { homes with suspended := fun i => if i = place then
          context else homes.suspended i }
      else homes
  | _ => homes

namespace Desk

variable {c : Coordinator} {desk desk' : Desk} {homes : Homes}
variable {context place slot : Nat}
variable {operation : Operation} {h : Handle} {s' : State} {id : HolderId}

/-! ## Desks with the holders of a coordinator only -/

/-- Every holder was made for a transaction, so that none is lent. -/
structure SelfMade (desk : Desk) : Prop where
  stages : ∀ id < desk.world.nextHolder,
    (desk.world.holders id).stage = .active ∨
    (desk.world.holders id).stage = .completed
  unlent : ∀ slot h id, desk.handles slot = some h → ¬h.Borrows id

theorem SelfMade.not_unbound (hmade : desk.SelfMade)
    (hid : id < desk.world.nextHolder) :
    (desk.world.holders id).stage ≠ .unbound := by
  rcases hmade.stages id hid with hstage | hstage <;> simp [hstage]

/-- A holder more was made. -/
theorem SelfMade.stages_of_new (hmade : desk.SelfMade)
    (hnext : desk'.world.nextHolder = desk.world.nextHolder + 1)
    (hnew : (desk'.world.holders desk.world.nextHolder).stage = .active ∨
      (desk'.world.holders desk.world.nextHolder).stage = .completed)
    (hothers : ∀ other, other ≠ desk.world.nextHolder →
      desk'.world.holders other = desk.world.holders other)
    (hid : id < desk'.world.nextHolder) :
    (desk'.world.holders id).stage = .active ∨
    (desk'.world.holders id).stage = .completed := by
  by_cases heq : id = desk.world.nextHolder
  · rw [heq]
    exact hnew
  · rw [hothers id heq]
    rw [hnext] at hid
    exact hmade.stages id (Nat.lt_of_le_of_ne (Nat.le_of_lt_succ hid) heq)

inductive Turn (c : Coordinator) (desk : Desk) (homes : Homes) (desk' : Desk) :
    Operation → Prop
  /-- Nothing is moved, though a suspended holder may be lost. -/
  | kept {operation : Operation}
      (hhomes : (homes.after c desk operation).suspended = homes.suspended)
      (hnext : desk'.world.nextHolder = desk.world.nextHolder)
      (hstages : ∀ id, (desk'.world.holders id).stage =
        (desk.world.holders id).stage)
      (hbound : ∀ i key, (desk'.state i).boundHolder key =
        (desk.state i).boundHolder key)
      (hsuspended : ∀ place id, desk'.suspended place = some id →
        desk.suspended place = some id) : Turn c desk homes desk' operation
  /-- A transaction has begun on a new holder. -/
  | begun {d : Definition} {context slot : Nat}
      (hnext : desk'.world.nextHolder = desk.world.nextHolder + 1)
      (hactive : (desk'.world.holders desk.world.nextHolder).stage = .active)
      (hothers : ∀ other, other ≠ desk.world.nextHolder →
        desk'.world.holders other = desk.world.holders other)
      (hbound : ∀ i key, (desk'.state i).boundHolder key =
        if i = context ∧ key = c.key then some desk.world.nextHolder
        else (desk.state i).boundHolder key)
      (hsuspended : desk'.suspended = desk.suspended) :
      Turn c desk homes desk' (.begin d context slot)
  /-- A beginning was abandoned on a new holder. -/
  | abandoned {d : Definition} {context slot : Nat}
      (hnext : desk'.world.nextHolder = desk.world.nextHolder + 1)
      (hfinished : (desk'.world.holders desk.world.nextHolder).stage =
        .completed)
      (hothers : ∀ other, other ≠ desk.world.nextHolder →
        desk'.world.holders other = desk.world.holders other)
      (hbound : ∀ i key, (desk'.state i).boundHolder key =
        (desk.state i).boundHolder key)
      (hsuspended : desk'.suspended = desk.suspended) :
      Turn c desk homes desk' (.begin d context slot)
  | suspended {context slot place : Nat} {id : HolderId}
      (hhomes : (homes.after c desk (.suspend context slot place)).suspended =
        fun i => if i = place then context else homes.suspended i)
      (hwas : (desk.state context).boundHolder c.key = some id)
      (hnext : desk'.world.nextHolder = desk.world.nextHolder)
      (hholders : desk'.world.holders = desk.world.holders)
      (hbound : ∀ i key, (desk'.state i).boundHolder key =
        if i = context ∧ key = c.key then none
        else (desk.state i).boundHolder key)
      (hsuspended : ∀ i, desk'.suspended i = if i = place then
        some id else desk.suspended i) :
      Turn c desk homes desk' (.suspend context slot place)
  | resumed {context place : Nat} {id : HolderId}
      (hwas : desk.suspended place = some id)
      (hfree : (desk.state context).boundHolder c.key = none)
      (hnext : desk'.world.nextHolder = desk.world.nextHolder)
      (hholders : desk'.world.holders = desk.world.holders)
      (hbound : ∀ i key, (desk'.state i).boundHolder key =
        if i = context ∧ key = c.key then some id
        else (desk.state i).boundHolder key)
      (hsuspended : ∀ i, desk'.suspended i = if i = place then
        none else desk.suspended i) :
      Turn c desk homes desk' (.resume context place)
  /-- The holder was finished that the handle owns. -/
  | finished {context slot : Nat} {h : Handle} {id : HolderId}
      (hslot : desk.handles slot = some h) (howns : h.Owns id)
      (hnext : desk'.world.nextHolder = desk.world.nextHolder)
      (hfinished : (desk'.world.holders id).stage = .completed)
      (hothers : ∀ other, other ≠ id →
        desk'.world.holders other = desk.world.holders other)
      (hbound : ∀ i key, (desk'.state i).boundHolder key =
        if i = context ∧ key = c.key ∧
          (desk.state context).boundHolder c.key = some id
          then none else (desk.state i).boundHolder key)
      (hsuspended : desk'.suspended = desk.suspended) :
      Turn c desk homes desk' (.cleanup context slot)

theorem boundHolder_put (desk : Desk) (context : Nat) (s' : State) (i : Nat)
    (key : Key) :
    ((desk.put context s').state i).boundHolder key =
      if i = context then s'.boundHolder key
      else (desk.state i).boundHolder key := by
  show ((desk.put context s').contexts i).get? key = _
  rw [put]
  simp only
  split <;> rfl

namespace Turn

/-- Nothing was done, or only something that moves nothing. -/
theorem of_still
    (hhomes : (homes.after c desk operation).suspended = homes.suspended)
    (hstill : State.Still (desk.state context) s')
    (hbound : ∀ key, s'.boundHolder key =
      (desk.state context).boundHolder key) :
    Turn c desk homes (desk.put context s') operation := by
  apply Turn.kept hhomes hstill.nextHolder hstill.stage
  · intro i key
    rw [boundHolder_put]
    split
    · next hi => rw [hi, hbound]
    · rfl
  · exact fun _ _ h => h

theorem of_sameHolders
    (hhomes : (homes.after c desk operation).suspended = homes.suspended)
    (hsame : State.SameHolders (desk.state context) s') :
    Turn c desk homes (desk.put context s') operation :=
  of_still hhomes hsame.still hsame.bound

theorem refl
    (hhomes : (homes.after c desk operation).suspended = homes.suspended) :
    Turn c desk homes desk operation :=
  .kept hhomes rfl (fun _ => rfl) (fun _ _ => rfl) fun _ _ h => h

/-- A turn is no matter of the handles. -/
theorem keep (hturn : Turn c desk homes desk' operation) (slot : Nat)
    (kept : Option Handle) :
    Turn c desk homes (desk'.keep slot kept) operation := by
  cases hturn with
  | kept hhomes hnext hstages hbound hsuspended =>
      exact .kept hhomes hnext hstages hbound hsuspended
  | begun hnext hactive hothers hbound hsuspended =>
      exact .begun hnext hactive hothers hbound hsuspended
  | abandoned hnext hfinished hothers hbound hsuspended =>
      exact .abandoned hnext hfinished hothers hbound hsuspended
  | suspended hhomes hwas hnext hholders hbound hsuspended =>
      exact .suspended hhomes hwas hnext hholders hbound hsuspended
  | resumed hwas hfree hnext hholders hbound hsuspended =>
      exact .resumed hwas hfree hnext hholders hbound hsuspended
  | finished hslot howns hnext hfinished hothers hbound hsuspended =>
      exact .finished hslot howns hnext hfinished hothers hbound hsuspended

theorem withHandle {use : Handle → State → Option Handle × State}
    (hhomes : (homes.after c desk operation).suspended = homes.suspended)
    (huse : ∀ h, desk.handles slot = some h →
      Turn c desk homes (desk.put context (use h (desk.state context)).2)
        operation) :
    Turn c desk homes (desk.withHandle context slot use) operation := by
  rw [Desk.withHandle]
  cases hslot : desk.handles slot with
  | none => exact refl hhomes
  | some h => exact (huse h hslot).keep slot _

end Turn

/-- A beginning makes the holder that it begins on. -/
theorem SelfMade.created {conn : Connection} {owns : Bool}
    (hmade : desk.SelfMade)
    (hexist : ∀ id, h.holder = some id → id < desk.world.nextHolder)
    (horigin : Coordinator.Origin h (desk.state context) conn id owns s') :
    id = desk.world.nextHolder ∧ owns = true ∧
    s'.nextHolder = desk.world.nextHolder + 1 := by
  cases horigin with
  | reused hholder howns hstage hconn hnext =>
      exact absurd hstage (hmade.not_unbound (hexist id hholder))
  | created hid howns hnext => exact ⟨hid, howns, hnext⟩

theorem SelfMade.turn_begin (hmade : desk.SelfMade)
    (hexist : ∀ id, h.holder = some id → id < desk.world.nextHolder)
    (c : Coordinator) (homes : Homes) (d : Definition) :
    Turn c desk homes (desk.put context (c.begin d h (desk.state context)).2.2)
      (.begin d context slot) := by
  cases hbegin : c.begin d h (desk.state context) with
  | mk outcome rest =>
  obtain ⟨h', s'⟩ := rest
  cases outcome with
  | ok _ =>
      obtain ⟨conn, id, hbegun⟩ := Coordinator.begun_of_ok hbegin
      obtain ⟨rfl, howns, hnext⟩ := hmade.created hexist hbegun.origin
      apply Turn.begun hnext hbegun.stage hbegun.others
      · intro i key
        rw [boundHolder_put]
        by_cases hi : i = context
        · simp [hi, hbegun.bound, howns]
        · simp [hi]
      · rfl
  | error e =>
      obtain ⟨hbound,
          ⟨hholders, hnext⟩ | ⟨conn, id, owns, horigin, hothers, hleft⟩⟩ :=
        Coordinator.notBegun_of_error hbegin
      · apply Turn.of_still rfl _ hbound
        exact ⟨hnext, fun id => by rw [hholders], fun id => by rw [hholders]⟩
      · obtain ⟨rfl, rfl, hnext⟩ := hmade.created hexist horigin
        obtain ⟨-, hfinished⟩ :=
          hleft.resolve_right fun h => Bool.noConfusion h.1
        apply Turn.abandoned
          hnext (by rw [put]; exact congrArg Holder.stage hfinished) hothers
        · intro i key
          rw [boundHolder_put]
          split
          · next hi => rw [hi, hbound]
          · rfl
        · rfl

theorem SelfMade.turn_cleanup (hmade : desk.SelfMade)
    (hslot : desk.handles slot = some h) (c : Coordinator) (homes : Homes) :
    Turn c desk homes (desk.put context (c.cleanup h (desk.state context)))
      (.cleanup context slot) := by
  cases hholder : h.holder with
  | none =>
      rw [Coordinator.cleanup, hholder]
      exact .of_still rfl (State.SameHolders.refl _).still fun _ => rfl
  | some id =>
      have hholders :=
        Coordinator.cleanup_holders (c := c) (s := desk.state context) hholder
      have hbound := Coordinator.cleanup_boundHolder (c := c)
        (s := desk.state context) hholder
      have hnext := Coordinator.cleanup_nextHolder (c := c)
        (s := desk.state context) hholder
      cases howns : h.ownsHolder with
      | true =>
          apply Turn.finished hslot ⟨hholder, howns⟩ hnext
          · show ((c.cleanup h (desk.state context)).holders id).stage =
              .completed
            rw [hholders, if_pos rfl, Coordinator.settle, howns]
            rfl
          · exact fun other hne => (hholders other).trans (if_neg hne)
          · intro i key
            rw [boundHolder_put]
            by_cases hi : i = context
            · simp [hi, hbound, howns]
            · simp [hi]
          · rfl
      | false =>
          have hnot : h.began = false := Bool.eq_false_iff.mpr fun hbegan =>
            hmade.unlent slot h id hslot ⟨hholder, howns, hbegan⟩
          have hsettle :
              Coordinator.settle h ((desk.state context).holders id) =
              (desk.state context).holders id := by
            simp [Coordinator.settle, howns, hnot]
          have hsame : ∀ other,
              (c.cleanup h (desk.state context)).holders other =
              (desk.state context).holders other := by
            intro other
            rw [hholders, hsettle]
            split
            · next heq => rw [heq]
            · rfl
          apply Turn.of_still rfl
          · exact ⟨hnext,
              fun other => by rw [hsame], fun other => by rw [hsame]⟩
          · intro key
            rw [hbound, howns]
            simp

theorem turn_suspend (c : Coordinator) (desk : Desk) (homes : Homes)
    (context slot place : Nat) :
    Turn c desk homes (c.perform desk (.suspend context slot place))
      (.suspend context slot place) := by
  rw [Coordinator.perform]
  cases hslot : desk.handles slot with
  | none => exact .refl (by simp [Homes.after, hslot])
  | some h =>
      have hsuspend : c.suspend h (desk.state context) =
          ((desk.state context).boundHolder c.key, { h with holder := none },
            ((desk.state context).unbind c.key).2) := by
        rw [← State.unbind_fst]
        rfl
      simp only [hsuspend]
      cases hbound : (desk.state context).boundHolder c.key with
      | none =>
          apply Turn.keep
          apply Turn.of_still (by simp [Homes.after, hbound])
            (Coordinator.still_unbind _ c.key)
          intro key
          rw [State.boundHolder_unbind]
          split
          · next hkey => rw [hkey, hbound]
          · rfl
      | some id =>
          apply Turn.suspended (by simp [Homes.after, hslot, hbound]) hbound
          · exact State.nextHolder_unbind _ c.key
          · exact State.holders_unbind _ c.key
          · intro i key
            show ((desk.put context _).state i).boundHolder key = _
            rw [boundHolder_put]
            by_cases hi : i = context
            · simp [hi, State.boundHolder_unbind]
            · simp [hi]
          · exact fun _ => rfl

theorem turn_resume (c : Coordinator) (desk : Desk) (homes : Homes)
    (context place : Nat) :
    Turn c desk homes (c.perform desk (.resume context place))
      (.resume context place) := by
  rw [Coordinator.perform]
  cases hplace : desk.suspended place with
  | none => exact .refl rfl
  | some id =>
      simp only [Coordinator.resume]
      cases hfree : (desk.state context).boundHolder c.key with
      | some other =>
          rw [State.bind_of_taken _ hfree]
          simp only [put_state]
          refine Turn.kept ?_ rfl (fun _ => rfl) (fun _ _ => rfl) ?_
          · rfl
          intro i other hother
          rw [stash] at hother
          simp only at hother
          split at hother
          · cases hother
          · exact hother
      | none =>
          rw [State.bind_of_free _ hfree]
          refine Turn.resumed hplace hfree ?_ ?_ ?_ ?_
          · rfl
          · rfl
          · intro i key
            show ((desk.put context _).state i).boundHolder key = _
            rw [boundHolder_put]
            by_cases hi : i = context
            · simp only [hi, if_true, true_and, State.boundHolder_say]
              exact Bindings.get?_insert _ _ _ _
            · simp [hi]
          · exact fun _ => rfl

/-- Every operation of a coordinator is one of the turns. -/
theorem SelfMade.turn (hmade : desk.SelfMade) (hsound : desk.Sound c)
    (homes : Homes) (hcoordinator : operation.byHand = false) :
    Turn c desk homes (c.perform desk operation) operation := by
  cases operation with
  | discover context slot => exact (Turn.refl rfl).keep slot _
  | begin d context slot =>
      rw [Coordinator.perform]
      refine Turn.withHandle (by rfl) ?_
      intro h hslot
      exact hmade.turn_begin (hsound.handles slot h hslot).exist c homes d
  | suspend context slot place =>
      exact desk.turn_suspend c homes context slot place
  | resume context place => exact desk.turn_resume c homes context place
  | commit context slot =>
      rw [Coordinator.perform]
      refine Turn.withHandle (by rfl) ?_
      intro h _
      exact .of_sameHolders rfl (Coordinator.sameHolders_finish _ _ _ h _)
  | rollback context slot =>
      rw [Coordinator.perform]
      refine Turn.withHandle (by rfl) ?_
      intro h _
      exact .of_sameHolders rfl (Coordinator.sameHolders_finish _ _ _ h _)
  | markRollbackOnly context slot =>
      rw [Coordinator.perform]
      refine Turn.withHandle (by rfl) ?_
      intro h _
      simp only [Coordinator.markRollbackOnly]
      cases h.holder with
      | none => exact .of_sameHolders rfl (.refl _)
      | some id =>
          exact .of_still rfl (Coordinator.still_markedHolder _ id) fun _ => rfl
  | cleanup context slot =>
      rw [Coordinator.perform]
      refine Turn.withHandle (by rfl) ?_
      intro h hslot
      exact hmade.turn_cleanup hslot c homes
  | wrap => cases hcoordinator
  | bind => cases hcoordinator
  | unbind => cases hcoordinator
  | call context conn request =>
      exact .of_sameHolders rfl (State.sameHolders_callDirectly _ conn request)
  | setFault context source fault on =>
      exact .of_sameHolders rfl ⟨rfl, rfl, fun _ => rfl⟩
  | rest context seconds => exact .of_sameHolders rfl ⟨rfl, rfl, fun _ => rfl⟩

namespace Turn

/-- A running transaction runs on, unless the handle is cleaned up that owns its
holder. -/
theorem active (hturn : Turn c desk homes desk' operation)
    (hid : id < desk.world.nextHolder)
    (hactive : (desk.world.holders id).stage = .active) :
    (desk'.world.holders id).stage = .active ∨
      ∃ context slot h, operation = .cleanup context slot ∧
        desk.handles slot = some h ∧
        h.Owns id := by
  cases hturn with
  | kept _ _ hstages => exact Or.inl ((hstages id).trans hactive)
  | begun _ _ hothers => exact Or.inl (by rwa [hothers id (Nat.ne_of_lt hid)])
  | abandoned _ _ hothers =>
      exact Or.inl (by rwa [hothers id (Nat.ne_of_lt hid)])
  | suspended _ _ _ hholders => exact Or.inl (by rwa [hholders])
  | resumed _ _ _ hholders => exact Or.inl (by rwa [hholders])
  | @finished context slot h other hslot howns _ _ hothers =>
      by_cases hother : id = other
      · exact Or.inr ⟨context, slot, h, rfl, hslot, hother ▸ howns⟩
      · exact Or.inl (by rwa [hothers id hother])

theorem stages (hturn : Turn c desk homes desk' operation)
    (hmade : desk.SelfMade) (hid : id < desk'.world.nextHolder) :
    (desk'.world.holders id).stage = .active ∨
    (desk'.world.holders id).stage = .completed := by
  cases hturn with
  | kept _ hnext hstages =>
      rw [hstages]
      exact hmade.stages id (hnext ▸ hid)
  | begun hnext hactive hothers =>
      exact hmade.stages_of_new hnext (Or.inl hactive) hothers hid
  | abandoned hnext hfinished hothers =>
      exact hmade.stages_of_new hnext (Or.inr hfinished) hothers hid
  | suspended _ _ hnext hholders =>
      rw [hholders]
      exact hmade.stages id (hnext ▸ hid)
  | resumed _ _ hnext hholders =>
      rw [hholders]
      exact hmade.stages id (hnext ▸ hid)
  | @finished context slot h other hslot howns hnext hfinished hothers =>
      by_cases hother : id = other
      · exact Or.inr (hother ▸ hfinished)
      · rw [hothers id hother]
        exact hmade.stages id (hnext ▸ hid)

/-- Only what is bound gets suspended. -/
theorem suspends (hturn : Turn c desk homes desk' operation)
    (hid : desk'.suspended place = some id) :
    desk.suspended place = some id ∨
      ∃ context slot, operation = .suspend context slot place ∧
        (desk.state context).boundHolder c.key = some id := by
  cases hturn with
  | kept _ _ _ _ hsuspended => exact Or.inl (hsuspended place id hid)
  | begun _ _ _ _ hsuspended => exact Or.inl (hsuspended ▸ hid)
  | abandoned _ _ _ _ hsuspended => exact Or.inl (hsuspended ▸ hid)
  | @suspended context slot i other _ hwas _ _ _ hsuspended =>
      rw [hsuspended] at hid
      split at hid
      · next hi => exact Or.inr ⟨context, slot,
          by rw [hi], Option.some.inj hid ▸ hwas⟩
      · exact Or.inl hid
  | resumed _ _ _ _ _ hsuspended =>
      rw [hsuspended] at hid
      split at hid
      · cases hid
      · exact Or.inl hid
  | finished _ _ _ _ _ _ hsuspended => exact Or.inl (hsuspended ▸ hid)

end Turn

end Desk

end UnitOfWork
